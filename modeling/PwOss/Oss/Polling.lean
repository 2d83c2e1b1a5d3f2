import PwOss.Oss.Readback

/-
  One poll of the mixers, over a panel and mixer state that stays as it is.

  The routes of one mixer are the zone of its step, so what a step makes of a route
  is what the whole poll makes of it. A route is named by a change when the
  recording source moved to it or away from it, or when it is active and its
  levels or mute differ.
-/

namespace PwOss.Oss

open PwOss.Lists PwOss.Proc

variable {V : Type}

/-- The mixers answer all calls of one kind in the same way. -/
structure Ioctls.Fixed (io : Ioctls) : Prop where
  reads : ∀ call unit dev, io.reads call unit dev = io.reads 0 unit dev
  counters : ∀ call unit, io.counters call unit = io.counters 0 unit

/-- What a position holds: its route and binding. -/
def Panel.cell (s : Panel V) (k : Nat) : Option (RouteSnapshot V) × Option RouteBinding :=
  (s.routes[k]?, s.bindings[k]?)

/-- A change names the route at `k`. -/
def RouteChange.names (c : RouteChange) (k : Nat) : Prop := c.key = some k

/-- The volume or the mute of a route changed. -/
def Differs (r r' : RouteSnapshot V) : Prop := r'.volume ≠ r.volume ∨ r'.mute ≠ r.mute

/-! ## One route -/

/-- A route across its step of the poll of mixer `m`. -/
structure PolledRoute (m : Nat) (r : RouteSnapshot V) (b : RouteBinding) (r' : RouteSnapshot V)
    (b' : RouteBinding) (named : Prop) : Prop where
  active : r'.active = r.active
  foreign : b.mixer ≠ m → r' = r ∧ b' = b ∧ ¬ named
  reported : b.mixer = m → (named ↔ r'.active = true ∧ Differs r r')

/-- What a step says of a position that holds a route. -/
def Cellwise (P : RouteSnapshot V → RouteBinding → RouteSnapshot V → RouteBinding → Prop → Prop)
    (old new : Option (RouteSnapshot V) × Option RouteBinding) (named : Prop) : Prop :=
  ∀ r b, old = (some r, some b) → ∃ r' b', new = (some r', some b') ∧ P r b r' b' named

/-- What a poll leaves: the hardware, and the panel's shape. -/
structure Panel.Polled (curve : Curve V) (s t : Panel V) : Prop where
  kept : s.Kept curve t
  hw : t.hw = s.hw

namespace Panel.Polled
variable {curve : Curve V} {s t u : Panel V}

theorem refl (s : Panel V) : s.Polled curve s := ⟨.refl s, rfl⟩

theorem trans (h : s.Polled curve t) (h' : t.Polled curve u) : s.Polled curve u :=
  ⟨h.kept.trans h'.kept, h'.hw.trans h.hw⟩

end Panel.Polled

theorem not_named_nil (k : Nat) : ¬ ∃ c ∈ ([] : List RouteChange), c.names k := by
  rintro ⟨c, hc, -⟩
  exact absurd hc List.not_mem_nil

theorem named_ite {p : Prop} [Decidable p] {c : RouteChange} {k : Nat} :
    (∃ d ∈ (if p then [c] else []), d.names k) ↔ p ∧ c.names k := by
  split
  · next hp => simp only [List.mem_singleton, exists_eq_left, hp, true_and]
  · next hp => exact iff_of_false (not_named_nil k) fun h => hp h.1

section
variable [DecidableEq V] {curve : Curve V} {io : Ioctls} {s : Panel V} {m : Nat}

theorem pollRoute_runs (hs : s.Indexed curve) {pos : Nat} (hpos : pos < s.routes.length) :
    Runs (pollRoute io curve m pos) s fun found t => s.Polled curve t ∧
      Swept Panel.cell id RouteChange.names (fun _ => Cellwise (PolledRoute m)) (· = pos)
        s found t := by
  obtain ⟨r, b, h, hat⟩ := hs.located hpos
  have hcell : s.cell pos = (some r, some b) := by rw [Panel.cell, hat.route, hat.binding]
  unfold pollRoute
  refine index_runs hat.binding (.ite (fun hne => ?_) fun heq => ?_)
  · refine .pure ⟨.refl s, ⟨fun k hk r₀ b₀ h₀ => ?_, fun _ _ => rfl, fun k _ => not_named_nil k⟩⟩
    obtain rfl : k = pos := hk
    rw [hcell] at h₀
    cases h₀
    exact ⟨r, b, hcell, rfl, fun _ => ⟨rfl, rfl, not_named_nil k⟩, fun heq => absurd heq hne⟩
  · have hmixer : b.mixer = m := Classical.not_not.mp heq
    refine index_runs hat.route (.bind_of (refresh_runs hat) ?_)
    rintro _ t ⟨r', b', n, hres, hread, rfl⟩
    refine index_runs (getElem?_set_of hat.route)
      (.pure ⟨⟨.set hat hres hread.restated n, rfl⟩, ?_⟩)
    have hkey : r'.key = pos := by rw [hread.restated.key, hs.key pos r hat.route]
    refine ⟨fun k hk r₀ b₀ h₀ => ?_, fun k hk => ?_, fun k hk => ?_⟩
    · obtain rfl : k = pos := hk
      rw [hcell] at h₀
      cases h₀
      refine ⟨r', b', ?_, by rw [hread.eq], fun hne => absurd hmixer hne, fun _ => ?_⟩
      · rw [Panel.cell, getElem?_set_of hat.route, getElem?_set_of hat.binding]
      · have hnames : (externalValueChange curve r' (decide (r.volume ≠ r'.volume))
            (decide (r.mute ≠ r'.mute))).names k := congrArg some hkey
        rw [named_ite, and_iff_left hnames]
        simp only [Differs, Bool.and_eq_true, Bool.or_eq_true, decide_eq_true_eq, ne_comm]
    · have hne : pos ≠ k := fun heq => hk heq.symm
      simp only [Panel.cell, List.getElem?_set_ne hne]
    · rw [named_ite]
      rintro ⟨-, hnames⟩
      exact hk (Option.some.inj (hnames.symm.trans (congrArg some hkey)))

end

/-! ## One mixer -/

section
variable {curve : Curve V} {s : Panel V}

/-- The changes of the recording source name the positions that moved. -/
theorem selections_runs (hs : s.Indexed curve) : ∀ {changed : List Nat},
    (∀ p ∈ changed, p < s.routes.length) →
    Runs (collect changed fun pos => do
        let route ← routeAt pos
        pure [externalSelectionChange route]) s fun found t =>
      t = s ∧ ∀ k, (∃ c ∈ found, c.names k) ↔ k ∈ changed
  | [], _ => .pure ⟨rfl, fun k => iff_of_false (not_named_nil k) List.not_mem_nil⟩
  | p :: changed, hlt => by
    obtain ⟨r, hr⟩ : ∃ r, s.routes[p]? = some r :=
      ⟨_, List.getElem?_eq_getElem (hlt p List.mem_cons_self)⟩
    have hrest := selections_runs hs fun q hq => hlt q (List.mem_cons_of_mem p hq)
    refine .bind (index_runs hr (.pure (.bind_of hrest ?_)))
    rintro found t ⟨rfl, hfound⟩
    refine .pure ⟨rfl, fun k => ?_⟩
    have hkey : (externalSelectionChange r).names k ↔ k = p := by
      have hp : r.key = p := hs.key p r hr
      simp only [RouteChange.names, externalSelectionChange, Option.some.injEq, hp, eq_comm]
    simp only [List.singleton_append, List.mem_cons, or_and_right, exists_or, exists_eq_left,
      hfound, hkey]

end

/-- What one poll does to a route of `mixer`, and whether a change names it. -/
structure PollReport (io : Ioctls) (hw : Hardware) (mixer : Mixer) (r : RouteSnapshot V)
    (b : RouteBinding) (r' : RouteSnapshot V) (b' : RouteBinding) (named : Prop) : Prop where
  active : io.counters 0 mixer.unit = true → io.reads 0 mixer.unit soundMixerRecsrc = true →
    ∀ source ∈ b.source, r'.active =
      (selectedRecordingSources mixer.recmask
        (hw.register mixer.unit soundMixerRecsrc)).getLsbD source
  reported : io.counters 0 mixer.unit = true →
    (named ↔ r'.active ≠ r.active ∨ r'.active = true ∧ Differs r r')
  untouched : io.counters 0 mixer.unit = false → r' = r ∧ b' = b ∧ ¬ named

/-- What the step of mixer `m` does to a route of any mixer. What it does to its own
is said of mixers that stay as they are. -/
structure StepReport (io : Ioctls) (hw : Hardware) (m : Nat) (mixer : Mixer)
    (r : RouteSnapshot V) (b : RouteBinding) (r' : RouteSnapshot V) (b' : RouteBinding)
    (named : Prop) : Prop where
  foreign : b.mixer ≠ m → r' = r ∧ b' = b ∧ ¬ named
  own : b.mixer = m → io.Fixed → PollReport io hw mixer r b r' b' named

/-- A route of the polled mixer is named once its activity changed, or else when it is
active and was read back differently. -/
theorem reported_of {curve : Curve V} {hw : Hardware} {unit m : Nat} {r r₁ r' : RouteSnapshot V}
    {b b' : RouteBinding} {moved named : Prop} (hsync : SyncedRoute curve hw unit m b r r₁ moved)
    (hpoll : PolledRoute m r₁ b r' b' named) (hmixer : b.mixer = m) :
    moved ∨ named ↔ r'.active ≠ r.active ∨ r'.active = true ∧ Differs r r' := by
  by_cases hmoved : moved
  · have hchanged : r'.active ≠ r.active := hpoll.active ▸ hsync.changed.mp hmoved
    exact iff_of_true (.inl hmoved) (.inl hchanged)
  · have hsame : r₁ = r := hsync.still hmoved
    subst hsame
    rw [or_iff_right hmoved, hpoll.reported hmixer, or_iff_right fun hne => hne hpoll.active]

section
variable [DecidableEq V] {curve : Curve V} {io : Ioctls} {s : Panel V} {m : Nat}

theorem pollMixer_runs (hs : s.Indexed curve) {h : MixerHandle}
    (hm : s.mixers[m]? = some h) :
    Runs (pollMixer io curve m) s fun found t => s.Polled curve t ∧
      (∀ k, Cellwise (StepReport io s.hw m h.mixer) (s.cell k) (t.cell k)
        (∃ c ∈ found, c.names k)) ∧
      ∀ k, s.routes.length ≤ k → ¬ ∃ c ∈ found, c.names k := by
  unfold pollMixer
  refine index_runs hm (Mixer.modifyCounter_reads.bind fun counter n hcounter => ?_)
  cases counter with
  | none =>
    have hunreadable : io.Fixed → ¬ io.counters 0 h.mixer.unit = true := fun hfixed hc => by
      rw [hfixed.counters, if_pos hc] at hcounter
      cases hcounter
    refine .pure ⟨⟨.of_eq rfl rfl rfl, rfl⟩,
      fun k r b hcell => ⟨r, b, hcell, ?_, fun _ hfixed => ?_⟩,
      fun k _ => not_named_nil k⟩
    · exact fun _ => ⟨rfl, rfl, not_named_nil k⟩
    · exact ⟨fun hc => absurd hc (hunreadable hfixed), fun hc => absurd hc (hunreadable hfixed),
        fun _ => ⟨rfl, rfl, not_named_nil k⟩⟩
  | some counter =>
    have hreadable : io.Fixed → io.counters 0 h.mixer.unit = true := fun hfixed =>
      Classical.byContradiction fun hc => by
        rw [hfixed.counters, if_neg hc] at hcounter
        cases hcounter
    have hcalls : s.Polled curve { s with calls := n } := ⟨.of_eq rfl rfl rfl, rfl⟩
    refine .bind_of (setCounter_runs (s := { s with calls := n }) curve hm counter) ?_
    rintro _ s₁ ⟨hs₁, hset⟩
    have hkept₁ : s.Polled curve s₁ := hcalls.trans ⟨hset, by rw [hs₁]⟩
    have hm₁ : s₁.mixers[m]? = some { h with counter } := by
      rw [hs₁]
      exact getElem?_set_of hm
    refine .bind_of (syncSource_runs (hkept₁.kept.indexed hs) hm₁) fun changed s₂ hsync => ?_
    have hkept₂ : s.Polled curve s₂ :=
      hkept₁.trans ⟨hsync.kept (hkept₁.kept.indexed hs), by rw [hsync.eq]⟩
    have hs₂ := hkept₂.kept.indexed hs
    refine .bind_of (selections_runs hs₂ fun p hp => hsync.length.symm ▸ hsync.lt p hp) ?_
    rintro selections u ⟨hu, hselections⟩
    subst u
    have hstep : ∀ p ∈ List.range s₂.routes.length, ∀ u, s₂.Polled curve u →
        Runs (pollRoute io curve m p) u fun found t => s₂.Polled curve t ∧
          Swept Panel.cell id RouteChange.names (fun _ => Cellwise (PolledRoute m)) (· = p)
            u found t := by
      intro p hp u hu
      have hlt : p < u.routes.length := by
        rw [hu.kept.routes]
        exact List.mem_range.mp hp
      exact (pollRoute_runs (hu.kept.indexed hs₂) hlt).mono fun _ t ht => ⟨hu.trans ht.1, ht.2⟩
    refine .get (.bind_of (Runs.collect List.nodup_range hstep s₂ (.refl s₂)) ?_)
    rintro values t ⟨hkept, hswept⟩
    have happend : ∀ k, (∃ c ∈ selections ++ values, c.names k) ↔
        k ∈ changed.getD [] ∨ ∃ c ∈ values, c.names k := fun k => by
      simp only [List.mem_append, or_and_right, exists_or, hselections]
    refine .pure ⟨hkept₂.trans hkept, fun k r b hcell => ?_, fun k hk => ?_⟩
    · obtain ⟨hr, hb⟩ := Prod.mk.inj hcell
      have hr₁ : s₁.routes[k]? = some r := by rw [hs₁]; exact hr
      have hb₁ : s₁.bindings[k]? = some b := by rw [hs₁]; exact hb
      obtain ⟨r₁, hr₂, hsynced⟩ := hsync.route k r b hr₁ hb₁
      have hcell₂ : s₂.cell k = (some r₁, some b) := by
        rw [Panel.cell, hr₂, hsync.eq, hb₁]
      have hlt : k < s₂.routes.length := (List.getElem?_eq_some_iff.mp hr₂).1
      obtain ⟨r', b', hcell', hpolled⟩ := hswept.inside k (List.mem_range.mpr hlt) r₁ b hcell₂
      rw [happend]
      refine ⟨r', b', hcell', fun hne => ?_, fun hmixer hfixed => ?_⟩
      · have hnot : k ∉ changed.getD [] := fun hk => hne (hsynced.owned hk).1
        obtain ⟨rfl, rfl, hquiet⟩ := hpolled.foreign hne
        exact ⟨hsynced.still hnot, rfl, not_or.mpr ⟨hnot, hquiet⟩⟩
      · refine ⟨fun _ hreads source hsource => ?_, fun _ => reported_of hsynced hpolled hmixer,
          fun hc => ?_⟩
        · have hreading : s₁.hw.register h.mixer.unit soundMixerRecsrc ∈
              h.mixer.reading io s₁ soundMixerRecsrc := by
            rw [Mixer.reading, hfixed.reads, if_pos hreads]
            rfl
          rw [hpolled.active, ← hkept₁.hw]
          exact hsync.active _ hreading k r₁ b hr₂ hb₁ hmixer source hsource
        · rw [hreadable hfixed] at hc
          cases hc
    · have hlength : s₂.routes.length = s.routes.length := hkept₂.kept.routes
      rw [happend]
      refine not_or.mpr ⟨fun hmem => ?_, hswept.silent k fun hmem => ?_⟩
      · have hlt := hsync.lt k hmem
        rw [hkept₁.kept.routes] at hlt
        omega
      · have hlt : k < s₂.routes.length := List.mem_range.mp hmem
        omega

/-! ## All mixers -/

/-- The mixer whose step a position belongs to. -/
def Panel.owner (s : Panel V) (k : Nat) : Nat := ((s.bindings[k]?).map (·.mixer)).getD 0

omit [DecidableEq V] in
/-- A position keeps its owner. -/
theorem Panel.Kept.owner_eq {u : Panel V} (h : s.Kept curve u) {k : Nat} {b : RouteBinding}
    (hb : u.bindings[k]? = some b) : s.owner k = b.mixer := by
  obtain ⟨b₀, hb₀⟩ := exists_getElem?_of_length h.bindings.symm hb
  rw [Panel.owner, hb₀, Option.map_some, Option.getD_some, (h.binding k b₀ b hb₀ hb).mixer]

omit [DecidableEq V] in
/-- A position holds a route and its binding, or is past the end. -/
theorem Panel.Indexed.cell_or (hs : s.Indexed curve) (k : Nat) :
    (∃ r b, s.cell k = (some r, some b)) ∨ s.cell k = (none, none) ∧ s.routes.length ≤ k := by
  by_cases hk : k < s.routes.length
  · obtain ⟨r, b, _, hat⟩ := hs.located hk
    exact .inl ⟨r, b, by rw [Panel.cell, hat.route, hat.binding]⟩
  · have hroute : s.routes.length ≤ k := Nat.le_of_not_lt hk
    have hbinding : s.bindings.length ≤ k := hs.bindings.symm ▸ hroute
    refine .inr ⟨?_, hroute⟩
    rw [Panel.cell, List.getElem?_eq_none hroute, List.getElem?_eq_none hbinding]

theorem poll_runs (hs : s.Indexed curve) :
    Runs (poll io curve) s fun changes t => s.Polled curve t ∧
      ∀ k r b h, s.At k r b h → ∃ r' b', t.routes[k]? = some r' ∧ t.bindings[k]? = some b' ∧
        (io.Fixed → PollReport io s.hw h.mixer r b r' b' (∃ c ∈ changes, c.names k)) := by
  let Post (k : Nat) (old new : Option (RouteSnapshot V) × Option RouteBinding) (named : Prop) :=
    ∀ h, s.mixers[s.owner k]? = some h →
      Cellwise (fun r b r' b' named => io.Fixed → PollReport io s.hw h.mixer r b r' b' named)
        old new named
  have hstep : ∀ m ∈ List.range s.mixers.length, ∀ u, s.Polled curve u →
      Runs (pollMixer io curve m) u fun found t => s.Polled curve t ∧
        Swept Panel.cell s.owner RouteChange.names Post (· = m) u found t := by
    intro m hm u hu
    have husame := hu.kept.indexed hs
    obtain ⟨h, hh⟩ : ∃ h, s.mixers[m]? = some h :=
      ⟨_, List.getElem?_eq_getElem (List.mem_range.mp hm)⟩
    obtain ⟨h', hh'⟩ := exists_getElem?_of_length hu.kept.length_mixers hh
    have hmixer : h'.mixer = h.mixer := hu.kept.handle_eq hh hh'
    refine (pollMixer_runs husame hh').mono ?_
    rintro found t ⟨ht, hreport, hsilent⟩
    have hforeign : ∀ k, s.owner k ≠ m →
        t.cell k = u.cell k ∧ ¬ ∃ c ∈ found, c.names k := by
      intro k hk
      rcases husame.cell_or k with ⟨r, b, hcell⟩ | ⟨hcell, hlength⟩
      · obtain ⟨r', b', hcell', hstep⟩ := hreport k r b hcell
        have hne : b.mixer ≠ m := fun heq =>
          hk ((hu.kept.owner_eq (Prod.mk.inj hcell).2).trans heq)
        obtain ⟨rfl, rfl, hquiet⟩ := hstep.foreign hne
        exact ⟨hcell'.trans hcell.symm, hquiet⟩
      · refine ⟨?_, hsilent k hlength⟩
        rcases (ht.kept.indexed husame).cell_or k with ⟨r, b, hcell'⟩ | ⟨hcell', -⟩
        · have hlt := (List.getElem?_eq_some_iff.mp (Prod.mk.inj hcell').1).1
          rw [ht.kept.routes] at hlt
          omega
        · exact hcell'.trans hcell.symm
    refine ⟨hu.trans ht, fun k hk h₀ hh₀ r b hcell => ?_, fun k hk => (hforeign k hk).1,
      fun k hk => (hforeign k hk).2⟩
    obtain ⟨r', b', hcell', hstep⟩ := hreport k r b hcell
    have hown := hu.kept.owner_eq (Prod.mk.inj hcell).2
    have hmixer₀ : h'.mixer = h₀.mixer := by
      rw [hk] at hh₀
      cases Option.some.inj (hh.symm.trans hh₀)
      exact hmixer
    refine ⟨r', b', hcell', ?_⟩
    rw [← hmixer₀, ← hu.hw]
    exact hstep.own (hown.symm.trans hk)
  unfold poll
  refine .get ((Runs.collect List.nodup_range hstep s (.refl s)).mono ?_)
  rintro changes t ⟨ht, hswept⟩
  refine ⟨ht, fun k r b h hat => ?_⟩
  have hsame : s.Kept curve s := .refl s
  have hown : s.owner k = b.mixer := hsame.owner_eq hat.binding
  have hmem : s.owner k ∈ List.range s.mixers.length := by
    rw [hown, List.mem_range]
    exact (List.getElem?_eq_some_iff.mp hat.handle).1
  have hcell : s.cell k = (some r, some b) := by rw [Panel.cell, hat.route, hat.binding]
  obtain ⟨r', b', hcell', hreport⟩ := hswept.inside k hmem h (hown ▸ hat.handle) r b hcell
  obtain ⟨hr', hb'⟩ := Prod.mk.inj hcell'
  exact ⟨r', b', hr', hb', hreport⟩

end

end PwOss.Oss
