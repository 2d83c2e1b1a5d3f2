import PwOss.Oss.Polling
import PwOss.Oss.Selection

/-
  What the changes of the route controller tell, however its calls fail.

  The params of a device show its active routes, so its consumers have to be told
  whenever an active route changes, and told the volume or the mute when that is what
  changed. `Told` is this of the changes of a poll, by `Aspect`, and `RequestTold` of
  the one change of a request. Neither asks the mixers to answer alike for as long as
  the call lasts.
-/

namespace PwOss.Oss

open PwOss.Lists PwOss.Proc

variable {V : Type}

/-! ## What changes tell -/

/-- What a change can be about: the route at all, its volume, its mute. -/
inductive Aspect where
  | any | volume | mute
  deriving DecidableEq, Repr

/-- The change tells an aspect of the route at a position. -/
def RouteChange.tells (c : RouteChange) : Nat × Aspect → Prop
  | (k, .any) => c.names k
  | (k, .volume) => c.names k ∧ c.volume = true
  | (k, .mute) => c.names k ∧ c.mute = true

namespace Aspect

/-- The aspect differs between two states of a route. -/
def Differs : Aspect → RouteSnapshot V → RouteSnapshot V → Prop
  | any, r, r' => Oss.Differs r r'
  | volume, r, r' => r'.volume ≠ r.volume
  | mute, r, r' => r'.mute ≠ r.mute

/-- The aspect is one that a route of the recording source is told with. -/
def Controlled : Aspect → RouteSnapshot V → Prop
  | any, _ => True
  | volume, r => r.volume.hardware = true
  | mute, r => r.mute.hardware = true

theorem not_differs_self (a : Aspect) (r : RouteSnapshot V) : ¬ a.Differs r r := by
  cases a with
  | any => exact fun h => h.elim (fun hv => hv rfl) fun hm => hm rfl
  | volume => exact fun h => h rfl
  | mute => exact fun h => h rfl

/-- A route whose control appears differs from what it was. -/
theorem differs_of_controlled {a : Aspect} {r r' : RouteSnapshot V} (ha : a ≠ .any)
    (h : ¬ a.Controlled r) (h' : a.Controlled r') : a.Differs r r' := by
  cases a with
  | any => exact absurd rfl ha
  | volume =>
    intro heq
    exact h ((congrArg RouteVolume.hardware heq).symm.trans h')
  | mute =>
    intro heq
    exact h ((congrArg RouteMute.hardware heq).symm.trans h')

end Aspect

/-- What the changes of a poll tell of an aspect of a route. -/
structure Told (a : Aspect) (r r' : RouteSnapshot V) (told : Prop) : Prop where
  still : r'.active = r.active → (told ↔ r'.active = true ∧ a.Differs r r')
  moved : r'.active ≠ r.active → a = .any → told
  silent : r'.active = false → told → a = .any
  gained : r.active = false → r'.active = true → a.Controlled r' → told

/-- A route that no step touches is told nothing of. -/
theorem Told.refl (a : Aspect) (r : RouteSnapshot V) {told : Prop} (h : ¬ told) :
    Told a r r told where
  still := fun _ => iff_of_false h fun hd => a.not_differs_self r hd.2
  moved := fun hne => absurd rfl hne
  silent := fun _ ht => absurd ht h
  gained := fun hinactive hactive => by
    rw [hactive] at hinactive
    cases hinactive

/-! ## One route -/

/-- An aspect of a route across its step of the poll of mixer `m`. -/
structure PolledAspect (m : Nat) (a : Aspect) (r : RouteSnapshot V) (b : RouteBinding)
    (r' : RouteSnapshot V) (b' : RouteBinding) (told : Prop) : Prop where
  active : r'.active = r.active
  foreign : b.mixer ≠ m → r' = r ∧ b' = b ∧ ¬ told
  reported : b.mixer = m → (told ↔ r'.active = true ∧ a.Differs r r')

/-- What a position holds, under each aspect. -/
def Panel.aspect (s : Panel V) (k : Nat × Aspect) :
    Option (RouteSnapshot V) × Option RouteBinding :=
  s.cell k.1

section
variable [DecidableEq V] {curve : Curve V} {io : Ioctls} {s : Panel V} {m : Nat}

omit [DecidableEq V] in
theorem not_tells_nil (k : Nat × Aspect) : ¬ ∃ c ∈ ([] : List RouteChange), c.tells k := by
  rintro ⟨c, hc, -⟩
  exact absurd hc List.not_mem_nil

omit [DecidableEq V] in
/-- A change tells nothing of a route that it does not name. -/
theorem RouteChange.tells_names {c : RouteChange} {k : Nat × Aspect} (h : c.tells k) :
    c.names k.1 := by
  obtain ⟨k, a⟩ := k
  cases a with
  | any => exact h
  | volume => exact h.1
  | mute => exact h.1

/-- The change that a poll reports of a differing route tells what differs. -/
theorem externalValueChange_tells {r r' : RouteSnapshot V} {k : Nat} (hkey : r'.key = k)
    (a : Aspect) :
    (∃ c ∈ (if r'.active && (decide (r.volume ≠ r'.volume) || decide (r.mute ≠ r'.mute)) then
        [externalValueChange curve r' (decide (r.volume ≠ r'.volume))
          (decide (r.mute ≠ r'.mute))] else []), c.tells (k, a)) ↔
      r'.active = true ∧ a.Differs r r' := by
  have hnames : ∀ v mu, (externalValueChange curve r' v mu).names k := fun _ _ =>
    congrArg some hkey
  split
  · next hcond =>
    simp only [Bool.and_eq_true, Bool.or_eq_true, decide_eq_true_eq] at hcond
    simp only [List.mem_singleton, exists_eq_left]
    cases a with
    | any =>
      exact iff_of_true (hnames _ _) ⟨hcond.1, hcond.2.imp Ne.symm Ne.symm⟩
    | volume =>
      refine ⟨fun h => ⟨hcond.1, Ne.symm (of_decide_eq_true h.2)⟩, fun h => ⟨hnames _ _, ?_⟩⟩
      exact decide_eq_true (Ne.symm h.2)
    | mute =>
      refine ⟨fun h => ⟨hcond.1, Ne.symm (of_decide_eq_true h.2)⟩, fun h => ⟨hnames _ _, ?_⟩⟩
      exact decide_eq_true (Ne.symm h.2)
  · next hcond =>
    simp only [Bool.and_eq_true, Bool.or_eq_true, decide_eq_true_eq] at hcond
    refine iff_of_false (not_tells_nil _) fun h => hcond ⟨h.1, ?_⟩
    cases a with
    | any => exact h.2.imp Ne.symm Ne.symm
    | volume => exact .inl (Ne.symm h.2)
    | mute => exact .inr (Ne.symm h.2)

theorem pollRoute_tells (hs : s.Indexed curve) {pos : Nat} (hpos : pos < s.routes.length) :
    Runs (pollRoute io curve m pos) s fun found t => s.Polled curve t ∧
      Swept Panel.aspect Prod.fst RouteChange.tells (fun k => Cellwise (PolledAspect m k.2))
        (· = pos) s found t := by
  obtain ⟨r, b, h, hat⟩ := hs.located hpos
  have hcell : s.cell pos = (some r, some b) := by rw [Panel.cell, hat.route, hat.binding]
  unfold pollRoute
  refine index_runs hat.binding (.ite (fun hne => ?_) fun heq => ?_)
  · refine .pure ⟨.refl s, ⟨?_, fun _ _ => rfl, fun k _ => not_tells_nil k⟩⟩
    rintro ⟨k, a⟩ hk r₀ b₀ h₀
    obtain rfl : k = pos := hk
    cases hcell.symm.trans h₀
    exact ⟨r, b, hcell, rfl, fun _ => ⟨rfl, rfl, not_tells_nil (k, a)⟩, fun heq => absurd heq hne⟩
  · have hmixer : b.mixer = m := Classical.not_not.mp heq
    refine index_runs hat.route (.bind_of (refresh_runs hat) ?_)
    rintro _ t ⟨r', b', n, hres, hread, rfl⟩
    refine index_runs (getElem?_set_of hat.route)
      (.pure ⟨⟨.set hat hres hread.restated n, rfl⟩, ?_⟩)
    have hkey : r'.key = pos := by rw [hread.restated.key, hs.key pos r hat.route]
    refine ⟨?_, ?_, ?_⟩
    · rintro ⟨k, a⟩ hk r₀ b₀ h₀
      obtain rfl : k = pos := hk
      cases hcell.symm.trans h₀
      refine ⟨r', b', ?_, by rw [hread.eq], fun hne => absurd hmixer hne, fun _ => ?_⟩
      · simp only [Panel.aspect, Panel.cell, getElem?_set_of hat.route, getElem?_set_of hat.binding]
      · exact externalValueChange_tells hkey a
    · rintro ⟨k, a⟩ hk
      have hne : pos ≠ k := fun heq => hk heq.symm
      simp only [Panel.aspect, Panel.cell, List.getElem?_set_ne hne]
    · rintro ⟨k, a⟩ hk ⟨c, hc, htells⟩
      -- the one change is about the route at `pos`
      have hnamed := (named_ite (k := k)).mp ⟨c, hc, c.tells_names htells⟩
      exact hk (Option.some.inj (hnamed.2.symm.trans (congrArg some hkey)))

/-! ## One mixer -/

omit [DecidableEq V] in
/-- A change of the recording source tells an active route's volume and mute when it has
controls for them. -/
theorem externalSelectionChange_tells {r : RouteSnapshot V} {p k : Nat} (hkey : r.key = p)
    (a : Aspect) : (externalSelectionChange r).tells (k, a) ↔
      k = p ∧ (a = .any ∨ r.active = true ∧ a.Controlled r) := by
  have hnames : (externalSelectionChange r).names k ↔ k = p := by
    rw [RouteChange.names, externalSelectionChange, hkey, Option.some.injEq, eq_comm]
  have hboth : ∀ hardware : Bool, (r.active && hardware) = true ↔
      r.active = true ∧ hardware = true := fun hardware => Bool.and_eq_true_iff
  have hvolume : Aspect.volume ≠ .any := by decide
  have hmute : Aspect.mute ≠ .any := by decide
  cases a with
  | any => exact hnames.trans (and_iff_left (.inl rfl)).symm
  | volume =>
    exact (and_congr hnames (hboth _)).trans (and_congr_right' (or_iff_right hvolume).symm)
  | mute =>
    exact (and_congr hnames (hboth _)).trans (and_congr_right' (or_iff_right hmute).symm)

omit [DecidableEq V] in
/-- The changes of the recording source tell of the positions that moved: of an active
one also what it has controls for. -/
theorem selections_tell (hs : s.Indexed curve) : ∀ {changed : List Nat},
    (∀ p ∈ changed, p < s.routes.length) →
    Runs (collect changed fun pos => do
        let route ← routeAt pos
        pure [externalSelectionChange route]) s fun found t =>
      t = s ∧ ∀ k r a, s.routes[k]? = some r → ((∃ c ∈ found, c.tells (k, a)) ↔
        k ∈ changed ∧ (a = .any ∨ r.active = true ∧ a.Controlled r))
  | [], _ => .pure ⟨rfl, fun k r a _ =>
      iff_of_false (not_tells_nil _) fun h => absurd h.1 List.not_mem_nil⟩
  | p :: changed, hlt => by
    obtain ⟨r, hr⟩ : ∃ r, s.routes[p]? = some r :=
      ⟨_, List.getElem?_eq_getElem (hlt p List.mem_cons_self)⟩
    have hrest := selections_tell hs fun q hq => hlt q (List.mem_cons_of_mem p hq)
    refine .bind (index_runs hr (.pure (.bind_of hrest ?_)))
    rintro found t ⟨rfl, hfound⟩
    refine .pure ⟨rfl, fun k r' a hr' => ?_⟩
    have hfirst : (externalSelectionChange r).tells (k, a) ↔
        k = p ∧ (a = .any ∨ r'.active = true ∧ a.Controlled r') := by
      refine (externalSelectionChange_tells (hs.key p r hr) a).trans (and_congr_right fun heq => ?_)
      subst heq
      rw [Option.some.inj (hr.symm.trans hr')]
    simp only [List.singleton_append, List.mem_cons, or_and_right, exists_or, exists_eq_left,
      hfound k r' a hr', hfirst]

omit [DecidableEq V] in
/-- The recording source is synchronised and told of, and then the route is polled. -/
theorem told_of {hw : Hardware} {unit : Nat} {a : Aspect} {r r₁ r' : RouteSnapshot V}
    {b b' : RouteBinding} {moved told selected : Prop}
    (hsync : SyncedRoute curve hw unit m b r r₁ moved) (hpoll : PolledAspect m a r₁ b r' b' told)
    (hselected : selected ↔ moved ∧ (a = .any ∨ r₁.active = true ∧ a.Controlled r₁))
    (hmixer : b.mixer = m) : Told a r r' (selected ∨ told) where
  still := fun hactive => by
    have hnot : ¬ moved := fun hm => hsync.changed.mp hm (hpoll.active.symm.trans hactive)
    obtain rfl := hsync.still hnot
    rw [or_iff_right fun h => hnot (hselected.mp h).1, hpoll.reported hmixer]
  moved := fun hne ha => by
    have hm : moved := hsync.changed.mpr fun heq => hne (hpoll.active.trans heq)
    exact .inl (hselected.mpr ⟨hm, .inl ha⟩)
  silent := fun hinactive h => by
    rcases h with h | h
    · rcases (hselected.mp h).2 with ha | ⟨hactive, -⟩
      · exact ha
      · rw [hpoll.active, hactive] at hinactive
        cases hinactive
    · rw [((hpoll.reported hmixer).mp h).1] at hinactive
      cases hinactive
  gained := fun hinactive hactive hcontrolled => by
    have hactive₁ : r₁.active = true := hpoll.active ▸ hactive
    have hm : moved := hsync.changed.mpr fun heq => by
      rw [hactive₁, hinactive] at heq
      cases heq
    by_cases hc : a = .any ∨ a.Controlled r₁
    · exact .inl (hselected.mpr ⟨hm, hc.imp id fun h => ⟨hactive₁, h⟩⟩)
    · -- its control was found by the poll itself
      obtain ⟨hany, hc⟩ := not_or.mp hc
      exact .inr ((hpoll.reported hmixer).mpr
        ⟨hactive, Aspect.differs_of_controlled hany hc hcontrolled⟩)

/-- What the step of mixer `m` tells of a route of any mixer. -/
structure ToldStep (m : Nat) (a : Aspect) (r : RouteSnapshot V) (b : RouteBinding)
    (r' : RouteSnapshot V) (b' : RouteBinding) (told : Prop) : Prop where
  foreign : b.mixer ≠ m → r' = r ∧ b' = b ∧ ¬ told
  own : b.mixer = m → Told a r r' told

theorem pollMixer_tells (hs : s.Indexed curve) {h : MixerHandle}
    (hm : s.mixers[m]? = some h) :
    Runs (pollMixer io curve m) s fun found t => s.Polled curve t ∧
      (∀ k a, Cellwise (ToldStep m a) (s.cell k) (t.cell k) (∃ c ∈ found, c.tells (k, a))) ∧
      ∀ k, s.routes.length ≤ k → ¬ ∃ c ∈ found, c.names k := by
  unfold pollMixer
  refine index_runs hm (Mixer.modifyCounter_reads.bind fun counter n _ => ?_)
  have hcalls : s.Polled curve { s with calls := n } := ⟨.of_eq rfl rfl rfl, rfl⟩
  cases counter with
  | none =>
    refine .pure ⟨hcalls, fun k a r b hcell => ⟨r, b, hcell, fun _ => ?_, fun _ => ?_⟩,
      fun k _ => not_named_nil k⟩
    · exact ⟨rfl, rfl, not_tells_nil _⟩
    · exact .refl a r (not_tells_nil _)
  | some counter =>
    refine .bind_of (setCounter_runs (s := { s with calls := n }) curve hm counter) ?_
    rintro _ s₁ ⟨hs₁, hset⟩
    have hkept₁ : s.Polled curve s₁ := hcalls.trans ⟨hset, by rw [hs₁]⟩
    have hm₁ : s₁.mixers[m]? = some { h with counter } := by
      rw [hs₁]
      exact getElem?_set_of hm
    refine .bind_of (syncSource_runs (hkept₁.kept.indexed hs) hm₁) fun changed s₂ hsync => ?_
    have hkept₂ : s.Polled curve s₂ :=
      hkept₁.trans ⟨hsync.kept (hkept₁.kept.indexed hs), by rw [hsync.eq]⟩
    have hs₂ := hkept₂.kept.indexed hs
    refine .bind_of ((selections_tell hs₂ fun p hp => hsync.length.symm ▸ hsync.lt p hp).and
      (selections_runs hs₂ fun p hp => hsync.length.symm ▸ hsync.lt p hp)) ?_
    rintro selections u ⟨⟨hu, hselections⟩, -, hnamed⟩
    subst u
    have hstep : ∀ p ∈ List.range s₂.routes.length, ∀ u, s₂.Polled curve u →
        Runs (pollRoute io curve m p) u fun found t => s₂.Polled curve t ∧
          Swept Panel.aspect Prod.fst RouteChange.tells (fun k => Cellwise (PolledAspect m k.2))
            (· = p) u found t := by
      intro p hp u hu
      have hlt : p < u.routes.length := by
        rw [hu.kept.routes]
        exact List.mem_range.mp hp
      exact (pollRoute_tells (hu.kept.indexed hs₂) hlt).mono fun _ t ht => ⟨hu.trans ht.1, ht.2⟩
    refine .get (.bind_of (Runs.collect List.nodup_range hstep s₂ (.refl s₂)) ?_)
    rintro values t ⟨hkept, hswept⟩
    have happend : ∀ P : RouteChange → Prop, (∃ c ∈ selections ++ values, P c) ↔
        (∃ c ∈ selections, P c) ∨ ∃ c ∈ values, P c := fun P => by
      simp only [List.mem_append, or_and_right, exists_or]
    refine .pure ⟨hkept₂.trans hkept, fun k a r b hcell => ?_, fun k hk => ?_⟩
    · obtain ⟨hr, hb⟩ := Prod.mk.inj hcell
      have hr₁ : s₁.routes[k]? = some r := by rw [hs₁]; exact hr
      have hb₁ : s₁.bindings[k]? = some b := by rw [hs₁]; exact hb
      obtain ⟨r₁, hr₂, hsynced⟩ := hsync.route k r b hr₁ hb₁
      have hcell₂ : s₂.cell k = (some r₁, some b) := by
        rw [Panel.cell, hr₂, hsync.eq, hb₁]
      have hlt : k < s₂.routes.length := (List.getElem?_eq_some_iff.mp hr₂).1
      obtain ⟨r', b', hcell', hpolled⟩ :=
        hswept.inside (k, a) (List.mem_range.mpr hlt) r₁ b hcell₂
      rw [happend]
      refine ⟨r', b', hcell', fun hne => ?_, fun hmixer =>
        told_of hsynced hpolled (hselections k r₁ a hr₂) hmixer⟩
      have hnot : k ∉ changed.getD [] := fun hk => hne (hsynced.owned hk).1
      obtain ⟨rfl, rfl, hquiet⟩ := hpolled.foreign hne
      exact ⟨hsynced.still hnot, rfl,
        not_or.mpr ⟨fun h => hnot ((hselections k _ a hr₂).mp h).1, hquiet⟩⟩
    · have hlength : s₂.routes.length = s.routes.length := hkept₂.kept.routes
      rw [happend]
      refine not_or.mpr ⟨fun hmem => ?_, hswept.silent (k, .any) fun hmem => ?_⟩
      · have hlt := hsync.lt k ((hnamed k).mp hmem)
        rw [hkept₁.kept.routes] at hlt
        omega
      · have hlt : k < s₂.routes.length := List.mem_range.mp hmem
        omega

/-! ## All mixers -/

/-- What the changes of a poll tell of every aspect of every route, and that they are
about routes that there are. -/
theorem poll_tells (hs : s.Indexed curve) :
    Runs (poll io curve) s fun changes t => s.Polled curve t ∧
      ∀ k r, s.routes[k]? = some r → ∃ r', t.routes[k]? = some r' ∧
        ∀ a, Told a r r' (∃ c ∈ changes, c.tells (k, a)) := by
  let Post (k : Nat × Aspect) (old new : Option (RouteSnapshot V) × Option RouteBinding)
    (told : Prop) := Cellwise (fun r _ r' _ told => Told k.2 r r' told) old new told
  have hstep : ∀ m ∈ List.range s.mixers.length, ∀ u, s.Polled curve u →
      Runs (pollMixer io curve m) u fun found t => s.Polled curve t ∧
        Swept Panel.aspect (fun k => s.owner k.1) RouteChange.tells Post (· = m) u found t := by
    intro m hm u hu
    have husame := hu.kept.indexed hs
    obtain ⟨h, hh⟩ : ∃ h, u.mixers[m]? = some h :=
      ⟨_, List.getElem?_eq_getElem (hu.kept.length_mixers.symm ▸ List.mem_range.mp hm)⟩
    refine (pollMixer_tells husame hh).mono ?_
    rintro found t ⟨ht, htells, hsilent⟩
    have hforeign : ∀ k a, s.owner k ≠ m →
        t.cell k = u.cell k ∧ ¬ ∃ c ∈ found, c.tells (k, a) := by
      intro k a hk
      rcases husame.cell_or k with ⟨r, b, hcell⟩ | ⟨hcell, hlength⟩
      · obtain ⟨r', b', hcell', hstep⟩ := htells k a r b hcell
        have hne : b.mixer ≠ m := fun heq =>
          hk ((hu.kept.owner_eq (Prod.mk.inj hcell).2).trans heq)
        obtain ⟨rfl, rfl, hquiet⟩ := hstep.foreign hne
        exact ⟨hcell'.trans hcell.symm, hquiet⟩
      · refine ⟨?_, ?_⟩
        · rcases (ht.kept.indexed husame).cell_or k with ⟨r, b, hcell'⟩ | ⟨hcell', -⟩
          · have hlt := (List.getElem?_eq_some_iff.mp (Prod.mk.inj hcell').1).1
            rw [ht.kept.routes] at hlt
            omega
          · exact hcell'.trans hcell.symm
        · rintro ⟨c, hc, htold⟩
          exact hsilent k hlength ⟨c, hc, c.tells_names htold⟩
    refine ⟨hu.trans ht, ?_, fun k hk => (hforeign k.1 k.2 hk).1, fun k hk =>
      (hforeign k.1 k.2 hk).2⟩
    rintro ⟨k, a⟩ hk r b hcell
    obtain ⟨r', b', hcell', hstep⟩ := htells k a r b hcell
    have hown := hu.kept.owner_eq (Prod.mk.inj hcell).2
    exact ⟨r', b', hcell', hstep.own (hown.symm.trans hk)⟩
  unfold poll
  refine .get ((Runs.collect List.nodup_range hstep s (.refl s)).mono ?_)
  rintro changes t ⟨ht, hswept⟩
  refine ⟨ht, fun k r hr => ?_⟩
  obtain ⟨q, b, h, hat⟩ := hs.located (List.getElem?_eq_some_iff.mp hr).1
  cases Option.some.inj (hr.symm.trans hat.route)
  have hsame : s.Kept curve s := .refl s
  have hmem : s.owner k ∈ List.range s.mixers.length := by
    rw [hsame.owner_eq hat.binding, List.mem_range]
    exact (List.getElem?_eq_some_iff.mp hat.handle).1
  have hcell : s.cell k = (some r, some b) := by rw [Panel.cell, hat.route, hat.binding]
  obtain ⟨r', hr'⟩ := exists_getElem?_of_length ht.kept.routes hr
  refine ⟨r', hr', fun a => ?_⟩
  obtain ⟨r'', b', hcell', htold⟩ := hswept.inside (k, a) hmem r b hcell
  cases Option.some.inj ((Prod.mk.inj hcell').1.symm.trans hr')
  exact htold

end

/-! ## One request -/

/-- What the one change of a request tells of a route. -/
structure RequestTold (k : Nat) (r r' : RouteSnapshot V) (change : RouteChange) : Prop where
  quiet : change.refresh = false → r'.active = r.active ∧ (r'.active = true → r' = r)
  told : r.active = true → r'.active = true → ∀ a : Aspect, a ≠ .any → a.Differs r r' →
    change.tells (k, a)
  active : ∀ a : Aspect, a ≠ .any → change.tells (k, a) → r'.active = true
  refresh : ∀ a : Aspect, a ≠ .any → change.tells (k, a) → change.refresh = true

section
variable {curve : Curve V} {io : Ioctls} {s : Panel V} {pos : Nat} {r : RouteSnapshot V}
  {b : RouteBinding} {h : MixerHandle}

/-- What the selection of a request does to the routes: nothing unless it was made, and
nothing to a route that is active before it and after it. -/
structure Reselected (s : Panel V) (pos : Nat) (r : RouteSnapshot V) (selected : Option Nat)
    (selection : RouteSelectionOutcome) (t : Panel V) : Prop where
  unmade : selection ≠ .applied → selection ≠ .deflected → selected = none ∧ t.routes = s.routes
  already : r.active = true → selected = none ∧ t.routes = s.routes
  lasting : ∀ (k : Nat) (q q' : RouteSnapshot V), s.routes[k]? = some q →
    t.routes[k]? = some q' → q.active = true → q'.active = true → q' = q

/-- A selection that was not made. -/
theorem Reselected.same {selection : RouteSelectionOutcome} {t : Panel V}
    (h : t.routes = s.routes) : Reselected s pos r none selection t where
  unmade := fun _ _ => ⟨rfl, h⟩
  already := fun _ => ⟨rfl, h⟩
  lasting := fun _ _ _ hq hq' _ _ => Option.some.inj ((h ▸ hq').symm.trans hq)

theorem selectSource_reselects (hs : s.Indexed curve) (hat : s.At pos r b h) (activate : Bool) :
    Runs (selectSource io curve activate pos) s fun outcome t =>
      Reselected s pos r outcome.1 outcome.2 t := by
  unfold selectSource
  refine index_runs hat.route (.ite (fun hcond => ?_) fun _ => .pure (.same rfl))
  have hinactive : r.active = false := by simpa using (Bool.and_eq_true_iff.mp hcond).2
  refine index_runs hat.binding ?_
  cases hsource : b.source with
  | none => exact .pure (.same rfl)
  | some source =>
    refine index_runs hat.handle
      (.bind_of (Mixer.writeInt_runs soundMixerRecsrc _) fun written s₁ hwritten => ?_)
    cases written with
    | false =>
      obtain ⟨n, rfl⟩ := hwritten.failed rfl
      exact .pure (.same rfl)
    | true =>
      obtain ⟨n, value, -, hs₁⟩ := hwritten.done rfl
      have hkept₁ : s.Kept curve s₁ := by
        rw [hs₁]
        exact .of_eq rfl rfl rfl
      have hroutes₁ : s₁.routes = s.routes := by rw [hs₁]
      have hat₁ : s₁.At pos r b h := by
        rw [hs₁]
        exact ⟨hat.route, hat.binding, hat.handle⟩
      refine .bind_of (syncSource_runs (hkept₁.indexed hs) hat₁.handle) fun changed t hsync => ?_
      obtain ⟨r', hr', -⟩ := hsync.route pos r b hat₁.route hat₁.binding
      have hlasting : ∀ (k : Nat) (q q' : RouteSnapshot V), s.routes[k]? = some q →
          t.routes[k]? = some q' → q.active = true → q'.active = true → q' = q := by
        intro k q q' hq hq' hactive hactive'
        have hq₁ : s₁.routes[k]? = some q := hroutes₁ ▸ hq
        obtain ⟨c, hc⟩ := exists_getElem?_of_length (hkept₁.indexed hs).bindings hq₁
        obtain ⟨q'', hq'', hsynced⟩ := hsync.route k q c hq₁ hc
        cases Option.some.inj (hq'.symm.trans hq'')
        exact hsynced.still fun hk => hsynced.changed.mp hk (hactive'.trans hactive.symm)
      have hmade : ∀ selected : Option Nat, Reselected s pos r selected
          (if selected = some pos then .applied else .deflected) t := fun selected =>
        { unmade := fun happlied hdeflected => by
            by_cases heq : selected = some pos
            · exact absurd (if_pos heq) happlied
            · exact absurd (if_neg heq) hdeflected
          already := fun hactive => by
            rw [hinactive] at hactive
            cases hactive
          lasting := hlasting }
      unfold selectedRoute
      refine .bind (index_runs hr' (.ite (fun _ => .pure (.pure (hmade _))) fun _ => ?_))
      have hall : ∀ c ∈ t.bindings.zipIdx, t.bindings[c.2]? = some c.1 := fun c hc =>
        List.mem_zipIdx_iff_getElem?.mp hc
      have hindexed := (hkept₁.trans (hsync.kept (hkept₁.indexed hs))).indexed hs
      refine .get ((findSelected_runs hindexed b.mixer _ hall).mono ?_)
      rintro selected u ⟨rfl, -⟩
      exact .pure (hmade selected)

theorem prepare_reselects (io : Ioctls) (hs : s.Indexed curve) (hat : s.At pos r b h)
    (activate : Bool) :
    Runs (prepare io curve activate pos) s fun found u =>
      Reselected s pos r found.1 found.2.1 u := by
  unfold prepare
  refine .bind_of ((selectSource_reselects hs hat activate).and
    (selectSource_runs hs hat activate)) ?_
  rintro ⟨selected, selection⟩ t ⟨ht, hpanel⟩
  obtain ⟨r', hr'⟩ := exists_getElem?_of_length hpanel.kept.routes hat.route
  have hat' : t.At pos r' b h := ⟨hr', hpanel.bindings ▸ hat.binding, hpanel.mixers ▸ hat.handle⟩
  refine .bind_of (resolveControls_runs hat') ?_
  rintro _ _ ⟨b', n, -, rfl⟩
  exact index_runs (getElem?_set_of hat'.binding) (.pure ⟨ht.unmade, ht.already, ht.lasting⟩)

/-- A value that changes the route's volume or mute is counted, and stays so. -/
structure Counted (done : Applied) (r : RouteSnapshot V) (done' : Applied)
    (r' : RouteSnapshot V) : Prop where
  volume : done.volume = true ∨ r'.volume ≠ r.volume → done'.volume = true
  mute : done.mute = true ∨ r'.mute ≠ r.mute → done'.mute = true

theorem Counted.same {done done' : Applied} (hvolume : done'.volume = done.volume)
    (hmute : done'.mute = done.mute) : Counted done r done' r where
  volume := fun h => h.elim (fun hd => hvolume.trans hd) fun hne => absurd rfl hne
  mute := fun h => h.elim (fun hd => hmute.trans hd) fun hne => absurd rfl hne

theorem Counted.trans {done done₁ done' : Applied} {r₁ r' : RouteSnapshot V}
    (h : Counted done r done₁ r₁) (h' : Counted done₁ r₁ done' r') : Counted done r done' r' where
  volume := by
    rintro (hd | hne)
    · exact h'.volume (.inl (h.volume (.inl hd)))
    · by_cases heq : r₁.volume = r.volume
      · exact h'.volume (.inr fun heq' => hne (heq'.trans heq))
      · exact h'.volume (.inl (h.volume (.inr heq)))
  mute := by
    rintro (hd | hne)
    · exact h'.mute (.inl (h.mute (.inl hd)))
    · by_cases heq : r₁.mute = r.mute
      · exact h'.mute (.inr fun heq' => hne (heq'.trans heq))
      · exact h'.mute (.inl (h.mute (.inr heq)))

theorem applyValue_counted (hat : s.At pos r b h) {n : Nat} (hb : b.Bound n) (done : Applied)
    (v : RouteValueUpdate V) :
    Runs (applyValue io curve pos b done v) s fun done' t =>
      ∀ r', t.routes[pos]? = some r' → Counted done r done' r' := by
  have hsame : ∀ {t : Panel V} {done' : Applied}, t.routes = s.routes →
      done'.volume = done.volume → done'.mute = done.mute →
      ∀ r', t.routes[pos]? = some r' → Counted done r done' r' := by
    intro t done' hroutes hvolume hmute r' hr'
    cases Option.some.inj ((hroutes ▸ hr').symm.trans hat.route)
    exact .same hvolume hmute
  unfold applyValue
  cases v with
  | mute requested =>
    refine index_runs hat.route (.ite (fun _ => .pure (hsame rfl rfl rfl)) fun _ => ?_)
    refine .bind_of (writeMuted_runs hat.handle hb requested) fun ok t ht => ?_
    cases ok with
    | true =>
      obtain ⟨hw', n, -, rfl⟩ := ht.done rfl
      refine .bind (modifyRoute_runs hat.route (.pure fun r' hr' => ?_))
      cases Option.some.inj ((getElem?_set_of hat.route).symm.trans hr')
      exact ⟨fun h => h.resolve_right fun hne => hne rfl, fun _ => rfl⟩
    | false =>
      obtain ⟨-, n, rfl⟩ := ht.failed rfl
      exact .pure (hsame rfl rfl rfl)
  | volume values =>
    refine index_runs hat.route (.ite (fun _ => .pure (hsame rfl rfl rfl)) fun _ => ?_)
    refine .bind_of (writeLevels_runs curve hat.handle hb (curve.levels values)) fun ok t ht => ?_
    cases ok with
    | true =>
      obtain ⟨hw', n, -, rfl⟩ := ht.done rfl
      refine .bind (modifyRoute_runs hat.route (.pure fun r' hr' => ?_))
      cases Option.some.inj ((getElem?_set_of hat.route).symm.trans hr')
      exact ⟨fun _ => rfl, fun h => h.resolve_right fun hne => hne rfl⟩
    | false =>
      obtain ⟨-, n, rfl⟩ := ht.failed rfl
      exact .pure (hsame rfl rfl rfl)

theorem applyValues_counted {n : Nat} (hb : b.Bound n) :
    ∀ (values : List (RouteValueUpdate V)) (done : Applied) (s : Panel V) (r : RouteSnapshot V),
      s.At pos r b h → Runs (applyValues io curve pos b values done) s fun done' t =>
        ∀ r', t.routes[pos]? = some r' → Counted done r done' r'
  | [], done, s, r, hat => by
    refine .pure fun r' hr' => ?_
    cases Option.some.inj (hr'.symm.trans hat.route)
    exact .same rfl rfl
  | v :: values, done, s, r, hat => by
    refine .bind_of ((applyValue_counted hat hb done v).and
      (applyValue_runs curve io hat hb done v)) ?_
    rintro done₁ _ ⟨hfirst, r₁, hw₁, n₁, rfl, -⟩
    have hat₁ := hat.advance r₁ hw₁ n₁
    refine (applyValues_counted hb values done₁ _ r₁ hat₁).mono fun done' t ht r' hr' => ?_
    exact (hfirst r₁ hat₁.route).trans (ht r' hr')

/-- The flags that a request reports, and of which route. -/
theorem selectionNotificationFlags_eq (hr : s.routes[pos]? = some r) {selected : Option Nat}
    (hselected : ∀ q ∈ selected, ∃ rq, s.routes[q]? = some rq) (volume mute : Bool) :
    Runs (selectionNotificationFlags pos selected volume mute) s fun flags t => t = s ∧
      (∀ q ∈ selected, flags.1 = q) ∧
      (selected = none → flags = (pos, r.active && volume, r.active && mute)) := by
  unfold selectionNotificationFlags
  cases selected with
  | some q =>
    obtain ⟨rq, hrq⟩ := hselected q rfl
    refine index_runs hrq (.ite (fun heq => .pure ⟨rfl, ?_, nofun⟩) fun _ =>
      .pure ⟨rfl, ?_, nofun⟩)
    · rintro _ ⟨⟩
      rfl
    · rintro _ ⟨⟩
      rfl
  | none =>
    refine index_runs hr (.ite (fun hactive => .pure ⟨rfl, nofun, fun _ => ?_⟩) fun hinactive =>
      .pure ⟨rfl, nofun, fun _ => ?_⟩)
    · rw [hactive, Bool.true_and, Bool.true_and]
    · rw [Bool.not_eq_true _ |>.mp hinactive, Bool.false_and, Bool.false_and]

/-- A request across its steps: `r₀`, `r₁` and `r₂` are the requested route before it, at
its values and after it, in the panels `s`, `u` and `t`. -/
structure RequestMade (s u t : Panel V) (pos : Nat) (r₀ r₁ r₂ : RouteSnapshot V)
    (selected : Option Nat) (selection : RouteSelectionOutcome) (done : Applied)
    (change : RouteChange) : Prop where
  reselected : Reselected s pos r₀ selected selection u
  before : s.routes[pos]? = some r₀
  values : u.routes[pos]? = some r₁
  after : t.routes[pos]? = some r₂
  others : ∀ k : Nat, k ≠ pos → t.routes[k]? = u.routes[k]?
  restated : r₂ = { r₁ with volume := r₂.volume, mute := r₂.mute }
  counted : Counted {} r₁ done r₂
  chosen : ∀ q ∈ selected, change.key = some q ∧ ∃ rq, t.routes[q]? = some rq ∧ rq.active = true
  unchosen : selected = none → change.key = some pos ∧
    change.volume = (r₂.active && done.volume) ∧ change.mute = (r₂.active && done.mute)
  refresh : change.refresh =
    (selection = .applied || selection = .deflected || change.volume || change.mute)

namespace RequestMade
variable {u t : Panel V} {r₀ r₁ r₂ : RouteSnapshot V} {selected : Option Nat}
  {selection : RouteSelectionOutcome} {done : Applied} {change : RouteChange} {k : Nat}
  {r' : RouteSnapshot V}

/-- Without a selection and flags, an active route is as it was. -/
theorem unflagged (h : RequestMade s u t pos r₀ r₁ r₂ selected selection done change)
    (hnone : selected = none) (hvolume : change.volume = false) (hmute : change.mute = false)
    (hactive : r₂.active = true) : r₂ = r₁ := by
  obtain ⟨-, hv, hm⟩ := h.unchosen hnone
  rw [hvolume, hactive, Bool.true_and] at hv
  rw [hmute, hactive, Bool.true_and] at hm
  have hvsame : r₂.volume = r₁.volume := Classical.not_not.mp fun hne => by
    rw [h.counted.volume (.inr hne)] at hv
    cases hv
  have hmsame : r₂.mute = r₁.mute := Classical.not_not.mp fun hne => by
    rw [h.counted.mute (.inr hne)] at hm
    cases hm
  rw [h.restated, hvsame, hmsame]

theorem quiet (h : RequestMade s u t pos r₀ r₁ r₂ selected selection done change)
    (hr : s.routes[k]? = some r) (hr' : t.routes[k]? = some r') (hquiet : change.refresh = false) :
    r'.active = r.active ∧ (r'.active = true → r' = r) := by
  rw [h.refresh] at hquiet
  simp only [Bool.or_eq_false_iff, decide_eq_false_iff_not] at hquiet
  obtain ⟨⟨⟨happlied, hdeflected⟩, hvolume⟩, hmute⟩ := hquiet
  obtain ⟨hnone, hsame⟩ := h.reselected.unmade happlied hdeflected
  by_cases hk : k = pos
  · have hr₁ : r₁ = r := by
      have hvalues := h.values
      rw [hsame, ← hk] at hvalues
      exact Option.some.inj (hvalues.symm.trans hr)
    have hr₂ : r' = r₂ := by
      rw [hk] at hr'
      exact Option.some.inj (hr'.symm.trans h.after)
    rw [hr₂, ← hr₁]
    exact ⟨by rw [h.restated], h.unflagged hnone hvolume hmute⟩
  · rw [h.others k hk, hsame] at hr'
    cases Option.some.inj (hr'.symm.trans hr)
    exact ⟨rfl, fun _ => rfl⟩

theorem told (h : RequestMade s u t pos r₀ r₁ r₂ selected selection done change)
    (hr : s.routes[k]? = some r) (hr' : t.routes[k]? = some r') (hbefore : r.active = true)
    (hafter : r'.active = true) {a : Aspect} (ha : a ≠ .any) (hdiffers : a.Differs r r') :
    change.tells (k, a) := by
  by_cases hk : k = pos
  · rw [hk] at hr hr'
    cases Option.some.inj (hr.symm.trans h.before)
    obtain ⟨hnone, hsame⟩ := h.reselected.already hbefore
    have hr₁ : r₁ = r := by
      have hvalues := h.values
      rw [hsame] at hvalues
      exact Option.some.inj (hvalues.symm.trans hr)
    have hr₂ : r' = r₂ := Option.some.inj (hr'.symm.trans h.after)
    obtain ⟨hkey, hv, hm⟩ := h.unchosen hnone
    rw [← hr₂, hafter, Bool.true_and] at hv hm
    rw [hr₂, ← hr₁] at hdiffers
    have hnames : change.names k := hkey.trans (congrArg some hk.symm)
    cases a with
    | any => exact absurd rfl ha
    | volume => exact ⟨hnames, hv.trans (h.counted.volume (.inr hdiffers))⟩
    | mute => exact ⟨hnames, hm.trans (h.counted.mute (.inr hdiffers))⟩
  · rw [h.others k hk] at hr'
    rw [h.reselected.lasting k r r' hr hr' hbefore hafter] at hdiffers
    exact absurd hdiffers (a.not_differs_self r)

theorem active (h : RequestMade s u t pos r₀ r₁ r₂ selected selection done change)
    (hr' : t.routes[k]? = some r') {a : Aspect} (ha : a ≠ .any) (htells : change.tells (k, a)) :
    r'.active = true := by
  have hkey : change.key = some k := RouteChange.tells_names htells
  cases hsel : selected with
  | some q =>
    obtain ⟨hq, rq, hrq, hactive⟩ := h.chosen q hsel
    cases Option.some.inj (hkey.symm.trans hq)
    cases Option.some.inj (hr'.symm.trans hrq)
    exact hactive
  | none =>
    obtain ⟨hpos, hv, hm⟩ := h.unchosen hsel
    cases Option.some.inj (hkey.symm.trans hpos)
    rw [Option.some.inj (hr'.symm.trans h.after)]
    cases a with
    | any => exact absurd rfl ha
    | volume => exact (Bool.and_eq_true_iff.mp (hv.symm.trans htells.2)).1
    | mute => exact (Bool.and_eq_true_iff.mp (hm.symm.trans htells.2)).1

/-- Flags come with a refresh. -/
theorem refreshes (h : RequestMade s u t pos r₀ r₁ r₂ selected selection done change)
    {a : Aspect} (ha : a ≠ .any) (htells : change.tells (k, a)) : change.refresh = true := by
  rw [h.refresh]
  cases a with
  | any => exact absurd rfl ha
  | volume => rw [htells.2, Bool.or_true, Bool.true_or]
  | mute => rw [htells.2, Bool.or_true]

end RequestMade

/-- What the change of a request tells of every route. -/
theorem apply_tells (hs : s.Indexed curve) (key : Nat) (update : RouteUpdate V) :
    Runs (apply io curve key update) s fun change t => s.Kept curve t ∧
      ∀ k r, s.routes[k]? = some r → ∃ r', t.routes[k]? = some r' ∧ RequestTold k r r' change := by
  unfold apply
  refine .get ?_
  cases hpos : position s.routes key with
  | none =>
    refine .pure ⟨.refl s, fun k r hr => ⟨r, hr, fun _ => ⟨rfl, fun _ => rfl⟩, ?_, ?_, ?_⟩⟩
    · exact fun _ _ a _ hd => absurd hd (a.not_differs_self r)
    · exact fun a _ ht => absurd (RouteChange.tells_names ht) nofun
    · exact fun a _ ht => absurd (RouteChange.tells_names ht) nofun
  | some pos =>
    have hlt : pos < s.routes.length := (List.findIdx?_eq_some_iff_getElem.mp hpos).1
    obtain ⟨r₀, b₀, h, hat⟩ := hs.located hlt
    refine .bind_of ((prepare_runs io hs hat update.activate).and
      (prepare_reselects io hs hat update.activate)) ?_
    rintro ⟨selected, selection, b⟩ u ⟨⟨r₁, hu⟩, hselect⟩
    have hu : Prepared curve s pos r₀ h selected selection b r₁ u := hu
    have hindexed := hu.kept.indexed hs
    have hb := hindexed.bound b (List.mem_of_getElem? hu.located.binding)
    refine .bind_of ((applyValues_runs hb update.values {} u r₁ hu.located).and
      (applyValues_counted hb update.values {} u r₁ hu.located)) ?_
    rintro done _ ⟨⟨r₂, hw', n, rfl, hrun⟩, hcounted⟩
    have hkept := (hrun.kept hu.located n).1
    have hat₂ := hu.located.advance r₂ hw' n
    refine .bind_of (recordCounter_runs curve io hat₂) ?_
    rintro _ t ⟨hnoted, hroutes, -, h', hat', -⟩
    have hrestated : r₂ = { r₁ with volume := r₂.volume, mute := r₂.mute } := by rw [hrun.eq]
    -- only the requested route has its values changed
    have hother : ∀ k : Nat, k ≠ pos → t.routes[k]? = u.routes[k]? := fun k hk => by
      rw [hroutes]
      exact List.getElem?_set_ne (Ne.symm hk)
    have hselected : ∀ q ∈ selected, ∃ rq, t.routes[q]? = some rq ∧ rq.active = true := by
      intro q hq
      obtain ⟨rq, hrq, hactive⟩ := hu.selected q hq
      by_cases hk : q = pos
      · subst hk
        cases Option.some.inj (hrq.symm.trans hu.located.route)
        exact ⟨r₂, hat'.route, by rw [hrestated]; exact hactive⟩
      · exact ⟨rq, (hother q hk).trans hrq, hactive⟩
    refine .bind_of ((selectionNotificationFlags_eq hat'.route
      (fun q hq => (hselected q hq).imp fun _ hrq => hrq.1) done.volume done.mute).and
      (selectionNotificationFlags_runs hat'.route
        (fun q hq => (hselected q hq).imp fun _ hrq => hrq.1) done.volume done.mute)) ?_
    rintro ⟨changedPos, volume, mute⟩ t' ⟨⟨ht', hchosen, hnone⟩, -, rq, hrq, -⟩
    subst t'
    have hkept' := hu.kept.trans (hkept.trans hnoted)
    have hkey : rq.key = changedPos := (hkept'.indexed hs).key changedPos rq hrq
    refine index_runs hat'.route (index_runs hrq (.pure ⟨hkept', ?_⟩))
    have hmade : RequestMade s u t pos r₀ r₁ r₂ selected selection done
        { key := some rq.key, volume, mute, selection,
          refresh := selection = .applied || selection = .deflected || volume || mute
          diagnostic := applyDiagnostic r₂.name selection done } :=
      { reselected := hselect
        before := hat.route
        values := hu.located.route
        after := hat'.route
        others := hother
        restated := hrestated
        counted := hcounted r₂ hat₂.route
        chosen := fun q hq => ⟨congrArg some (hkey.trans (hchosen q hq)), hselected q hq⟩
        unchosen := fun hsel => by
          obtain ⟨hc, hflags⟩ := Prod.mk.inj (hnone hsel)
          exact ⟨congrArg some (hkey.trans hc), Prod.mk.inj hflags⟩
        refresh := rfl }
    intro k r hr
    obtain ⟨r', hr'⟩ := exists_getElem?_of_length hkept'.routes hr
    exact ⟨r', hr', hmade.quiet hr hr', fun hbefore hafter a => hmade.told hr hr' hbefore hafter,
      fun a => hmade.active hr', fun a => hmade.refreshes⟩

end

end PwOss.Oss
