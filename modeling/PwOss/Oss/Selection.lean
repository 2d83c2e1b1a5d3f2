import PwOss.Oss.Requests

/-
  A whole request: the selection of its recording source, its values, and the
  change that it reports.

  The selection writes one register that no shadow stands for, and reads back the
  routes that it made active. So the values begin at a panel whose shadow of the
  requested route is as true as it was before, and a shadow without a control is
  the very same.
-/

namespace PwOss.Oss

open PwOss.Lists PwOss.Proc

variable {V : Type}

/-! ## Selection -/

section
variable {curve : Curve V} {io : Ioctls} {s : Panel V} {pos : Nat} {r : RouteSnapshot V}
  {b : RouteBinding} {h : MixerHandle}

/-- A route that can be the recording source of the mixer, and is. -/
structure IsSelected (s : Panel V) (m q : Nat) (rq : RouteSnapshot V) (bq : RouteBinding) :
    Prop where
  route : s.routes[q]? = some rq
  active : rq.active = true
  binding : s.bindings[q]? = some bq
  mixer : bq.mixer = m
  source : bq.source.isSome

theorem findSelected_runs (hs : s.Indexed curve) (m : Nat) :
    ∀ candidates : List (RouteBinding × Nat), (∀ c ∈ candidates, s.bindings[c.2]? = some c.1) →
      Runs (findSelected m candidates) s fun selected t =>
        t = s ∧ ∀ q ∈ selected, ∃ rq bq, IsSelected s m q rq bq
  | [], _ => .pure ⟨rfl, nofun⟩
  | (b, q) :: rest, hall => by
    have hb : s.bindings[q]? = some b := hall _ List.mem_cons_self
    have hrest := findSelected_runs hs m rest fun c hc => hall c (List.mem_cons_of_mem _ hc)
    obtain ⟨rq, hrq⟩ := exists_getElem?_of_length hs.bindings.symm hb
    refine .ite (fun hcond => ?_) fun _ => hrest
    refine index_runs hrq (.ite (fun hactive => ?_) fun _ => hrest)
    refine .pure ⟨rfl, ?_⟩
    rintro _ ⟨⟩
    exact ⟨rq, b, hrq, hactive, hb, hcond.1, hcond.2⟩

/-- A panel across the selection that a request asks for. -/
structure SelectedPanel (curve : Curve V) (s : Panel V) (pos : Nat) (r : RouteSnapshot V)
    (b : RouteBinding) (unit : Nat) (outcome : Option Nat × RouteSelectionOutcome) (t : Panel V) :
    Prop where
  kept : s.Kept curve t
  bindings : t.bindings = s.bindings
  mixers : t.mixers = s.mixers
  hw : ∀ unit dev, dev ≠ soundMixerRecsrc → t.hw.register unit dev = s.hw.register unit dev
  read : ∀ r', t.routes[pos]? = some r' → Reread curve t.hw unit b { r with active := r'.active } r'
  sourceless : b.source = none → t.routes = s.routes
  failed : outcome.2 = .failed → outcome.1 = none ∧ r.active = false ∧ t.routes = s.routes
  selected : ∀ q ∈ outcome.1, ∃ rq bq, IsSelected t b.mixer q rq bq

/-- The selection left the routes alone. -/
theorem SelectedPanel.same (hat : s.At pos r b h) {outcome : RouteSelectionOutcome} (n : Nat)
    (hfailed : outcome = .failed → r.active = false) :
    SelectedPanel curve s pos r b h.mixer.unit (none, outcome) { s with calls := n } where
  kept := .of_eq rfl rfl rfl
  bindings := rfl
  mixers := rfl
  hw := fun _ _ _ => rfl
  read := fun r' hr' => by
    cases Option.some.inj (hat.route.symm.trans hr')
    exact .refl r
  sourceless := fun _ => rfl
  failed := fun hf => ⟨rfl, hfailed hf, rfl⟩
  selected := nofun

theorem selectSource_runs (hs : s.Indexed curve) (hat : s.At pos r b h) (activate : Bool) :
    Runs (selectSource io curve activate pos) s (SelectedPanel curve s pos r b h.mixer.unit) := by
  unfold selectSource
  refine index_runs hat.route (.ite (fun hcond => ?_) fun _ => .pure (.same hat s.calls nofun))
  have hinactive : r.active = false := by simpa using (Bool.and_eq_true_iff.mp hcond).2
  refine index_runs hat.binding ?_
  cases hsource : b.source with
  | none => exact .pure (.same hat s.calls nofun)
  | some source =>
    refine index_runs hat.handle
      (.bind_of (Mixer.writeInt_runs soundMixerRecsrc _) fun written s₁ hwritten => ?_)
    cases written with
    | false =>
      obtain ⟨n, rfl⟩ := hwritten.failed rfl
      exact .pure (.same hat n fun _ => hinactive)
    | true =>
      obtain ⟨n, value, -, hs₁⟩ := hwritten.done rfl
      have hkept₁ : s.Kept curve s₁ := by
        rw [hs₁]
        exact .of_eq rfl rfl rfl
      have hindexed₁ := hkept₁.indexed hs
      have hat₁ : s₁.At pos r b h := by
        rw [hs₁]
        exact ⟨hat.route, hat.binding, hat.handle⟩
      refine .bind_of (syncSource_runs hindexed₁ hat₁.handle) fun changed t hsync => ?_
      have hkept : s.Kept curve t := hkept₁.trans (hsync.kept hindexed₁)
      obtain ⟨r', hr', hsynced⟩ := hsync.route pos r b hat₁.route hat₁.binding
      have hbindings : t.bindings = s.bindings := by rw [hsync.eq, hs₁]
      -- what the sync says, whichever route is selected in the end
      have hpanel : ∀ outcome : Option Nat × RouteSelectionOutcome, outcome.2 ≠ .failed →
          (∀ q ∈ outcome.1, ∃ rq bq, IsSelected t b.mixer q rq bq) →
          SelectedPanel curve s pos r b h.mixer.unit outcome t := by
        intro outcome hne hselected
        refine ⟨hkept, hbindings, by rw [hsync.eq, hs₁], fun unit dev hdev => ?_, fun q hq => ?_,
          fun hnone => ?_, fun hf => absurd hf hne, hselected⟩
        · rw [hsync.eq, hs₁]
          exact Hardware.store_ne _ _ hdev _ _
        · cases Option.some.inj (hr'.symm.trans hq)
          rw [hsync.eq]
          exact hsynced.read
        · rw [hsource] at hnone
          cases hnone
      unfold selectedRoute
      refine .bind (index_runs hr' (.ite (fun hactive => ?_) fun _ => ?_))
      · refine .pure (.pure (hpanel _ ?_ ?_))
        · rw [if_pos rfl]
          nofun
        · rintro _ ⟨⟩
          exact ⟨r', b, hr', hactive, hbindings ▸ hat.binding, rfl, by rw [hsource]; rfl⟩
      · have hall : ∀ c ∈ t.bindings.zipIdx, t.bindings[c.2]? = some c.1 := fun c hc =>
          List.mem_zipIdx_iff_getElem?.mp hc
        refine .get ((findSelected_runs (hkept.indexed hs) b.mixer _ hall).mono ?_)
        rintro selected u ⟨hu, hselected⟩
        subst u
        refine .pure (hpanel _ ?_ hselected)
        split <;> nofun

/-- A panel at the point where the values of a request begin, and the binding that
they are applied through. -/
structure Prepared (curve : Curve V) (s : Panel V) (pos : Nat) (r : RouteSnapshot V)
    (h : MixerHandle) (selected : Option Nat) (selection : RouteSelectionOutcome)
    (b : RouteBinding) (r' : RouteSnapshot V) (u : Panel V) : Prop where
  kept : s.Kept curve u
  located : u.At pos r' b h
  hw : ∀ unit dev, dev ≠ soundMixerRecsrc → u.hw.register unit dev = s.hw.register unit dev
  read : Reread curve u.hw h.mixer.unit b { r with active := r'.active } r'
  failed : selection = .failed → selected = none ∧ r.active = false ∧ u.routes = s.routes
  selected : ∀ q ∈ selected, ∃ rq, u.routes[q]? = some rq ∧ rq.active = true

theorem prepare_runs (io : Ioctls) (hs : s.Indexed curve) (hat : s.At pos r b h) (activate : Bool) :
    Runs (prepare io curve activate pos) s fun found u =>
      ∃ r', Prepared curve s pos r h found.1 found.2.1 found.2.2 r' u := by
  unfold prepare
  refine .bind_of (selectSource_runs hs hat activate) ?_
  rintro ⟨selected, selection⟩ t ht
  obtain ⟨r', hr'⟩ := exists_getElem?_of_length ht.kept.routes hat.route
  have hat' : t.At pos r' b h := ⟨hr', ht.bindings ▸ hat.binding, ht.mixers ▸ hat.handle⟩
  refine .bind_of (resolveControls_runs hat') ?_
  rintro _ _ ⟨b', n, hres, rfl⟩
  refine index_runs (getElem?_set_of hat'.binding) (.pure ⟨r', ?_⟩)
  have hset : t.Kept curve _ := .set hat' hres (.refl r') n
  rw [set_eq_self hr'] at hset
  refine ⟨ht.kept.trans hset, ⟨hr', getElem?_set_of hat'.binding, hres.mixer ▸ hat'.handle⟩, ht.hw,
    ?_, ht.failed, fun q hq => ?_⟩
  · cases hsource : b.source with
    | none =>
      -- nothing was selected, so the route is the one before
      have hsame : r' = r := by
        rw [ht.sourceless hsource, hat.route] at hr'
        exact (Option.some.inj hr').symm
      subst hsame
      exact .refl r'
    | some source =>
      have hbound := hs.bound b (List.mem_of_getElem? hat.binding)
      have hfixed := hbound.selectable (by rw [hsource]; rfl)
      cases hres.fixed hfixed
      exact ht.read r' hr'
  · obtain ⟨rq, bq, hselected⟩ := ht.selected q hq
    exact ⟨rq, hselected.route, hselected.active⟩

/-- The shadow is as true of the binding's controls as it was before the selection. -/
theorem Prepared.volume_true {selected : Option Nat} {selection : RouteSelectionOutcome}
    {r' : RouteSnapshot V} {u : Panel V} {n : Nat} (hb : b.Bound n)
    (hu : Prepared curve s pos r h selected selection b r' u)
    (htrue : VolumeTrue curve s.hw h.mixer.unit b.volumeControl r) :
    VolumeTrue curve u.hw h.mixer.unit b.volumeControl r' := by
  have hregister : ∀ c ∈ b.volumeControl,
      u.hw.register h.mixer.unit c = s.hw.register h.mixer.unit c := fun c hc =>
    hu.hw _ _ (Nat.ne_of_lt (Nat.lt_trans (hb.volume c hc) (by decide)))
  rcases hu.read.volume with hsame | ⟨c, hc, levels, hlevels, hnew⟩
  · exact htrue.congr hregister hsame
  · intro d hd
    cases Option.some.inj (hc.symm.trans hd)
    exact ⟨levels, hlevels, hnew⟩

theorem Prepared.mute_true {selected : Option Nat} {selection : RouteSelectionOutcome}
    {r' : RouteSnapshot V} {u : Panel V}
    (hu : Prepared curve s pos r h selected selection b r' u)
    (htrue : MuteTrue s.hw h.mixer.unit b.muteControl r) :
    MuteTrue u.hw h.mixer.unit b.muteControl r' := by
  rcases hu.read.mute with hsame | ⟨c, hc, hnew⟩
  · exact htrue.congr (hu.hw _ _ (by decide)) hsame
  · intro d hd
    cases Option.some.inj (hc.symm.trans hd)
    exact hnew

/-! ## The report -/

theorem recordCounter_runs (curve : Curve V) (io : Ioctls) (hat : s.At pos r b h) :
    Runs (recordCounter io b.mixer) s fun _ t => s.Kept curve t ∧ t.routes = s.routes ∧
      t.hw = s.hw ∧ ∃ h', t.At pos r b h' ∧ h'.mixer = h.mixer := by
  refine index_runs hat.handle (Mixer.modifyCounter_reads.bind fun counter n _ => ?_)
  cases counter with
  | none =>
    exact .of_eq rfl
      ⟨.of_eq rfl rfl rfl, rfl, rfl, h, ⟨hat.route, hat.binding, hat.handle⟩, rfl⟩
  | some counter =>
    have hcalls : s.Kept curve { s with calls := n } := .of_eq rfl rfl rfl
    refine (setCounter_runs (s := { s with calls := n }) curve hat.handle counter).mono ?_
    rintro _ t ⟨ht, hkept⟩
    refine ⟨hcalls.trans hkept, by rw [ht], by rw [ht], { h with counter }, ?_, rfl⟩
    rw [ht]
    exact ⟨hat.route, hat.binding, getElem?_set_of hat.handle⟩

/-- The flags that a request reports: of its values, or of a selected route with a
control. A route that stays inactive reports neither. -/
theorem selectionNotificationFlags_runs (hr : s.routes[pos]? = some r) {selected : Option Nat}
    (hselected : ∀ q ∈ selected, ∃ rq, s.routes[q]? = some rq) (volume mute : Bool) :
    Runs (selectionNotificationFlags pos selected volume mute) s fun flags t => t = s ∧
      ∃ rq, s.routes[flags.1]? = some rq ∧
        (flags.2.1 = true → volume = true ∨ selected = some flags.1 ∧ rq.volume.hardware = true) ∧
        (flags.2.2 = true → mute = true ∨ selected = some flags.1 ∧ rq.mute.hardware = true) ∧
        (selected = none → r.active = false → flags.2.1 = false ∧ flags.2.2 = false) := by
  unfold selectionNotificationFlags
  cases selected with
  | some q =>
    obtain ⟨rq, hrq⟩ := hselected q rfl
    refine index_runs hrq (.ite (fun _ => ?_) fun _ => ?_)
    · exact .pure ⟨rfl, rq, hrq, fun hv => (Bool.or_eq_true_iff.mp hv).imp id fun hh => ⟨rfl, hh⟩,
        fun hm => (Bool.or_eq_true_iff.mp hm).imp id fun hh => ⟨rfl, hh⟩, nofun⟩
    · exact .pure ⟨rfl, rq, hrq, fun hv => .inr ⟨rfl, hv⟩, fun hm => .inr ⟨rfl, hm⟩, nofun⟩
  | none =>
    refine index_runs hr (.ite (fun hactive => ?_) fun _ => ?_)
    · refine .pure ⟨rfl, r, hr, .inl, .inl, fun _ hinactive => ?_⟩
      rw [hactive] at hinactive
      cases hinactive
    · exact .pure ⟨rfl, r, hr, nofun, nofun, fun _ _ => ⟨rfl, rfl⟩⟩

end

/-- A value that occurs in a run is applied there. -/
theorem Occurs.step {curve : Curve V} {io : Ioctls} {pos : Nat} {b : RouteBinding}
    {values : List (RouteValueUpdate V)} {done : Applied} {s w w' : Panel V}
    {v : RouteValueUpdate V} (h : Occurs curve io pos b values done s v w w') :
    ∃ d d', applyValue io curve pos b d v w = some (d', w') := by
  induction h with
  | head heq => exact ⟨_, _, heq⟩
  | tail _ _ ih => exact ih

/-- What a request for the route at `pos` does: `s` and `r` are the panel and the route
before it, `u` the panel where its values begin, `t` and `r'` those after it. -/
structure RequestReport (curve : Curve V) (io : Ioctls) (pos unit : Nat)
    (values : List (RouteValueUpdate V)) (s : Panel V) (r : RouteSnapshot V)
    (selected : Option Nat) (b : RouteBinding) (u : Panel V) (change : RouteChange) (t : Panel V)
    (r' : RouteSnapshot V) : Prop where
  volume_true : VolumeTrue curve s.hw unit b.volumeControl r →
    VolumeTrue curve t.hw unit b.volumeControl r'
  mute_true : MuteTrue s.hw unit b.muteControl r → MuteTrue t.hw unit b.muteControl r'
  write_failed : ∀ v w w', Occurs curve io pos b values {} u v w w' → WriteFails curve io b w v →
    w'.routes = w.routes
  soft_volume : b.volumeControl = none →
    r'.volume.values = ((lastLevels curve values).map curve.volumes).getD r.volume.values
  soft_mute : b.muteControl = none → r'.mute.value = (lastMuted values).getD r.mute.value
  volume_flag : change.volume = true →
    (∃ v w w', Occurs curve io pos b values {} u v w w' ∧ VolumeChanged pos w w') ∨
    ∃ q rq, selected = some q ∧ t.routes[q]? = some rq ∧ change.key = some rq.key ∧
      rq.active = true ∧ rq.volume.hardware = true
  mute_flag : change.mute = true →
    (∃ v w w', Occurs curve io pos b values {} u v w w' ∧ MuteChanged pos w w') ∨
    ∃ q rq, selected = some q ∧ t.routes[q]? = some rq ∧ change.key = some rq.key ∧
      rq.active = true ∧ rq.mute.hardware = true
  selection_failed : change.selection = .failed →
    t.routes.map (·.active) = s.routes.map (·.active) ∧
      change.volume = false ∧ change.mute = false ∧ change.refresh = false

section
variable {curve : Curve V} {io : Ioctls} {s : Panel V} {pos : Nat} {r : RouteSnapshot V}
  {b : RouteBinding} {h : MixerHandle}

/-- The values of a request leave the shape of the panel and what is active. -/
theorem ValuesRun.kept {values : List (RouteValueUpdate V)} {done done' : Applied} {unit : Nat}
    {r' : RouteSnapshot V} {hw' : Hardware} (hat : s.At pos r b h)
    (hrun : ValuesRun curve io pos unit b values done s r done' r' hw') (n : Nat) :
    s.Kept curve (s.advance pos r' hw' n) ∧
      (s.advance pos r' hw' n).routes.map (·.active) = s.routes.map (·.active) := by
  have hactive : r'.active = r.active := by rw [hrun.eq]
  have hrestated : r.Restated curve r' := by
    refine ⟨?_, hrun.native⟩
    rw [hrun.eq]
  have hset := Panel.Kept.set hat (.refl b) hrestated n
  rw [set_eq_self hat.binding] at hset
  refine ⟨hset.trans (.of_eq rfl rfl rfl), ?_⟩
  show (s.routes.set pos r').map (·.active) = _
  rw [List.map_set, hactive]
  exact set_eq_self (by rw [List.getElem?_map, hat.route, Option.map_some])

theorem apply_runs (hs : s.Indexed curve) (key : Nat) (update : RouteUpdate V) :
    Runs (apply io curve key update) s fun change t => s.Kept curve t ∧
      ∀ pos, position s.routes key = some pos → ∃ r r' b h u selected selection,
        s.routes[pos]? = some r ∧ t.At pos r' b h ∧
        prepare io curve update.activate pos s = some ((selected, selection, b), u) ∧
        RequestReport curve io pos h.mixer.unit update.values s r selected b u change t r' := by
  unfold apply
  refine .get ?_
  cases hpos : position s.routes key with
  | none => exact .pure ⟨.refl s, nofun⟩
  | some pos =>
    have hlt : pos < s.routes.length := (List.findIdx?_eq_some_iff_getElem.mp hpos).1
    obtain ⟨r, b₀, h, hat⟩ := hs.located hlt
    obtain ⟨⟨selected, selection, b⟩, u, heq, r₀, hu⟩ :=
      prepare_runs io hs hat update.activate
    have hu : Prepared curve s pos r h selected selection b r₀ u := hu
    have hindexed := hu.kept.indexed hs
    have hb := hindexed.bound b (List.mem_of_getElem? hu.located.binding)
    have hnative : curve.Native r := hs.native r (List.mem_of_getElem? hat.route)
    refine .bind (.of_eq heq ?_)
    refine .bind_of (applyValues_runs hb update.values {} u r₀ hu.located) ?_
    rintro done _ ⟨r', hw', n, rfl, hrun⟩
    obtain ⟨hkept, hactives⟩ := hrun.kept hu.located n
    have hat' := hu.located.advance r' hw' n
    refine .bind_of (recordCounter_runs curve io hat') ?_
    rintro _ t ⟨hcounted, hroutes, hhw, h', hat'', hmixer⟩
    have hselected : ∀ q ∈ selected, ∃ rq, t.routes[q]? = some rq ∧ rq.active = true := by
      intro q hq
      obtain ⟨rq, hrq, hactive⟩ := hu.selected q hq
      obtain ⟨rq', hrq'⟩ := exists_getElem?_of_length (hkept.trans hcounted).routes hrq
      have hsame := congrArg (·[q]?) (hroutes ▸ hactives : t.routes.map _ = u.routes.map _)
      simp only [List.getElem?_map, hrq, hrq', Option.map_some, Option.some.injEq] at hsame
      exact ⟨rq', hrq', hsame.trans hactive⟩
    refine .bind_of (selectionNotificationFlags_runs hat''.route
      (fun q hq => (hselected q hq).imp fun _ hrq => hrq.1) done.volume done.mute) ?_
    rintro ⟨changedPos, volume, mute⟩ t' ⟨ht', rq, hrq, hvolume, hmute, hneither⟩
    subst t'
    refine index_runs hat''.route (index_runs hrq ?_)
    refine .pure ⟨hu.kept.trans (hkept.trans hcounted), ?_⟩
    rintro _ ⟨⟩
    refine ⟨r, r', b, h', u, selected, selection, hat.route, hat'', heq, ?_⟩
    rw [hmixer]
    exact {
      volume_true := fun htrue => by
        rw [hhw]
        exact hrun.volume_true (hu.volume_true hb htrue)
      mute_true := fun htrue => by
        rw [hhw]
        exact hrun.mute_true (hu.mute_true htrue)
      write_failed := fun v w w' hoccurs hfail => by
        obtain ⟨done, done', hstep⟩ := hoccurs.step
        exact applyValue_failed hfail _ _ hstep
      soft_volume := fun hnone => by
        have hsame : r₀.volume.values = r.volume.values :=
          hu.read.volume.resolve_right fun ⟨c, hc, _⟩ => by rw [hnone] at hc; cases hc
        have hnative₀ := hindexed.native r₀ (List.mem_of_getElem? hu.located.route)
        rw [hrun.soft_volume hnative₀ hnone, hsame]
      soft_mute := fun hnone => by
        have hsame : r₀.mute.value = r.mute.value :=
          hu.read.mute.resolve_right fun ⟨c, hc, _⟩ => by rw [hnone] at hc; cases hc
        rw [hrun.soft_mute hnone, hsame]
      volume_flag := fun hflag => by
        rcases hvolume hflag with hdone | ⟨hq, hhardware⟩
        · exact .inl ((hrun.volume_flag hdone).resolve_left Bool.false_ne_true)
        · obtain ⟨rq', hrq', hactive⟩ := hselected changedPos hq
          cases Option.some.inj (hrq.symm.trans hrq')
          exact .inr ⟨changedPos, rq, hq, hrq, rfl, hactive, hhardware⟩
      mute_flag := fun hflag => by
        rcases hmute hflag with hdone | ⟨hq, hhardware⟩
        · exact .inl ((hrun.mute_flag hdone).resolve_left Bool.false_ne_true)
        · obtain ⟨rq', hrq', hactive⟩ := hselected changedPos hq
          cases Option.some.inj (hrq.symm.trans hrq')
          exact .inr ⟨changedPos, rq, hq, hrq, rfl, hactive, hhardware⟩
      selection_failed := fun hfailed => by
        have hfailed : selection = .failed := hfailed
        obtain ⟨hnone, hinactive, hsame⟩ := hu.failed hfailed
        have hr₀ : r₀ = r := Option.some.inj
          ((hu.located.route.symm.trans (congrArg (·[pos]?) hsame)).trans hat.route)
        have hactive : r'.active = false := by rw [hrun.eq, hr₀, hinactive]
        obtain ⟨hv, hm⟩ := hneither hnone hactive
        dsimp only at hv hm
        refine ⟨by rw [hroutes, hactives, hsame], hv, hm, ?_⟩
        dsimp only
        rw [hfailed, hv, hm]
        rfl }

end

end PwOss.Oss
