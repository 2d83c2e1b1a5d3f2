import PwOss.Oss.Readback

/-
  Requests for a route: the selection of its recording source, and the volume and
  mute values that are written through its controls.

  A route's snapshot is a shadow of the hardware. A write changes one register or
  nothing, and its value reaches the shadow after it succeeded, so a true shadow
  stays true whatever pattern of calls fails. One value is described by `ValueStep`,
  and `applyValues` adds the values of a list up in their order.
-/

namespace PwOss.Oss

open PwOss.Lists PwOss.Proc

variable {V : Type}

/-! ## Shadows -/

/-- The volume of a route is what its control has. -/
def VolumeTrue (curve : Curve V) (hw : Hardware) (unit : Nat) (control : Option Nat)
    (route : RouteSnapshot V) : Prop :=
  ∀ c ∈ control, ∃ levels, levelsOf (hw.register unit c) = some levels ∧
    route.volume.values = curve.volumes levels

/-- The mute of a route is what its control has. -/
def MuteTrue (hw : Hardware) (unit : Nat) (control : Option Nat) (route : RouteSnapshot V) : Prop :=
  ∀ c ∈ control, route.mute.value = (hw.register unit soundMixerMute).getLsbD c

/-- A control that was set has the levels it was set to, at most 100 each. -/
theorem levelsOf_levelsWord (left right : Nat) :
    levelsOf (levelsWord left right) = some (min left 100, min right 100) := by
  have hleft : min left 100 ≤ 100 := Nat.min_le_right left 100
  have hright : min right 100 ≤ 100 := Nat.min_le_right right 100
  unfold levelsWord
  generalize min left 100 = l at *
  generalize min right 100 = r at *
  have hl : (BitVec.ofNat 32 l).toNat = l := by
    rw [BitVec.toNat_ofNat]
    exact Nat.mod_eq_of_lt (by omega)
  have hr : (BitVec.ofNat 32 r <<< 8).toNat = r <<< 8 := by
    rw [BitVec.toNat_shiftLeft, BitVec.toNat_ofNat, Nat.mod_eq_of_lt (a := r) (by omega),
      Nat.shiftLeft_eq]
    exact Nat.mod_eq_of_lt (by omega)
  have hword : (BitVec.ofNat 32 l ||| BitVec.ofNat 32 r <<< 8).toNat = 256 * r + l := by
    rw [BitVec.toNat_or, hl, hr, Nat.or_comm,
      ← Nat.shiftLeft_add_eq_or_of_lt (by omega : l < 2 ^ 8), Nat.shiftLeft_eq, Nat.mul_comm]
  generalize BitVec.ofNat 32 l ||| BitVec.ofNat 32 r <<< 8 = v at hword
  have hmsb : v.msb = false := by
    rw [BitVec.msb_eq_decide, hword]
    exact decide_eq_false (by omega)
  have hmask : ∀ w : Word, (w &&& 0x7f#32).toNat = w.toNat % 128 := fun w => by
    rw [BitVec.toNat_and]
    exact Nat.and_two_pow_sub_one_eq_mod w.toNat 7
  unfold levelsOf
  rw [hmsb, if_neg Bool.false_ne_true, hmask, hmask, BitVec.toNat_ushiftRight, hword,
    Nat.shiftRight_eq_div_pow]
  congr 2 <;> omega

theorem getLsbD_maskBit {dev : Nat} (hdev : dev < 32) : (maskBit dev).getLsbD dev = true := by
  simp [maskBit, hdev]

/-! ## Writes -/

theorem Hardware.store_same (hw : Hardware) (unit dev : Nat) (value : Word) :
    (hw.store unit dev value).register unit dev = value := by
  simp [Hardware.store]

theorem Hardware.store_ne (hw : Hardware) (unit : Nat) {dev dev' : Nat} (hne : dev' ≠ dev)
    (value : Word) (unit' : Nat) :
    (hw.store unit dev value).register unit' dev' = hw.register unit' dev' := by
  simp [Hardware.store, hne]

/-- What a write leaves: the register with a value as `Q` says if it succeeded, and
nothing at all if it did not. -/
structure Written (s : Panel V) (unit dev : Nat) (Q : Word → Prop) (ok : Bool) (t : Panel V) :
    Prop where
  done : ok = true → ∃ n value, Q value ∧ t = { s with hw := s.hw.store unit dev value, calls := n }
  failed : ok = false → ∃ n, t = { s with calls := n }

/-- What a write through a control leaves: hardware as `Q` says if it succeeded or there
is no control, and nothing at all if it did not. -/
structure ControlWritten (s : Panel V) (control : Option Nat) (Q : Hardware → Prop) (ok : Bool)
    (t : Panel V) : Prop where
  done : ok = true → ∃ hw n, Q hw ∧ t = { s with hw, calls := n }
  failed : ok = false → control ≠ none ∧ ∃ n, t = { s with calls := n }

section
variable {io : Ioctls} {m : Mixer} {s t : Panel V} {ok : Bool} {unit dev : Nat}

/-- Calls before the write do not matter. -/
theorem Written.mono {Q Q' : Word → Prop} {k : Nat}
    (h : Written { s with calls := k } unit dev Q ok t) (hQ : ∀ value, Q value → Q' value) :
    Written s unit dev Q' ok t where
  done := fun hok => by
    obtain ⟨n, value, hvalue, ht⟩ := h.done hok
    exact ⟨n, value, hQ value hvalue, ht⟩
  failed := h.failed

theorem Written.control {Q : Word → Prop} {P : Hardware → Prop} (h : Written s unit dev Q ok t)
    (c : Nat) (hP : ∀ value, Q value → P (s.hw.store unit dev value)) :
    ControlWritten s (some c) P ok t where
  done := fun hok => by
    obtain ⟨n, value, hvalue, ht⟩ := h.done hok
    exact ⟨_, n, hP value hvalue, ht⟩
  failed := fun hok => ⟨nofun, h.failed hok⟩

theorem ControlWritten.none {P : Hardware → Prop} (hP : P s.hw) :
    ControlWritten s none P true s where
  done := fun _ => ⟨s.hw, s.calls, hP, rfl⟩
  failed := nofun

/-- Only the recording source mask is stored as the driver applies it. -/
theorem Mixer.writeInt_runs (dev : Nat) (value : Word) :
    Runs (m.writeInt io dev value) s
      (Written s m.unit dev fun stored => dev ≠ soundMixerRecsrc → stored = value) := by
  refine .bind (.of_eq (a := s.calls) (t := { s with calls := s.calls + 1 }) rfl ?_)
  refine .ite (fun _ => ?_) fun _ => .pure ⟨nofun, fun _ => ⟨_, rfl⟩⟩
  exact .modify (.pure ⟨fun _ => ⟨s.calls + 1, _, fun hdev => if_neg hdev, rfl⟩, nofun⟩)

theorem Mixer.setLevel_runs (hdev : dev < soundMixerNrdevices) (left right : Nat) :
    Runs (m.setLevel io dev left right) s
      (Written s m.unit dev fun value => levelsOf value = some (min left 100, min right 100)) := by
  have hne : dev ≠ soundMixerRecsrc := Nat.ne_of_lt (Nat.lt_trans hdev (by decide))
  refine (Mixer.writeInt_runs dev _).mono fun ok t ht => ht.mono fun value hvalue => ?_
  rw [hvalue hne]
  exact levelsOf_levelsWord left right

theorem Mixer.setMuted_runs (hdev : dev < soundMixerNrdevices) (mute : Bool) :
    Runs (m.setMuted io dev mute) s
      (Written s m.unit soundMixerMute fun value => value.getLsbD dev = mute) := by
  refine (Mixer.readInt_reads soundMixerMute).bind fun mask n _ => ?_
  cases mask with
  | none => exact .pure ⟨nofun, fun _ => ⟨n, rfl⟩⟩
  | some mask =>
    have hword : dev < 32 := Nat.lt_trans hdev (by decide)
    refine (Mixer.writeInt_runs soundMixerMute _).mono fun ok t ht => ht.mono fun value hvalue => ?_
    rw [hvalue (by decide)]
    cases mute with
    | true => simp [getLsbD_maskBit hword]
    | false => simp [getLsbD_maskBit hword]

end

/-! ## One value -/

/-- The levels that a value requests of the volume. -/
def RouteValueUpdate.levels (curve : Curve V) : RouteValueUpdate V → Option (Nat × Nat)
  | .volume values => if values.isEmpty then none else some (curve.levels values)
  | .mute _ => none

/-- The state that a value requests of the mute. -/
def RouteValueUpdate.muted : RouteValueUpdate V → Option Bool
  | .volume _ => none
  | .mute requested => some requested

/-- A route and the hardware across one value that is applied to it. -/
structure ValueStep (curve : Curve V) (unit : Nat) (b : RouteBinding) (v : RouteValueUpdate V)
    (done : Applied) (r : RouteSnapshot V) (hw : Hardware) (done' : Applied)
    (r' : RouteSnapshot V) (hw' : Hardware) : Prop where
  eq : r' = { r with
    volume := { r.volume with values := r'.volume.values }
    mute := { r.mute with value := r'.mute.value } }
  native : curve.Native r → curve.Native r'
  volume_true : VolumeTrue curve hw unit b.volumeControl r →
    VolumeTrue curve hw' unit b.volumeControl r'
  mute_true : MuteTrue hw unit b.muteControl r → MuteTrue hw' unit b.muteControl r'
  volume_flag : done'.volume = true → done.volume = true ∨ r'.volume.values ≠ r.volume.values
  mute_flag : done'.mute = true → done.mute = true ∨ r'.mute.value ≠ r.mute.value
  soft_volume : curve.Native r → b.volumeControl = none →
    r'.volume.values = ((v.levels curve).map curve.volumes).getD r.volume.values
  soft_mute : b.muteControl = none → r'.mute.value = v.muted.getD r.mute.value

section
variable {curve : Curve V} {io : Ioctls} {s : Panel V} {pos : Nat} {r : RouteSnapshot V}
  {b : RouteBinding} {h : MixerHandle}

/-- The volumes of a level read back as that level, at most 100. -/
theorem Curve.levels_volumes (levels : Nat × Nat) :
    curve.levels (curve.volumes levels) = (min levels.1 100, min levels.2 100) := by
  have hlevel : ∀ l, curve.toLevel (curve.levelToVolume l) = min l 100 := fun l =>
    curve.toLevel_toVolume _ (Nat.min_le_right l 100)
  simp only [Curve.levels, Curve.volumes, List.head?_cons, Option.getD_some,
    List.getElem?_cons_succ, List.getElem?_cons_zero, hlevel]

theorem Curve.volumes_min (levels : Nat × Nat) :
    curve.volumes (min levels.1 100, min levels.2 100) = curve.volumes levels := by
  simp only [Curve.volumes, Curve.levelToVolume, Nat.min_assoc, Nat.min_self]

theorem Curve.levels_le (values : List V) :
    (curve.levels values).1 ≤ 100 ∧ (curve.levels values).2 ≤ 100 :=
  ⟨curve.toLevel_le _, curve.toLevel_le _⟩

/-- Native volumes are those of their levels. -/
theorem Curve.Native.volumes_levels (hr : curve.Native r) :
    curve.volumes (curve.nativeLevels r.volume) = r.volume.values := by
  obtain ⟨levels, hlevels⟩ := hr
  rw [Curve.nativeLevels, hlevels, Curve.levels_volumes, Curve.volumes_min]

/-- Other levels have other volumes. -/
theorem Curve.volumes_ne {values : List V}
    (hne : curve.levels values ≠ curve.nativeLevels r.volume) :
    curve.volumes (curve.levels values) ≠ r.volume.values := by
  intro heq
  obtain ⟨hleft, hright⟩ := curve.levels_le values
  apply hne
  rw [Curve.nativeLevels, ← heq, Curve.levels_volumes, Nat.min_eq_left hleft,
    Nat.min_eq_left hright]

theorem VolumeTrue.congr {hw hw' : Hardware} {unit : Nat} {control : Option Nat}
    {r' : RouteSnapshot V} (hregister : ∀ c ∈ control, hw'.register unit c = hw.register unit c)
    (hvalues : r'.volume.values = r.volume.values) (h : VolumeTrue curve hw unit control r) :
    VolumeTrue curve hw' unit control r' := by
  intro c hc
  rw [hregister c hc, hvalues]
  exact h c hc

theorem MuteTrue.congr {hw hw' : Hardware} {unit : Nat} {control : Option Nat}
    {r' : RouteSnapshot V}
    (hregister : hw'.register unit soundMixerMute = hw.register unit soundMixerMute)
    (hvalue : r'.mute.value = r.mute.value) (h : MuteTrue hw unit control r) :
    MuteTrue hw' unit control r' := by
  intro c hc
  rw [hregister, hvalue]
  exact h c hc

/-- A mute request leaves the volume registers, and the mute control as it asked. -/
theorem writeMuted_runs (hmixer : s.mixers[b.mixer]? = some h) {n : Nat} (hb : b.Bound n)
    (requested : Bool) :
    Runs (writeMuted io b requested) s (ControlWritten s b.muteControl fun hw =>
      (∀ c ∈ b.volumeControl, hw.register h.mixer.unit c = s.hw.register h.mixer.unit c) ∧
      ∀ c ∈ b.muteControl, requested =
        (hw.register h.mixer.unit soundMixerMute).getLsbD c) := by
  unfold writeMuted
  cases hc : b.muteControl with
  | none => exact .pure (.none ⟨fun _ _ => rfl, nofun⟩)
  | some c =>
    refine index_runs hmixer ((Mixer.setMuted_runs (hb.mute c hc) requested).mono
      fun ok t ht => ht.control c fun value hvalue => ⟨fun d hd => ?_, ?_⟩)
    · have hne : d ≠ soundMixerMute :=
        Nat.ne_of_lt (Nat.lt_trans (hb.volume d hd) (by decide))
      exact Hardware.store_ne _ _ hne _ _
    · rintro _ ⟨⟩
      rw [Hardware.store_same, hvalue]

/-- A volume request leaves the mute register, and the volume control at levels whose
volumes are those it asked for. -/
theorem writeLevels_runs (curve : Curve V) (hmixer : s.mixers[b.mixer]? = some h) {n : Nat}
    (hb : b.Bound n) (levels : Nat × Nat) :
    Runs (writeLevels io b levels) s (ControlWritten s b.volumeControl fun hw =>
      hw.register h.mixer.unit soundMixerMute = s.hw.register h.mixer.unit soundMixerMute ∧
      ∀ c ∈ b.volumeControl, ∃ stored, levelsOf (hw.register h.mixer.unit c) = some stored ∧
        curve.volumes levels = curve.volumes stored) := by
  unfold writeLevels
  cases hc : b.volumeControl with
  | none => exact .pure (.none ⟨rfl, nofun⟩)
  | some c =>
    have hlt := hb.volume c hc
    refine index_runs hmixer ((Mixer.setLevel_runs hlt levels.1 levels.2).mono
      fun ok t ht => ht.control c fun value hvalue => ⟨?_, ?_⟩)
    · have hne : soundMixerMute ≠ c := (Nat.ne_of_lt (Nat.lt_trans hlt (by decide))).symm
      exact Hardware.store_ne _ _ hne _ _
    · rintro _ ⟨⟩
      rw [Hardware.store_same]
      exact ⟨_, hvalue, (Curve.volumes_min _).symm⟩

/-- The panel after a value: the route at `pos` and the hardware have moved on. -/
def Panel.advance (s : Panel V) (pos : Nat) (r : RouteSnapshot V) (hw : Hardware) (n : Nat) :
    Panel V :=
  { s with routes := s.routes.set pos r, hw, calls := n }

theorem Panel.advance_same (hr : s.routes[pos]? = some r) (n : Nat) :
    s.advance pos r s.hw n = { s with calls := n } := by
  rw [Panel.advance, set_eq_self hr]

/-- A value that changes nothing, because it holds already or its write failed. -/
theorem ValueStep.same {unit : Nat} {v : RouteValueUpdate V} {done done' : Applied}
    {hw : Hardware} (hvolume : done'.volume = done.volume) (hmute : done'.mute = done.mute)
    (hlevels : curve.Native r → b.volumeControl = none →
      r.volume.values = ((v.levels curve).map curve.volumes).getD r.volume.values)
    (hmuted : b.muteControl = none → r.mute.value = v.muted.getD r.mute.value) :
    ValueStep curve unit b v done r hw done' r hw where
  eq := rfl
  native := id
  volume_true := id
  mute_true := id
  volume_flag := fun h => .inl (hvolume ▸ h)
  mute_flag := fun h => .inl (hmute ▸ h)
  soft_volume := hlevels
  soft_mute := hmuted

theorem applyMuted_runs (hat : s.At pos r b h) {n : Nat} (hb : b.Bound n) (done : Applied)
    (requested : Bool) :
    Runs (applyValue io curve pos b done (.mute requested)) s fun done' t =>
      ∃ r' hw' n, t = s.advance pos r' hw' n ∧
        ValueStep curve h.mixer.unit b (.mute requested) done r s.hw done' r' hw' := by
  unfold applyValue
  refine index_runs hat.route (.ite (fun hsame => ?_) fun hne => ?_)
  · refine .pure ⟨r, s.hw, s.calls, (Panel.advance_same hat.route _).symm, ?_⟩
    exact .same rfl rfl (fun _ _ => rfl) fun _ => hsame.symm
  refine .bind_of (writeMuted_runs hat.handle hb requested) fun ok t ht => ?_
  cases ok with
  | true =>
    -- the write succeeded or none was needed: the value reaches the shadow
    obtain ⟨hw', n, ⟨hvolume, hmute⟩, rfl⟩ := ht.done rfl
    refine .bind (modifyRoute_runs hat.route (.pure ⟨_, hw', n, rfl, ?_⟩))
    exact {
      eq := rfl
      native := id
      volume_true := fun htrue => htrue.congr hvolume rfl
      mute_true := fun _ => hmute
      volume_flag := .inl
      mute_flag := fun _ => .inr hne
      soft_volume := fun _ _ => rfl
      soft_mute := fun _ => rfl }
  | false =>
    obtain ⟨hcontrol, n, rfl⟩ := ht.failed rfl
    refine .pure ⟨r, s.hw, n, (Panel.advance_same hat.route n).symm, ?_⟩
    exact .same rfl rfl (fun _ _ => rfl) fun hnone => absurd hnone hcontrol

theorem applyVolume_runs (hat : s.At pos r b h) {n : Nat} (hb : b.Bound n) (done : Applied)
    (values : List V) :
    Runs (applyValue io curve pos b done (.volume values)) s fun done' t =>
      ∃ r' hw' n, t = s.advance pos r' hw' n ∧
        ValueStep curve h.mixer.unit b (.volume values) done r s.hw done' r' hw' := by
  have hlevels : ∀ hne : values.isEmpty = false,
      (RouteValueUpdate.volume values).levels curve = some (curve.levels values) := fun hne => by
    rw [RouteValueUpdate.levels, hne, if_neg Bool.false_ne_true]
  unfold applyValue
  refine index_runs hat.route (.ite (fun hsame => ?_) fun hne => ?_)
  · refine .pure ⟨r, s.hw, s.calls, (Panel.advance_same hat.route _).symm, ?_⟩
    refine .same rfl rfl (fun hnative _ => ?_) fun _ => rfl
    cases hempty : values.isEmpty with
    | true =>
      rw [RouteValueUpdate.levels, hempty]
      rfl
    | false =>
      have heq : curve.levels values = curve.nativeLevels r.volume := by
        simpa [hempty] using hsame
      rw [hlevels hempty, heq, Option.map_some, Option.getD_some, hnative.volumes_levels]
  obtain ⟨hempty, hdiffer⟩ : values.isEmpty = false ∧
      curve.levels values ≠ curve.nativeLevels r.volume := by
    simpa only [Bool.or_eq_true, decide_eq_true_eq, not_or, Bool.not_eq_true] using hne
  refine .bind_of (writeLevels_runs curve hat.handle hb (curve.levels values)) fun ok t ht => ?_
  cases ok with
  | true =>
    obtain ⟨hw', n, ⟨hmute, hvolume⟩, rfl⟩ := ht.done rfl
    refine .bind (modifyRoute_runs hat.route (.pure ⟨_, hw', n, rfl, ?_⟩))
    exact {
      eq := rfl
      native := fun _ => ⟨_, rfl⟩
      volume_true := fun _ => hvolume
      mute_true := fun htrue => htrue.congr hmute rfl
      volume_flag := fun _ => .inr (Curve.volumes_ne hdiffer)
      mute_flag := .inl
      soft_volume := fun _ _ => by
        rw [hlevels hempty]
        rfl
      soft_mute := fun _ => rfl }
  | false =>
    obtain ⟨hcontrol, n, rfl⟩ := ht.failed rfl
    refine .pure ⟨r, s.hw, n, (Panel.advance_same hat.route n).symm, ?_⟩
    exact .same rfl rfl (fun _ hnone => absurd hnone hcontrol) fun _ => rfl

/-- What one value does, whatever it is and whichever of its calls fail. -/
theorem applyValue_runs (curve : Curve V) (io : Ioctls) (hat : s.At pos r b h) {n : Nat}
    (hb : b.Bound n) (done : Applied) (v : RouteValueUpdate V) :
    Runs (applyValue io curve pos b done v) s fun done' t =>
      ∃ r' hw' n, t = s.advance pos r' hw' n ∧
        ValueStep curve h.mixer.unit b v done r s.hw done' r' hw' := by
  cases v with
  | volume values => exact applyVolume_runs hat hb done values
  | mute requested => exact applyMuted_runs hat hb done requested

/-! ## A list of values -/

/-- While `values` are applied from `done` and `s`, the value `v` takes `u` to `u'`. -/
inductive Occurs (curve : Curve V) (io : Ioctls) (pos : Nat) (b : RouteBinding) :
    List (RouteValueUpdate V) → Applied → Panel V → RouteValueUpdate V → Panel V → Panel V → Prop
  | head {v : RouteValueUpdate V} {values done s done' t} :
    applyValue io curve pos b done v s = some (done', t) →
    Occurs curve io pos b (v :: values) done s v s t
  | tail {v w : RouteValueUpdate V} {values done s done' t u u'} :
    applyValue io curve pos b done v s = some (done', t) →
    Occurs curve io pos b values done' t w u u' →
    Occurs curve io pos b (v :: values) done s w u u'

/-- The volumes of the route at `pos` differ between two panels. -/
def VolumeChanged (pos : Nat) (u u' : Panel V) : Prop :=
  ∃ r r', u.routes[pos]? = some r ∧ u'.routes[pos]? = some r' ∧
    r'.volume.values ≠ r.volume.values

/-- The mute of the route at `pos` differs between two panels. -/
def MuteChanged (pos : Nat) (u u' : Panel V) : Prop :=
  ∃ r r', u.routes[pos]? = some r ∧ u'.routes[pos]? = some r' ∧ r'.mute.value ≠ r.mute.value

/-- The levels that a list of values requests last. -/
def lastLevels (curve : Curve V) (values : List (RouteValueUpdate V)) : Option (Nat × Nat) :=
  (values.filterMap (RouteValueUpdate.levels curve)).getLast?

/-- The mute state that a list of values requests last. -/
def lastMuted (values : List (RouteValueUpdate V)) : Option Bool :=
  (values.filterMap RouteValueUpdate.muted).getLast?

end

/-- A route and the hardware across a list of values that are applied from the panel `s`. -/
structure ValuesRun (curve : Curve V) (io : Ioctls) (pos unit : Nat) (b : RouteBinding)
    (values : List (RouteValueUpdate V)) (done : Applied) (s : Panel V) (r : RouteSnapshot V)
    (done' : Applied) (r' : RouteSnapshot V) (hw' : Hardware) : Prop where
  eq : r' = { r with
    volume := { r.volume with values := r'.volume.values }
    mute := { r.mute with value := r'.mute.value } }
  native : curve.Native r → curve.Native r'
  volume_true : VolumeTrue curve s.hw unit b.volumeControl r →
    VolumeTrue curve hw' unit b.volumeControl r'
  mute_true : MuteTrue s.hw unit b.muteControl r → MuteTrue hw' unit b.muteControl r'
  volume_flag : done'.volume = true → done.volume = true ∨
    ∃ v u u', Occurs curve io pos b values done s v u u' ∧ VolumeChanged pos u u'
  mute_flag : done'.mute = true → done.mute = true ∨
    ∃ v u u', Occurs curve io pos b values done s v u u' ∧ MuteChanged pos u u'
  soft_volume : curve.Native r → b.volumeControl = none →
    r'.volume.values = ((lastLevels curve values).map curve.volumes).getD r.volume.values
  soft_mute : b.muteControl = none → r'.mute.value = (lastMuted values).getD r.mute.value

section
variable {curve : Curve V} {io : Ioctls} {s : Panel V} {pos : Nat} {r : RouteSnapshot V}
  {b : RouteBinding} {h : MixerHandle}

theorem Panel.At.advance (hat : s.At pos r b h) (r' : RouteSnapshot V) (hw : Hardware) (n : Nat) :
    (s.advance pos r' hw n).At pos r' b h :=
  ⟨getElem?_set_of hat.route, hat.binding, hat.handle⟩

theorem Panel.advance_advance (r₁ r₂ : RouteSnapshot V) (hw₁ hw₂ : Hardware) (n₁ n₂ : Nat) :
    (s.advance pos r₁ hw₁ n₁).advance pos r₂ hw₂ n₂ = s.advance pos r₂ hw₂ n₂ := by
  simp only [Panel.advance, List.set_set]

/-- A step and the values after it make a run. -/
theorem ValueStep.run {unit : Nat} {v : RouteValueUpdate V} {values : List (RouteValueUpdate V)}
    {done done₁ done' : Applied} {r₁ r' : RouteSnapshot V} {hw₁ hw' : Hardware} {n : Nat}
    (hr : s.routes[pos]? = some r)
    (heq : applyValue io curve pos b done v s = some (done₁, s.advance pos r₁ hw₁ n))
    (hstep : ValueStep curve unit b v done r s.hw done₁ r₁ hw₁)
    (hrun : ValuesRun curve io pos unit b values done₁ (s.advance pos r₁ hw₁ n) r₁ done'
      r' hw') :
    ValuesRun curve io pos unit b (v :: values) done s r done' r' hw' where
  eq := by
    rw [hrun.eq, hstep.eq]
  native := hrun.native ∘ hstep.native
  volume_true := hrun.volume_true ∘ hstep.volume_true
  mute_true := hrun.mute_true ∘ hstep.mute_true
  volume_flag := fun hflag => by
    rcases hrun.volume_flag hflag with hfirst | ⟨w, u, u', hoccurs, hchanged⟩
    · rcases hstep.volume_flag hfirst with hdone | hne
      · exact .inl hdone
      · exact .inr ⟨v, s, _, .head heq, r, r₁, hr, getElem?_set_of hr, hne⟩
    · exact .inr ⟨w, u, u', .tail heq hoccurs, hchanged⟩
  mute_flag := fun hflag => by
    rcases hrun.mute_flag hflag with hfirst | ⟨w, u, u', hoccurs, hchanged⟩
    · rcases hstep.mute_flag hfirst with hdone | hne
      · exact .inl hdone
      · exact .inr ⟨v, s, _, .head heq, r, r₁, hr, getElem?_set_of hr, hne⟩
    · exact .inr ⟨w, u, u', .tail heq hoccurs, hchanged⟩
  soft_volume := fun hnative hnone => by
    rw [hrun.soft_volume (hstep.native hnative) hnone, hstep.soft_volume hnative hnone]
    exact (getLast?_filterMap_cons _ _ v values _).symm
  soft_mute := fun hnone => by
    have hlast := getLast?_filterMap_cons RouteValueUpdate.muted id v values r.mute.value
    rw [Option.map_id] at hlast
    rw [hrun.soft_mute hnone, hstep.soft_mute hnone]
    exact hlast.symm

theorem applyValues_runs {n : Nat} (hb : b.Bound n) :
    ∀ (values : List (RouteValueUpdate V)) (done : Applied) (s : Panel V) (r : RouteSnapshot V),
      s.At pos r b h → Runs (applyValues io curve pos b values done) s fun done' t =>
        ∃ r' hw' n, t = s.advance pos r' hw' n ∧
          ValuesRun curve io pos h.mixer.unit b values done s r done' r' hw'
  | [], done, s, r, hat => by
    refine .pure ⟨r, s.hw, s.calls, (Panel.advance_same hat.route _).symm, ?_⟩
    exact ⟨rfl, id, id, id, .inl, .inl, fun _ _ => rfl, fun _ => rfl⟩
  | v :: values, done, s, r, hat => by
    obtain ⟨done₁, _, heq, r₁, hw₁, n₁, rfl, hstep⟩ :=
      applyValue_runs curve io hat hb done v
    refine .bind (.of_eq heq ?_)
    refine (applyValues_runs hb values done₁ _ r₁ (hat.advance r₁ hw₁ n₁)).mono ?_
    rintro done' _ ⟨r', hw', n', rfl, hrun⟩
    exact ⟨r', hw', n', Panel.advance_advance .., hstep.run hat.route heq hrun⟩

end

/-! ## Failed writes -/

/-- No route changed. -/
def SameRoutes (s t : Panel V) : Prop := t.routes = s.routes

theorem SameRoutes.chain : Chain (SameRoutes (V := V)) where
  refl := fun _ => rfl
  trans := fun h h' => Eq.trans h' h

section
variable {curve : Curve V} {io : Ioctls} {pos : Nat} {b : RouteBinding} {done : Applied}

theorem index_moves {α β : Type} {R : Panel V → Panel V → Prop} {list : Panel V → List β}
    {i : Nat} {f : β → Proc (Panel V) α} (hf : ∀ x, Moves R (f x)) :
    Moves R (index list i >>= f) := by
  intro s a t ht
  obtain ⟨⟨x, u⟩, hx, hu⟩ := Option.bind_eq_some_iff.mp ht
  obtain ⟨_, -, hpair⟩ := Option.map_eq_some_iff.mp hx
  cases hpair
  exact hf x s a t hu

theorem writeInt_routes (m : Mixer) (dev : Nat) (value : Word) :
    Moves SameRoutes (m.writeInt (V := V) io dev value) := by
  refine .bind SameRoutes.chain ?_ fun call => .ite (fun _ => ?_) fun _ => .pure SameRoutes.chain _
  · rintro s _ _ ⟨⟩
    rfl
  · exact .modify SameRoutes.chain (fun _ => rfl) (.pure SameRoutes.chain _)

theorem setMuted_routes (m : Mixer) (dev : Nat) (mute : Bool) :
    Moves SameRoutes (m.setMuted (V := V) io dev mute) := by
  refine .bind SameRoutes.chain ?_ fun mask => ?_
  · rintro s _ _ ⟨⟩
    rfl
  · cases mask with
    | none => exact .pure SameRoutes.chain _
    | some mask => exact writeInt_routes m _ _

theorem writeLevels_routes (levels : Nat × Nat) :
    Moves SameRoutes (writeLevels (V := V) io b levels) := by
  unfold writeLevels
  cases b.volumeControl with
  | none => exact .pure SameRoutes.chain _
  | some c => exact index_moves fun handle => writeInt_routes handle.mixer _ _

theorem writeMuted_routes (requested : Bool) :
    Moves SameRoutes (writeMuted (V := V) io b requested) := by
  unfold writeMuted
  cases b.muteControl with
  | none => exact .pure SameRoutes.chain _
  | some c => exact index_moves fun handle => setMuted_routes handle.mixer _ _

/-- The write that a value makes, and that it fails in `s`. -/
def WriteFails (curve : Curve V) (io : Ioctls) (b : RouteBinding) (s : Panel V) :
    RouteValueUpdate V → Prop
  | .volume values => ∃ w, writeLevels io b (curve.levels values) s = some (false, w)
  | .mute requested => ∃ w, writeMuted io b requested s = some (false, w)

/-- A value whose write fails leaves every route as it was. -/
theorem applyValue_failed {s : Panel V} {v : RouteValueUpdate V}
    (hfail : WriteFails curve io b s v) :
    Ends (applyValue io curve pos b done v) s fun _ t => SameRoutes s t := by
  have hroute : Ends (routeAt (V := V) pos) s fun _ t => t = s := by
    intro r t ht
    obtain ⟨_, -, hpair⟩ := Option.map_eq_some_iff.mp ht
    cases hpair
    rfl
  cases v with
  | volume values =>
    obtain ⟨w, hw⟩ := hfail
    refine .bind hroute ?_
    rintro r u rfl
    refine .ite (fun _ => .pure rfl) fun _ => ?_
    refine .bind (R := fun ok t => ok = false ∧ SameRoutes u t) (fun ok t ht => ?_) ?_
    · cases hw.symm.trans ht
      exact ⟨rfl, writeLevels_routes _ _ _ _ ht⟩
    · rintro ok t ⟨rfl, hsame⟩
      exact .pure hsame
  | mute requested =>
    obtain ⟨w, hw⟩ := hfail
    refine .bind hroute ?_
    rintro r u rfl
    refine .ite (fun _ => .pure rfl) fun _ => ?_
    refine .bind (R := fun ok t => ok = false ∧ SameRoutes u t) (fun ok t ht => ?_) ?_
    · cases hw.symm.trans ht
      exact ⟨rfl, writeMuted_routes _ _ _ _ ht⟩
    · rintro ok t ⟨rfl, hsame⟩
      exact .pure hsame

end

end PwOss.Oss
