import PwOss.Oss.Polling
import PwOss.Oss.Selection

/-
  Every route controller that can come about: probed, and then refreshed, polled
  and asked for changes in any order, while other hands change the mixers.

  All of them are `Indexed`, so no index is ever out of bounds. The two results
  about them are `poll_complete`, for a poll during which the mixers stay as they
  are, and `apply_keeps_shadow`, for a request during which any call may fail.
-/

namespace PwOss.Oss

open PwOss.OrdMap PwOss.Proc

variable {V : Type}

/-! ## Probe -/

/-- A panel in the middle of a unit's probe: `m` mixers are kept, and the unit's own
will be the next when one of its routes is `used`. -/
structure Panel.Probing (curve : Curve V) (m : Nat) (used : Bool) (s : Panel V) : Prop where
  indexed : s.IndexedBy curve (m + used.toNat)
  mixers : s.mixers.length = m

section
variable {curve : Curve V} {io : Ioctls} {s : Panel V} {m : Nat} {used : Bool}

theorem Panel.Probing.calls (hs : s.Probing curve m used) (n : Nat) :
    ({ s with calls := n } : Panel V).Probing curve m used :=
  ⟨⟨hs.indexed.bindings, hs.indexed.key, hs.indexed.bound, hs.indexed.native⟩, hs.mixers⟩

theorem RouteBinding.Bound.mono {b : RouteBinding} {n n' : Nat} (hb : b.Bound n) (h : n ≤ n') :
    b.Bound n' :=
  ⟨Nat.lt_of_lt_of_le hb.mixer h, hb.volume, hb.mute, hb.source, hb.selectable⟩

/-- A route is added at the end, keyed by its position. -/
theorem pushRoute_runs (hs : s.Probing curve m used) {route : Nat → RouteSnapshot V}
    {b : RouteBinding} (hkey : ∀ k, (route k).key = k) (hnative : ∀ k, curve.Native (route k))
    (hb : b.Bound (m + 1)) :
    Runs (pushRoute route b) s fun _ t => t.Probing curve m true := by
  refine .of_eq rfl ⟨⟨?_, fun k r hr => ?_, fun c hc => ?_, fun r hr => ?_⟩, hs.mixers⟩
  · show (s.bindings ++ [b]).length = (s.routes ++ [route s.routes.length]).length
    rw [List.length_append, List.length_append, hs.indexed.bindings]
    rfl
  · have hr : (s.routes ++ [route s.routes.length])[k]? = some r := hr
    rcases Nat.lt_or_ge k s.routes.length with hlt | hge
    · rw [List.getElem?_append_left hlt] at hr
      exact hs.indexed.key k r hr
    · rw [List.getElem?_append_right hge] at hr
      obtain ⟨hzero, hsome⟩ := List.getElem?_eq_some_iff.mp hr
      have hk : k = s.routes.length := by
        rw [List.length_singleton] at hzero
        omega
      subst hk
      simp only [Nat.sub_self, List.getElem_cons_zero] at hsome
      rw [← hsome, hkey]
  · rcases List.mem_append.mp hc with hold | hnew
    · exact (hs.indexed.bound c hold).mono (Nat.add_le_add_left (Bool.toNat_le used) m)
    · cases List.mem_singleton.mp hnew
      exact hb
  · rcases List.mem_append.mp hr with hold | hnew
    · exact hs.indexed.native r hold
    · cases List.mem_singleton.mp hnew
      exact hnative _

/-- A control that a list of candidates offers is one of them. -/
theorem find?_lt {p : Nat → Bool} {candidates : List Nat} {n : Nat}
    (hall : ∀ c ∈ candidates, c < n) : ∀ c ∈ candidates.find? p, c < n :=
  fun c hc => hall c (List.mem_of_find?_eq_some hc)

theorem probeSource_runs (hs : s.Probing curve m used) {source : Nat}
    (hsource : source < soundMixerNrdevices) (deviceCount : Nat) (mixer : Mixer)
    (selected : Word) :
    Runs (probeSource curve io deviceCount m mixer selected source) s fun _ t =>
      t.Probing curve m true := by
  have hcandidate : ∀ c ∈ mixer.sourceVolumeControl source, c < soundMixerNrdevices := by
    refine find?_lt fun c hc => ?_
    simp only [List.mem_cons, List.not_mem_nil, or_false] at hc
    rcases hc with rfl | rfl
    · exact hsource
    · decide
  have hfilter : ∀ p : Nat → Bool, ∀ c ∈ (mixer.sourceVolumeControl source).filter p,
      c < soundMixerNrdevices := fun p c hc => hcandidate c (Option.mem_filter_iff.mp hc).1
  unfold probeSource
  refine (Mixer.levelAt_reads _).bind fun levels n _ => ?_
  refine (Mixer.mutedAt_reads _).bind fun muted n _ => ?_
  have hname : ∃ name, mixerSourceNames[source]? = some name :=
    ⟨_, List.getElem?_eq_getElem (show source < mixerSourceNames.length from hsource)⟩
  obtain ⟨name, hname⟩ := hname
  refine index_runs hname ?_
  refine pushRoute_runs (hs.calls n) (fun _ => rfl) (fun _ => ⟨_, rfl⟩) ?_
  refine ⟨Nat.lt_succ_self m, hfilter _, hfilter _, ?_, fun _ => rfl⟩
  rintro _ ⟨⟩
  exact hsource

theorem probeSources_runs (deviceCount : Nat) (mixer : Mixer) (selected : Word) :
    ∀ (sources : List Nat) (used : Bool) (s : Panel V), (∀ c ∈ sources, c < soundMixerNrdevices) →
      s.Probing curve m used →
      Runs (probeSources curve io deviceCount m mixer selected sources used) s fun used' t =>
        t.Probing curve m used'
  | [], _, _, _, hs => .pure hs
  | source :: sources, used, s, hall, hs => by
    have hrest : ∀ c ∈ sources, c < soundMixerNrdevices := fun c hc =>
      hall c (List.mem_cons_of_mem _ hc)
    refine .ite (fun _ => ?_) fun _ =>
      probeSources_runs deviceCount mixer selected sources _ s hrest hs
    refine .bind_of (probeSource_runs hs (hall source List.mem_cons_self) ..) fun _ t ht => ?_
    exact probeSources_runs deviceCount mixer selected sources true t hrest ht

theorem probeControl_runs {counts : ProbeCounts} (hs : s.Probing curve m counts.used)
    {control : Nat} (hcontrol : control < soundMixerNrdevices) (deviceCount : Nat) (mixer : Mixer)
    (direction : StreamDirection) (followsRecsrc : Bool) :
    Runs (probeControl curve io deviceCount m mixer direction counts control followsRecsrc) s
      fun counts' t => t.Probing curve m counts'.used := by
  unfold probeControl
  refine (Mixer.level_reads control).bind fun levels n _ => ?_
  cases levels with
  | none => exact .pure (hs.calls n)
  | some levels =>
    refine (Mixer.muted_reads control).bind fun muted n _ => ?_
    have hbound : ∀ c ∈ muted.map fun _ => control, c < soundMixerNrdevices := fun c hc => by
      obtain ⟨_, -, rfl⟩ := Option.map_eq_some_iff.mp hc
      exact hcontrol
    have hb : RouteBinding.Bound (m + 1)
        ⟨m, some control, muted.map fun _ => control, followsRecsrc, none⟩ :=
      ⟨Nat.lt_succ_self m, fun c hc => Option.some.inj hc ▸ hcontrol, hbound, nofun, nofun⟩
    cases direction with
    | playback =>
      exact .bind_of (pushRoute_runs (hs.calls n) (fun _ => rfl) (fun _ => ⟨levels, rfl⟩) hb)
        fun _ t ht => .pure ht
    | capture =>
      exact .bind_of (pushRoute_runs (hs.calls n) (fun _ => rfl) (fun _ => ⟨levels, rfl⟩) hb)
        fun _ t ht => .pure ht

theorem pickControl_reads (mixer : Mixer) (direction : StreamDirection) :
    Reads (pickControl io mixer direction) s fun picked =>
      ∀ p ∈ picked, p.1 < soundMixerNrdevices := by
  cases direction with
  | capture => exact Mixer.inputControl_reads
  | playback =>
    refine .pure fun p hp => ?_
    obtain ⟨control, hcontrol, rfl⟩ := Option.map_eq_some_iff.mp hp
    exact find?_lt (by decide) control hcontrol

theorem probeDirection_runs {counts : ProbeCounts} (hs : s.Probing curve m counts.used)
    (deviceCount : Nat) (mixer : Mixer) (recsrc : Word) (direction : StreamDirection)
    (enabled : Bool) :
    Runs (probeDirection curve io deviceCount m mixer recsrc direction enabled counts) s
      fun counts' t => t.Probing curve m counts'.used := by
  unfold probeDirection
  refine .ite (fun _ => .pure hs) fun _ => .ite (fun _ => ?_) fun _ => ?_
  · refine .bind_of (probeSources_runs deviceCount mixer _ _ _ s ?_ hs) fun used t ht => .pure ht
    exact fun c hc => List.mem_range.mp hc
  · refine (pickControl_reads mixer direction).bind fun picked n hpicked => ?_
    rcases picked with _ | ⟨control, followsRecsrc⟩
    · exact .pure (hs.calls n)
    · exact probeControl_runs (hs.calls n) (hpicked _ rfl) deviceCount mixer direction followsRecsrc

theorem openMixer_reads (unit : Nat) : Reads (openMixer io unit) s fun _ => True := by
  unfold openMixer
  refine Runs.ite (fun _ => ?_) fun _ => Reads.pure trivial
  refine (Mixer.readInt_reads _).andThen fun devmask n _ => ?_
  cases devmask with
  | none => exact .pure trivial
  | some devmask => exact (Mixer.readInt_reads _).andThen fun recmask n _ => .pure trivial

theorem probeUnit_runs (hs : s.Indexed curve) (deviceCount unit : Nat) (play capture : Bool)
    (counts : ProbeCounts) :
    Runs (probeUnit curve io deviceCount unit play capture counts) s fun _ t =>
      t.Indexed curve := by
  have hstart : s.Probing curve s.mixers.length false := ⟨hs, rfl⟩
  unfold probeUnit
  refine (openMixer_reads unit).bind fun mixer n _ => ?_
  cases mixer with
  | none => exact .pure (hstart.calls n).indexed
  | some mixer =>
    refine (Mixer.readInt_reads _).bind fun recsrc n _ => .get ?_
    refine .bind_of (probeDirection_runs (hstart.calls n) deviceCount mixer _ .playback play) ?_
    intro counts t ht
    refine .bind_of (probeDirection_runs ht deviceCount mixer _ .capture capture) ?_
    intro counts t ht
    refine .ite (fun hused => ?_) fun hunused => .pure ?_
    · refine Mixer.modifyCounter_reads.bind fun counter n _ => .modify (.pure ?_)
      have hlength : (t.mixers ++ [(⟨mixer, counter.getD 0⟩ : MixerHandle)]).length =
          s.mixers.length + 1 := by
        rw [List.length_append, ht.mixers, List.length_singleton]
      have hindexed := (ht.calls n).indexed
      rw [hused] at hindexed
      exact ⟨hindexed.bindings, hindexed.key, hlength ▸ hindexed.bound, hindexed.native⟩
    · have hindexed := ht.indexed
      rw [Bool.not_eq_true _ |>.mp hunused, Bool.toNat_false, Nat.add_zero, ← ht.mixers] at hindexed
      exact hindexed

theorem probeUnits_runs (deviceCount : Nat) :
    ∀ (devices : List (Nat × Bool × Bool)) (counts : ProbeCounts) (s : Panel V),
      s.Indexed curve → Runs (probeUnits curve io deviceCount devices counts) s fun _ t =>
        t.Indexed curve
  | [], _, _, hs => .pure hs
  | (unit, play, capture) :: devices, counts, _, hs =>
    .bind_of (probeUnit_runs hs deviceCount unit play capture counts) fun counts t ht =>
      probeUnits_runs deviceCount devices counts t ht

/-- A panel before its probe. -/
def Panel.new (hw : Hardware) : Panel V := ⟨[], [], [], hw, 0⟩

/-- A probe runs to an indexed panel, over any units. -/
theorem probe_runs (snapshot : DeviceSnapshot) (hw : Hardware) :
    Runs (probe curve io snapshot) (Panel.new hw) fun _ t => t.Indexed curve :=
  probeUnits_runs _ _ _ _ ⟨rfl, nofun, nofun, nofun⟩

theorem refreshAll_runs (hs : s.Indexed curve) :
    Runs (refreshAll io curve) s fun _ t => s.Kept curve t := by
  unfold refreshAll
  have hsync : ∀ i ∈ List.range s.mixers.length, ∀ u, s.Kept curve u →
      Runs (do let _ ← syncSource io curve i) u fun _ t => s.Kept curve t := by
    intro i hi u hu
    obtain ⟨h, hh⟩ : ∃ h, u.mixers[i]? = some h :=
      ⟨_, List.getElem?_eq_getElem (hu.length_mixers.symm ▸ List.mem_range.mp hi)⟩
    exact .bind_of (syncSource_runs (hu.indexed hs) hh) fun _ t ht =>
      .pure (hu.trans (ht.kept (hu.indexed hs)))
  have hrefresh : ∀ k ∈ List.range s.routes.length, ∀ u, s.Kept curve u →
      Runs (refresh io curve k) u fun _ t => s.Kept curve t := by
    intro k hk u hu
    obtain ⟨r, b, h, hat⟩ := (hu.indexed hs).located (hu.routes.symm ▸ List.mem_range.mp hk)
    refine (refresh_runs hat).mono ?_
    rintro _ _ ⟨r', b', n, hres, hread, rfl⟩
    exact hu.trans (.set hat hres hread.restated n)
  refine .get (.bind_of (Runs.visit_keeps hsync s (.refl s)) fun _ t ht => ?_)
  exact Runs.visit_keeps hrefresh t ht

end

/-! ## Every controller -/

variable [DecidableEq V]

/-- The panels that come about: a probe, and then any operations, each with any
pattern of failures, while other hands change the hardware. -/
inductive Produced (curve : Curve V) : Panel V → Prop
  | probe (io : Ioctls) (snapshot : DeviceSnapshot) (hw : Hardware) {s : Panel V} :
    probe curve io snapshot (Panel.new hw) = some ((), s) → Produced curve s
  | outside {s : Panel V} (hw : Hardware) : Produced curve s → Produced curve { s with hw }
  | refreshAll {io : Ioctls} {s t : Panel V} : Produced curve s →
    refreshAll io curve s = some ((), t) → Produced curve t
  | poll {io : Ioctls} {s t : Panel V} {changes : List RouteChange} : Produced curve s →
    poll io curve s = some (changes, t) → Produced curve t
  | apply {io : Ioctls} {s t : Panel V} {key : Nat} {update : RouteUpdate V}
    {change : RouteChange} : Produced curve s →
    apply io curve key update s = some (change, t) → Produced curve t

theorem Produced.indexed {curve : Curve V} {s : Panel V} (hs : Produced curve s) :
    s.Indexed curve := by
  induction hs with
  | probe io snapshot hw hprobe => exact (probe_runs snapshot hw).elim hprobe
  | outside hw _ ih => exact ⟨ih.bindings, ih.key, ih.bound, ih.native⟩
  | refreshAll _ hstep ih => exact ((refreshAll_runs ih).elim hstep).indexed ih
  | poll _ hstep ih => exact ((poll_runs ih).elim hstep).1.kept.indexed ih
  | apply _ hstep ih => exact ((apply_runs ih _ _).elim hstep).1.indexed ih

/-! ## Polls -/

/-- A poll over mixers that stay as they are. Every route's binding and mixer are
found. Where the mixer's counter can be read, the route's activity is the recording
source's, if that can be read too, and a change names the route exactly when its
activity changed, or when it is active and its volume or mute changed. Where the
counter cannot be read, the route is untouched. -/
theorem poll_complete (curve : Curve V) (io : Ioctls) (hfixed : io.Fixed) {s : Panel V}
    (hs : Produced curve s) :
    Runs (poll io curve) s fun changes t => t.routes.length = s.routes.length ∧
      ∀ k r, s.routes[k]? = some r → ∃ b h r' b', s.At k r b h ∧
        t.routes[k]? = some r' ∧ t.bindings[k]? = some b' ∧
        PollReport io s.hw h.mixer r b r' b' (∃ c ∈ changes, c.key = some r.key) := by
  refine (poll_runs hs.indexed).mono ?_
  rintro changes t ⟨hpolled, hreport⟩
  refine ⟨hpolled.kept.routes, fun k r hr => ?_⟩
  obtain ⟨q, b, h, hat⟩ := hs.indexed.located (List.getElem?_eq_some_iff.mp hr).1
  cases Option.some.inj (hr.symm.trans hat.route)
  obtain ⟨r', b', hr', hb', hr⟩ := hreport k r b h hat
  refine ⟨b, h, r', b', hat, hr', hb', ?_⟩
  rw [hs.indexed.key k r hat.route]
  exact hr hfixed

/-- A curve whose volumes are the levels. -/
def levelCurve : Curve Nat :=
  ⟨id, fun v => min v 100, 100, fun v => Nat.min_le_right v 100, fun _ h => Nat.min_eq_left h⟩

/-- A mixer that records from the line or the microphone, and now from the line. -/
def lineMixer : Hardware where
  register := fun _ dev =>
    if dev = soundMixerDevmask then maskBit soundMixerLine ||| maskBit soundMixerMic
    else if dev = soundMixerRecmask then maskBit soundMixerLine ||| maskBit soundMixerMic
    else if dev = soundMixerRecsrc then maskBit soundMixerLine
    else if dev = soundMixerMute then 0#32
    else levelsWord 50 50
  counter := fun _ => 0

/-- Every call succeeds but the writes to the controls in `deaf`. -/
def answers (deaf : List Nat) : Ioctls :=
  ⟨fun _ => true, fun _ _ _ => true, fun _ _ dev => !deaf.contains dev, fun _ _ => true,
    fun _ mask => mask⟩

/-- The routes of a capture device with that mixer. -/
def linePanel : Panel Nat :=
  ((probe levelCurve (answers []) ⟨[⟨7, .capture⟩]⟩ (Panel.new lineMixer)).map (·.2)).getD
    (Panel.new lineMixer)

theorem linePanel_produced : Produced levelCurve linePanel :=
  .probe (answers []) ⟨[⟨7, .capture⟩]⟩ lineMixer rfl

/-- Another program moves the recording source to the microphone: both routes are
named by the next poll. -/
theorem poll_complete_recsrc :
    let moved : Panel Nat := { linePanel with
      hw := lineMixer.store 3 soundMixerRecsrc (maskBit soundMixerMic) }
    ((poll (answers []) levelCurve moved).map fun p =>
        (p.1.map (·.key), p.2.routes.map (·.active))) = some ([some 0, some 1], [false, true]) ∧
      Runs (poll (answers []) levelCurve) moved fun changes t =>
        t.routes.length = 2 ∧ ∀ (k : Nat) (r : RouteSnapshot Nat), moved.routes[k]? = some r →
          ∃ r' : RouteSnapshot Nat, t.routes[k]? = some r' ∧
          ((∃ c ∈ changes, c.key = some r.key) ↔
            r'.active ≠ r.active ∨ r'.active = true ∧ Differs r r') := by
  refine ⟨by decide +kernel, ?_⟩
  refine (poll_complete levelCurve (answers []) ⟨fun _ _ _ => rfl, fun _ _ => rfl⟩
    (.outside _ linePanel_produced)).mono ?_
  rintro changes t ⟨hlength, hreport⟩
  refine ⟨hlength, fun k r hr => ?_⟩
  obtain ⟨b, h, r', b', -, hr', -, hpolled⟩ := hreport k r hr
  exact ⟨r', hr', hpolled.reported rfl⟩

/-! ## Requests -/

/-- A request, whatever its values and whichever of its calls fail. The shadow of the
requested route stays true of the controls that the values are written through. -/
theorem apply_keeps_shadow (curve : Curve V) (io : Ioctls) {s : Panel V}
    (hs : Produced curve s) (key : Nat) (update : RouteUpdate V) :
    Runs (apply io curve key update) s fun change t =>
      ∀ pos, position s.routes key = some pos → ∃ r r' b h u selected selection,
        s.routes[pos]? = some r ∧ t.At pos r' b h ∧
        prepare io curve update.activate pos s = some ((selected, selection, b), u) ∧
        RequestReport curve io pos h.mixer.unit update.values s r selected b u change t r' :=
  (apply_runs hs.indexed key update).mono fun _ _ ht => ht.2

/-- The microphone is selected and muted, and its control takes no levels: its mute
and its volume are true of the hardware after the request. -/
theorem apply_keeps_shadow_deaf :
    let request : RouteUpdate Nat := ⟨true, [.volume [30, 40], .mute true]⟩
    let io := answers [soundMixerMic]
    (apply io levelCurve 1 request linePanel).map (fun p => p.1.selection) = some .applied ∧
      (apply io levelCurve 1 request linePanel).map (fun p => p.2.routes.map (·.mute.value)) =
        some [false, true] ∧
      (apply io levelCurve 1 request linePanel).map (fun p => p.2.routes.map (·.volume.values)) =
        some [[50, 50], [50, 50]] ∧
      Runs (apply io levelCurve 1 request) linePanel fun _ t =>
        ∃ r r' b h, linePanel.routes[1]? = some r ∧ t.At 1 r' b h ∧
          (MuteTrue lineMixer h.mixer.unit b.muteControl r →
            MuteTrue t.hw h.mixer.unit b.muteControl r') ∧
          (VolumeTrue levelCurve lineMixer h.mixer.unit b.volumeControl r →
            VolumeTrue levelCurve t.hw h.mixer.unit b.volumeControl r') := by
  refine ⟨by decide +kernel, by decide +kernel, by decide +kernel, ?_⟩
  refine (apply_keeps_shadow levelCurve (answers [soundMixerMic]) linePanel_produced 1
    ⟨true, [.volume [30, 40], .mute true]⟩).mono ?_
  rintro change t hreport
  obtain ⟨r, r', b, h, u, selected, selection, hr, hat, -, hreport⟩ :=
    hreport 1 (by decide +kernel)
  exact ⟨r, r', b, h, hr, hat, hreport.mute_true, hreport.volume_true⟩

end PwOss.Oss
