import PwOss.Device.Coherence
import PwOss.Oss.Names

/-
  Runs of a device with its listeners.

  `Runtime.init` gives a device that is ready, and a new listener is told of every
  param and every node. With what each operation announces (`perform_coherent`), the
  relation between the device and a consumer holds in every run: a listener to whom
  nothing is owed has the device's nodes, and the device's pods under each param that
  it does not know to be stale. What a session manager is sent of the volume and the
  mute of a node is what an operation did to the node's active route (`object_configs_told`).
-/

namespace PwOss.Device

open PwOss.Lists PwOss.Oss PwOss.Proc PwOss.Revalidation PwOss.Spa PwOss.Sys PwOss.Transition

variable {V : Type}

/-! ## The first state -/

namespace Runtime

/-- The params of a new device and their flags. -/
theorem params_initInfo {description : String} {parentName : Option String}
    {info : DeviceInfo ParamId} (h : initInfo description parentName = some info) :
    info.params = [⟨.enumProfile, spaParamInfoRead⟩, ⟨.profile, spaParamInfoReadwrite⟩,
      ⟨.enumRoute, spaParamInfoRead⟩, ⟨.route, spaParamInfoReadwrite⟩] := by
  unfold initInfo at h
  obtain ⟨i₁, h₁, h⟩ := Option.bind_eq_some_iff.mp h
  obtain ⟨i₂, h₂, h⟩ := Option.bind_eq_some_iff.mp h
  obtain ⟨i₃, h₃, h⟩ := Option.bind_eq_some_iff.mp h
  obtain ⟨i₄, h₄, h⟩ := Option.bind_eq_some_iff.mp h
  obtain ⟨i₅, h₅, h⟩ := Option.bind_eq_some_iff.mp h
  obtain ⟨i₆, h₆, h⟩ := Option.bind_eq_some_iff.mp h
  obtain ⟨i₇, h₇, h₈⟩ := Option.bind_eq_some_iff.mp h
  have hparent : i₃.params = i₂.params := by
    cases parentName with
    | none => rw [Option.some.inj h₃]
    | some name => exact Info.params_addProp h₃
  have hempty : i₄.params = [] := by
    rw [Info.params_addProp h₄, hparent, Info.params_addProp h₂, Info.params_addProp h₁]
    rfl
  rw [Info.params_addParam h₈, Info.params_addParam h₇, Info.params_addParam h₆,
    Info.params_addParam h₅, hempty]
  rfl

section
variable (curve : Curve V)

/-- A device as its `init` leaves it. -/
def Initial (w : Runtime V) : Prop :=
  ∃ io card parentName hw, init curve io card parentName hw = some w

/-- What every run keeps of a device. -/
structure Sound (w : Runtime V) : Prop extends Ready curve w where
  named : Named w.panel.routes

variable {curve} {w : Runtime V}

theorem Initial.sound (h : Initial curve w) : w.Sound curve := by
  obtain ⟨io, card, parentName, hw, h⟩ := h
  obtain ⟨⟨_, panel⟩, hprobe, h⟩ := Option.bind_eq_some_iff.mp h
  obtain ⟨info, hinfo, h⟩ := Option.bind_eq_some_iff.mp h
  cases h
  have hnamed : Named panel.routes := (probe_named card.snapshot hw).elim hprobe
  refine ⟨⟨(probe_runs card.snapshot hw).elim hprobe, Nat.le_refl 1, fun id hid => ?_⟩, hnamed⟩
  have hparams := params_initInfo hinfo
  simp only [Info.flagsOf, ParamInfo.flagsOf, hparams]
  revert id
  decide

end

variable {curve : Curve V} {step : V} {w : Runtime V}

/-- A listener that was told the initial notifications knows the device. -/
theorem start_coherent (hw : w.Ready curve) :
    Fresh DeviceNotification.tag (· ∈ paramIds) w.info.flagsOf (w.pods curve step) .empty
        w.initialNotes ∧
      w.initialNotes.foldl DeviceNotification.apply (fun _ => none) = w.nodes := by
  have htag : ∀ id, DeviceNotification.tag (V := V) (.info w.initialInfo) id = w.info.flagsOf id :=
    fun id => if_neg (show ¬ deviceChangeBits.all &&& deviceChangeBits.params = 0#64 by decide)
  have hobjects : ∀ id, ∀ n ∈ (objectEvents w.card w.panel.routes (w.profile ≠ 0)).map
      (DeviceNotification.object (V := V)), n.tag id = none := by
    intro id n hn
    obtain ⟨event, -, rfl⟩ := List.mem_map.mp hn
    rfl
  refine ⟨.start (fun id hid => ?_) fun id hid => ?_, ?_⟩
  · obtain ⟨flags, hflags⟩ := Option.isSome_iff_exists.mp (hw.listed id hid)
    rw [initialNotes, lastTag, lastTag_silent (hobjects id), htag, hflags]
    rfl
  · refine .inl ?_
    rw [htag]
    exact ⟨hw.listed id hid, Option.isSome_iff_ne_none.mp (hw.listed id hid)⟩
  · rw [initialNotes, List.foldl_cons, List.foldl_map]
    exact replay_objectEvents w (fun id h => absurd rfl h) fun _ _ => rfl

end Runtime

/-! ## Steps -/

/-- A request for a profile names one of the two. -/
theorem decodeProfileRequest_le {param : Option (PodValue V)} {request : ProfileRequest}
    (h : decodeProfileRequest param = .ok request) : request.index ≤ 1 := by
  have hnamed : ∀ (name : Option String) (i : Nat), profileNamed name = some i → i ≤ 1 := by
    intro name i hi
    unfold profileNamed at hi
    split at hi <;> cases hi <;> decide
  have hrequest : ∀ fields : ProfileFields, (∀ i ∈ fields.index, i ≤ 1) →
      fields.request = .ok request → request.index ≤ 1 := by
    intro fields hindex hok
    unfold ProfileFields.request at hok
    split at hok
    · next i hi =>
      cases hok
      rcases Option.or_eq_some_iff.mp hi with hi | ⟨-, hi⟩
      · exact hindex i hi
      · exact hnamed _ i hi
    · cases hok
  have hread : ∀ (fields : ProfileFields) (p : PodProperty V), (∀ i ∈ fields.index, i ≤ 1) →
      ∀ i ∈ (fields.read p).index, i ≤ 1 := by
    intro fields p hindex i hi
    unfold ProfileFields.read at hi
    split at hi
    · next v =>
      split at hi
      · next hv =>
        cases hi
        omega
      · exact hindex i hi
    · exact hindex i hi
    · exact hindex i hi
    · exact hindex i hi
  have hfold : ∀ (properties : List (PodProperty V)) (fields : ProfileFields),
      (∀ i ∈ fields.index, i ≤ 1) →
      ∀ i ∈ (properties.foldl ProfileFields.read fields).index, i ≤ 1 := by
    intro properties
    induction properties with
    | nil => exact fun fields hindex => hindex
    | cons p properties ih => exact fun fields hindex => ih _ (hread fields p hindex)
  unfold decodeProfileRequest at h
  split at h
  · exact hrequest _ (by rintro i ⟨⟩; exact Nat.le_refl 1) h
  · exact hrequest _ (hfold _ {} nofun) h
  · cases h

/-- A request for a profile was read from its pod, or from none. -/
theorem decodeRequest_profile {id : ParamId} {param : PodArgument V} {request : ProfileRequest}
    (h : decodeRequest id param = .ok (.profile request)) :
    ∃ value, decodeProfileRequest (V := V) value = .ok request := by
  unfold decodeRequest at h
  cases hvalue : param.value with
  | error err =>
    rw [hvalue] at h
    split at h <;> cases h
  | ok value =>
    rw [hvalue] at h
    split at h
    · refine ⟨value, ?_⟩
      cases hdecode : decodeProfileRequest value with
      | error err =>
        simp only [bind, Except.bind, hdecode] at h
        cases h
      | ok request' =>
        simp only [bind, Except.bind, hdecode] at h
        cases h
        rfl
    · cases hdecode : decodeRouteRequest value with
      | error err =>
        simp only [bind, Except.bind, hdecode] at h
        cases h
      | ok request' =>
        simp only [bind, Except.bind, hdecode] at h
        cases h
    · cases h

section
variable [DecidableEq V] {curve : Curve V} {step : V} {w : Runtime V}

omit [DecidableEq V] in
/-- A request does one of the steps, and no request does nothing. -/
theorem setParam_runs (hw : w.Ready curve) (io : Ioctls) (id : ParamId) (param : PodArgument V) :
    Runs (setParam curve io id param) w fun res w' =>
      (∃ request, request.index ≤ 1 ∧ ProfileStep curve request w res.2 w') ∨
      ∃ bump configs, RoutesStep curve w bump configs res.2 w' := by
  unfold setParam
  cases hdecode : decodeRequest id param with
  | error err => exact .pure (.inr ⟨false, [], .refl w⟩)
  | ok request =>
    cases request with
    | profile request =>
      obtain ⟨value, hrequest⟩ := decodeRequest_profile hdecode
      have hindex := decodeProfileRequest_le hrequest
      exact (setProfileParam_runs hw request).mono fun res w' h => .inl ⟨request, hindex, h.2⟩
    | route request => exact (setRouteParam_runs hw request).mono fun res w' h => .inr h

theorem perform_coherent (hw : w.Ready curve) (op : Op V) :
    Runs (Runtime.perform curve op) w fun notes w' => Coherent curve step w notes w' := by
  cases op with
  | setParam io id param =>
    refine .bind_of (setParam_runs hw io id param) ?_
    rintro res w' (⟨request, hindex, h⟩ | ⟨bump, configs, h⟩)
    · exact .pure (h.coherent hindex hw)
    · exact .pure (h.coherent hw)
  | routeTimeout io =>
    exact (pollRoutes_runs hw).mono fun notes w' ⟨bump, configs, h⟩ => h.coherent hw
  | mixerEvent io event =>
    exact (onMixerEvent_runs hw event).mono fun notes w' ⟨bump, configs, h⟩ => h.coherent hw
  | sync seq =>
    refine .pure (.silent hw rfl rfl rfl (.refl _) rfl rfl rfl fun n hn => ?_)
    exact ⟨seq, List.mem_singleton.mp hn⟩
  | outside hw' =>
    have hready : Runtime.Ready curve { w with panel := { w.panel with hw := hw' } } :=
      ⟨⟨hw.indexed.bindings, hw.indexed.key, hw.indexed.bound, hw.indexed.native⟩, hw.profile,
        hw.listed⟩
    have hsilent : Coherent curve step w [] { w with panel := { w.panel with hw := hw' } } := by
      refine Coherent.silent (w := w) hready rfl rfl rfl (.of_eq rfl rfl rfl) rfl rfl rfl ?_
      exact nofun
    exact .modify (.pure hsilent)

/-! ## Runs -/

/-- A device and its listeners, from `init` on. -/
def listening (curve : Curve V) (step : V) :
    System (Audience (Runtime V) (DeviceNotification V) (Consumer V)) (Audience.Event (Op V) ParamId) :=
  Audience.system (script curve step) (Runtime.Initial curve)

/-- What a consumer knows of the device, with what is on its way to it. -/
def Informed (curve : Curve V) (step : V) (w : Runtime V) (c : Consumer V)
    (pending : List (DeviceNotification V)) : Prop :=
  Fresh DeviceNotification.tag (· ∈ Runtime.paramIds) w.info.flagsOf (w.pods curve step) c.params
      pending ∧
    pending.foldl DeviceNotification.apply c.nodes = w.nodes

/-- Every operation of a device and of its consumers keeps what they know. -/
theorem script_keeps (curve : Curve V) (step : V) :
    (script curve step).Keeps (Runtime.Initial curve) (Runtime.Sound curve)
      (Informed curve step) where
  init w hw := hw.sound
  act w op w' notes hw hact := by
    obtain ⟨⟨notes', w''⟩, hperform, heq⟩ := Option.map_eq_some_iff.mp hact
    cases heq
    have hc : Coherent curve step w notes w' := (perform_coherent hw.toReady op).elim hperform
    refine ⟨⟨hc.ready, hw.named.kept hc.kept⟩, fun r pending ⟨hfresh, hnodes⟩ => ⟨hfresh.act hc.params, ?_⟩⟩
    rw [List.foldl_append, hnodes, hc.nodes]
  start w hw := Runtime.start_coherent hw.toReady
  hear w r n pending h := ⟨h.1.hear, h.2⟩
  ask w r id pending h := ⟨h.1.read id, h.2⟩

theorem sound_of_reachable {curve : Curve V} {step : V}
    {s : Audience (Runtime V) (DeviceNotification V) (Consumer V)}
    (h : Reachable (listening curve step) s) : s.world.Sound curve :=
  (Audience.kept (script_keeps curve step) h).world

/-- In every run, whatever is asked of the device, whatever becomes of its mixers and
their calls, and however callbacks re-enter it: a listener that is still there and to
whom nothing is owed holds the pods of every param that it does not know to be stale,
and exactly the nodes that the device offers. -/
theorem listeners_coherent (curve : Curve V) (step : V)
    {s : Audience (Runtime V) (DeviceNotification V) (Consumer V)}
    (h : Reachable (listening curve step) s) {id : Nat} {c : Card (DeviceNotification V)}
    (hc : s.notifier.cards id = some c) (hr : c.removed = false) (hq : s.notifier.queue = [])
    (ho : s.notifier.owed id = []) :
    (∀ param ∈ Runtime.paramIds, (s.readers id).params.stale param = false →
      (s.readers id).params.view param = some (s.world.pods curve step param)) ∧
    (s.readers id).nodes = s.world.nodes := by
  have hkept := Audience.kept (script_keeps curve step) h
  obtain ⟨hfresh, hnodes⟩ := hkept.settled hc hr hq ho
  exact ⟨fun param hparam hstale => hfresh.settled hparam hstale, hnodes⟩

end

/-! ## A device with a mixer -/

def lineCard : DeviceCard := ⟨"Line card", [⟨⟨7, .capture⟩, "oss_input.dsp3", "dsp3", "dsp3"⟩]⟩

/-- A capture device that records from the line, and could from the microphone. -/
def lineDevice : Option (Runtime Nat) :=
  Runtime.init levelCurve (answers []) lineCard none lineMixer

/-- A device without listeners. -/
def alone (w : Runtime Nat) : Audience (Runtime Nat) (DeviceNotification Nat) (Consumer Nat) :=
  ⟨w, ⟨[], false, [], fun _ => [], [], [], 0, fun _ => none⟩,
    fun _ => (script levelCurve 1).fresh⟩

theorem alone_init {w : Runtime Nat} (hw : lineDevice = some w) :
    (listening levelCurve 1).init (alone w) :=
  ⟨⟨_, _, _, _, hw⟩, rfl, rfl, rfl, fun _ => rfl, rfl, rfl, rfl, fun _ => rfl⟩

/-- Asks for the microphone, at some levels. -/
def microphonePod : PodValue Nat :=
  .object .paramRoute .route
    [podProp .routeName (.string "oss-input-mic"), podProp .routeDevice (.int 7),
      podProp .routeProps (.object .props .route
        [podProp .channelVolumes (.floatArray [30, 20])])]

/-- A callback that returns. -/
def called : List (Audience.Event (Op Nat) ParamId) := [.run, .run, .return_, .run]

/-- While a listener is told of the device it reads the routes and asks for the
microphone; then it returns, is told the rest, and reads the routes again. -/
def selectsInCallback : List (Audience.Event (Op Nat) ParamId) :=
  List.flatten
    [[.addListener 0, .run, .run, .ask 0 .route,
        .act (.setParam (answers []) .route (.pod microphonePod)), .return_, .run],
      called, [.run], called, called, called, [.run, .ask 0 .route]]

/-- The listener knew of the line; in the end it holds the pod of the microphone. -/
theorem listeners_coherent_in_callback : ∃ s, Reachable (listening levelCurve 1) s ∧
    (s.world.pods levelCurve 1 .route).map (·.1) = [1] ∧
    (s.readers 0).params.view .route = some (s.world.pods levelCurve 1 .route) ∧
    (s.readers 0).nodes = s.world.nodes := by
  have hrun : ((lineDevice.bind fun w => (listening levelCurve 1).run (alone w) selectsInCallback).map
      fun s => (s.notifier.queue.isEmpty, (s.notifier.owed 0).isEmpty,
        (s.notifier.cards 0).map (·.removed), (s.readers 0).params.stale .route,
        (s.world.pods levelCurve 1 .route).map (·.1))) =
      some (true, true, some false, false, [1]) := by
    decide +kernel
  obtain ⟨s, hs, hview⟩ := Option.map_eq_some_iff.mp hrun
  obtain ⟨w, hw, hs⟩ := Option.bind_eq_some_iff.mp hs
  simp only [Prod.mk.injEq, List.isEmpty_iff, Option.map_eq_some_iff] at hview
  obtain ⟨hq, ho, ⟨c, hc, hr⟩, hstale, hpods⟩ := hview
  have h : Reachable (listening levelCurve 1) s :=
    via_of_run selectsInCallback (.init (alone_init hw)) (fun _ _ _ => trivial) hs
  obtain ⟨hparams, hnodes⟩ := listeners_coherent levelCurve 1 h hc hr hq ho
  exact ⟨s, h, hpods, hparams .route (by decide) hstale, hnodes⟩

end PwOss.Device
