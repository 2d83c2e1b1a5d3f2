import PwOss.Node.Coherence
import PwOss.Oss.Properties

/-
  Runs of a node with its listeners.

  An adapter that is given the infos of a node reads a param again when its flags are
  others than it saw last. In every run it then holds what the node has: its Props and
  ProcessLatency, and the Latency of its port (`node_listeners_coherent`). In every
  state of a run a Props request leaves the updates of a prefix, on both loops, and all
  of them if it succeeds (`props_request_prefix`); and a client that writes back what it
  read changes nothing (`write_back_kept`).
-/

namespace PwOss.Node

open PwOss.Backend PwOss.Oss PwOss.Proc PwOss.Revalidation PwOss.Spa PwOss.Sys PwOss.Transition

variable {P U V : Type}

/-! ## A node with its listeners -/

/-- A param as an adapter caches it. -/
abbrev Adapter (V : Type) : Type := Cache NodeParamKey ParamFlags (PodList V)

namespace NodeState

/-- The initial callbacks of `add_listener`: both infos, marked as all changed. -/
def initialNotes (s : NodeState P V) : List NodeNote :=
  [.node (s.node.replaceChangeMask nodeChangeBits.all),
    .port { s.port with info := s.port.info.replaceChangeMask portChangeBits.all }]

/-- A node as its `init` leaves it. -/
def Initial [Zero V] (s : NodeState P V) : Prop :=
  ∃ direction properties, NodeState.init direction properties = some s

end NodeState

section
variable (P V) [BackendProperties P U] [Add V] [BEq V] [Zero V]

/-- A node, whose notes are dispatched after each operation, and its adapters. -/
def nodeScript : Script (NodeState P V) (NodeOp V) NodeNote (Adapter V) NodeParamKey where
  act s op := (performNodeOp op s).map fun (_, s') => ({ s' with queue := [] }, s'.queue)
  initial := NodeState.initialNotes
  fresh := .empty
  hear note c := c.hear NodeNote.tag note
  ask s k c := c.read k (s.pods k)

/-- A node and its adapters, from `init` on. -/
def nodeListening : System (Audience (NodeState P V) NodeNote (Adapter V))
    (Audience.Event (NodeOp V) NodeParamKey) :=
  Audience.system (nodeScript P V) NodeState.Initial

end

/-! ## What every run keeps -/

/-- The infos of a new node list the params that are told of. -/
theorem nodeInfo_listed (direction : SpaDirection) : ∃ info, nodeInfo direction = some info ∧
    info.props.length = 2 ∧ (info.flagsOf .props).isSome ∧ (info.flagsOf .processLatency).isSome := by
  cases direction with
  | input => exact ⟨_, rfl, rfl, rfl, rfl⟩
  | output => exact ⟨_, rfl, rfl, rfl, rfl⟩

theorem portInfo_listed : ∃ port, portInfo = some port ∧ (port.info.flagsOf .latency).isSome :=
  ⟨_, rfl, rfl⟩

namespace NodeState

/-- What every run keeps of a node. -/
structure Sound (s : NodeState P V) : Prop where
  listed : Listed s
  room : Room s
  agree : s.dataProperties = s.backendProperties
  directed : ∀ d, (s.latency d).direction = d
  idle : s.queue = []

theorem Initial.sound [Zero V] {s : NodeState P V} (h : Initial s) : s.Sound := by
  obtain ⟨direction, properties, h⟩ := h
  obtain ⟨node, hnode, hprops, hpropsFlags, hprocessFlags⟩ := nodeInfo_listed direction
  obtain ⟨port, hport, hlatencyFlags⟩ := portInfo_listed
  rw [init, hnode, hport] at h
  cases h
  refine ⟨fun k hk => ?_, ?_, rfl, fun _ => rfl, rfl⟩
  · simp only [nodeKeys, List.mem_cons, List.not_mem_nil, or_false] at hk
    rcases hk with rfl | rfl | rfl
    · exact hpropsFlags
    · exact hprocessFlags
    · exact hlatencyFlags
  · show node.props.length + 1 ≤ maxItems
    rw [hprops]
    decide

variable [BackendProperties P U] [Add V] {s s' : NodeState P V}

/-- What is dispatched leaves an idle node. -/
theorem Sound.serves (hs : s.Sound) (h : Serves s s') : Sound { s' with queue := [] } :=
  ⟨h.listed, h.room, h.agree, h.directed hs.directed, rfl⟩

/-- An adapter that was told the initial notes knows the node. -/
theorem Sound.start (hs : s.Sound) :
    Fresh NodeNote.tag (· ∈ nodeKeys) s.live s.pods .empty s.initialNotes := by
  have hnode : ∀ id, NodeNote.tag (.node (s.node.replaceChangeMask nodeChangeBits.all))
      (.node id) = s.node.flagsOf id := fun _ =>
    if_neg (show ¬ nodeChangeBits.all &&& nodeChangeBits.params = 0#64 by decide)
  have hport : ∀ id, NodeNote.tag (.port { s.port with
      info := s.port.info.replaceChangeMask portChangeBits.all }) (.port id) =
        s.port.info.flagsOf id := fun _ =>
    if_neg (show ¬ portChangeBits.all &&& portChangeBits.params = 0#64 by decide)
  refine .start (fun k hk => ?_) fun k hk => ?_
  · obtain ⟨flags, hflags⟩ := Option.isSome_iff_exists.mp (hs.listed k hk)
    cases k with
    | node id =>
      rw [initialNotes, lastTag, lastTag, lastTag, hnode, show s.live (.node id) = _ from hflags,
        show s.node.flagsOf id = _ from hflags]
      rfl
    | port id =>
      rw [initialNotes, lastTag, lastTag, lastTag, hport, show s.live (.port id) = _ from hflags,
        show s.port.info.flagsOf id = _ from hflags]
      rfl
  · have hsome := hs.listed k hk
    cases k with
    | node id =>
      refine .inl ?_
      rw [hnode]
      exact ⟨hsome, Option.isSome_iff_ne_none.mp hsome⟩
    | port id =>
      refine .inr (.inl ?_)
      rw [hport]
      exact ⟨hsome, Option.isSome_iff_ne_none.mp hsome⟩

end NodeState

section
variable [BackendProperties P U] [Add V] [BEq V] [Zero V]

/-- Every operation of a node and of its adapters keeps what they know. -/
theorem nodeScript_keeps : (nodeScript P V).Keeps NodeState.Initial NodeState.Sound
    fun s c pending => Fresh NodeNote.tag (· ∈ nodeKeys) s.live s.pods c pending where
  init _ hs := hs.sound
  act s op s' notes hs hact := by
    obtain ⟨⟨res, t⟩, hperform, heq⟩ := Option.map_eq_some_iff.mp hact
    cases heq
    have hserves : Serves s t :=
      (performNodeOp_serves hs.listed hs.room hs.agree op).elim hperform
    obtain ⟨notes, hnotes, hannounces⟩ := hserves.tells
    rw [hs.idle, List.nil_append] at hnotes
    rw [hnotes]
    exact ⟨hs.serves hserves, fun c pending hfresh => hfresh.act hannounces⟩
  start _ hs := hs.start
  hear _ _ _ _ h := h.hear
  ask _ _ k _ h := h.read k

theorem nodeSound_of_reachable {s : Audience (NodeState P V) NodeNote (Adapter V)}
    (h : Reachable (nodeListening P V) s) : s.world.Sound :=
  (Audience.kept nodeScript_keeps h).world

/-- In every run, whatever is asked of the node, whatever its loops and its device answer
and however callbacks re-enter it: an adapter that is still there and to whom nothing is
owed holds the Props, the ProcessLatency and the port's Latency of the node, where it does
not know them to be stale. -/
theorem node_listeners_coherent {s : Audience (NodeState P V) NodeNote (Adapter V)}
    (h : Reachable (nodeListening P V) s) {id : Nat} {c : Card NodeNote}
    (hc : s.notifier.cards id = some c) (hr : c.removed = false) (hq : s.notifier.queue = [])
    (ho : s.notifier.owed id = []) :
    ∀ k ∈ nodeKeys, (s.readers id).stale k = false →
      (s.readers id).view k = some (s.world.pods k) :=
  fun _ hk hstale => ((Audience.kept nodeScript_keeps h).settled hc hr hq ho).settled hk hstale

/-- In every state of a run, whatever the data loop and the device answer: a Props request
takes the latency offset that it names, and keeps the updates of a prefix, on both loops.
Those are all of them if it returns 0. Otherwise it returns -EIO, and the next update
would have changed something and was refused. -/
theorem props_request_prefix {s : Audience (NodeState P V) NodeNote (Adapter V)}
    (h : Reachable (nodeListening P V) s) (io : Nat → StoreAnswer) (key : PodId)
    (properties : List (PodProperty V)) :
    let update := parsePropsUpdate P properties
    Runs (performNodeOp (.setParam io .props (.pod (.object .props key properties)))) s.world
      fun res s' => s'.dataProperties = s'.backendProperties ∧
        s'.processLatency = update.latencyOffsetNs.elim s.world.processLatency
          (fun ns => { s.world.processLatency with ns }) ∧
        ∃ done rest, update.backend = done ++ rest ∧
          s'.backendProperties = done.foldl applied s.world.backendProperties ∧
          ((res = 0 ∧ rest = []) ∨ (res = -eioCode ∧ (io done.length).accepted = false ∧
            ∃ next, rest.head? = some next ∧
              (BackendProperties.apply s'.backendProperties next).2 = true)) := by
  have hs := nodeSound_of_reachable h
  refine (props_runs hs.listed hs.room hs.agree io (parsePropsUpdate P properties)).mono ?_
  rintro res s' ⟨hserves, hlatency, t, done, rest, hupdated, hbackend⟩
  refine ⟨hserves.agree, hlatency, done, rest, hupdated.split, ?_, hupdated.ended⟩
  rw [hupdated.kept, hbackend]

end

/-! ## Writing back -/

/-- A params struct has a value for each key. -/
theorem length_paramFields (params : List (String × Nat)) :
    (paramFields params : List (PodValue V)).length = 2 * params.length := by
  induction params with
  | nil => rfl
  | cons p params ih =>
    rw [paramFields, List.flatMap_cons, List.length_append, ← paramFields, ih, List.length_cons]
    simp only [List.length_cons, List.length_nil]
    omega

section
variable [BackendProperties P U] {s : NodeState P V}

/-- The Props pod is parsed into the offset and the updates of its struct. -/
theorem parsePropsUpdate_build (ns : Int) (params : List (String × Nat)) :
    parsePropsUpdate P ([podProp .latencyOffsetNsec (.long ns),
        podProp .params (.struct (paramFields params))] : List (PodProperty V)) =
      { latencyOffsetNs := some ns
        backend := BackendProperties.decodeParams (P := P) (V := V)
          (.struct (paramFields params)) } := by
  have heven : ¬ (paramFields params : List (PodValue V)).length % 2 ≠ 0 := by
    rw [length_paramFields]
    omega
  unfold parsePropsUpdate
  simp only [List.foldl_cons, List.foldl_nil, PropsUpdate.read, podProp, parseStreamParams]
  rw [if_neg heven]

/-- The latency that a node has is no news. -/
theorem handleProcessLatency_same [BEq V]
    (hquantum : (s.processLatency.quantum == s.processLatency.quantum) = true) :
    s.handleProcessLatency s.processLatency = s := by
  unfold NodeState.handleProcessLatency
  simp [hquantum]

/-- Updates that change nothing end with 0 and leave the node alone. -/
theorem applyUpdates_same : ∀ (updates : List U) (io : Nat → StoreAnswer),
    (∀ update ∈ updates,
      BackendProperties.apply s.backendProperties update = (s.backendProperties, false)) →
        applyUpdates io updates s = some (0, s)
  | [], _, _ => rfl
  | update :: updates, io, hsame => by
    have hhead := hsame update List.mem_cons_self
    have ih := applyUpdates_same updates (fun i => io (i + 1)) fun u hu =>
      hsame u (List.mem_cons_of_mem update hu)
    obtain ⟨res, t, hrun, rfl, rfl⟩ : Runs (applyUpdates io (update :: updates)) s
        fun res t => res = 0 ∧ t = s := by
      refine .get (.ite (fun hchanged => ?_) fun _ => .of_eq ih ⟨rfl, rfl⟩)
      have hfalse : (BackendProperties.apply s.backendProperties update).2 = true := hchanged
      rw [hhead] at hfalse
      cases hfalse
    exact hrun

end

section
variable [BEq V] [Zero V] {s : NodeState OssNodeProperties V}

theorem setProps_same (io : Nat → StoreAnswer)
    (hquantum : (s.processLatency.quantum == s.processLatency.quantum) = true) :
    setNodeParam io .props (.pod (buildLatencyOffsetProps s.processLatency.ns
      s.backendProperties.values)) s = some (0, s) := by
  have hne : s.backendProperties.values ≠ [] := by
    unfold OssNodeProperties.values
    split
    · exact List.cons_ne_nil _ _
    · exact List.cons_ne_nil _ _
  unfold setNodeParam buildLatencyOffsetProps
  rw [if_neg hne]
  simp only [decodeNodeParam]
  rw [parsePropsUpdate_build]
  show applyUpdates io _ (s.handleProcessLatency s.processLatency) = _
  rw [handleProcessLatency_same hquantum]
  exact applyUpdates_same _ io (s.backendProperties.apply_values)

theorem setProcessLatency_same (io : Nat → StoreAnswer)
    (hquantum : (s.processLatency.quantum == s.processLatency.quantum) = true) :
    setNodeParam io .processLatency (.pod s.processLatency.build) s = some (0, s) := by
  have hdecode : decodeNodeParam OssNodeProperties .processLatency (.pod s.processLatency.build) =
      .ok (.processLatency s.processLatency) := rfl
  unfold setNodeParam
  rw [hdecode]
  show some (0, s.handleProcessLatency s.processLatency) = _
  rw [handleProcessLatency_same hquantum]

omit [BEq V] in
/-- The latency of the other direction is told, though it is no other; the port's own is
not for a peer to set. -/
theorem setLatency_same [Add V] (hdirected : ∀ d, (s.latency d).direction = d)
    (format : FormatAnswer) (d : SpaDirection) :
    Runs (portSetParam s.direction 0 .latency (.pod (s.portLatency d).build) format) s
      fun res s' => res = (if d = s.direction then -einval else 0) ∧
        ∀ k ∈ nodeKeys, s'.pods k = s.pods k := by
  have hdirection : (s.portLatency d).direction = d := by
    unfold NodeState.portLatency
    dsimp only
    split
    · exact hdirected d
    · exact hdirected d
  refine .get (.ite (fun hbad => ?_) fun _ => ?_)
  · exact absurd hbad (by simp)
  have hdecode : decodeLatencyRequest s.direction (some (s.portLatency d).build) =
      if d = s.direction.other then .ok (s.portLatency d) else .error (-einval) := by
    rw [decodeLatencyRequest, LatencyInfo.parse_build]
    dsimp only
    rw [hdirection]
  simp only [PodArgument.value, hdecode]
  by_cases hown : d = s.direction
  · have hne : d ≠ s.direction.other := hown ▸ (SpaDirection.other_ne d).symm
    rw [if_neg hne, if_pos hown]
    exact .pure ⟨rfl, fun _ _ => rfl⟩
  · have hother : d = s.direction.other := by
      revert hown
      cases d <;> cases s.direction <;> decide
    have hkept : s.portLatency d = s.latency d := by
      refine if_neg ?_
      rw [hdirected]
      exact hown
    have hlatency : Function.update s.latency (s.portLatency d).direction (s.portLatency d) =
        s.latency := by
      rw [hdirection, hkept, Function.update_eq_self]
    rw [if_pos hother, if_neg hown]
    exact .modify (.pure ⟨rfl, pods_congr rfl rfl hlatency rfl⟩)

end

/-- Writes a pod back to the param that it was read from. -/
def writeBack (s : NodeState P V) (io : Nat → StoreAnswer) (format : FormatAnswer) :
    NodeParamKey → PodValue V → NodeOp V
  | .node id, pod => .setParam io id (.pod pod)
  | .port id, pod => .portSetParam s.direction 0 id (.pod pod) format

/-- In every state of a run of a node with the OSS properties, whatever its loops would
answer: a client that writes back a pod as it read it changes no contents. A param of the
node stays as it is and is not told of; the port takes the latency of its peer, and refuses
its own. -/
theorem write_back_kept [Add V] [BEq V] [Zero V]
    {s : Audience (NodeState OssNodeProperties V) NodeNote (Adapter V)}
    (h : Reachable (nodeListening OssNodeProperties V) s)
    (hquantum : (s.world.processLatency.quantum == s.world.processLatency.quantum) = true)
    (io : Nat → StoreAnswer) (format : FormatAnswer) {k : NodeParamKey} (hk : k ∈ nodeKeys)
    {index : Nat} {pod : PodValue V} (hpod : (index, pod) ∈ s.world.pods k) :
    Runs (performNodeOp (writeBack s.world io format k pod)) s.world fun res s' =>
      (k ≠ .port .latency → res = 0 ∧ s' = s.world) ∧
      (k = .port .latency → res = if index = s.world.direction.toId then -einval else 0) ∧
      ∀ k' ∈ nodeKeys, s'.pods k' = s.world.pods k' := by
  have hs := nodeSound_of_reachable h
  simp only [nodeKeys, List.mem_cons, List.not_mem_nil, or_false] at hk
  rcases hk with rfl | rfl | rfl
  · rw [pods_props] at hpod
    cases List.mem_singleton.mp hpod
    exact .of_eq (setProps_same io hquantum) ⟨fun _ => ⟨rfl, rfl⟩, fun heq => absurd heq (by decide), fun _ _ => rfl⟩
  · rw [pods_processLatency] at hpod
    cases List.mem_singleton.mp hpod
    exact .of_eq (setProcessLatency_same io hquantum) ⟨fun _ => ⟨rfl, rfl⟩, fun heq => absurd heq (by decide), fun _ _ => rfl⟩
  · obtain ⟨d, rfl, rfl⟩ : ∃ d : SpaDirection, index = d.toId ∧
        pod = (s.world.portLatency d).build := by
      rw [pods_latency] at hpod
      simp only [List.mem_cons, Prod.mk.injEq, List.not_mem_nil, or_false] at hpod
      rcases hpod with hinput | houtput
      · exact ⟨.input, hinput⟩
      · exact ⟨.output, houtput⟩
    have htoId : d.toId = s.world.direction.toId ↔ d = s.world.direction := by
      cases d <;> cases s.world.direction <;> decide
    refine (setLatency_same hs.directed format d).mono fun res s' hset => ?_
    refine ⟨fun hne => absurd rfl hne, fun _ => ?_, hset.2⟩
    rw [hset.1]
    exact if_congr htoId.symm rfl rfl

/-! ## A playback node -/

/-- A sink as `init` leaves it, of an empty dictionary. -/
def playbackNode : Option (NodeState OssNodeProperties Nat) :=
  NodeState.init .input (.new true)

/-- A node without adapters. -/
def nodeAlone (s : NodeState OssNodeProperties Nat) :
    Audience (NodeState OssNodeProperties Nat) NodeNote (Adapter Nat) :=
  ⟨s, ⟨[], false, [], fun _ => [], [], [], 0, fun _ => none⟩, fun _ => .empty⟩

theorem nodeAlone_init {s : NodeState OssNodeProperties Nat} (hs : playbackNode = some s) :
    (nodeListening OssNodeProperties Nat).init (nodeAlone s) :=
  ⟨⟨_, _, hs⟩, rfl, rfl, rfl, fun _ => rfl, rfl, rfl, rfl, fun _ => rfl⟩

/-- Properties for a longer delay, and for fragments of 1000 bytes. -/
def longerDelay : List (PodProperty Nat) :=
  [podProp .params (.struct [.string fragmentKey, .int 1000, .string playbackDelayKey, .int 20])]

/-- The data loop runs the first closures. -/
def takes (n : Nat) : Nat → StoreAnswer := fun i => ⟨i < n, none⟩

/-- While an adapter is told of the node it reads Props and asks for a longer delay; then
it returns, is told the rest, and reads Props again. -/
def setsInCallback : List (Audience.Event (NodeOp Nat) NodeParamKey) :=
  List.flatten
    [[.addListener 0, .run, .run, .ask 0 (.node .props),
        .act (.setParam (takes 2) .props (.pod (.object .props .props longerDelay))), .return_],
      [.run, .run, .run, .return_], [.run, .run, .run, .run, .return_],
      [.run, .run, .run, .return_], [.run, .run, .ask 0 (.node .props)]]

/-- In the end the adapter holds the pod of the new delay. -/
theorem node_listeners_coherent_in_callback : ∃ s, Reachable (nodeListening OssNodeProperties Nat) s ∧
    s.world.backendProperties.values = [(playbackDelayKey, 20), (fragmentKey, 512)] ∧
    (s.readers 0).view (.node .props) = some (s.world.pods (.node .props)) := by
  have hrun : ((playbackNode.bind fun w =>
      (nodeListening OssNodeProperties Nat).run (nodeAlone w) setsInCallback).map
        fun s => (s.notifier.queue.isEmpty && (s.notifier.owed 0).isEmpty,
          (s.notifier.cards 0).map (·.removed), (s.readers 0).stale (.node .props),
          s.world.backendProperties.values)) =
      some (true, some false, false, [(playbackDelayKey, 20), (fragmentKey, 512)]) := by
    decide +kernel
  obtain ⟨s, hs, hview⟩ := Option.map_eq_some_iff.mp hrun
  obtain ⟨w, hw, hs⟩ := Option.bind_eq_some_iff.mp hs
  simp only [Prod.mk.injEq, Bool.and_eq_true, List.isEmpty_iff, Option.map_eq_some_iff] at hview
  obtain ⟨⟨hq, ho⟩, ⟨c, hc, hr⟩, hstale, hvalues⟩ := hview
  have h : Reachable (nodeListening OssNodeProperties Nat) s :=
    via_of_run setsInCallback (.init (nodeAlone_init hw)) (fun _ _ _ => trivial) hs
  exact ⟨s, h, hvalues, node_listeners_coherent h hc hr hq ho _ (by decide) hstale⟩

/-- The loop takes the delay and refuses the fragment: the node has the delay. -/
theorem props_request_prefix_refused : ∃ w res s', playbackNode = some w ∧
    performNodeOp (.setParam (takes 1) .props (.pod (.object .props .props longerDelay))) w =
      some (res, s') ∧
    res = -eioCode ∧ s'.backendProperties.values = [(playbackDelayKey, 20), (fragmentKey, 0)] ∧
    s'.dataProperties = s'.backendProperties := by
  have hrun : (playbackNode.bind fun w =>
      (performNodeOp (.setParam (takes 1) .props (.pod (.object .props .props longerDelay))) w).map
        fun p => (p.1, p.2.backendProperties.values)) =
      some (-eioCode, [(playbackDelayKey, 20), (fragmentKey, 0)]) := by
    decide +kernel
  obtain ⟨w, hw, hrun⟩ := Option.bind_eq_some_iff.mp hrun
  obtain ⟨⟨res, s'⟩, hperform, hview⟩ := Option.map_eq_some_iff.mp hrun
  simp only [Prod.mk.injEq] at hview
  refine ⟨w, res, s', hw, hperform, hview.1, hview.2, ?_⟩
  have h := props_request_prefix (.init (nodeAlone_init hw)) (takes 1) .props longerDelay
  exact (h.elim hperform).1

/-- Writes its Props back to a new node, whose loop would refuse a change. -/
theorem write_back_kept_props : ∃ w pod, playbackNode = some w ∧
    (0, pod) ∈ w.pods (.node .props) ∧
    performNodeOp (.setParam (takes 0) .props (.pod pod)) w = some (0, w) := by
  obtain ⟨w, hw⟩ : ∃ w, playbackNode = some w := ⟨_, rfl⟩
  let pod : PodValue Nat :=
    buildLatencyOffsetProps w.processLatency.ns (BackendProperties.values w.backendProperties)
  have hpod : (0, pod) ∈ w.pods (.node .props) := by
    rw [pods_props]
    exact List.mem_singleton_self _
  have h := write_back_kept (.init (nodeAlone_init hw)) (beq_self_eq_true _) (takes 0)
    (.refused 0) (k := .node .props) List.mem_cons_self hpod
  obtain ⟨res, s', hperform, hkept, -⟩ := h
  obtain ⟨hres, hsame⟩ := hkept (by decide)
  rw [hres, hsame] at hperform
  exact ⟨w, pod, hw, hpod, hperform⟩

end PwOss.Node
