import PwOss.Lib.Revalidation
import PwOss.Node.Params
import PwOss.Spa.Audience

/-
  The listeners of a node stay coherent with it, and its two loops agree.

  An adapter reads a param of its follower again when the flags that an info tells of
  it are others than before. Each operation flips the serial of every param under which
  its pods are others than before, also where it fails midway and takes a property
  back. So a listener that heard all and read what was stale holds the node's Props and
  ProcessLatency and its port's Latency (`node_listeners_coherent`). The data loop's
  copy of the properties is the main loop's after every operation, and a Props request
  leaves the updates of a prefix, all of them if it succeeds (`props_request_prefix`).
-/

namespace PwOss.Node

open PwOss.Backend PwOss.Proc PwOss.Revalidation PwOss.Spa PwOss.Sys PwOss.Transition

variable {P U V : Type}

/-! ## What notifications tell -/

/-- What a notification tells of a param. -/
def NodeNote.tag : NodeNote → NodeParamKey → Option ParamFlags
  | node snapshot, .node id => snapshot.tag nodeChangeBits id
  | port snapshot, .port id => snapshot.info.tag portChangeBits id
  | _, _ => none

/-- The params that change, and are told of when they do. -/
def nodeKeys : List NodeParamKey := [.node .props, .node .processLatency, .port .latency]

/-- The flags of a param. -/
def NodeState.live (s : NodeState P V) : NodeParamKey → Option ParamFlags
  | .node id => s.node.flagsOf id
  | .port id => s.port.info.flagsOf id

/-- A node told its listeners of what changed: their contents, as it were, go from
`contents` to `contents'`. -/
def Tells (s s' : NodeState P V) (contents contents' : NodeParamKey → PodList V) : Prop :=
  ∃ notes, s'.queue = s.queue ++ notes ∧
    Announces NodeNote.tag (· ∈ nodeKeys) s.live s'.live contents contents' notes

namespace Tells
variable {s s' s'' : NodeState P V} {c c' c'' : NodeParamKey → PodList V}

theorem trans (h : Tells s s' c c') (h' : Tells s' s'' c' c'') : Tells s s'' c c'' := by
  obtain ⟨xs, hxs, hx⟩ := h
  obtain ⟨ys, hys, hy⟩ := h'
  exact ⟨xs ++ ys, by rw [hys, hxs, List.append_assoc], hx.trans hy⟩

/-- Nothing is told where nothing changes. -/
theorem silent (hqueue : s'.queue = s.queue) (hnode : s'.node = s.node) (hport : s'.port = s.port)
    (hc : ∀ k ∈ nodeKeys, c' k = c k) : Tells s s' c c' := by
  refine ⟨[], by rw [hqueue, List.append_nil], .silent (fun k _ => ?_) hc nofun⟩
  cases k with
  | node id => exact congrArg (·.flagsOf id) hnode
  | port id => exact congrArg (·.info.flagsOf id) hport

end Tells

/-! ## Announcements -/

/-- The params are there to be told of. -/
def Listed (s : NodeState P V) : Prop := ∀ k ∈ nodeKeys, (s.live k).isSome

/-- The dictionary has room for what may still be added. -/
def Room (s : NodeState P V) : Prop :=
  s.node.props.length + (if s.ringCapPublished then 0 else 1) ≤ maxItems

/-- Infos are filled and queued, and nothing else changes. -/
structure Relays (s s' : NodeState P V) (c c' : NodeParamKey → PodList V) : Prop where
  tells : Tells s s' c c'
  listed : Listed s'
  room : Room s → Room s'
  direction : s'.direction = s.direction
  processLatency : s'.processLatency = s.processLatency
  latency : s'.latency = s.latency
  backend : s'.backendProperties = s.backendProperties
  data : s'.dataProperties = s.dataProperties

theorem Relays.refl {s : NodeState P V} (hs : Listed s) (c : NodeParamKey → PodList V) :
    Relays s s c c :=
  ⟨.silent rfl rfl rfl fun _ _ => rfl, hs, id, rfl, rfl, rfl, rfl, rfl⟩

theorem Relays.trans {s s' s'' : NodeState P V} {c c' c'' : NodeParamKey → PodList V}
    (h : Relays s s' c c') (h' : Relays s' s'' c' c'') : Relays s s'' c c'' where
  tells := h.tells.trans h'.tells
  listed := h'.listed
  room hroom := h'.room (h.room hroom)
  direction := h'.direction.trans h.direction
  processLatency := h'.processLatency.trans h.processLatency
  latency := h'.latency.trans h.latency
  backend := h'.backend.trans h.backend
  data := h'.data.trans h.data

section
variable {s : NodeState P V} {c c' : NodeParamKey → PodList V}

/-- The serials of node params are flipped: their contents may be others. -/
theorem announceNode_relays (hs : Listed s) {ids : List NodeParamId} (hne : ids ≠ [])
    (hnodup : ids.Nodup) (hids : ∀ id ∈ ids, NodeParamKey.node id ∈ nodeKeys)
    (hc : ∀ k ∈ nodeKeys, c' k = c k ∨ ∃ id ∈ ids, k = .node id) :
    Relays s (s.announceNode ids) c c' := by
  have hlisted : Listed (s.announceNode ids) := by
    intro k hk
    have hsome := hs k hk
    cases k with
    | node id =>
      show ((s.node.bumped nodeChangeBits ids).flagsOf id).isSome
      rw [Info.flagsOf_bumped_isSome hnodup]
      exact hsome
    | port id => exact hsome
  refine ⟨⟨[.node (s.node.bumped nodeChangeBits ids)], rfl, .notice fun k hk => ?_⟩, hlisted,
    fun hroom => ?_, rfl, rfl, rfl, rfl, rfl⟩
  case refine_2 =>
    show (s.node.bumped nodeChangeBits ids).props.length + _ ≤ maxItems
    rw [Info.props_bumped]
    exact hroom
  cases k with
  | node id =>
    refine .inl ⟨hlisted _ hk, ?_, ?_⟩
    · exact Info.tag_bumped (by decide) hne hnodup (fun id hid => hs _ (hids id hid)) id
    · rcases hc _ hk with hsame | ⟨id', hid', heq⟩
      · exact .inl hsame
      · cases heq
        exact .inr (Info.flagsOf_bumped_ne hnodup hid' (hs _ hk))
  | port id =>
    refine .inr ⟨rfl, rfl, ?_⟩
    rcases hc _ hk with hsame | ⟨id', -, heq⟩
    · exact hsame
    · cases heq

/-- The serials of port params are flipped: their contents may be others. -/
theorem announcePort_relays (hs : Listed s) {ids : List PortParamId} (hne : ids ≠ [])
    (hnodup : ids.Nodup) (hids : ∀ id ∈ ids, NodeParamKey.port id ∈ nodeKeys)
    (hc : ∀ k ∈ nodeKeys, c' k = c k ∨ ∃ id ∈ ids, k = .port id) :
    Relays s (s.announcePort ids) c c' := by
  have hlisted : Listed (s.announcePort ids) := by
    intro k hk
    have hsome := hs k hk
    cases k with
    | node id => exact hsome
    | port id =>
      show ((s.port.info.bumped portChangeBits ids).flagsOf id).isSome
      rw [Info.flagsOf_bumped_isSome hnodup]
      exact hsome
  refine ⟨⟨[.port { s.port with info := s.port.info.bumped portChangeBits ids }], rfl,
    .notice fun k hk => ?_⟩, hlisted, fun hroom => hroom, rfl, rfl, rfl, rfl, rfl⟩
  cases k with
  | node id =>
    refine .inr ⟨rfl, rfl, ?_⟩
    rcases hc _ hk with hsame | ⟨id', -, heq⟩
    · exact hsame
    · cases heq
  | port id =>
    refine .inl ⟨hlisted _ hk, ?_, ?_⟩
    · exact Info.tag_bumped (by decide) hne hnodup (fun id hid => hs _ (hids id hid)) id
    · rcases hc _ hk with hsame | ⟨id', hid', heq⟩
      · exact .inl hsame
      · cases heq
        exact .inr (Info.flagsOf_bumped_ne hnodup hid' (hs _ hk))

/-- The serial of Props is flipped. -/
theorem announceProps_relays (hs : Listed s)
    (hc : ∀ k ∈ nodeKeys, c' k = c k ∨ k = .node .props) :
    Relays s (s.announceNode [.props]) c c' := by
  refine announceNode_relays hs (List.cons_ne_nil _ _) (List.nodup_singleton _) (by decide) ?_
  exact fun k hk => (hc k hk).imp id fun heq => ⟨.props, List.mem_singleton_self _, heq⟩

/-- The serial of Latency is flipped. -/
theorem announceLatency_relays (hs : Listed s)
    (hc : ∀ k ∈ nodeKeys, c' k = c k ∨ k = .port .latency) :
    Relays s (s.announcePort [.latency]) c c' := by
  refine announcePort_relays hs (List.cons_ne_nil _ _) (List.nodup_singleton _) (by decide) ?_
  exact fun k hk => (hc k hk).imp id fun heq => ⟨.latency, List.mem_singleton_self _, heq⟩

/-- The flags of Latency stay. -/
theorem flagsOf_flagFormat (port : PortInfo) (format buffers : ParamFlags) (rate : Option Nat)
    (lost : Bool) :
    (port.flagFormat format buffers rate lost).info.flagsOf .latency =
      port.info.flagsOf .latency := by
  have hset : ∀ info : Spa.Info PortParamId, ((info.setParamFlags portChangeBits .format
      format).setParamFlags portChangeBits .buffers buffers).flagsOf .latency =
        info.flagsOf .latency := by
    intro info
    rw [Info.flagsOf_setParamFlags_ne (by decide), Info.flagsOf_setParamFlags_ne (by decide)]
  unfold PortInfo.flagFormat
  cases lost with
  | true => exact (Info.flagsOf_bumpParam_ne (by decide)).trans (hset _)
  | false => exact hset _

/-- Flags of other port params are told, and of the tracked ones nothing new. -/
theorem flagFormat_relays (hs : Listed s) (format buffers : ParamFlags) (rate : Option Nat)
    (lost : Bool) : Relays s (s.flagFormat format buffers rate lost) c c := by
  have hflags := flagsOf_flagFormat s.port format buffers rate lost
  have hlive : ∀ k ∈ nodeKeys, (s.flagFormat format buffers rate lost).live k = s.live k := by
    intro k hk
    simp only [nodeKeys, List.mem_cons, List.not_mem_nil, or_false] at hk
    rcases hk with rfl | rfl | rfl
    · rfl
    · rfl
    · exact hflags
  refine ⟨⟨[.port (s.port.flagFormat format buffers rate lost)], rfl, .notice fun k hk => ?_⟩,
    fun k hk => hlive k hk ▸ hs k hk, fun hroom => hroom, rfl, rfl, rfl, rfl, rfl⟩
  simp only [nodeKeys, List.mem_cons, List.not_mem_nil, or_false] at hk
  rcases hk with rfl | rfl | rfl
  · exact .inr ⟨rfl, rfl, rfl⟩
  · exact .inr ⟨rfl, rfl, rfl⟩
  · rcases Info.tag_eq_or portChangeBits (s.port.flagFormat format buffers rate lost).info
      .latency with hnone | htag
    · exact .inr ⟨hnone, hflags, rfl⟩
    · exact .inl ⟨hlive (.port .latency) (by decide) ▸ hs _ (by decide), htag, .inl rfl⟩

/-- The port is others than it was, and Latency is not told of. -/
theorem port_relays (hs : Listed s) {port : PortInfo}
    (hflags : port.info.flagsOf .latency = s.port.info.flagsOf .latency) :
    Relays s { s with port } c c := by
  have hlive : ∀ k ∈ nodeKeys, ({ s with port } : NodeState P V).live k = s.live k := by
    intro k hk
    simp only [nodeKeys, List.mem_cons, List.not_mem_nil, or_false] at hk
    rcases hk with rfl | rfl | rfl
    · rfl
    · rfl
    · exact hflags
  refine ⟨⟨[], (List.append_nil _).symm, .silent hlive (fun _ _ => rfl) nofun⟩, ?_, fun hroom => hroom,
    rfl, rfl, rfl, rfl, rfl⟩
  exact fun k hk => hlive k hk ▸ hs k hk

/-- The cap is a property of the node, and goes there once. -/
theorem publishRingQuantumCap_runs (hs : Listed s) (hroom : Room s) (cap : Option (Nat × Nat)) :
    Runs (publishRingQuantumCap cap) s fun _ s' => ∀ c, Relays s s' c c := by
  obtain _ | ⟨frames, rate⟩ := cap
  · exact .pure (.refl hs)
  by_cases hpublished : s.ringCapPublished = true
  · exact .of_eq (if_pos hpublished) (.refl hs)
  have hless : (s.node.replaceChangeMask 0#64).props.length < maxItems := by
    unfold Room at hroom
    rw [if_neg hpublished] at hroom
    exact hroom
  obtain ⟨node, hnode, hlength, hmask⟩ := Info.addProp_of_room nodeChangeBits
    "node.max-latency" (toString frames ++ "/" ++ toString rate) hless
  have hparams : node.params = (s.node.replaceChangeMask 0#64).params :=
    Info.params_addProp hnode
  refine .of_eq (a := ()) (t := { s with ringCapPublished := true, node }.queueNodeInfo) ?_ fun c => ?_
  · refine (if_neg hpublished).trans ?_
    rw [hnode]
    rfl
  have hlive : ∀ k, ({ s with ringCapPublished := true, node }.queueNodeInfo).live k = s.live k := by
    intro k
    cases k with
    | node id => exact congrArg (ParamInfo.flagsOf · id) hparams
    | port id => rfl
  refine ⟨⟨[.node node], rfl, .notice fun k hk => .inr ⟨?_, hlive k, rfl⟩⟩,
    fun k hk => hlive k ▸ hs k hk, fun _ => ?_, rfl, rfl, rfl, rfl, rfl⟩
  · cases k with
    | node id =>
      refine if_pos ?_
      rw [hmask]
      show (0#64 ||| nodeChangeBits.props) &&& nodeChangeBits.params = 0#64
      decide
    | port id => rfl
  · show node.props.length + 0 ≤ maxItems
    omega

end

/-! ## What a reader finds -/

/-- Only the first index is built. -/
theorem listed_one {build : Nat → ParamStep (PodValue V)} {pod : PodValue V} {res : Int}
    (hzero : build 0 = .built pod) (hsucc : ∀ i, build (i + 1) = .stop res) (n : Nat) :
    listed build (n + 1) = [(0, pod)] := by
  unfold listed
  rw [List.range_succ_eq_map, List.filterMap_cons, hzero, List.filterMap_map]
  refine congrArg (_ :: ·) (List.filterMap_eq_nil_iff.mpr fun i _ => ?_)
  simp only [Function.comp_apply, Nat.succ_eq_add_one, hsucc]

section
variable [BackendProperties P U] [Add V] {s s' : NodeState P V}

theorem pods_props (s : NodeState P V) : s.pods (.node .props) =
    [(0, buildLatencyOffsetProps s.processLatency.ns
      (BackendProperties.values s.backendProperties))] :=
  listed_one rfl (fun _ => rfl) _

theorem pods_processLatency (s : NodeState P V) :
    s.pods (.node .processLatency) = [(0, s.processLatency.build)] :=
  listed_one rfl (fun _ => rfl) _

theorem pods_latency (s : NodeState P V) : s.pods (.port .latency) =
    [(0, (s.portLatency .input).build), (1, (s.portLatency .output).build)] := rfl

/-- With the latencies kept, only Props can be others. -/
theorem pods_kept (hdirection : s'.direction = s.direction)
    (hprocess : s'.processLatency = s.processLatency) (hlatency : s'.latency = s.latency) :
    ∀ k ∈ nodeKeys, s'.pods k = s.pods k ∨ k = .node .props := by
  intro k hk
  simp only [nodeKeys, List.mem_cons, List.not_mem_nil, or_false] at hk
  rcases hk with rfl | rfl | rfl
  · exact .inr rfl
  · left
    rw [pods_processLatency, pods_processLatency, hprocess]
  · left
    simp only [pods_latency, NodeState.portLatency, hdirection, hprocess, hlatency]

/-- The pods are those of the properties and the latencies. -/
theorem pods_congr (hdirection : s'.direction = s.direction)
    (hprocess : s'.processLatency = s.processLatency) (hlatency : s'.latency = s.latency)
    (hbackend : s'.backendProperties = s.backendProperties) :
    ∀ k ∈ nodeKeys, s'.pods k = s.pods k := by
  intro k hk
  rcases pods_kept hdirection hprocess hlatency k hk with hsame | rfl
  · exact hsame
  · rw [pods_props, pods_props, hprocess, hbackend]

theorem Relays.pods {c c' : NodeParamKey → PodList V} (h : Relays s s' c c') :
    ∀ k ∈ nodeKeys, s'.pods k = s.pods k :=
  pods_congr h.direction h.processLatency h.latency h.backend

end

/-! ## Updates -/

/-- Properties after an update, which is kept if it changes something. -/
def applied [BackendProperties P U] (p : P) (update : U) : P :=
  if (BackendProperties.apply p update).2 then (BackendProperties.apply p update).1 else p

section
variable [BackendProperties P U] {s : NodeState P V}

/-- The loop keeps the properties and the device is opened again, or the loop refuses. -/
theorem storeAndRebuild_runs (hs : Listed s) (hroom : Room s) (answer : StoreAnswer)
    (properties : P) : Runs (storeAndRebuild answer properties) s fun res s' =>
      (answer.accepted = true ∧ res = 0 ∧
        ∀ c, Relays { s with dataProperties := properties } s' c c) ∨
      (answer.accepted = false ∧ res = -eioCode ∧ s' = s) := by
  obtain ⟨accepted, install⟩ := answer
  cases accepted with
  | false => exact .pure (.inr ⟨rfl, rfl, rfl⟩)
  | true =>
    refine .modify ?_
    have hstored : Listed { s with dataProperties := properties } := hs
    match install with
    | none => exact .pure (.inl ⟨rfl, rfl, .refl hstored⟩)
    | some .failed =>
      exact .modify (.pure (.inl ⟨rfl, rfl, fun _ => flagFormat_relays hstored _ _ _ _⟩))
    | some (.installed cap) =>
      exact .bind_of (publishRingQuantumCap_runs hstored hroom cap) fun _ s' h =>
        .pure (.inl ⟨rfl, rfl, h⟩)

variable [Add V]

/-- A request from a state whose loops agree: they agree again, and what changed is told. -/
structure Serves (s s' : NodeState P V) : Prop where
  tells : Tells s s' s.pods s'.pods
  listed : Listed s'
  room : Room s'
  agree : s'.dataProperties = s'.backendProperties
  direction : s'.direction = s.direction
  directed : (∀ d, (s.latency d).direction = d) → ∀ d, (s'.latency d).direction = d

theorem Serves.trans {s s' s'' : NodeState P V} (h : Serves s s') (h' : Serves s' s'') :
    Serves s s'' where
  tells := h.tells.trans h'.tells
  listed := h'.listed
  room := h'.room
  agree := h'.agree
  direction := h'.direction.trans h.direction
  directed hd := h'.directed (h.directed hd)

/-- What fills and queues infos and changes no contents serves. -/
theorem Relays.serves {s s' : NodeState P V} (h : ∀ c, Relays s s' c c) (hroom : Room s)
    (hagree : s.dataProperties = s.backendProperties) : Serves s s' where
  tells := by
    obtain ⟨notes, hnotes, hannounces⟩ := (h s.pods).tells
    refine ⟨notes, hnotes, hannounces.last, fun k hk => ?_⟩
    exact .inl ((h s.pods).pods k hk)
  listed := (h s.pods).listed
  room := (h s.pods).room hroom
  agree := ((h s.pods).data.trans hagree).trans (h s.pods).backend.symm
  direction := (h s.pods).direction
  directed hd d := (congrArg (fun l => (l d).direction) (h s.pods).latency).trans (hd d)

/-- The updates of a request: those of a prefix are kept, on both loops, and of the next one
nothing, which the loop refused. -/
structure Updated (io : Nat → StoreAnswer) (updates : List U) (s : NodeState P V) (res : Int)
    (s' : NodeState P V) (done rest : List U) : Prop where
  serves : Serves s s'
  processLatency : s'.processLatency = s.processLatency
  latency : s'.latency = s.latency
  split : updates = done ++ rest
  kept : s'.backendProperties = done.foldl applied s.backendProperties
  ended : (res = 0 ∧ rest = []) ∨ (res = -eioCode ∧ (io done.length).accepted = false ∧
    ∃ update, rest.head? = some update ∧
      (BackendProperties.apply s'.backendProperties update).2 = true)

theorem Updated.nil (hs : Listed s) (hroom : Room s)
    (hagree : s.dataProperties = s.backendProperties) (io : Nat → StoreAnswer) :
    Updated (U := U) io [] s 0 s [] [] where
  serves := Relays.serves (.refl hs) hroom hagree
  processLatency := rfl
  latency := rfl
  split := rfl
  kept := rfl
  ended := .inl ⟨rfl, rfl⟩

omit [Add V] in
/-- An update is told under Props, and stored if the loop takes it. -/
theorem applyPropsParam_runs (hs : Listed s) (hroom : Room s) (answer : StoreAnswer)
    (properties : P) : Runs (applyPropsParam answer properties) s fun res s' =>
      (answer.accepted = true ∧ res = 0 ∧ ∀ c c' : NodeParamKey → PodList V,
        (∀ k ∈ nodeKeys, c' k = c k ∨ k = .node .props) →
          Relays { s with dataProperties := properties } s' c c') ∨
      (answer.accepted = false ∧ res = -eioCode ∧ s' = s.announceNode [.props]) := by
  have hsame : Relays s (s.announceNode [.props]) (fun _ => []) fun _ => [] :=
    announceProps_relays hs fun _ _ => .inl rfl
  refine .modify ((storeAndRebuild_runs hsame.listed (hsame.room hroom) answer properties).mono ?_)
  rintro res s' (⟨haccepted, hres, h⟩ | ⟨hrefused, hres, hsame'⟩)
  · refine .inl ⟨haccepted, hres, fun c c' hc => ?_⟩
    have hstored : Listed { s with dataProperties := properties } := hs
    exact (announceProps_relays hstored hc).trans (h c')
  · exact .inr ⟨hrefused, hres, hsame'⟩

theorem applyUpdates_runs : ∀ (updates : List U) (io : Nat → StoreAnswer) {s : NodeState P V},
    Listed s → Room s → s.dataProperties = s.backendProperties →
      Runs (applyUpdates io updates) s fun res s' =>
        ∃ done rest, Updated io updates s res s' done rest
  | [], io, s, hs, hroom, hagree => .pure ⟨[], [], .nil hs hroom hagree io⟩
  | update :: updates, io, s, hs, hroom, hagree => by
    have hnext : ∀ {t : NodeState P V} {res : Int} {s' : NodeState P V}, Serves s t →
        t.processLatency = s.processLatency → t.latency = s.latency →
        t.backendProperties = applied s.backendProperties update →
        (∃ done rest, Updated (fun i => io (i + 1)) updates t res s' done rest) →
          ∃ done rest, Updated io (update :: updates) s res s' done rest := by
      rintro t res s' hserves hprocess hlatency hbackend ⟨done, rest, h⟩
      refine ⟨update :: done, rest, hserves.trans h.serves, h.processLatency.trans hprocess,
        h.latency.trans hlatency, congrArg (update :: ·) h.split, ?_, h.ended⟩
      rw [h.kept, hbackend, List.foldl_cons]
    refine .get (.ite (fun hchanged => ?_) fun hsame => ?_)
    · have hkept : (BackendProperties.apply s.backendProperties update).1 =
          applied s.backendProperties update := (if_pos hchanged).symm
      refine .modify ?_
      refine .bind_of (applyPropsParam_runs
        (s := { s with backendProperties := (BackendProperties.apply s.backendProperties update).1 })
        hs hroom (io 0) (BackendProperties.apply s.backendProperties update).1) ?_
      rintro res s' (⟨-, rfl, h⟩ | ⟨hrefused, rfl, rfl⟩)
      · have h₀ := h (fun _ => []) (fun _ => []) fun _ _ => .inl rfl
        have hserves : Serves s s' := by
          have htold := h s.pods s'.pods (pods_kept h₀.direction h₀.processLatency h₀.latency)
          refine ⟨htold.tells, h₀.listed, h₀.room hroom, h₀.data.trans h₀.backend.symm,
            h₀.direction, fun hd d => ?_⟩
          exact (congrArg (fun l => (l d).direction) h₀.latency).trans (hd d)
        exact (applyUpdates_runs updates _ hserves.listed hserves.room hserves.agree).mono
          fun _ _ => hnext hserves h₀.processLatency h₀.latency (h₀.backend.trans hkept)
      · -- the old properties come back, and Props was told of for nothing
        have hserves : Serves s (s.announceNode [.props]) :=
          Relays.serves (fun c => announceProps_relays hs fun _ _ => .inl rfl) hroom hagree
        refine .ite (fun _ => .modify (.pure ⟨[], update :: updates, hserves, rfl, rfl, rfl, rfl,
          .inr ⟨rfl, hrefused, update, rfl, hchanged⟩⟩)) fun hzero => absurd ?_ hzero
        decide
    · have hserves : Serves s s := Relays.serves (.refl hs) hroom hagree
      exact (applyUpdates_runs updates _ hs hroom hagree).mono fun _ _ =>
        hnext hserves rfl rfl (if_neg hsame).symm

end

/-! ## Latencies -/

section
variable {s : NodeState P V}

/-- A new process latency is told under ProcessLatency and Latency, and under Props if the
offset is another one. -/
theorem handleProcessLatency_cases [BEq V] (hs : Listed s) (info : ProcessLatencyInfo V) :
    s.handleProcessLatency info = s ∨ ∀ c c' : NodeParamKey → PodList V,
      (s.processLatency.ns = info.ns → c' (.node .props) = c (.node .props)) →
        Relays { s with processLatency := info } (s.handleProcessLatency info) c c' := by
  unfold NodeState.handleProcessLatency
  dsimp only
  split
  · exact .inl rfl
  right
  intro c c' hprops
  have hstored : Listed { s with processLatency := info } := hs
  -- the node's info is first, so a listener may read the port's Latency in between
  let mid : NodeParamKey → PodList V
    | .node id => c' (.node id)
    | .port id => c (.port id)
  have hmid : ∀ k ∈ nodeKeys, c' k = mid k ∨ k = .port .latency := by
    intro k hk
    simp only [nodeKeys, List.mem_cons, List.not_mem_nil, or_false] at hk
    rcases hk with rfl | rfl | rfl
    · exact .inl rfl
    · exact .inl rfl
    · exact .inr rfl
  have hnode : ∀ ids : List NodeParamId, ids ≠ [] → ids.Nodup →
      (∀ id ∈ ids, NodeParamKey.node id ∈ nodeKeys) → .processLatency ∈ ids →
      (.props ∉ ids → s.processLatency.ns = info.ns) →
        Relays { s with processLatency := info }
          ({ s with processLatency := info }.announceNode ids) c mid := by
    intro ids hne hnodup hids hlatency hquiet
    refine announceNode_relays hstored hne hnodup hids fun k hk => ?_
    simp only [nodeKeys, List.mem_cons, List.not_mem_nil, or_false] at hk
    rcases hk with rfl | rfl | rfl
    · by_cases hin : .props ∈ ids
      · exact .inr ⟨.props, hin, rfl⟩
      · exact .inl (hprops (hquiet hin))
    · exact .inr ⟨.processLatency, hlatency, rfl⟩
    · exact .inl rfl
  split
  · have h := hnode [.props, .processLatency] (by decide) (by decide) (by decide) (by decide)
      fun hnot => absurd List.mem_cons_self hnot
    exact h.trans (announceLatency_relays h.listed hmid)
  · next hsame =>
    have h := hnode [.processLatency] (by decide) (by decide) (by decide) (by decide) fun _ => by
      simpa using hsame
    exact h.trans (announceLatency_relays h.listed hmid)

variable [BackendProperties P U] [Add V]

theorem handleProcessLatency_serves [BEq V] (hs : Listed s) (hroom : Room s)
    (hagree : s.dataProperties = s.backendProperties) (info : ProcessLatencyInfo V) :
    Serves s (s.handleProcessLatency info) := by
  rcases handleProcessLatency_cases hs info with hsame | hchanged
  · rw [hsame]
    exact Relays.serves (.refl hs) hroom hagree
  have h₀ := hchanged (fun _ => []) (fun _ => []) fun _ => rfl
  have htold := hchanged s.pods (s.handleProcessLatency info).pods fun hns => by
    rw [pods_props, pods_props, h₀.processLatency, h₀.backend, hns]
  refine ⟨htold.tells, h₀.listed, h₀.room hroom, ?_, h₀.direction, fun hd d => ?_⟩
  · exact (h₀.data.trans hagree).trans h₀.backend.symm
  · exact (congrArg (fun l => (l d).direction) h₀.latency).trans (hd d)

omit [BackendProperties P U] [Add V] in
@[simp] theorem backend_handleProcessLatency [BEq V] (info : ProcessLatencyInfo V) :
    (s.handleProcessLatency info).backendProperties = s.backendProperties := by
  unfold NodeState.handleProcessLatency
  dsimp only
  split
  · rfl
  · rfl

/-- The latency of a direction is told under Latency. -/
theorem setLatencyParam_serves (hs : Listed s) (hroom : Room s)
    (hagree : s.dataProperties = s.backendProperties) (info : LatencyInfo V) :
    Serves s (s.setLatencyParam info) := by
  have h : Relays { s with latency := Function.update s.latency info.direction info }
      (s.setLatencyParam info) s.pods (s.setLatencyParam info).pods := by
    refine announceLatency_relays hs fun k hk => ?_
    simp only [nodeKeys, List.mem_cons, List.not_mem_nil, or_false] at hk
    rcases hk with rfl | rfl | rfl
    · left
      rw [pods_props, pods_props]
      rfl
    · left
      rw [pods_processLatency, pods_processLatency]
      rfl
    · exact .inr rfl
  refine ⟨h.tells, h.listed, h.room hroom, (h.data.trans hagree).trans h.backend.symm,
    h.direction, fun hd d => ?_⟩
  have hlatency : (s.setLatencyParam info).latency d =
      Function.update s.latency info.direction info d := rfl
  rw [hlatency]
  by_cases hdirection : d = info.direction
  · rw [hdirection, Function.update_self]
  · rw [Function.update_of_ne hdirection]
    exact hd d

omit [Add V] in
/-- The properties are reset on both loops and then the latency is, or nothing is. -/
theorem resetBackendProps_runs [BEq V] [Zero V] (hs : Listed s) (hroom : Room s)
    (answer : StoreAnswer) : Runs (resetBackendProps answer) s fun res s' =>
      (answer.accepted = true ∧ res = 0 ∧ ∃ t, s' = t.handleProcessLatency .default ∧
        ∀ c, Relays
          { s with
            backendProperties := (BackendProperties.reset s.backendProperties).1
            dataProperties := (BackendProperties.reset s.backendProperties).1 } t c c) ∨
      (answer.accepted = false ∧ res = -eioCode ∧ s' = s) := by
  refine .get (.modify (.bind_of (storeAndRebuild_runs
    (s := { s with backendProperties := (BackendProperties.reset s.backendProperties).1 })
    hs hroom answer _) ?_))
  rintro res t (⟨haccepted, rfl, h⟩ | ⟨hrefused, rfl, rfl⟩)
  · exact .ite (fun hne => absurd rfl hne) fun _ => .modify (.pure (.inl ⟨haccepted, rfl, t, rfl, h⟩))
  · exact .ite (fun _ => .modify (.pure (.inr ⟨hrefused, rfl, rfl⟩))) fun h => absurd (by decide) h

/-- A new process latency, and Props told of on top. -/
theorem announceProps_handleProcessLatency [BEq V] (hs : Listed s) (info : ProcessLatencyInfo V)
    {c : NodeParamKey → PodList V} (hc : ∀ k ∈ nodeKeys, s.pods k = c k ∨ k = .node .props) :
    ∃ latency, Relays { s with processLatency := latency }
      ((s.handleProcessLatency info).announceNode [.props]) c
      ((s.handleProcessLatency info).announceNode [.props]).pods := by
  rcases handleProcessLatency_cases hs info with hsame | hchanged
  · refine ⟨s.processLatency, ?_⟩
    rw [hsame]
    refine announceProps_relays hs fun k hk => ?_
    rcases hc k hk with heq | heq
    · refine (pods_kept (s := s) rfl rfl rfl k hk).imp (fun h => ?_) id
      exact h.trans heq
    · exact .inr heq
  · -- Props are what they were until they are told of
    let final := ((s.handleProcessLatency info).announceNode [.props]).pods
    let mid : NodeParamKey → PodList V := fun k => if k = .node .props then c k else final k
    have h := hchanged c mid fun _ => if_pos rfl
    refine ⟨info, h.trans (announceProps_relays h.listed fun k _ => ?_)⟩
    by_cases hprops : k = .node .props
    · exact .inr hprops
    · exact .inl (if_neg hprops).symm

theorem resetProps_runs [BEq V] [Zero V] (hs : Listed s) (hroom : Room s)
    (hagree : s.dataProperties = s.backendProperties) (io : Nat → StoreAnswer) :
    Runs (applyNodeParam io (.resetProps : NodeParamRequest U V)) s fun res s' => Serves s s' ∧
      (((io 0).accepted = true ∧ res = 0 ∧
        s'.backendProperties = (BackendProperties.reset s.backendProperties).1) ∨
      ((io 0).accepted = false ∧ res = -eioCode ∧ s' = s)) := by
  refine .bind_of (resetBackendProps_runs hs hroom (io 0)) ?_
  rintro res s' (⟨haccepted, rfl, t, rfl, h⟩ | ⟨hrefused, rfl, rfl⟩)
  · refine .ite (fun _ => .modify (.pure ⟨?_, .inl ⟨haccepted, rfl, ?_⟩⟩)) fun hne => absurd rfl hne
    · have htold := h s.pods
      obtain ⟨latency, hfinal⟩ := announceProps_handleProcessLatency htold.listed .default
        (pods_kept (s := s) htold.direction htold.processLatency htold.latency)
      refine ⟨Tells.trans htold.tells hfinal.tells, hfinal.listed, hfinal.room (htold.room hroom),
        ?_, hfinal.direction.trans htold.direction, fun hd d => ?_⟩
      · exact (hfinal.data.trans htold.data).trans (hfinal.backend.trans htold.backend).symm
      · have hkept := hfinal.latency.trans htold.latency
        exact (congrArg (fun l => (l d).direction) hkept).trans (hd d)
    · exact (backend_handleProcessLatency _).trans (h fun _ => []).backend
  · exact .ite (fun heq => absurd heq (by decide)) fun _ =>
      .pure ⟨Relays.serves (.refl hs) hroom hagree, .inr ⟨hrefused, rfl, rfl⟩⟩

omit [BackendProperties P U] [Add V] in
theorem processLatency_handleProcessLatency [BEq V] (ns : Int) :
    (s.handleProcessLatency { s.processLatency with ns }).processLatency =
      { s.processLatency with ns } := by
  unfold NodeState.handleProcessLatency
  dsimp only
  split
  · next hsame =>
    simp only [Bool.and_eq_true, Bool.not_eq_true', bne_eq_false_iff_eq] at hsame
    rw [← hsame.2]
  · rfl

/-- A Props request: the offset that it names is taken, and then the updates of a prefix. -/
theorem props_runs [BEq V] [Zero V] (hs : Listed s) (hroom : Room s)
    (hagree : s.dataProperties = s.backendProperties) (io : Nat → StoreAnswer)
    (update : PropsUpdate U) :
    Runs (applyNodeParam io (.props update : NodeParamRequest U V)) s fun res s' => Serves s s' ∧
      s'.processLatency =
        update.latencyOffsetNs.elim s.processLatency (fun ns => { s.processLatency with ns }) ∧
      ∃ t done rest, Updated io update.backend t res s' done rest ∧
        t.backendProperties = s.backendProperties := by
  obtain ⟨latencyOffsetNs, updates⟩ := update
  cases latencyOffsetNs with
  | none =>
    refine (applyUpdates_runs updates io hs hroom hagree).mono ?_
    rintro res s' ⟨done, rest, h⟩
    exact ⟨h.serves, h.processLatency, s, done, rest, h, rfl⟩
  | some ns =>
    have hserves := handleProcessLatency_serves hs hroom hagree { s.processLatency with ns }
    refine .modify ((applyUpdates_runs updates io hserves.listed hserves.room hserves.agree).mono ?_)
    rintro res s' ⟨done, rest, h⟩
    exact ⟨hserves.trans h.serves, h.processLatency.trans (processLatency_handleProcessLatency ns),
      _, done, rest, h, backend_handleProcessLatency _⟩

end

/-! ## Operations -/

section
variable [BackendProperties P U] [Add V] [BEq V] [Zero V] {s : NodeState P V}

/-- Every request for a node param is served. -/
theorem setNodeParam_serves (hs : Listed s) (hroom : Room s)
    (hagree : s.dataProperties = s.backendProperties) (io : Nat → StoreAnswer) (id : NodeParamId)
    (param : PodArgument V) : Runs (setNodeParam io id param) s fun _ s' => Serves s s' := by
  unfold setNodeParam
  cases decodeNodeParam P id param with
  | error err => exact .pure (Relays.serves (.refl hs) hroom hagree)
  | ok request =>
    cases request with
    | resetProps => exact (resetProps_runs hs hroom hagree io).mono fun _ _ h => h.1
    | props update => exact (props_runs hs hroom hagree io update).mono fun _ _ h => h.1
    | resetProcessLatency =>
      exact .modify (.pure (handleProcessLatency_serves hs hroom hagree .default))
    | processLatency info =>
      exact .modify (.pure (handleProcessLatency_serves hs hroom hagree info))

omit [BackendProperties P U] [Add V] [BEq V] [Zero V] in
/-- Whatever becomes of a format, the params that are told of stay as they are. -/
theorem setFormat_relays (hs : Listed s) (hroom : Room s) (answer : FormatAnswer) :
    Runs (setFormat answer) s fun _ s' => ∀ c, Relays s s' c c := by
  cases answer with
  | refused err => exact .pure (.refl hs)
  | done cap reprobed rate res =>
    refine .bind_of (publishRingQuantumCap_runs hs hroom cap) fun _ t ht => ?_
    have hbumped : ∀ c, Relays s
        { t with port := { t.port with
          info := t.port.info.bumpParam portChangeBits .enumFormat } } c c := fun c =>
      (ht c).trans (port_relays (ht c).listed (Info.flagsOf_bumpParam_ne (by decide)))
    have hpublish : ∀ (rate : Option Nat) {u : NodeState P V}, (∀ c, Relays s u c c) →
        Runs (do
          modify fun s => s.publishFormatState rate
          pure res) u fun _ s' => ∀ c, Relays s s' c c := by
      intro rate u hu
      refine .modify (.pure fun c => (hu c).trans ?_)
      cases rate with
      | none => exact flagFormat_relays (hu c).listed _ _ _ _
      | some rate => exact flagFormat_relays (hu c).listed _ _ _ _
    cases rate with
    | none => exact .ite (fun _ => .modify (.pure hbumped)) fun _ => .pure ht
    | some rate => exact .ite (fun _ => .modify (hpublish rate hbumped)) fun _ => hpublish rate ht

omit [BEq V] in
/-- Every request for a port param is served. -/
theorem portSetParam_serves (hs : Listed s) (hroom : Room s)
    (hagree : s.dataProperties = s.backendProperties) (direction : SpaDirection) (portId : Nat)
    (id : PortParamId) (param : PodArgument V) (format : FormatAnswer) :
    Runs (portSetParam direction portId id param format) s fun _ s' => Serves s s' := by
  have hsame : Serves s s := Relays.serves (.refl hs) hroom hagree
  refine .get (.ite (fun _ => .pure hsame) fun _ => ?_)
  cases id with
  | format => exact (setFormat_relays hs hroom format).mono fun _ _ h => Relays.serves h hroom hagree
  | latency =>
    dsimp only
    split
    · exact .pure hsame
    split
    · exact .pure hsame
    · exact .modify (.pure (setLatencyParam_serves hs hroom hagree _))
  | tag => exact .pure hsame
  | enumFormat => exact .pure hsame
  | buffers => exact .pure hsame
  | other id => exact .pure hsame

/-- Every operation is served, whatever the loops and the device answer. -/
theorem performNodeOp_serves (hs : Listed s) (hroom : Room s)
    (hagree : s.dataProperties = s.backendProperties) (op : NodeOp V) :
    Runs (performNodeOp op) s fun _ s' => Serves s s' := by
  have hrelays : ∀ {s' : NodeState P V}, (∀ c, Relays s s' c c) → Serves s s' := fun h =>
    Relays.serves h hroom hagree
  cases op with
  | setParam io id param => exact setNodeParam_serves hs hroom hagree io id param
  | portSetParam direction portId id param format =>
    exact portSetParam_serves hs hroom hagree direction portId id param format
  | suspend => exact .modify (.pure (hrelays fun c => flagFormat_relays hs _ _ _ _))
  | formatLost => exact .modify (.pure (hrelays fun c => flagFormat_relays hs _ _ _ _))
  | sync seq =>
    refine .modify (.pure (hrelays fun c => ?_))
    refine ⟨⟨[.done seq], rfl, .silent (fun _ _ => rfl) (fun _ _ => rfl) ?_⟩, hs, id, rfl, rfl,
      rfl, rfl, rfl⟩
    intro n hn k
    rw [List.mem_singleton.mp hn]
    cases k <;> rfl

end

end PwOss.Node
