import Mathlib.Logic.Function.Basic
import PwOss.Backend.Properties
import PwOss.Lib.Proc
import PwOss.Spa.Info
import PwOss.Spa.Params

/-
  The params of a node: its properties and latencies, on the two loops that keep them.

  The main loop answers clients from its own copy of the backend properties, and gives
  the data loop, which opens devices by them, a copy of its own (`storeAndRebuild`). A
  request changes the state and queues the infos that tell of it; they are dispatched
  when the request is done. What the data loop and the device answer is arbitrary: the
  loop runs a closure or refuses it, and a device that is opened again opens or fails.

  Correspondence (Rust ↔ Lean):
    `node/params.rs` `PropsUpdate`, `NodeParamRequest`  ↔ the types of the same names
      `parse_props_update`, `parse_stream_params`       ↔ the same names
      `apply_node_param`, `reset_backend_props`         ↔ the same names
      `build_backend_node_param`, `set_param`           ↔ `buildNodeParam`, `setParam`
    `node/rebuild.rs` `store_and_rebuild`,
      `apply_props_param`, `publish_ring_quantum_cap`   ↔ the same names
      `emit_format_lost`, `record_format_lost`          ↔ `emitFormatLost`
    `node/events.rs` `queue_node_info`,
      `queue_port_info`, `handle_process_latency`       ↔ the same names
    `node/ports.rs` `decode_latency_request`,
      `set_latency_param`, `port_set_param`,
      `publish_format_state`                            ↔ the same names
      `port_enum_params`, of Latency                    ↔ `buildPortLatency`
    `node/factory.rs` `publish_static_info`             ↔ `nodeInfo`, `portInfo`
  `install_device` is `StoreAnswer.install`, and what `port_set_param` makes of a Format
  is `FormatAnswer`: the model of rebuilds has both.
-/

namespace PwOss.Node

open PwOss.Backend PwOss.Proc PwOss.Spa PwOss.Sys

variable {P U V : Type}

/-! ## Infos -/

/-- The param ids of a node, and those that it does not know. -/
inductive NodeParamId where
  | propInfo | props | processLatency
  | other (id : Nat)
  deriving DecidableEq, Repr

/-- The param ids of a port, and those that it does not know. -/
inductive PortParamId where
  | enumFormat | format | buffers | latency | tag
  | other (id : Nat)
  deriving DecidableEq, Repr

/-- `SPA_NODE_CHANGE_MASK_*`. -/
def nodeChangeBits : ChangeBits := ⟨1#64, 2#64, 4#64, 7#64⟩

/-- `SPA_PORT_CHANGE_MASK_*`, and that of the rate. -/
def portChangeBits : ChangeBits := ⟨1#64, 4#64, 8#64, 15#64⟩
def portChangeMaskRate : ChangeMask := 2#64

/-- `PortInfo`: an info, and the denominator of the rate. -/
structure PortInfo where
  info : Spa.Info PortParamId
  rate : Nat

/-- A rate, if there is one, and the flags of Format and Buffers are set. With a loss the
serial of EnumFormat is flipped. -/
def PortInfo.flagFormat (port : PortInfo) (format buffers : ParamFlags) (rate : Option Nat)
    (lost : Bool) : PortInfo :=
  let info := port.info.replaceChangeMask (rate.elim 0#64 fun _ => portChangeMaskRate)
  let info := info.setParamFlags portChangeBits .format format
  let info := info.setParamFlags portChangeBits .buffers buffers
  ⟨if lost then info.bumpParam portChangeBits .enumFormat else info, rate.getD port.rate⟩

/-- What a node dispatches to its listeners. -/
inductive NodeNote where
  | node (snapshot : Spa.Info NodeParamId)
  | port (snapshot : PortInfo)
  | done (seq : Int)

/-- `MainState`, `EventInfo` and the data loop's copy, as far as params go. -/
structure NodeState (P V : Type) where
  /-- `D::DIRECTION`. -/
  direction : SpaDirection
  processLatency : ProcessLatencyInfo V
  latency : SpaDirection → LatencyInfo V
  backendProperties : P
  ringCapPublished : Bool
  node : Spa.Info NodeParamId
  port : PortInfo
  queue : List NodeNote
  /-- `DataState::backend_properties`. -/
  dataProperties : P

namespace NodeState
variable (s : NodeState P V)

/-- `queue_node_info`. -/
def queueNodeInfo : NodeState P V :=
  { s with queue := s.queue ++ [.node s.node], node := s.node.replaceChangeMask 0#64 }

/-- `queue_port_info`. -/
def queuePortInfo : NodeState P V :=
  { s with
    queue := s.queue ++ [.port s.port]
    port := { s.port with info := s.port.info.replaceChangeMask 0#64 } }

/-- The serials of some node params are flipped, and the info is queued. -/
def announceNode (ids : List NodeParamId) : NodeState P V :=
  { s with node := s.node.bumped nodeChangeBits ids }.queueNodeInfo

/-- The serials of some port params are flipped, and the info is queued. -/
def announcePort (ids : List PortParamId) : NodeState P V :=
  { s with port := { s.port with info := s.port.info.bumped portChangeBits ids } }.queuePortInfo

/-- `handle_process_latency`. -/
def handleProcessLatency [BEq V] (info : ProcessLatencyInfo V) : NodeState P V :=
  let nsChanged := s.processLatency.ns != info.ns
  if s.processLatency.quantum == info.quantum && s.processLatency.rate == info.rate &&
      !nsChanged then s
  else
    ({ s with processLatency := info }.announceNode
      (if nsChanged then [.props, .processLatency] else [.processLatency])).announcePort [.latency]

/-- `set_latency_param`. -/
def setLatencyParam (info : LatencyInfo V) : NodeState P V :=
  { s with latency := Function.update s.latency info.direction info }.announcePort [.latency]

/-- The flags of Format and Buffers are set, and the info is queued. -/
def flagFormat (format buffers : ParamFlags) (rate : Option Nat) (lost : Bool) : NodeState P V :=
  { s with port := s.port.flagFormat format buffers rate lost }.queuePortInfo

/-- `emit_format_lost`, and its deferred delivery: EnumFormat is flipped too. -/
def emitFormatLost : NodeState P V := s.flagFormat spaParamInfoWrite 0#32 none true

/-- `publish_format_state`. -/
def publishFormatState : Option Nat → NodeState P V
  | some rate => s.flagFormat spaParamInfoReadwrite spaParamInfoRead (some rate) false
  | none => s.flagFormat spaParamInfoWrite 0#32 none false

end NodeState

/-- `publish_ring_quantum_cap` of some frames at a rate, once in the life of a node. -/
def publishRingQuantumCap : Option (Nat × Nat) → Proc (NodeState P V) Unit
  | none => pure ()
  | some (frames, rate) => fun s =>
    if s.ringCapPublished then some ((), s)
    else
      ((s.node.replaceChangeMask 0#64).addProp nodeChangeBits "node.max-latency"
        (toString frames ++ "/" ++ toString rate)).map fun node =>
          ((), { s with ringCapPublished := true, node }.queueNodeInfo)

/-! ## Requests -/

/-- `PropsUpdate`. -/
structure PropsUpdate (U : Type) where
  latencyOffsetNs : Option Int := none
  backend : List U := []

/-- `NodeParamRequest`. -/
inductive NodeParamRequest (U V : Type) where
  | resetProps
  | props (update : PropsUpdate U)
  | resetProcessLatency
  | processLatency (info : ProcessLatencyInfo V)

section
variable (P) [BackendProperties P U]

/-- `parse_stream_params`. -/
def parseStreamParams (value : PodValue V) (update : PropsUpdate U) : PropsUpdate U :=
  match value with
  | .struct values =>
    if values.length % 2 ≠ 0 then update
    else { update with backend := BackendProperties.decodeParams (P := P) value }
  | _ => update

/-- One property: the soft volume is the adapter's, and others are logged. -/
def PropsUpdate.read (update : PropsUpdate U) (p : PodProperty V) : PropsUpdate U :=
  match p.1, p.2.2 with
  | .latencyOffsetNsec, .long ns => { update with latencyOffsetNs := some ns }
  | .params, value => parseStreamParams P value update
  | _, _ => update

/-- `parse_props_update`. -/
def parsePropsUpdate (properties : List (PodProperty V)) : PropsUpdate U :=
  properties.foldl (PropsUpdate.read P) {}

/-- The part of `set_param` before the state is touched. -/
def decodeNodeParam [Zero V] (id : NodeParamId) (param : PodArgument V) :
    Except ErrnoCode (NodeParamRequest U V) :=
  match id, param with
  | .props, .null => .ok .resetProps
  | .props, .pod (.object .props _ properties) => .ok (.props (parsePropsUpdate P properties))
  | .props, _ => .error (-einval)
  | .processLatency, .null => .ok .resetProcessLatency
  | .processLatency, .pod value =>
    match ProcessLatencyInfo.parse (some value) with
    | some info => .ok (.processLatency info)
    | none => .error (-einval)
  | .processLatency, .malformed => .error (-einval)
  | .propInfo, _ | .other _, _ => .error (-enoent)

end

/-- `decode_latency_request`: a port is told the latency of the other direction. -/
def decodeLatencyRequest [Zero V] (direction : SpaDirection) :
    Option (PodValue V) → Except ErrnoCode (LatencyInfo V)
  | none => .ok (.default direction.other)
  | some value =>
    match LatencyInfo.parse (some value) with
    | some info => if info.direction = direction.other then .ok info else .error (-einval)
    | none => .error (-einval)

/-! ## Applying them -/

/-- What becomes of a device that is opened again: it fails, or gives a quantum cap, if
any, with its rate. -/
inductive InstallAnswer where
  | failed
  | installed (cap : Option (Nat × Nat))

/-- What `store_and_rebuild` meets: whether the data loop runs the closure, and the device
of a port that was running. -/
structure StoreAnswer where
  accepted : Bool
  install : Option InstallAnswer

section
variable [BackendProperties P U]

/-- `store_and_rebuild` of properties for the data loop. -/
def storeAndRebuild (answer : StoreAnswer) (properties : P) : Proc (NodeState P V) Int :=
  if answer.accepted then do
    modify fun s => { s with dataProperties := properties }
    match answer.install with
    | none => pure ()
    | some .failed => modify NodeState.emitFormatLost
    | some (.installed cap) => publishRingQuantumCap cap
    pure 0
  else pure (-eioCode)

/-- `apply_props_param`. -/
def applyPropsParam (answer : StoreAnswer) (properties : P) : Proc (NodeState P V) Int := do
  modify fun s => s.announceNode [.props]
  storeAndRebuild answer properties

/-- The updates of a Props request, up to the first that fails. -/
def applyUpdates : (Nat → StoreAnswer) → List U → Proc (NodeState P V) Int
  | _, [] => pure 0
  | io, update :: updates => do
    let s ← get
    let old := s.backendProperties
    let (properties, changed) := BackendProperties.apply old update
    if changed then
      modify fun s => { s with backendProperties := properties }
      let res ← applyPropsParam (io 0) properties
      if res ≠ 0 then
        modify fun s => { s with backendProperties := old }
        pure res
      else applyUpdates (fun i => io (i + 1)) updates
    else applyUpdates (fun i => io (i + 1)) updates

/-- `reset_backend_props`. -/
def resetBackendProps [BEq V] [Zero V] (answer : StoreAnswer) : Proc (NodeState P V) Int := do
  let s ← get
  let old := s.backendProperties
  let properties := (BackendProperties.reset old).1
  modify fun s => { s with backendProperties := properties }
  let res ← storeAndRebuild answer properties
  if res ≠ 0 then
    modify fun s => { s with backendProperties := old }
    pure res
  else
    modify fun s => s.handleProcessLatency .default
    pure 0

/-- `apply_node_param`, where the i-th update meets `io i`. -/
def applyNodeParam [BEq V] [Zero V] (io : Nat → StoreAnswer) :
    NodeParamRequest U V → Proc (NodeState P V) Int
  | .resetProps => do
    let res ← resetBackendProps (io 0)
    if res = 0 then
      modify fun s => s.announceNode [.props]
      pure res
    else pure res
  | .props update => do
    match update.latencyOffsetNs with
    | some ns => modify fun s => s.handleProcessLatency { s.processLatency with ns }
    | none => pure ()
    applyUpdates io update.backend
  | .resetProcessLatency => do
    modify fun s => s.handleProcessLatency .default
    pure 0
  | .processLatency info => do
    modify fun s => s.handleProcessLatency info
    pure 0

/-- `set_param`, as far as the flush. -/
def setNodeParam [BEq V] [Zero V] (io : Nat → StoreAnswer) (id : NodeParamId)
    (param : PodArgument V) : Proc (NodeState P V) Int :=
  match decodeNodeParam P id param with
  | .error err => pure err
  | .ok request => applyNodeParam io request

end

/-- What `port_set_param` makes of a Format: it refuses the pod or fails, or a device is
installed or closed. Then the caps may have been probed anew, and the data loop tells the
rate of the format that the port has, or refuses. -/
inductive FormatAnswer where
  | refused (err : Int)
  | done (cap : Option (Nat × Nat)) (reprobed : Bool) (rate : Option (Option Nat)) (res : Int)

/-- `port_set_param` of Format. -/
def setFormat : FormatAnswer → Proc (NodeState P V) Int
  | .refused err => pure err
  | .done cap reprobed rate res => do
    publishRingQuantumCap cap
    if reprobed then
      modify fun s => { s with port :=
        { s.port with info := s.port.info.bumpParam portChangeBits .enumFormat } }
    match rate with
    | none => pure (-eioCode)
    | some rate => do
      modify fun s => s.publishFormatState rate
      pure res

/-- `port_set_param`, as far as the flush. There is one port. -/
def portSetParam [Zero V] (direction : SpaDirection) (portId : Nat) (id : PortParamId)
    (param : PodArgument V) (format : FormatAnswer) : Proc (NodeState P V) Int := do
  let s ← get
  if direction ≠ s.direction ∨ 1 ≤ portId then pure (-einval)
  else
    match id with
    | .format => setFormat format
    | .latency =>
      match param.value with
      | .error err => pure err
      | .ok value =>
        match decodeLatencyRequest direction value with
        | .error err => pure err
        | .ok info => do
          modify fun s => s.setLatencyParam info
          pure 0
    | .tag => pure 0
    | .enumFormat | .buffers | .other _ => pure (-enoent)

/-! ## Reading -/

/-- The pods that a builder builds at the first indices. -/
def listed (build : Nat → ParamStep (PodValue V)) (n : Nat) : PodList V :=
  (List.range n).filterMap fun i =>
    match build i with
    | .built pod => some (i, pod)
    | _ => none

namespace NodeState
variable [BackendProperties P U] (s : NodeState P V)

/-- `build_backend_node_param`. -/
def buildNodeParam (id : NodeParamId) (index : Nat) : ParamStep (PodValue V) :=
  match id, index with
  | .propInfo, 0 => .built buildLatencyOffsetPropInfo
  | .propInfo, i + 1 =>
    match (BackendProperties.descriptors s.backendProperties)[i]? with
    | none => .stop 0
    | some descriptor =>
      let value := ((BackendProperties.values s.backendProperties).find?
        fun value => value.1 = descriptor.key).elim 0 (·.2)
      .built
        (buildParamsPropInfo descriptor.key descriptor.description value descriptor.maximum)
  | .props, 0 =>
    .built (buildLatencyOffsetProps s.processLatency.ns
      (BackendProperties.values s.backendProperties))
  | .processLatency, 0 => .built s.processLatency.build
  | .props, _ + 1 | .processLatency, _ + 1 => .stop 0
  | .other _, _ => .stop (-enoent)

/-- The latency that a port tells: its own direction's has the process latency on top. -/
def portLatency [Add V] (direction : SpaDirection) : LatencyInfo V :=
  let info := s.latency direction
  if info.direction = s.direction then info.add s.processLatency else info

/-- The build step of `port_enum_params`, of Latency. -/
def buildPortLatency [Add V] : Nat → ParamStep (PodValue V)
  | 0 => .built (s.portLatency .input).build
  | 1 => .built (s.portLatency .output).build
  | _ + 2 => .stop 0

end NodeState

/-- A param of a node or of its port. -/
inductive NodeParamKey where
  | node (id : NodeParamId)
  | port (id : PortParamId)
  deriving DecidableEq, Repr

/-- The pods under a param. The formats of a port are those of its device. -/
def NodeState.pods [BackendProperties P U] [Add V] (s : NodeState P V) : NodeParamKey → PodList V
  | .node id =>
    listed (s.buildNodeParam id) ((BackendProperties.descriptors s.backendProperties).length + 1)
  | .port .latency => listed s.buildPortLatency 2
  | .port _ => []

/-! ## The node -/

/-- What a node is asked to do, with what its loops and its device answer then. -/
inductive NodeOp (V : Type) where
  | setParam (io : Nat → StoreAnswer) (id : NodeParamId) (param : PodArgument V)
  | portSetParam (direction : SpaDirection) (portId : Nat) (id : PortParamId)
    (param : PodArgument V) (format : FormatAnswer)
  /-- Suspend publishes that there is no format. -/
  | suspend
  /-- A loss of the format is delivered, unless it is stale. -/
  | formatLost
  | sync (seq : Int)

/-- The procedure of an operation, as far as the flush. -/
def performNodeOp [BackendProperties P U] [BEq V] [Zero V] : NodeOp V → Proc (NodeState P V) Int
  | .setParam io id param => setNodeParam io id param
  | .portSetParam direction portId id param format => portSetParam direction portId id param format
  | .suspend => do
    modify fun s => s.publishFormatState none
    pure 0
  | .formatLost => do
    modify NodeState.emitFormatLost
    pure 0
  | .sync seq => do
    modify fun s => { s with queue := s.queue ++ [.done seq] }
    pure 0

/-- `publish_static_info`: the node's info. -/
def nodeInfo (direction : SpaDirection) : Option (Spa.Info NodeParamId) := do
  let mediaClass := if direction = .input then "Audio/Sink" else "Audio/Source"
  let info ← Spa.Info.addProp nodeChangeBits Spa.Info.new "media.class" mediaClass
  let info ← Spa.Info.addProp nodeChangeBits info "node.driver" "true"
  let info ← Spa.Info.addParam nodeChangeBits info .propInfo spaParamInfoRead
  let info ← Spa.Info.addParam nodeChangeBits info .props spaParamInfoReadwrite
  Info.addParam nodeChangeBits info .processLatency spaParamInfoReadwrite

/-- `publish_static_info`: the port's info, with a rate until a format is set. -/
def portInfo : Option PortInfo := do
  let info ← Spa.Info.addParam portChangeBits Spa.Info.new .enumFormat spaParamInfoRead
  let info ← Spa.Info.addParam portChangeBits info .format spaParamInfoWrite
  let info ← Spa.Info.addParam portChangeBits info .buffers 0#32
  let info ← Spa.Info.addParam portChangeBits info .latency spaParamInfoReadwrite
  pure ⟨info, 48000⟩

/-- `init`, with the properties of its dictionary. -/
def NodeState.init [Zero V] (direction : SpaDirection) (properties : P) :
    Option (NodeState P V) := do
  let node ← nodeInfo direction
  let port ← portInfo
  pure
    { direction
      processLatency := .default
      latency := .default
      backendProperties := properties
      ringCapPublished := false
      node
      port
      queue := []
      dataProperties := properties }

end PwOss.Node
