import PwOss.Device.Pods
import PwOss.Oss.Routes
import PwOss.Spa.Audience
import PwOss.Spa.Info

/-
  The methods of a device and its watchers, from `device/mod.rs`, `device/params.rs`,
  `device/events.rs` and `device/watch.rs`: what each does to the device, and what it
  dispatches to the listeners.

  A method that changes what a param shows flips the param's serial and dispatches
  the info. A change of an active route's volume or mute is also dispatched as an
  ObjectConfig, from which the session manager sets the props of the node. Both are
  built from the state that the method ends in.

  Correspondence (Rust ↔ Lean):
    `Runtime`, the save flags of its routes    ↔ `Runtime`, `Runtime.saves`
    `object_events`, `take_info`               ↔ `objectEvents`, `announceParams`
    `queue_route_change`, `queue_object_config`,
    `poll_routes`                              ↔ the same names
    `set_profile_param`, `resolve_route_pos`,
    `set_route_param`, `set_param`             ↔ the same names
    `on_route_timeout`, `on_hotplug_event`,
    `sync`                                     ↔ `Op`
    `init`                                     ↔ `Runtime.init`
-/

namespace PwOss.Device

open PwOss.Oss PwOss.Proc PwOss.Spa PwOss.Sys

variable {V : Type}

/-! ## State -/

/-- An endpoint with its texts. -/
structure Endpoint extends EndpointSnapshot where
  name : String
  description : String
  locator : String

/-- A device with its texts. -/
structure DeviceCard where
  description : String
  endpoints : List Endpoint

def DeviceCard.snapshot (card : DeviceCard) : DeviceSnapshot :=
  ⟨card.endpoints.map (·.toEndpointSnapshot)⟩

/-- `Runtime`, without the sources of its watchers. -/
structure Runtime (V : Type) where
  card : DeviceCard
  /-- 0 is Off, 1 is the default. -/
  profile : Nat
  profileSave : Bool
  panel : Panel V
  /-- The save flag of the route at each position. -/
  saves : Nat → Bool
  info : DeviceInfo ParamId

/-- `DeviceObjectEvent`. -/
inductive DeviceObjectEvent where
  | added (endpoint : Endpoint) (routeCount : Nat)
  | removed (id : Nat)

/-- `DeviceNotification`; the activation barrier is an entry of the queue. -/
inductive DeviceNotification (V : Type) where
  | info (snapshot : DeviceInfo ParamId)
  | object (event : DeviceObjectEvent)
  /-- A serialized ObjectConfig. -/
  | event (pod : PodValue V)
  | done (seq : Int)

/-- `object_events`. -/
def objectEvents (card : DeviceCard) (routes : List (RouteSnapshot V)) (present : Bool) :
    List DeviceObjectEvent :=
  card.endpoints.map fun endpoint =>
    if present then .added endpoint (routes.countP fun r => r.nodeId = endpoint.objectId)
    else .removed endpoint.objectId

/-- A procedure on the routes. -/
def onPanel {α : Type} (x : Proc (Panel V) α) : Proc (Runtime V) α :=
  onPart Runtime.panel (fun panel w => { w with panel }) x

/-- Flips the serials of some params and takes the info. -/
def announceParams (ids : List ParamId) : Proc (Runtime V) (DeviceNotification V) := do
  let w ← get
  let info := w.info.bumped deviceChangeBits ids
  modify fun w => { w with info := info.replaceChangeMask 0#64 }
  pure (.info info)

/-- `queue_route_change`. -/
def queueRouteChange : Proc (Runtime V) (DeviceNotification V) := announceParams [.route]

/-- `queue_route_change`, if there is a change. -/
def queueRouteChangeIf (changed : Bool) : Proc (Runtime V) (List (DeviceNotification V)) :=
  if changed then do
    let info ← queueRouteChange
    pure [info]
  else pure []

/-! ## ObjectConfigs -/

section
variable (curve : Curve V)

/-- `queue_object_config`. -/
def queueObjectConfig (route : RouteSnapshot V) (emitVolume : Bool) : DeviceNotification V :=
  .event
    (if emitVolume then
      buildObjectConfig curve route.nodeId (some (route.volume, routeChannels)) none
    else buildObjectConfig curve route.nodeId none (some route.mute.value))

/-- The ObjectConfigs of a change, from the routes as they are. -/
def changeConfigs (routes : List (RouteSnapshot V)) (change : RouteChange) :
    List (DeviceNotification V) :=
  match (change.key.bind (position routes)).bind (routes[·]?) with
  | some route =>
    (if change.volume then [queueObjectConfig curve route true] else []) ++
      if change.mute then [queueObjectConfig curve route false] else []
  | none => []

/-! ## Watchers -/

variable [DecidableEq V] (io : Ioctls)

/-- `poll_routes`. -/
def pollRoutes : Proc (Runtime V) (List (DeviceNotification V)) := do
  let w ← get
  if w.profile = 0 then pure []
  else do
    let changes ← onPanel (poll io curve)
    if changes.isEmpty then pure []
    else do
      let info ← queueRouteChange
      let w ← get
      pure (info :: changes.flatMap (changeConfigs curve w.panel.routes))

/-- `RouteController::handles_native_unit`. -/
def handlesNativeUnit (routes : List (RouteSnapshot V)) (unit : Nat) : Bool :=
  routes.any fun route => route.nodeId / 2 = unit

/-- What `read_mixer_event` found: a unit whose devices changed, and a new connection. -/
structure MixerEvent where
  unit : Option Nat
  reconnected : Bool

/-- The part of `on_hotplug_event` about the routes; whether the queue is still alive
decides what happens to the watcher. -/
def onMixerEvent (event : MixerEvent) : Proc (Runtime V) (List (DeviceNotification V)) := do
  let w ← get
  if event.reconnected || event.unit.any (handlesNativeUnit w.panel.routes) then
    pollRoutes curve io
  else pure []

/-! ## Requests -/

/-- The shadows of the routes, stale from a time without polls, are read again for a
profile that is not Off. -/
def refreshRoutes (profile : Nat) : Proc (Runtime V) Unit :=
  if profile ≠ 0 then onPanel (refreshAll io curve) else pure ()

/-- `set_profile_param`. -/
def setProfileParam (request : ProfileRequest) :
    Proc (Runtime V) (Int × List (DeviceNotification V)) := do
  let w ← get
  modify fun w => { w with profileSave := request.save }
  if w.profile ≠ request.index then do
    modify fun w => { w with profile := request.index }
    refreshRoutes curve io request.index
    let w ← get
    let objects := objectEvents w.card w.panel.routes (request.index ≠ 0)
    let info ← announceParams [.profile, .enumRoute, .route]
    pure (0, objects.map .object ++ [info])
  else if w.profileSave ≠ request.save then do
    let info ← announceParams [.profile]
    pure (0, [info])
  else pure (0, [])

/-- `resolve_route_pos`: an index counts only for its node, and only with the right name
when there is one. -/
def resolveRoutePos (routes : List (RouteSnapshot V)) (index : Option Nat) (name : Option String)
    (device : Nat) : Option Nat :=
  (index.filter fun i => (routes[i]?).any fun route =>
    route.nodeId = device && name.all (· = route.name)).or
    (name.bind fun name => routes.findIdx? fun route => route.name = name && route.nodeId = device)

/-- The value that a property asks for. -/
def RouteProp.update : RouteProp V → Option (RouteValueUpdate V)
  | .mute muted => some (.mute muted)
  | .channelVolumes values => if values.isEmpty then none else some (.volume values)

/-- `set_route_param`. -/
def setRouteParam (request : RouteRequest V) :
    Proc (Runtime V) (Int × List (DeviceNotification V)) := do
  let w ← get
  if w.profile = 0 then pure (-einval, [])
  else
    match resolveRoutePos w.panel.routes request.index request.name request.device with
    | none => pure (-einval, [])
    | some pos => do
      modify fun w => { w with saves := update w.saves pos request.save }
      let route ← onPanel (routeAt pos)
      let values := (request.props.getD []).filterMap RouteProp.update
      let change ← onPanel (apply io curve route.key ⟨!route.active, values⟩)
      let info ← queueRouteChangeIf (change.refresh || w.saves pos != request.save)
      let w ← get
      pure (0, info ++ changeConfigs curve w.panel.routes change)

/-- The request that a device gets, or the error that it answers with. -/
inductive DeviceRequest (V : Type) where
  | profile (request : ProfileRequest)
  | route (request : RouteRequest V)

/-- The part of `set_param` before the state is touched. -/
def decodeRequest (id : ParamId) (param : PodArgument V) : Except ErrnoCode (DeviceRequest V) :=
  match id with
  | .profile => do
    let request ← decodeProfileRequest (← param.value)
    pure (.profile request)
  | .route => do
    let request ← decodeRouteRequest (← param.value)
    pure (.route request)
  | _ => .error (-enoent)

/-- `set_param`. -/
def setParam (id : ParamId) (param : PodArgument V) :
    Proc (Runtime V) (Int × List (DeviceNotification V)) :=
  match decodeRequest id param with
  | .error err => pure (err, [])
  | .ok (.profile request) => setProfileParam curve io request
  | .ok (.route request) => setRouteParam curve io request

end

/-! ## The device -/

/-- What a device is asked to do, with the ioctls of the mixers as they answer then. -/
inductive Op (V : Type) where
  | setParam (io : Ioctls) (id : ParamId) (param : PodArgument V)
  | routeTimeout (io : Ioctls)
  | mixerEvent (io : Ioctls) (event : MixerEvent)
  | sync (seq : Int)
  /-- Other hands change the mixers. -/
  | outside (hw : Hardware)

namespace Runtime
variable [DecidableEq V] (curve : Curve V) (step : V)

/-- The procedure of an operation, and what it dispatches. -/
def perform : Op V → Proc (Runtime V) (List (DeviceNotification V))
  | .setParam io id param => do
    let (_, notes) ← Device.setParam curve io id param
    pure notes
  | .routeTimeout io => pollRoutes curve io
  | .mixerEvent io event => onMixerEvent curve io event
  | .sync seq => pure [.done seq]
  | .outside hw => do
    modify fun w => { w with panel := { w.panel with hw } }
    pure []

variable (w : Runtime V)

/-- `initial_info`: the info, marked as all changed. -/
def initialInfo : DeviceInfo ParamId := w.info.replaceChangeMask deviceChangeBits.all

/-- The initial callbacks of `add_listener`. -/
def initialNotes : List (DeviceNotification V) :=
  .info w.initialInfo ::
    (objectEvents w.card w.panel.routes (w.profile ≠ 0)).map .object

/-- The params that a device offers. -/
def paramIds : List ParamId := [.enumProfile, .profile, .enumRoute, .route]

/-- The pods under a param, with their indices. -/
def pods : ParamId → List (Nat × PodValue V)
  | .enumProfile =>
    [0, 1].map fun index =>
      (index, buildProfileInfo .enumProfile index w.card.snapshot w.profileSave false)
  | .profile => [(0, buildProfileInfo .profile w.profile w.card.snapshot w.profileSave true)]
  | .enumRoute => w.panel.routes.zipIdx.map fun (route, pos) =>
    (pos, buildRouteInfo curve step .enumRoute route (w.saves pos) pos w.profile false)
  | .route =>
    if w.profile = 0 then []
    else (w.panel.routes.zipIdx.filter (·.1.active)).map fun (route, pos) =>
      (pos, buildRouteInfo curve step .route route (w.saves pos) pos w.profile true)
  | .other _ => []

/-- The info that `init` fills. -/
def initInfo (description : String) (parentName : Option String) :
    Option (DeviceInfo ParamId) := do
  let info ← Info.addProp deviceChangeBits Info.new "device.api" "freebsd-oss"
  let info ← Info.addProp deviceChangeBits info "media.class" "Audio/Device"
  let info ← parentName.elim (some info) (Info.addProp deviceChangeBits info "device.name")
  let info ← Info.addProp deviceChangeBits info "device.description" description
  let info ← Info.addParam deviceChangeBits info .enumProfile spaParamInfoRead
  let info ← Info.addParam deviceChangeBits info .profile spaParamInfoReadwrite
  let info ← Info.addParam deviceChangeBits info .enumRoute spaParamInfoRead
  Info.addParam deviceChangeBits info .route spaParamInfoReadwrite

/-- `init`, of a device whose units were found. -/
def init (io : Ioctls) (card : DeviceCard) (parentName : Option String) (hw : Hardware) :
    Option (Runtime V) := do
  let (_, panel) ← probe curve io card.snapshot (Panel.new hw)
  let info ← initInfo card.description parentName
  pure { card, profile := 1, profileSave := false, panel, saves := fun _ => false, info }

end Runtime

end PwOss.Device
