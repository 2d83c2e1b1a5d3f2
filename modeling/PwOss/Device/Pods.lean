import PwOss.Device.Params
import PwOss.Spa.Pod

/-
  The pods of a device: what `device/params.rs` and `device/events.rs` build, and the
  requests that `device/params.rs` reads.

  A session manager stores the Profile and Route pods that it was given and writes
  them back later. A request is read from any pod: properties of the wrong kind are
  skipped, a property that comes twice counts the second time, and what is missing
  then decides whether there is an error.

  Correspondence (Rust ↔ Lean):
    `build_profile_info`, `build_route_info`,
    `build_object_config`                            ↔ the same names
    `decode_route_props`, `decode_profile_request`,
    `decode_route_request`                           ↔ the same names
    `RouteProp`, `ProfileRequest`, `RouteRequest`    ↔ the same names
  The availability, base, step and channels of a route are constants of the backend.
-/

namespace PwOss.Device

open PwOss.Oss PwOss.Spa PwOss.Sys

variable {V : Type}

/-- The id of the pods under a param. -/
def ParamId.podId : ParamId → PodId
  | .enumProfile => .enumProfile
  | .profile => .profile
  | .enumRoute => .enumRoute
  | .route => .route
  | .other id => .other id

/-- `SPA_PARAM_AVAILABILITY_yes`. -/
def spaParamAvailabilityYes : Nat := 2

def spaDirectionInput : Nat := 0
def spaDirectionOutput : Nat := 1

/-- `SPA_AUDIO_CHANNEL_FL` and `SPA_AUDIO_CHANNEL_FR`, the channels of every route. -/
def routeChannels : List Nat := [3, 4]

/-! ## Building -/

/-- The node ids of one direction. -/
def nodesOf (direction : StreamDirection) (snapshot : DeviceSnapshot) : List Int :=
  (snapshot.endpoints.filter (·.direction = direction)).map fun endpoint => asInt endpoint.objectId

/-- One class of a profile, if there are nodes in it. -/
def profileClass (name : String) (ids : List Int) : List (PodValue V) :=
  if ids.isEmpty then []
  else
    [.struct
      [.string name, .int (asInt ids.length), .string "card.profile.devices", .intArray ids]]

/-- The classes of a profile; Off has none. -/
def profileClasses (index : Nat) (snapshot : DeviceSnapshot) : List (PodValue V) :=
  if index = 0 then []
  else
    profileClass "Audio/Source" (nodesOf .capture snapshot) ++
      profileClass "Audio/Sink" (nodesOf .playback snapshot)

/-- `build_profile_info`. -/
def buildProfileInfo (id : ParamId) (index : Nat) (snapshot : DeviceSnapshot)
    (profileSave current : Bool) : PodValue V :=
  let (name, description, priority) :=
    if index = 0 then ("off", "Off", 0) else ("default", "Default", 100)
  let classes := profileClasses index snapshot
  .object .paramProfile id.podId
    ([podProp .profileIndex (.int (asInt index)),
      podProp .profileName (.string name),
      podProp .profileDescription (.string description),
      podProp .profilePriority (.int priority),
      podProp .profileAvailable (.id spaParamAvailabilityYes),
      podProp .profileClasses (.struct (.int (asInt classes.length) :: classes))] ++
    if current then [podProp .profileSave (.bool profileSave)] else [])

/-- The flag of a property that a control stands behind. -/
def controlFlags (hardware : Bool) : PropertyFlags := if hardware then .hardware else .empty

/-- The volumes that the node itself applies: those of a soft route, and none beside a
control, or the signal is attenuated twice. -/
def softVolumes (curve : Curve V) (hardware : Bool) (channels : Nat) (volumes : List V) : List V :=
  if hardware then List.replicate channels curve.one else volumes

/-- The props of a Route pod. `step` is the step between two levels. -/
def routeProps (curve : Curve V) (step : V) (id : ParamId) (route : RouteSnapshot V) :
    PodValue V :=
  .object .props id.podId
    [(.mute, controlFlags route.mute.hardware, .bool route.mute.value),
      (.channelVolumes, controlFlags route.volume.hardware, .floatArray route.volume.values),
      (.volumeBase, .readonly, .float curve.one),
      (.volumeStep, .readonly, .float step),
      podProp .channelMap (.idArray routeChannels),
      podProp .softVolumes (.floatArray
        (softVolumes curve route.volume.hardware routeChannels.length route.volume.values))]

/-- `build_route_info`. -/
def buildRouteInfo (curve : Curve V) (step : V) (id : ParamId) (route : RouteSnapshot V)
    (save : Bool) (pos profile : Nat) (full : Bool) : PodValue V :=
  .object .paramRoute id.podId
    ([podProp .routeIndex (.int (asInt pos)),
      podProp .routeDirection (.id
        (if route.direction = .capture then spaDirectionInput else spaDirectionOutput)),
      podProp .routeName (.string route.name),
      podProp .routeDescription (.string route.description),
      podProp .routePriority (.int route.priority),
      podProp .routeAvailable (.id spaParamAvailabilityYes),
      podProp .routeProfiles (.intArray [1]),
      podProp .routeDevices (.intArray [asInt route.nodeId])] ++
    if full then
      [podProp .routeDevice (.int (asInt route.nodeId)),
        podProp .routeProps (routeProps curve step id route),
        podProp .routeProfile (.int (asInt profile)),
        podProp .routeSave (.bool save)]
    else [])

/-- The volume properties of an ObjectConfig. -/
def volumeConfig (curve : Curve V) (volume : RouteVolume V) (channels : List Nat) :
    List (PodProperty V) :=
  [podProp .channelVolumes (.floatArray volume.values),
    podProp .channelMap (.idArray channels),
    podProp .softVolumes (.floatArray
      (softVolumes curve volume.hardware volume.values.length volume.values))]

/-- The mute properties of an ObjectConfig. -/
def muteConfig (mute : Bool) : List (PodProperty V) :=
  [podProp .mute (.bool mute), podProp .softMute (.bool mute)]

/-- `build_object_config`. -/
def buildObjectConfig (curve : Curve V) (nodeId : Nat)
    (volume : Option (RouteVolume V × List Nat)) (mute : Option Bool) : PodValue V :=
  .object .eventDevice .objectConfig
    [podProp .eventObject (.int (asInt nodeId)),
      podProp .eventProps (.object .props .eventProps
        ((volume.elim [] fun v => volumeConfig curve v.1 v.2) ++ mute.elim [] muteConfig))]

/-! ## Reading requests -/

/-- `RouteProp`. -/
inductive RouteProp (V : Type) where
  | mute (value : Bool)
  | channelVolumes (values : List V)
  deriving DecidableEq, Repr

/-- The property of a route that a property of a pod asks for. -/
def decodeRouteProp : PodProperty V → Option (RouteProp V)
  | (.mute, _, .bool mute) => some (.mute mute)
  | (.channelVolumes, _, .floatArray values) =>
    if values.isEmpty then none else some (.channelVolumes values)
  | _ => none

/-- `decode_route_props`, in the order of the pod. -/
def decodeRouteProps (properties : List (PodProperty V)) : List (RouteProp V) :=
  properties.filterMap decodeRouteProp

/-- `ProfileRequest`. -/
structure ProfileRequest where
  index : Nat
  save : Bool
  deriving DecidableEq, Repr

/-- What was read of a Profile pod. -/
structure ProfileFields where
  index : Option Nat := none
  name : Option String := none
  save : Bool := false

def ProfileFields.read (fields : ProfileFields) : PodProperty V → ProfileFields
  | (.profileIndex, _, .int v) =>
    if 0 ≤ v ∧ v ≤ 1 then { fields with index := some v.toNat } else fields
  | (.profileName, _, .string v) => { fields with name := some v }
  | (.profileSave, _, .bool v) => { fields with save := v }
  | _ => fields

/-- The index of the profile with a name. -/
def profileNamed : Option String → Option Nat
  | some "off" => some 0
  | some "default" => some 1
  | _ => none

/-- The request that a Profile pod makes: by its index, or else by its name. -/
def ProfileFields.request (fields : ProfileFields) : Except ErrnoCode ProfileRequest :=
  match fields.index.or (profileNamed fields.name) with
  | some index => .ok ⟨index, fields.save⟩
  | none => .error (-einval)

/-- `decode_profile_request`: no pod asks for the default profile. -/
def decodeProfileRequest : Option (PodValue V) → Except ErrnoCode ProfileRequest
  | none => ProfileFields.request { index := some 1 }
  | some (.object .paramProfile _ properties) =>
    (properties.foldl ProfileFields.read {}).request
  | some _ => .error (-einval)

/-- `RouteRequest`. -/
structure RouteRequest (V : Type) where
  index : Option Nat
  name : Option String
  device : Nat
  save : Bool
  props : Option (List (RouteProp V))
  deriving DecidableEq, Repr

/-- What was read of a Route pod. -/
structure RouteFields (V : Type) where
  index : Option Nat := none
  name : Option String := none
  device : Option Nat := none
  save : Bool := false
  props : Option (List (RouteProp V)) := none

def RouteFields.read (fields : RouteFields V) : PodProperty V → RouteFields V
  | (.routeIndex, _, .int v) => if 0 ≤ v then { fields with index := some v.toNat } else fields
  | (.routeName, _, .string v) => { fields with name := some v }
  | (.routeDevice, _, .int v) => if 0 ≤ v then { fields with device := some v.toNat } else fields
  | (.routeSave, _, .bool v) => { fields with save := v }
  | (.routeProps, _, .object .props _ properties) =>
    { fields with props := some (decodeRouteProps properties) }
  | _ => fields

/-- The request that a Route pod makes, which needs the device. -/
def RouteFields.request (fields : RouteFields V) : Except ErrnoCode (RouteRequest V) :=
  match fields.device with
  | some device => .ok ⟨fields.index, fields.name, device, fields.save, fields.props⟩
  | none => .error (-einval)

/-- `decode_route_request`: there is no route to reset without a pod. -/
def decodeRouteRequest : Option (PodValue V) → Except ErrnoCode (RouteRequest V)
  | some (.object .paramRoute _ properties) => (properties.foldl RouteFields.read {}).request
  | _ => .error (-einval)

/-! ## Reading back what was built -/

/-- The properties that a Route pod asks for are those of the route. -/
theorem decodeRouteProps_build (curve : Curve V) (step : V) (id : ParamId)
    {route : RouteSnapshot V} (hvalues : route.volume.values ≠ []) :
    ∃ properties, routeProps curve step id route = .object .props id.podId properties ∧
      decodeRouteProps properties =
        [.mute route.mute.value, .channelVolumes route.volume.values] := by
  refine ⟨_, rfl, ?_⟩
  simp [decodeRouteProps, decodeRouteProp, podProp, hvalues]

/-- A Route pod asks for the route that it was built from, as it is. -/
theorem decodeRouteRequest_build (curve : Curve V) (step : V) {route : RouteSnapshot V}
    {pos : Nat} (hpos : pos < 2 ^ 31) (hnode : route.nodeId < 2 ^ 31)
    (hvalues : route.volume.values ≠ []) (save : Bool) (profile : Nat) :
    decodeRouteRequest (some (buildRouteInfo curve step .route route save pos profile true)) =
      .ok ⟨some pos, some route.name, route.nodeId, save,
        some [.mute route.mute.value, .channelVolumes route.volume.values]⟩ := by
  obtain ⟨properties, hprops, hdecode⟩ := decodeRouteProps_build curve step .route hvalues
  have hindex : asInt pos = pos := asInt_of_lt hpos
  have hdevice : asInt route.nodeId = route.nodeId := asInt_of_lt hnode
  simp [buildRouteInfo, decodeRouteRequest, RouteFields.read, RouteFields.request, podProp,
    hindex, hdevice, hprops, hdecode]

end PwOss.Device
