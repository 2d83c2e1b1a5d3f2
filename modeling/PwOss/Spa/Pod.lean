import Mathlib.Algebra.GroupWithZero.Nat
import PwOss.Sys.Kqueue

/-
  Pods: the typed values that params are given in.

  A pod is a tree of values, and what is modelled is the tree: `serialize_pod` and
  `deserialize_pod` turn it into bytes and back. Numbers that are 32 bits wide in a
  pod are cast to them (`asInt`). Floats are of any type. A key is read in the type of
  its object, so keys of different object types never meet.
-/

namespace PwOss.Spa

open PwOss.Sys

/-- The type of an object pod. -/
inductive PodType where
  | props | propInfo | paramProfile | paramRoute | paramLatency | paramProcessLatency
  | eventDevice
  | other (type : Nat)
  deriving DecidableEq, Repr

/-- The id of an object pod. -/
inductive PodId where
  | enumProfile | profile | enumRoute | route
  | propInfo | props | latency | processLatency
  /-- `SPA_DEVICE_EVENT_ObjectConfig` and `SPA_EVENT_DEVICE_Props`. -/
  | objectConfig | eventProps
  | other (id : Nat)
  deriving DecidableEq, Repr

/-- The key of a property: of a profile, a route, a device event, of props and what
describes them, and of latencies. -/
inductive PodKey where
  | profileIndex | profileName | profileDescription | profilePriority | profileAvailable
  | profileClasses | profileSave
  | routeIndex | routeDirection | routeDevice | routeName | routeDescription | routePriority
  | routeAvailable | routeProfiles | routeProps | routeDevices | routeProfile | routeSave
  | eventObject | eventProps
  | mute | channelVolumes | volumeBase | volumeStep | channelMap | softVolumes | softMute
  | latencyOffsetNsec | params
  | infoId | infoName | infoDescription | infoType | infoParams
  | direction | minQuantum | maxQuantum | minRate | maxRate | minNs | maxNs
  | quantum | rate | ns
  | other (key : Nat)
  deriving DecidableEq, Repr

/-- `PropertyFlags`, which are never combined. -/
inductive PropertyFlags where
  | empty | hardware | readonly
  deriving DecidableEq, Repr

/-- `libspa::pod::Value`, as far as devices and nodes read and write it. -/
inductive PodValue (V : Type) where
  | bool (value : Bool)
  | id (value : Nat)
  | int (value : Int)
  | long (value : Int)
  | float (value : V)
  | string (value : String)
  | idArray (values : List Nat)
  | intArray (values : List Int)
  | floatArray (values : List V)
  /-- A choice: the default, and the least and the greatest value. -/
  | intRange (default min max : Int)
  | longRange (default min max : Int)
  | struct (fields : List (PodValue V))
  | object (type : PodType) (id : PodId)
    (properties : List (PodKey × PropertyFlags × PodValue V))
  | other

variable {V : Type}

/-- A property of an object pod. -/
abbrev PodProperty (V : Type) := PodKey × PropertyFlags × PodValue V

/-- The pods under a param, with their indices. -/
abbrev PodList (V : Type) := List (Nat × PodValue V)

/-- `pod_prop`. -/
def podProp (key : PodKey) (value : PodValue V) : PodProperty V := (key, .empty, value)

/-- The pod argument of `set_param`: NULL, bytes that are no pod, or a pod. -/
inductive PodArgument (V : Type) where
  | null
  | malformed
  | pod (value : PodValue V)

/-- `deserialize_pod`, of an argument that is not NULL. -/
def PodArgument.value : PodArgument V → Except ErrnoCode (Option (PodValue V))
  | .null => .ok none
  | .malformed => .error (-einval)
  | .pod value => .ok (some value)

/-- `as i32` of a 32-bit or wider unsigned number. -/
def asInt (n : Nat) : Int := (BitVec.ofNat 32 n).toInt

/-- The cast keeps what fits. -/
theorem asInt_of_lt {n : Nat} (h : n < 2 ^ 31) : asInt n = n := by
  have hnat : (BitVec.ofNat 32 n).toNat = n := by
    rw [BitVec.toNat_ofNat]
    exact Nat.mod_eq_of_lt (by omega)
  rw [asInt, BitVec.toInt_eq_toNat_of_lt (by omega), hnat]

end PwOss.Spa
