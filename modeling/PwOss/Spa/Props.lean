import PwOss.Spa.Pod

/-
  The pods of a node: its props and their descriptions, and its latencies.

  SPA's C helpers for latencies are static inline, so `spa/params.rs` builds and parses
  these pods itself. A parser takes the fields that it knows in the types that it
  expects; what is missing has its default. `build` and then `parse` is the identity.

  Correspondence (Rust ↔ Lean):
    `spa_process_latency_info`, `spa_latency_info`    ↔ `ProcessLatencyInfo`, `LatencyInfo`
    `process_latency_default`, `latency_info_default` ↔ their `default`
    `parse_process_latency_info`,
      `parse_latency_info`                            ↔ their `parse`
    `build_process_latency_info`,
      `build_latency_info`                            ↔ their `build`
    `process_latency_info_add`                        ↔ `LatencyInfo.add`
    `build_latency_offset_prop_info`,
      `build_latency_offset_props`,
      `build_params_prop_info`                        ↔ the same names
-/

namespace PwOss.Spa

variable {V : Type}

/-- `spa_direction`: of a node's port. -/
inductive SpaDirection where
  | input | output
  deriving DecidableEq, Repr

namespace SpaDirection

/-- `direction ^ 1`. -/
def other : SpaDirection → SpaDirection
  | input => output
  | output => input

/-- `SPA_DIRECTION_INPUT`, `SPA_DIRECTION_OUTPUT`. -/
def toId : SpaDirection → Nat
  | input => 0
  | output => 1

/-- An id `& 1`. -/
def ofId (id : Nat) : SpaDirection := if id % 2 = 0 then input else output

@[simp] theorem ofId_toId (d : SpaDirection) : ofId d.toId = d := by
  cases d <;> rfl

@[simp] theorem other_ne (d : SpaDirection) : d.other ≠ d := by
  cases d <;> decide

end SpaDirection

/-! ## Process latency -/

/-- `spa_process_latency_info`. -/
structure ProcessLatencyInfo (V : Type) where
  quantum : V
  rate : Int
  ns : Int
  deriving DecidableEq, Repr

namespace ProcessLatencyInfo

/-- `process_latency_default`. -/
def default [Zero V] : ProcessLatencyInfo V := ⟨0, 0, 0⟩

/-- One property of the pod. -/
def read (info : ProcessLatencyInfo V) (p : PodProperty V) : ProcessLatencyInfo V :=
  match p.1, p.2.2 with
  | .quantum, .float v => { info with quantum := v }
  | .rate, .int v => { info with rate := v }
  | .ns, .long v => { info with ns := v }
  | _, _ => info

/-- `parse_process_latency_info`. -/
def parse [Zero V] : Option (PodValue V) → Option (ProcessLatencyInfo V)
  | some (.object .paramProcessLatency _ properties) => some (properties.foldl read default)
  | _ => none

/-- `build_process_latency_info`. -/
def build (info : ProcessLatencyInfo V) : PodValue V :=
  .object .paramProcessLatency .processLatency
    [podProp .quantum (.float info.quantum), podProp .rate (.int info.rate),
      podProp .ns (.long info.ns)]

theorem parse_build [Zero V] (info : ProcessLatencyInfo V) : parse (some info.build) = some info :=
  rfl

end ProcessLatencyInfo

/-! ## Latency -/

/-- `spa_latency_info`. -/
structure LatencyInfo (V : Type) where
  direction : SpaDirection
  minQuantum : V
  maxQuantum : V
  minRate : Int
  maxRate : Int
  minNs : Int
  maxNs : Int
  deriving DecidableEq, Repr

/-- `saturating_add` of two signed numbers of `width` bits. -/
def saturatingAdd (width : Nat) (a b : Int) : Int :=
  max (-2 ^ (width - 1)) (min (2 ^ (width - 1) - 1) (a + b))

namespace LatencyInfo

/-- `latency_info_default`. -/
def default [Zero V] (direction : SpaDirection) : LatencyInfo V := ⟨direction, 0, 0, 0, 0, 0, 0⟩

/-- One property of the pod. -/
def read (info : LatencyInfo V) (p : PodProperty V) : LatencyInfo V :=
  match p.1, p.2.2 with
  | .direction, .id v => { info with direction := .ofId v }
  | .minQuantum, .float v => { info with minQuantum := v }
  | .maxQuantum, .float v => { info with maxQuantum := v }
  | .minRate, .int v => { info with minRate := v }
  | .maxRate, .int v => { info with maxRate := v }
  | .minNs, .long v => { info with minNs := v }
  | .maxNs, .long v => { info with maxNs := v }
  | _, _ => info

/-- `parse_latency_info`. -/
def parse [Zero V] : Option (PodValue V) → Option (LatencyInfo V)
  | some (.object .paramLatency _ properties) => some (properties.foldl read (default .input))
  | _ => none

/-- `build_latency_info`. -/
def build (info : LatencyInfo V) : PodValue V :=
  .object .paramLatency .latency
    [podProp .direction (.id info.direction.toId), podProp .minQuantum (.float info.minQuantum),
      podProp .maxQuantum (.float info.maxQuantum), podProp .minRate (.int info.minRate),
      podProp .maxRate (.int info.maxRate), podProp .minNs (.long info.minNs),
      podProp .maxNs (.long info.maxNs)]

theorem parse_build [Zero V] (info : LatencyInfo V) : parse (some info.build) = some info := by
  simp [parse, build, podProp, read]

/-- `process_latency_info_add`. -/
def add [Add V] (process : ProcessLatencyInfo V) (info : LatencyInfo V) : LatencyInfo V :=
  { info with
    minQuantum := info.minQuantum + process.quantum
    maxQuantum := info.maxQuantum + process.quantum
    minRate := saturatingAdd 32 info.minRate process.rate
    maxRate := saturatingAdd 32 info.maxRate process.rate
    minNs := saturatingAdd 64 info.minNs process.ns
    maxNs := saturatingAdd 64 info.maxNs process.ns }

end LatencyInfo

/-! ## Props -/

/-- `SPA_PROP_latencyOffsetNsec`, as an id. -/
def spaPropLatencyOffsetNsec : Nat := 0x1000e

/-- `SPA_NSEC_PER_SEC`. -/
def spaNsecPerSec : Int := 1000000000

def buildLatencyOffsetPropInfo : PodValue V :=
  .object .propInfo .propInfo
    [podProp .infoId (.id spaPropLatencyOffsetNsec),
      podProp .infoDescription (.string "Latency offset (ns)"),
      podProp .infoType (.longRange 0 0 (2 * spaNsecPerSec))]

/-- The fields of the params struct: each key and its value. -/
def paramFields (params : List (String × Nat)) : List (PodValue V) :=
  params.flatMap fun (key, value) => [.string key, .int (asInt value)]

def buildLatencyOffsetProps (ns : Int) (params : List (String × Nat)) : PodValue V :=
  .object .props .props
    (podProp .latencyOffsetNsec (.long ns) ::
      if params = [] then [] else [podProp .params (.struct (paramFields params))])

/-- The advertised default is the current value. -/
def buildParamsPropInfo (name description : String) (current max : Nat) : PodValue V :=
  .object .propInfo .propInfo
    [podProp .infoName (.string name), podProp .infoDescription (.string description),
      podProp .infoType (.intRange (asInt current) 0 (asInt max)),
      podProp .infoParams (.bool true)]

end PwOss.Spa
