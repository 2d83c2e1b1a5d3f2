import PwOss.Lib.Proc
import PwOss.Oss.Dsp

/-
  The capture device `Dsp` of `freebsd_oss/dsp.rs`.

  The kernel answers each native call through a `CaptureNative`, by the number of
  calls before it: any bytes, any errno, any refusal. Ghost fields follow the stream
  since the ring was last reset: the bytes the device was read of, the positions at
  which its reads ended, and the bytes that `read` handed to its callers.

  Correspondence (Rust ↔ Lean):
    `read`: its loop over `skip`             ↔ `discardSkip`
    `read`                                   ↔ `read`
    `suspend`, `close`, `ready_for_reading`  ↔ the same names
    `prime_buffer`: its loop                 ↔ `drainBacklog`
    `prime_buffer`, `retune_buffer`,
      `recover_overrun`                      ↔ the same names
  The fragment request, the wake threshold, the capability bits and the logs are left
  out.
-/

namespace PwOss.Oss

open PwOss.Backend PwOss.Sys PwOss.Proc

/-- The kernel's answers, by the number of native calls before. -/
structure CaptureNative where
  /-- What a read returns, of which the buffer takes a prefix; no byte is the end of file. -/
  read : Nat → Except Errno (List UInt8)
  /-- SETTRIGGER. -/
  trigger : Nat → Bool
  /-- POLLIN is among the events that poll(2) returns. -/
  poll : Nat → Bool
  /-- GETISPACE: the fill, the fragment and the ring, all zero where it fails. -/
  inputSpace : Nat → Nat × Nat × Nat

/-- `CaptureBufferState`. -/
structure CaptureBufferState where
  periodBytes : Nat := 0
  quantumBytes : Nat := 0
  capacityBytes : Nat := 0
  mismatchCycles : Nat := 0
  pinnedCycles : Nat := 0
  deriving DecidableEq

/-- `Dsp`. -/
structure Dsp where
  state : DspState
  needsTrigger : Bool
  stride : Nat
  /-- Tail bytes of a torn frame to discard before the next read. -/
  skip : Nat
  deliveryQuantumNs : Nat
  buffer : CaptureBufferState
  -- ghost state
  calls : Nat
  consumed : List UInt8
  cuts : List Nat
  returned : List UInt8
  stride_pos : 0 < stride

namespace Dsp

variable (n : CaptureNative)

/-! ## Native calls -/

/-- A native call that reads nothing. -/
def called (d : Dsp) : Dsp := { d with calls := d.calls + 1 }

/-- The first read or poll leaves Setup. -/
def start (d : Dsp) : Dsp := if d.state = .setup then { d with state := .running } else d

/-- The device was read of `bytes`. -/
def consume (bytes : List UInt8) (d : Dsp) : Dsp :=
  { d.called with
    consumed := d.consumed ++ bytes
    cuts := d.cuts ++ [d.consumed.length + bytes.length] }

/-- SETTRIGGER(0) reset the ring: another stream begins. -/
def resetRing (d : Dsp) : Dsp := { d with consumed := [], cuts := [], returned := [] }

/-- One read(2) into `len` bytes. -/
def nativeRead (len : Nat) : Proc Dsp (Except Errno { bytes : List UInt8 // bytes.length ≤ len }) :=
  do
  let d ← get
  match n.read d.calls with
  | .ok bytes =>
    modify (consume (bytes.take len))
    return .ok ⟨bytes.take len, List.length_take_le len bytes⟩
  | .error error =>
    modify called
    return .error error

/-- `set_trigger`. -/
def setTrigger (enable : Bool) : Proc Dsp Bool := do
  let d ← get
  modify fun d =>
    if enable = false ∧ n.trigger d.calls = true then d.called.resetRing else d.called
  return n.trigger d.calls

/-! ## Reads -/

/-- The loop of `read` over the tail of a torn frame; a status ends the read. Each
iteration discards a byte or ends. -/
def discardSkip : Nat → Proc Dsp (Option IoStatus)
  | 0 => do
    let d ← get
    require (d.skip = 0)
    return none
  | fuel + 1 => do
    let d ← get
    if d.skip = 0 then return none
    else
      match ← nativeRead n (min d.skip 64) with
      | .error error => return some (ioStatus error)
      | .ok bytes =>
        if bytes.1 = [] then return some .disconnected
        else
          modify fun d => { d with skip := d.skip - bytes.1.length }
          discardSkip fuel

/-- A read ended `rem` bytes into a frame: the tail of the frame is discarded later. -/
def tear (rem : Nat) (d : Dsp) : Dsp :=
  if rem ≠ 0 then { d with skip := d.stride - rem } else d

/-- The ghost record of what a read hands out. -/
def handOut (bytes : List UInt8) (d : Dsp) : Dsp := { d with returned := d.returned ++ bytes }

/-- `read` into `len` bytes, once nothing is left to discard. -/
def readFrames (len : Nat) : Proc Dsp (ReadOutcome len) := do
  match ← nativeRead n len with
  | .error error => return ⟨[], 0, ioStatus error, Nat.le_refl 0, Nat.zero_le len⟩
  | .ok bytes =>
    if bytes.1 = [] then return ⟨[], 0, .disconnected, Nat.le_refl 0, Nat.zero_le len⟩
    else
      let d ← get
      let rem := bytes.1.length % max d.stride 1
      let count := bytes.1.length - rem
      modify fun d => (d.tear rem).handOut (bytes.1.take count)
      return ⟨bytes.1, count, .progress, Nat.sub_le _ _, bytes.2⟩

/-- `read` into `len` bytes: a frame-aligned count. -/
def read (len : Nat) : Proc Dsp (ReadOutcome len) := do
  modify start
  let d ← get
  require (d.state = .running)
  match ← discardSkip n d.skip with
  | some status => return ⟨[], 0, status, Nat.le_refl 0, Nat.zero_le len⟩
  | none => readFrames n len

/-! ## Lifecycle -/

/-- `suspend`: stop the channel and reset its ring. `false`: the driver refused. -/
def suspend : Proc Dsp Bool := do
  let d ← get
  if d.state ≠ .running then return true
  else if ← setTrigger n false then
    modify fun d => { d with state := .setup, needsTrigger := true, skip := 0 }
    return true
  else return false

/-- `close`. -/
def close : Proc Dsp Unit := do
  let d ← get
  require (d.state ≠ .closed)
  modify fun d =>
    { d.resetRing with state := .closed, needsTrigger := false, skip := 0, buffer := {} }

/-- `ready_for_reading`. -/
def readyForReading : Proc Dsp Bool := do
  modify start
  let d ← get
  require (d.state = .running)
  modify called
  if d.needsTrigger then
    modify fun d => { d with needsTrigger := false }
    let _ ← setTrigger n true
  return n.poll d.calls

/-! ## Ring geometry -/

/-- The loop of `prime_buffer` over the backlog: whether the device was lost. Each
iteration reads a byte or ends. -/
def drainBacklog (stride scratch : Nat) : Nat → Nat → Bool → Proc Dsp Bool
  | 0, backlog, lost => do
    require (backlog = 0)
    return lost
  | fuel + 1, backlog, lost =>
    if backlog = 0 then return lost
    else do
      let chunk := min backlog scratch / max stride 1 * max stride 1
      if chunk = 0 then return lost
      else
        let outcome ← read n chunk
        let lost := lost || outcome.status.requiresRebuild
        if outcome.bytes = 0 then return lost
        else drainBacklog stride scratch fuel (backlog - outcome.bytes) lost

/-- `prime_buffer`, with a scratch block of `scratch` bytes. -/
def primeBuffer (request : CaptureBufferRequest) (scratch : Nat) :
    Proc Dsp CaptureBufferGeometry := do
  let ready ← readyForReading n
  let d ← get
  require (d.state = .running)
  modify called
  let (queued, quantum, capacity) := n.inputSpace d.calls
  let lost ← (if ready then drainBacklog n request.stride scratch queued queued false
    else pure false)
  let geometry := captureAppliedGeometry request capacity quantum d.deliveryQuantumNs
  modify fun d =>
    { d with
      buffer :=
        { periodBytes := request.periodBytes
          quantumBytes := geometry.quantumBytes
          capacityBytes := geometry.capacityBytes } }
  return { geometry with deviceLost := lost }

/-- `retune_buffer`. -/
def retuneBuffer (request : CaptureBufferRequest) (primed : Bool) : Proc Dsp CaptureRetune := do
  let d ← get
  let setMismatch (cycles : Nat) (d : Dsp) : Dsp :=
    { d with buffer := { d.buffer with mismatchCycles := cycles } }
  if primed = false ∨ d.buffer.periodBytes = 0 ∨ request.periodBytes = 0 ∨
      request.periodBytes = d.buffer.periodBytes then
    modify (setMismatch 0)
    return .unchanged
  else
    let cycles := satAdd d.buffer.mismatchCycles 1
    modify (setMismatch cycles)
    if cycles < 2 then return .pending
    else
      let geometry := captureAppliedGeometry request d.buffer.capacityBytes
        d.buffer.quantumBytes d.deliveryQuantumNs
      if geometry.requiredCapacityBytes ≤ geometry.capacityBytes then
        modify fun d =>
          { d with
            buffer := { d.buffer with periodBytes := request.periodBytes, mismatchCycles := 0 } }
        return .applied geometry
      else if ← suspend n then
        modify (setMismatch 0)
        return .reprime
      else return .rebuild

/-- `recover_overrun`: whether recovery was selected, and whether it reset the ring. -/
def recoverOverrun (preReadFill : Option Nat) : Proc Dsp (Option Bool) := do
  let d ← get
  let pinned :=
    match preReadFill with
    | some fill =>
      if 0 < d.buffer.capacityBytes then
        decide (d.buffer.capacityBytes - d.buffer.quantumBytes < fill)
      else true
    | none => false
  let setPinned (cycles : Nat) (d : Dsp) : Dsp :=
    { d with buffer := { d.buffer with pinnedCycles := cycles } }
  let cycles := if pinned then satAdd d.buffer.pinnedCycles 1 else 0
  modify (setPinned cycles)
  if cycles < 3 then return none
  else
    modify (setPinned 0)
    let reset ← suspend n
    return some reset

end Dsp

end PwOss.Oss
