import PwOss.Lib.Transition
import PwOss.Node.Rebuild.View
import PwOss.Oss.Session

/-
  The data-loop state of a sink port, from `node/state.rs` and `node/sink/mod.rs`.

  The buffer that the host holds with HAVE_DATA is `offer`; publishing NEED_DATA
  gives it back. The host's areas, the clock and the rebuild worker answer a
  cycle through a `Cycle`. The servo's filters, the rate match area, the xrun
  notification and the logs decide nothing about the buffer and are left out.

  Correspondence (Rust ↔ Lean):
    `SinkPortExt`                          ↔ `SinkPortExt`
    `Port`, `DataState`                    ↔ `Sink`
    `io.status`, `io.buffer_id`            ↔ `Sink.offer`
    `reset_stream_epoch`                   ↔ `resetStreamEpoch`
    `device_period_bytes`, `ns_to_bytes`   ↔ `devicePeriodBytes`, `nsToBytes`
    `queue_rebuild`, `poll_rebuild`        ↔ `queueRebuild`, `pollRebuild`; each does to
                                             `rebuildView` what that of `RebuildView` does
-/

namespace PwOss.Node

open PwOss.Backend PwOss.Sys PwOss.Oss PwOss.Proc

/-- `SinkPortExt`: the playback fields of a port. -/
structure SinkPortExt where
  xrunTimestamp : Nat := 0
  /-- The live servo target in bytes. -/
  targetDelay : Nat := 0
  targetGoal : Nat := 0
  minimumFill : Nat := 0
  bufferSize : Nat := 0
  retunePending : Bool := false
  /-- The first real buffer after Pause bypasses the xrun hold. -/
  resuming : Bool := false
  /-- Pause could neither preserve nor reset this device. -/
  rebuildAfterStart : Bool := false
  /-- The host buffer of which the device took a prefix, and its length. -/
  pendingBuffer : Option Nat := none
  pendingOffset : Nat := 0
  deriving DecidableEq

/-- A sink node and its port. -/
structure Sink where
  -- `DataState`
  started : Bool
  takeover : Bool
  curTimestamp : Nat
  oldTimestamp : Nat
  -- `Port`
  kernel : Native
  dsp : DspWriter
  config : Option StreamConfig
  /-- `port_use_buffers` set buffers, and `port_set_io` the buffers area. -/
  buffers : Bool
  io : Bool
  offer : Option HostBuffer
  setupPeriod : Nat
  deliveryQuantumBytes : Nat
  rebuildPending : Bool
  rebuildRequired : Bool
  ext : SinkPortExt
  -- ghost state: every buffer offered so far
  presented : List HostBuffer

/-- The graph's position area. -/
structure Position where
  freewheel : Bool
  xrunRecover : Bool
  nsec : Nat
  targetDuration : Nat
  targetRateDenom : Nat
  /-- The driver ticks from this node's clock. -/
  sameClock : Bool
  deriving DecidableEq

/-- A completion of the rebuild worker: the device it hands over answers through
its own kernel. -/
inductive Completion where
  /-- Its generation is not the port's. -/
  | superseded
  | installed (kernel : Native) (dsp : DspWriter) (config : StreamConfig) (quantumBytes : Nat)
  | aborted
  | retireAndRetry (kernel : Native) (placeholder : DspWriter)
  | failed (kernel : Native) (placeholder : DspWriter)

/-- The `queue_rebuild` calls of a cycle. -/
inductive RebuildSite where
  | beforePorts | inPorts | afterPorts
  deriving DecidableEq

/-- What a process cycle reads from outside the port. -/
structure Cycle where
  /-- The data system's clock. -/
  now : Option Nat
  position : Option Position
  following : Bool
  /-- The worker takes a retained command, in `poll_rebuild` and in `queue_rebuild`. -/
  flushed : Bool
  queueFlushed : RebuildSite → Bool
  completion : Option Completion
  /-- `valid_data_block` finds a usable block behind the buffer id. -/
  block : Bool
  rateMatchBytes : Nat
  /-- The queue fill that `retune_period`, `detect_underrun` and the write read. -/
  retuneFill : Nat
  underrunFill : Nat
  fill : Nat
  underruns : Nat
  /-- The capacity and quantum that `prime_buffer` is granted, and the delay it is set to. -/
  granted : Nat × Nat
  delayEighths : Nat

/-! ## Byte counts -/

def u64Max : Nat := 2 ^ 64 - 1

/-- `device_period_bytes`: one graph cycle in device bytes. -/
def devicePeriodBytes (targetDuration deviceRate graphRate stride : Nat) : Nat :=
  if graphRate = 0 then 0
  else min (min (min (targetDuration * deviceRate) u64Max / graphRate * stride) u64Max) u32Max

/-- `ns_to_bytes`: the bytes of a nanosecond interval. -/
def nsToBytes (ns rate stride : Nat) : Nat :=
  min (min (min (ns * rate) (2 ^ 128 - 1) * stride) (2 ^ 128 - 1) / 1000000000) u32Max

/-- `stride_rate` of a configured port. -/
def strideRate (config : StreamConfig) : Nat × Nat := (max config.stride.toNat 1, config.rate.toNat)

namespace Sink

/-! ## Device and port updates -/

/-- A procedure of the port's device. -/
def device {α : Type} (x : Native → Proc DspWriter α) : Proc Sink α := fun s =>
  (x s.kernel s.dsp).map fun r => (r.1, { s with dsp := r.2 })

def modifyExt (f : SinkPortExt → SinkPortExt) : Proc Sink Unit :=
  modify fun s => { s with ext := f s.ext }

/-- `clear_pending_write`. -/
def clearPendingWrite (ext : SinkPortExt) : SinkPortExt :=
  { ext with pendingBuffer := none, pendingOffset := 0 }

/-- `reset_stream_epoch`. -/
def resetStreamEpoch : Proc Sink Unit := modify fun s => { s with rebuildRequired := false }

/-- `latch_rebuild_required`. -/
def latchRebuildRequired (status : IoStatus) : Proc Sink Unit :=
  modify fun s => { s with rebuildRequired := s.rebuildRequired || status.requiresRebuild }

/-- `on_device_swapped`. -/
def onDeviceSwapped : Proc Sink Unit := do
  resetStreamEpoch
  modifyExt fun ext =>
    clearPendingWrite { ext with xrunTimestamp := 0, resuming := false, rebuildAfterStart := false }

/-- Another device behind the port. -/
def swapDevice (kernel : Native) (dsp : DspWriter) : Proc Sink Unit :=
  modify fun s => { s with kernel, dsp }

/-! ## Rebuilds -/

/-- `queue_rebuild`: whether an order is in flight. -/
def queueRebuild (flushed : Bool) : Proc Sink Bool := do
  let s ← get
  if s.takeover = true ∨ flushed = false ∨ s.config = none then return false
  else
    modify fun s => { s with rebuildPending := true }
    return true

/-- `queue_required_rebuilds`. -/
def queueRequiredRebuilds (flushed : Bool) : Proc Sink Unit := do
  let s ← get
  if s.rebuildRequired = true ∧ s.rebuildPending = false then
    let _ ← queueRebuild flushed

/-- `poll_rebuild_completion`. -/
def pollRebuildCompletion (completion : Completion) : Proc Sink Bool :=
  match completion with
  | .superseded => do
    let s ← get
    return s.rebuildPending
  | .installed kernel dsp config quantumBytes => do
    swapDevice kernel dsp
    modify fun s =>
      { s with
        config := some config, deliveryQuantumBytes := quantumBytes, rebuildPending := false }
    onDeviceSwapped
    return false
  | .aborted => do
    modify fun s => { s with rebuildPending := false }
    return true
  | .retireAndRetry kernel placeholder => do
    resetStreamEpoch
    swapDevice kernel placeholder
    return true
  | .failed kernel placeholder => do
    swapDevice kernel placeholder
    modify fun s => { s with config := none, rebuildPending := false }
    onDeviceSwapped
    return true

/-- `poll_rebuild`: whether the cycle skips the port. -/
def pollRebuild (c : Cycle) : Proc Sink Bool := do
  let s ← get
  if s.takeover = true ∨ c.flushed = false then return true
  else
    match c.completion with
    | none => return s.rebuildPending
    | some completion => pollRebuildCompletion completion

/-! ## The view of the rebuilds -/

def rebuildView (s : Sink) : RebuildView :=
  ⟨s.takeover, s.config.isSome, s.rebuildPending, s.rebuildRequired⟩

end Sink

def Completion.answer : Completion → Answer
  | .superseded => .superseded
  | .installed .. => .installed
  | .aborted => .aborted
  | .retireAndRetry .. => .retireAndRetry
  | .failed .. => .failed

namespace Sink

/-- From `s`, `x` ends with the answer and the view of `r`. -/
def Views {α : Type} (x : Proc Sink α) (s : Sink) (r : α × RebuildView) : Prop :=
  Runs x s fun a t => (a, t.rebuildView) = r

theorem Views.elim {α : Type} {x : Proc Sink α} {s t : Sink} {r : α × RebuildView} {a : α}
    (h : Views x s r) (ht : x s = some (a, t)) : t.rebuildView = r.2 :=
  congrArg Prod.snd (Runs.elim h ht)

section View
variable (s : Sink)

theorem queueRebuild_view (flushed : Bool) :
    Views (queueRebuild flushed) s (s.rebuildView.queue flushed) := by
  have hconfig : s.rebuildView.configured = false ↔ s.config = none :=
    Option.isSome_eq_false_iff.trans Option.isNone_iff_eq_none
  unfold queueRebuild RebuildView.queue
  refine .get (.ite (fun h => ?_) fun h => ?_)
  · rw [if_pos (by rwa [hconfig])]
    exact .pure rfl
  · rw [if_neg (by rwa [hconfig])]
    exact .modify (.pure rfl)

theorem queueRequiredRebuilds_view (flushed : Bool) :
    Views (queueRequiredRebuilds flushed) s ((), s.rebuildView.queueRequired flushed) := by
  have hrequired : s.rebuildView.required = true ∧ s.rebuildView.pending = false ↔
      s.rebuildRequired = true ∧ s.rebuildPending = false := Iff.rfl
  unfold queueRequiredRebuilds RebuildView.queueRequired
  refine .get (.ite (fun h => ?_) fun h => ?_)
  · rw [if_pos (hrequired.mpr h)]
    refine .bind_of (queueRebuild_view s flushed) ?_
    intro queued t ht
    exact .pure (congrArg (Prod.mk ()) (congrArg Prod.snd ht))
  · rw [if_neg (mt hrequired.mp h)]
    exact .pure rfl

theorem pollRebuildCompletion_view (completion : Completion) :
    Views (pollRebuildCompletion completion) s (s.rebuildView.complete completion.answer) := by
  cases completion with
  | superseded => exact .get (.pure rfl)
  | installed kernel dsp config quantumBytes => exact .of_eq rfl rfl
  | aborted => exact .of_eq rfl rfl
  | retireAndRetry kernel placeholder => exact .of_eq rfl rfl
  | failed kernel placeholder => exact .of_eq rfl rfl

theorem pollRebuild_view (c : Cycle) :
    Views (pollRebuild c) s
      (s.rebuildView.poll c.flushed (c.completion.map Completion.answer)) := by
  have hskip : s.rebuildView.takeover = true ∨ c.flushed = false ↔
      s.takeover = true ∨ c.flushed = false := Iff.rfl
  unfold pollRebuild RebuildView.poll
  refine .get (.ite (fun h => ?_) fun h => ?_)
  · rw [if_pos (hskip.mpr h)]
    exact .pure rfl
  · rw [if_neg (mt hskip.mp h)]
    cases c.completion with
    | none => exact .pure rfl
    | some completion => exact pollRebuildCompletion_view s completion

end View

end Sink

end PwOss.Node
