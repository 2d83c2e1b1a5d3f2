import PwOss.Backend.Capture
import PwOss.Node.Sink.Port

/-
  The data-loop state of a source port, from `node/state.rs` and
  `node/source/mod.rs`, over any capture backend.

  A host buffer is its data block and what its chunk says. Three ghost fields follow
  the ids of the buffer set in place: `used` lists those handed out, `held` those the
  host was given and has not returned, each with its block as it was published, and
  `faults` what the source did to ids it should have left alone. The servo's filters,
  the rate match area, the xrun notification and the logs decide nothing about the
  buffers and are left out.

  Correspondence (Rust ↔ Lean):
    `SourcePortExt`                           ↔ `SourcePortExt`
    `Port`, `DataState`                       ↔ `Source`
    `spa_io_buffers`                          ↔ `IoBuffers`
    `valid_data_block`, `DataBlock`           ↔ `Source.validDataBlock`, `HostBlock`
    `output_slice`, `publish`                 ↔ `HostBlock.scratch`, `store`, `publish`
    `reset_stream_epoch`,
      `latch_rebuild_required`                ↔ the same names
    `on_device_swapped`, `on_buffers_swapped` ↔ the same names
    `queue_rebuild`, `poll_rebuild`           ↔ the same names; each does to `rebuildView`
                                                what that of `RebuildView` does
-/

namespace PwOss.Node

open PwOss.Backend

/-! ## Buffers -/

/-- `spa_io_buffers.status`. -/
inductive BufferStatus where
  | ok | needData | haveData
  /-- STOPPED, DRAINED, or an errno. -/
  | other
  deriving DecidableEq, Repr

/-- `spa_io_buffers`. -/
structure IoBuffers where
  status : BufferStatus
  bufferId : UInt32
  deriving DecidableEq, Repr

/-- The area lets the source take its id. -/
def IoBuffers.offers (area : IoBuffers) : Bool :=
  area.status == .ok || area.status == .needData

/-- `SPA_ID_INVALID`: the area names no buffer. -/
def noBuffer : UInt32 := 0xffffffff

/-- A host buffer. -/
structure HostBlock where
  /-- One mapped block with a chunk. -/
  mapped : Bool
  data : List UInt8
  chunkSize : Nat
  chunkStride : Nat
  size_lt : data.length < 2 ^ 32
  deriving DecidableEq

/-- A block under a cycle's hands, as long as it was. -/
abbrev Scratch (maxsize : Nat) : Type := { data : List UInt8 // data.length = maxsize }

/-- `bytes` over `data` from `offset` on. -/
def overwrite (data : List UInt8) (offset : Nat) (bytes : List UInt8) : List UInt8 :=
  data.take offset ++ bytes.take (data.length - offset) ++ data.drop (offset + bytes.length)

theorem length_overwrite (data : List UInt8) (offset : Nat) (bytes : List UInt8) :
    (overwrite data offset bytes).length = data.length := by
  simp only [overwrite, List.length_append, List.length_take, List.length_drop]
  omega

def Scratch.write {maxsize : Nat} (data : Scratch maxsize) (offset : Nat) (bytes : List UInt8) :
    Scratch maxsize :=
  ⟨overwrite data.1 offset bytes, (length_overwrite data.1 offset bytes).trans data.2⟩

namespace HostBlock

def maxsize (block : HostBlock) : Nat := block.data.length

/-- `output_slice`. -/
def scratch (block : HostBlock) : Scratch block.maxsize := ⟨block.data, rfl⟩

/-- What the cycle wrote through `output_slice`. -/
def store (block : HostBlock) (data : Scratch block.maxsize) : HostBlock :=
  { block with data := data.1, size_lt := data.2.symm ▸ block.size_lt }

def publish (block : HostBlock) (size stride : Nat) : HostBlock :=
  { block with chunkSize := size, chunkStride := stride }

end HostBlock

/-- What the source did to an id it should have left alone. -/
inductive OwnershipFault where
  /-- It took the block of an id that the host holds. -/
  | tookHeld (id : UInt32)
  /-- It handed out an id of the set again. -/
  | handedOutAgain (id : UInt32)
  deriving DecidableEq, Repr

/-! ## The port -/

structure SourcePortExt where
  primed : Bool := false
  /-- The next never-used buffer id to hand out. -/
  activeBuffers : Nat := 0
  targetFill : Nat := 0
  readPeak : Nat := 0
  ringSize : Nat := 0
  retunePending : Bool := false
  wasFreewheeling : Bool := false
  deriving DecidableEq

/-- A source node and its port, over a capture stream in `δ`. -/
structure Source (δ : Type) where
  -- `DataState`
  started : Bool
  takeover : Bool
  -- `Port`
  dsp : δ
  config : Option StreamConfig
  buffers : List HostBlock
  /-- `none`: a null area. -/
  io : Option IoBuffers
  setupPeriod : Nat
  deliveryQuantumBytes : Nat
  rebuildPending : Bool
  rebuildRequired : Bool
  xrunTracker : XrunTracker
  ext : SourcePortExt
  -- ghost state of the buffer set in place
  used : List UInt32
  held : List (UInt32 × HostBlock)
  faults : List OwnershipFault

namespace Source

variable {δ : Type}

/-- A completion of the rebuild worker. -/
inductive Completion (δ : Type) where
  /-- Its generation is not the port's. -/
  | superseded
  | installed (dsp : δ) (config : StreamConfig) (quantumBytes : Nat)
  | aborted
  | retireAndRetry (placeholder : δ)
  | failed (placeholder : δ)

/-- What a process cycle reads from outside the port. -/
structure Cycle (δ : Type) where
  position : Option Position
  /-- The worker takes a retained command, in `poll_rebuild` and in `queue_rebuild`. -/
  flushed : Bool
  queueFlushed : RebuildSite → Bool
  completion : Option (Completion δ)
  /-- The wake event of this stream, with its queue fill and its xrun counter. -/
  wakeFill : Option Nat
  wakeXruns : Option XrunObservation

/-! ## Port updates -/

def modifyExt (f : SourcePortExt → SourcePortExt) (s : Source δ) : Source δ :=
  { s with ext := f s.ext }

def resetStreamEpoch (s : Source δ) : Source δ :=
  { s with rebuildRequired := false, xrunTracker := s.xrunTracker.reset }

def latchRebuildRequired (status : IoStatus) (s : Source δ) : Source δ :=
  { s with rebuildRequired := s.rebuildRequired || status.requiresRebuild }

def onDeviceSwapped (s : Source δ) : Source δ :=
  s.resetStreamEpoch.modifyExt fun ext => { ext with primed := false, activeBuffers := 0 }

def onBuffersSwapped (s : Source δ) : Source δ :=
  s.modifyExt fun ext => { ext with activeBuffers := 0 }

/-! ## Rebuilds -/

/-- `queue_rebuild`: whether an order is in flight. -/
def queueRebuild (flushed : Bool) (s : Source δ) : Bool × Source δ :=
  if s.takeover = true ∨ flushed = false ∨ s.config = none then (false, s)
  else (true, { s with rebuildPending := true })

def queueRequiredRebuilds (flushed : Bool) (s : Source δ) : Source δ :=
  if s.rebuildRequired = true ∧ s.rebuildPending = false then (s.queueRebuild flushed).2 else s

/-- `poll_rebuild_completion`: whether the cycle skips the port. -/
def pollRebuildCompletion (completion : Completion δ) (s : Source δ) : Bool × Source δ :=
  match completion with
  | .superseded => (s.rebuildPending, s)
  | .installed dsp config quantumBytes =>
    (false,
      onDeviceSwapped
        { s with
          dsp, config := some config, deliveryQuantumBytes := quantumBytes
          rebuildPending := false })
  | .aborted => (true, { s with rebuildPending := false })
  | .retireAndRetry placeholder => (true, { s.resetStreamEpoch with dsp := placeholder })
  | .failed placeholder =>
    (true,
      onDeviceSwapped { s with dsp := placeholder, config := none, rebuildPending := false })

def pollRebuild (c : Cycle δ) (s : Source δ) : Bool × Source δ :=
  if s.takeover = true ∨ c.flushed = false then (true, s)
  else
    match c.completion with
    | none => (s.rebuildPending, s)
    | some completion => s.pollRebuildCompletion completion

/-! ## The view of the rebuilds -/

def rebuildView (s : Source δ) : RebuildView :=
  ⟨s.takeover, s.config.isSome, s.rebuildPending, s.rebuildRequired⟩

def Completion.answer : Completion δ → Answer
  | .superseded => .superseded
  | .installed .. => .installed
  | .aborted => .aborted
  | .retireAndRetry _ => .retireAndRetry
  | .failed _ => .failed

section View
variable (s : Source δ)

theorem queueRebuild_view (flushed : Bool) :
    ((s.queueRebuild flushed).1, (s.queueRebuild flushed).2.rebuildView) =
      s.rebuildView.queue flushed := by
  have hconfig : s.rebuildView.configured = false ↔ s.config = none :=
    Option.isSome_eq_false_iff.trans Option.isNone_iff_eq_none
  unfold queueRebuild RebuildView.queue
  by_cases h : s.takeover = true ∨ flushed = false ∨ s.config = none
  · rw [if_pos h, if_pos (by rwa [hconfig])]
  · rw [if_neg h, if_neg (by rwa [hconfig])]
    rfl

theorem queueRequiredRebuilds_view (flushed : Bool) :
    (s.queueRequiredRebuilds flushed).rebuildView = s.rebuildView.queueRequired flushed := by
  have hrequired : s.rebuildView.required = true ∧ s.rebuildView.pending = false ↔
      s.rebuildRequired = true ∧ s.rebuildPending = false := Iff.rfl
  unfold queueRequiredRebuilds RebuildView.queueRequired
  by_cases h : s.rebuildRequired = true ∧ s.rebuildPending = false
  · rw [if_pos h, if_pos (hrequired.mpr h)]
    exact congrArg Prod.snd (s.queueRebuild_view flushed)
  · rw [if_neg h, if_neg (mt hrequired.mp h)]

theorem pollRebuildCompletion_view (completion : Completion δ) :
    ((s.pollRebuildCompletion completion).1, (s.pollRebuildCompletion completion).2.rebuildView) =
      s.rebuildView.complete completion.answer := by
  cases completion <;> rfl

theorem pollRebuild_view (c : Cycle δ) :
    ((s.pollRebuild c).1, (s.pollRebuild c).2.rebuildView) =
      s.rebuildView.poll c.flushed (c.completion.map Completion.answer) := by
  have hskip : s.rebuildView.takeover = true ∨ c.flushed = false ↔
      s.takeover = true ∨ c.flushed = false := Iff.rfl
  unfold pollRebuild RebuildView.poll
  by_cases h : s.takeover = true ∨ c.flushed = false
  · rw [if_pos h, if_pos (hskip.mpr h)]
  · rw [if_neg h, if_neg (mt hskip.mp h)]
    cases c.completion with
    | none => rfl
    | some completion => exact s.pollRebuildCompletion_view completion

end View

/-! ## Buffer ids -/

/-- The block behind an id, where it is usable. -/
def validDataBlock (s : Source δ) (id : UInt32) : Option HostBlock :=
  s.buffers[id.toNat]?.filter fun block => block.mapped && decide (0 < block.maxsize)

/-- The ids that the host was given and has not returned. -/
def heldIds (s : Source δ) : List UInt32 := s.held.map (·.1)

/-- The ghost record of handing out `id`. -/
def handOut (id : UInt32) (s : Source δ) : Source δ :=
  { s with
    used := s.used ++ [id]
    faults := s.faults ++ if id ∈ s.used then [.handedOutAgain id] else [] }

/-- The ghost record of taking the block of `id`. -/
def takeBlock (id : UInt32) (s : Source δ) : Source δ :=
  { s with faults := s.faults ++ if id ∈ s.heldIds then [.tookHeld id] else [] }

/-- The id of the cycle: the one the host returned, or the next one never used. -/
def cycleBufferId (area : IoBuffers) (s : Source δ) : UInt32 × Source δ :=
  if area.bufferId = noBuffer then
    let id : UInt32 := .ofNat s.ext.activeBuffers
    (id, (s.modifyExt fun ext => { ext with activeBuffers := ext.activeBuffers + 1 }).handOut id)
  else (area.bufferId, s)

/-- The block of `id` after the cycle wrote it. -/
def setBlock (id : UInt32) (block : HostBlock) (s : Source δ) : Source δ :=
  { s with buffers := s.buffers.set id.toNat block }

end Source

end PwOss.Node
