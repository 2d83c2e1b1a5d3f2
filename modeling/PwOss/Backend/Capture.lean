import PwOss.Backend.Xrun

/-
  The capture side of the backend contract in `backend/mod.rs`.

  `CaptureOperations` is the trait: the source node runs over any implementation of
  it, whose state is `δ`. An operation that panics takes the process down, so only
  those that return are there.

  Correspondence (Rust ↔ Lean):
    `CaptureBufferRequest`, `CaptureBufferGeometry`,
      `CaptureRetune`                        ↔ the same names
    `ReadOutcome`                            ↔ `ReadOutcome`, with the bytes it stored
    `CaptureOperations`, `StreamLifecycle`   ↔ `CaptureOperations`
    `SilencePattern::for_config`             ↔ `silentSample`, `SilencePattern.forConfig`
-/

namespace PwOss.Backend

structure CaptureBufferRequest where
  periodBytes : Nat
  /-- Zero in a live retune: the granted ring is kept. -/
  graphRate : Nat
  stride : Nat
  deviceRate : Nat
  deriving DecidableEq

structure CaptureBufferGeometry where
  capacityBytes : Nat
  quantumBytes : Nat
  targetFillBytes : Nat
  peakFillBytes : Nat
  requiredCapacityBytes : Nat
  deviceLost : Bool
  deriving DecidableEq

inductive CaptureRetune where
  | unchanged
  | pending
  | applied (geometry : CaptureBufferGeometry)
  | reprime
  | rebuild
  deriving DecidableEq

/-- The outcome of a read into `len` bytes: what it stored there, of which it reports
the first `bytes`. -/
structure ReadOutcome (len : Nat) where
  stored : List UInt8
  bytes : Nat
  status : IoStatus
  bytes_le : bytes ≤ stored.length
  stored_le : stored.length ≤ len

/-- The operations of a capture stream in the state `δ`. -/
structure CaptureOperations (δ : Type) where
  isClosed : δ → Bool
  isRunning : δ → Bool
  queuedBytes : δ → Nat
  /-- Observing may reset the counter. -/
  overruns : δ → XrunObservation × δ
  /-- The scratch block comes back with whatever the backlog left in it. -/
  primeBuffer : CaptureBufferRequest → (scratch : List UInt8) → δ →
    (CaptureBufferGeometry × { filled : List UInt8 // filled.length = scratch.length }) × δ
  retuneBuffer : CaptureBufferRequest → Bool → δ → CaptureRetune × δ
  read : (len : Nat) → δ → ReadOutcome len × δ
  /-- Whether recovery was selected, and whether it reset the event epoch. -/
  recoverOverrun : Nat → Option Nat → δ → Option Bool × δ
  clearOverrunObservation : δ → δ

/-! ## Silence of a format -/

/-- A sample of silence, for the SPA formats whose silence is not zero. -/
def silentSample (format : UInt32) : Option { sample : List UInt8 // sample ≠ [] } :=
  match format with
  | 0x102 | 0x201 => some ⟨[0x80], by simp⟩
  | 0x105 => some ⟨[0x00, 0x80], by simp⟩
  | 0x106 => some ⟨[0x80, 0x00], by simp⟩
  | 0x111 => some ⟨[0x00, 0x00, 0x80], by simp⟩
  | 0x112 => some ⟨[0x80, 0x00, 0x00], by simp⟩
  | 0x115 => some ⟨[0x00, 0x00, 0x08], by simp⟩
  | 0x116 => some ⟨[0x08, 0x00, 0x00], by simp⟩
  | 0x119 => some ⟨[0x00, 0x00, 0x02], by simp⟩
  | 0x11a => some ⟨[0x02, 0x00, 0x00], by simp⟩
  | 0x109 => some ⟨[0x00, 0x00, 0x80, 0x00], by simp⟩
  | 0x10a => some ⟨[0x00, 0x80, 0x00, 0x00], by simp⟩
  | 0x10d => some ⟨[0x00, 0x00, 0x00, 0x80], by simp⟩
  | 0x10e => some ⟨[0x80, 0x00, 0x00, 0x00], by simp⟩
  | 0x11f => some ⟨[0xff], by simp⟩
  | 0x120 => some ⟨[0x55], by simp⟩
  | _ => none

/-- `for_config`. -/
def SilencePattern.forConfig (config : StreamConfig) : SilencePattern :=
  let sample := (silentSample config.format).getD ⟨[0], SilencePattern.zero_ne_nil⟩
  ⟨sample.1, max config.stride.toNat 1, sample.2⟩

end PwOss.Backend
