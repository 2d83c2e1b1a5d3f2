import Mathlib.Algebra.GroupWithZero.Nat
import PwOss.Backend.Stream

/-
  The playback side of the backend contract in `backend/mod.rs`: the silence
  encoding of a stream, the buffer geometry a backend grants and the answers of
  its retune and pause operations.

  Byte counts are `u32` in the source: sums and products saturate through
  `satAdd` and `satMul`, `saturating_sub` is the subtraction of `Nat`.
-/

namespace PwOss.Backend

def u32Max : Nat := 2 ^ 32 - 1

/-- `u32::saturating_add`. -/
def satAdd (a b : Nat) : Nat := min (a + b) u32Max

/-- `u32::saturating_mul`. -/
def satMul (a b : Nat) : Nat := min (a * b) u32Max

/-- A sum that did not reach the bound is exact. -/
theorem satAdd_exact {a b : Nat} (h : satAdd a b < u32Max) : satAdd a b = a + b := by
  unfold satAdd at *
  omega

theorem satMul_exact {a b : Nat} (h : satMul a b < u32Max) : satMul a b = a * b := by
  unfold satMul at *
  omega

theorem satAdd_le (a b : Nat) : satAdd a b ≤ a + b := Nat.min_le_left ..

theorem satMul_le (a b : Nat) : satMul a b ≤ a * b := Nat.min_le_left ..

theorem satAdd_mono {a b c d : Nat} (hab : a ≤ b) (hcd : c ≤ d) : satAdd a c ≤ satAdd b d := by
  unfold satAdd
  omega

theorem satMul_mono {a b : Nat} (h : a ≤ b) (c : Nat) : satMul a c ≤ satMul b c := by
  have hmul : a * c ≤ b * c := Nat.mul_le_mul_right c h
  unfold satMul
  omega

/-- `SilencePattern`: the bytes of one silent sample, repeated within a frame. -/
structure SilencePattern where
  pattern : List UInt8
  frameMultiple : Nat
  nonempty : pattern ≠ []

namespace SilencePattern

theorem zero_ne_nil : [(0 : UInt8)] ≠ [] := by simp

/-- `SilencePattern::zero`. -/
def zero (frameMultiple : Nat) : SilencePattern := ⟨[0], frameMultiple, zero_ne_nil⟩

/-- The silent byte at an offset into an interleaved frame. -/
def byteAt (p : SilencePattern) (offset : Nat) : UInt8 :=
  p.pattern.getD (offset % max p.frameMultiple 1 % p.pattern.length) 0

/-- `fill_at`: `len` bytes of silence from `frameOffset` bytes into a frame. -/
def fillAt (p : SilencePattern) (frameOffset len : Nat) : List UInt8 :=
  (List.range len).map fun index => p.byteAt (frameOffset + index)

@[simp] theorem length_fillAt (p : SilencePattern) (frameOffset len : Nat) :
    (p.fillAt frameOffset len).length = len := by
  simp [fillAt]

/-- `uniform_byte`: the repeated byte of an encoding that a byte fill produces. -/
def uniformByte (p : SilencePattern) : Option UInt8 :=
  if p.pattern.all (· == p.pattern.head p.nonempty) then some (p.pattern.head p.nonempty) else none

/-! ## Silence by frame phase -/

theorem byteAt_mod (p : SilencePattern) (h : 0 < p.frameMultiple) (offset : Nat) :
    p.byteAt (offset % p.frameMultiple) = p.byteAt offset := by
  unfold byteAt
  rw [Nat.max_eq_left h, Nat.mod_mod]

theorem fillAt_mod (p : SilencePattern) (h : 0 < p.frameMultiple) (offset len : Nat) :
    p.fillAt (offset % p.frameMultiple) len = p.fillAt offset len := by
  unfold fillAt
  refine List.map_congr_left fun index _ => ?_
  rw [← byteAt_mod p h, Nat.mod_add_mod, byteAt_mod p h]

theorem fillAt_append (p : SilencePattern) (offset a b : Nat) :
    p.fillAt offset (a + b) = p.fillAt offset a ++ p.fillAt (offset + a) b := by
  unfold fillAt
  rw [List.range_add, List.map_append, List.map_map]
  congr 1
  refine List.map_congr_left fun index _ => ?_
  rw [Function.comp_apply, Nat.add_assoc]

theorem take_fillAt (p : SilencePattern) (offset len k : Nat) :
    (p.fillAt offset len).take k = p.fillAt offset (min k len) := by
  unfold fillAt
  rw [← List.map_take, List.take_range]

theorem drop_fillAt (p : SilencePattern) {len k : Nat} (h : k ≤ len) (offset : Nat) :
    (p.fillAt offset len).drop k = p.fillAt (offset + k) (len - k) := by
  have hsplit := fillAt_append p offset k (len - k)
  rw [Nat.add_sub_cancel' h] at hsplit
  rw [hsplit, List.drop_append_of_le_length (Nat.le_of_eq (length_fillAt ..).symm),
    List.drop_eq_nil_of_le (Nat.le_of_eq (length_fillAt ..)), List.nil_append]

/-- A uniform encoding is silent with one byte. -/
theorem fillAt_uniform (p : SilencePattern) {byte : UInt8} (h : p.uniformByte = some byte)
    (offset len : Nat) : p.fillAt offset len = List.replicate len byte := by
  unfold uniformByte at h
  split at h
  · next hall =>
    rw [Option.some.injEq] at h
    rw [List.all_eq_true] at hall
    refine List.eq_replicate_iff.mpr ⟨length_fillAt .., fun b hb => ?_⟩
    obtain ⟨index, -, rfl⟩ := List.mem_map.mp hb
    have hlt : (offset + index) % max p.frameMultiple 1 % p.pattern.length < p.pattern.length :=
      Nat.mod_lt _ (List.length_pos_iff.mpr p.nonempty)
    have hbyte := hall _ (List.getElem_mem hlt)
    rw [byteAt, List.getD_eq_getElem?_getD, List.getElem?_eq_getElem hlt, Option.getD_some,
      beq_iff_eq.mp hbyte, h]
  · cases h

end SilencePattern

/-- `PlaybackBufferRequest`. -/
structure PlaybackBufferRequest where
  periodBytes : Nat
  /-- Zero in a live retune: the granted ring is kept. -/
  graphRate : Nat
  stride : Nat
  deviceRate : Nat
  writeBytes : Nat
  maximumWriteBytes : Nat
  deriving DecidableEq

/-- `PlaybackBufferGeometry`. -/
structure PlaybackBufferGeometry where
  capacityBytes : Nat
  quantumBytes : Nat
  targetFillBytes : Nat
  targetGoalBytes : Nat
  minimumFillBytes : Nat
  requiredCapacityBytes : Nat
  delayCapped : Bool
  deriving DecidableEq

/-- `PlaybackRetune`. -/
inductive PlaybackRetune where
  | unchanged
  | pending
  | applied (geometry : PlaybackBufferGeometry)
  | reprime
  | rebuild
  deriving DecidableEq

/-- `PauseOutcome`. -/
inductive PauseOutcome where
  | preserved
  | reprime
  deriving DecidableEq

namespace WriteOutcome

/-- `WriteOutcome::consumed`. -/
def consumed (bytes : Nat) : WriteOutcome := ⟨bytes, .progress⟩

/-- `WriteOutcome::would_block`. -/
def wouldBlock (w : WriteOutcome) : Bool := w.bytes == 0 && w.status == .wouldBlock

/-- `WriteOutcome::retryable_partial`. -/
def retryablePartial (w : WriteOutcome) : Bool :=
  match w.status with
  | .progress | .wouldBlock | .recoveredXrun => true
  | _ => false

end WriteOutcome

end PwOss.Backend
