import Mathlib.Algebra.Order.Floor.Div
import Mathlib.Tactic.Linarith
import Mathlib.Tactic.Ring

/-
  Frames counted at one rate, measured in ticks, and counted again at another rate.

  `frames` frames at the rate `r` are the least whole number of frames at the rate
  `R` that hold them (`exactFrames`). Their duration in ticks of a `unit`-th second is
  a floor, its bytes at the rate `R` are another, and the frames of these bytes are a
  ceiling again (`tickFrames`). The ticks never give more frames, and
  `exactFrames_le_iff` says exactly when they give at most `d` fewer: the two
  remainders that the way through ticks drops have to fit into `d` frames and the
  bytes that the last ceiling restores.
-/

namespace PwOss.Rounding

/-- The frames at the rate `R` that hold `frames` frames at the rate `r`. -/
def exactFrames (frames r R : Nat) : Nat := frames * R ⌈/⌉ r

/-- The whole ticks that `frames` frames at the rate `r` last. -/
def ticks (unit frames r : Nat) : Nat := frames * unit / r

/-- The frames of `stride` bytes at the rate `R` that hold the whole bytes of `t` ticks. -/
def tickFrames (unit t R stride : Nat) : Nat := t * R * stride / unit ⌈/⌉ stride

/-- What `frames * R` lacks of a multiple of `r`: the ceiling of `exactFrames` adds it. -/
def excess (frames r R : Nat) : Nat := (r - frames * R % r) % r

variable {unit frames r R stride : Nat}

theorem le_exactFrames_mul (hr : 0 < r) : frames * R ≤ exactFrames frames r R * r := by
  rw [Nat.mul_comm (exactFrames frames r R)]
  exact le_smul_ceilDiv hr

theorem exactFrames_mul (hr : 0 < r) :
    exactFrames frames r R * r = frames * R + excess frames r R := by
  have hle : frames * R ≤ exactFrames frames r R * r := le_exactFrames_mul hr
  have hlast : exactFrames frames r R * r ≤ frames * R + r - 1 := Nat.div_mul_le_self ..
  have hsplit := Nat.div_add_mod (frames * R) r
  have hlt := Nat.mod_lt (frames * R) hr
  unfold excess
  generalize frames * R % r = m at hsplit hlt ⊢
  generalize frames * R / r = q at hsplit
  generalize exactFrames frames r R = k at hle hlast ⊢
  rw [← hsplit, Nat.mul_comm r q] at hle hlast ⊢
  by_cases hm : m = 0
  · subst hm
    have hkq : k = q := by
      apply Nat.le_antisymm
      · exact Nat.le_of_lt_succ (Nat.lt_of_mul_lt_mul_right (a := r) (by rw [Nat.succ_mul]; omega))
      · exact Nat.le_of_mul_le_mul_right hle hr
    simp [hkq]
  · have hkq : k = q + 1 := by
      apply Nat.le_antisymm
      · apply Nat.le_of_lt_succ
        exact Nat.lt_of_mul_lt_mul_right (a := r) (by rw [Nat.succ_mul, Nat.succ_mul]; omega)
      · exact Nat.lt_of_mul_lt_mul_right (a := r) (by omega)
    rw [hkq, Nat.succ_mul, Nat.mod_eq_of_lt (by omega)]
    omega

theorem excess_self (frames r : Nat) : excess frames r r = 0 := by
  simp [excess]

theorem tickFrames_le_iff (hs : 0 < stride) {t k : Nat} :
    tickFrames unit t R stride ≤ k ↔ t * R * stride / unit ≤ stride * k :=
  ceilDiv_le_iff_le_mul hs

/-- The ticks give no more frames. -/
theorem tickFrames_le (hr : 0 < r) (hs : 0 < stride) :
    tickFrames unit (ticks unit frames r) R stride ≤ exactFrames frames r R := by
  rw [tickFrames_le_iff hs]
  apply Nat.div_le_of_le_mul
  apply Nat.le_of_mul_le_mul_right (c := r) _ hr
  have hticks : ticks unit frames r * r ≤ frames * unit := Nat.div_mul_le_self ..
  calc ticks unit frames r * R * stride * r
      = ticks unit frames r * r * (R * stride) := by ring
    _ ≤ frames * unit * (R * stride) := Nat.mul_le_mul_right _ hticks
    _ = frames * R * (unit * stride) := by ring
    _ ≤ exactFrames frames r R * r * (unit * stride) :=
      Nat.mul_le_mul_right _ (le_exactFrames_mul hr)
    _ = unit * (stride * exactFrames frames r R) * r := by ring

/-- The ticks give at most `d` frames fewer exactly when what they drop fits. -/
theorem exactFrames_le_iff (hu : 0 < unit) (hr : 0 < r) (hs : 0 < stride) (d : Nat) :
    exactFrames frames r R ≤ tickFrames unit (ticks unit frames r) R stride + d ↔
      stride * (unit * excess frames r R + frames * unit % r * R) + unit * r ≤
        (d + 1) * stride * unit * r := by
  have hsum : exactFrames frames r R * r = frames * R + excess frames r R := exactFrames_mul hr
  generalize exactFrames frames r R = k at hsum ⊢
  generalize excess frames r R = b at hsum ⊢
  have hticks : ticks unit frames r * r + frames * unit % r = frames * unit := by
    rw [Nat.mul_comm (ticks unit frames r)]
    exact Nat.div_add_mod ..
  generalize ticks unit frames r = t at hticks ⊢
  generalize frames * unit % r = a at hticks ⊢
  -- what is dropped on the way and what the first ceiling adds, over the exact frames
  have hkey : t * R * stride * r + stride * (unit * b + a * R) = unit * stride * (k * r) := by
    calc t * R * stride * r + stride * (unit * b + a * R)
        = (t * r + a) * (R * stride) + unit * stride * b := by ring
      _ = frames * unit * (R * stride) + unit * stride * b := by rw [hticks]
      _ = unit * stride * (frames * R + b) := by ring
      _ = unit * stride * (k * r) := by rw [← hsum]
  by_cases hkd : k ≤ d
  · constructor
    · intro _
      have hle : unit * stride * (k * r) ≤ unit * stride * (d * r) :=
        Nat.mul_le_mul_left _ (Nat.mul_le_mul_right r hkd)
      have hone : unit * r ≤ unit * r * stride := Nat.le_mul_of_pos_right _ hs
      have hdropped : stride * (unit * b + a * R) ≤ unit * stride * (k * r) := by omega
      calc stride * (unit * b + a * R) + unit * r
          ≤ unit * stride * (d * r) + unit * r * stride :=
            Nat.add_le_add (Nat.le_trans hdropped hle) hone
        _ = (d + 1) * stride * unit * r := by ring
    · intro _
      omega
  · obtain ⟨j, rfl⟩ := Nat.exists_eq_add_of_lt (Nat.lt_of_not_le hkd)
    have hstep : d + j + 1 ≤ tickFrames unit t R stride + d ↔
        (stride * j + 1) * unit ≤ t * R * stride := by
      have hfew : tickFrames unit t R stride ≤ j ↔ t * R * stride / unit ≤ stride * j :=
        tickFrames_le_iff hs
      rw [← Nat.le_div_iff_mul_le hu]
      omega
    rw [hstep, ← Nat.mul_le_mul_right_iff hr]
    constructor
    · intro h
      linarith
    · intro h
      linarith

end PwOss.Rounding
