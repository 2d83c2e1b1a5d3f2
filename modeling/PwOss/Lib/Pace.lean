import Mathlib.Data.List.Count

/-
  Admissions that a moving deadline spaces out.

  An admission at `now` needs a deadline of at most `now + slack`, and moves the deadline
  on by at least `gap`; at other times the deadline never goes back. Then the admissions
  up to a time are at most one for each `gap` since the first deadline, and one more,
  whatever the order of their times.
-/

namespace PwOss.Pace

/-- How many admissions lie at or before `t`. -/
def upTo (admitted : List Nat) (t : Nat) : Nat := admitted.countP fun now => decide (now ≤ t)

/-- The admissions, last first, that brought a deadline from `first` to `deadline`. -/
structure Spaced (slack gap first deadline : Nat) (admitted : List Nat) : Prop where
  /-- Each admission took a gap. -/
  spent : first + admitted.length * gap ≤ deadline
  /-- The last one up to `t` came after the gaps of those before it. -/
  late : ∀ t, 0 < upTo admitted t → first + (upTo admitted t - 1) * gap ≤ t + slack

variable {slack gap first deadline deadline' now : Nat} {admitted : List Nat}

theorem upTo_le_length (t : Nat) : upTo admitted t ≤ admitted.length := List.countP_le_length

theorem upTo_cons_of_le {t : Nat} (h : now ≤ t) :
    upTo (now :: admitted) t = upTo admitted t + 1 :=
  List.countP_cons_of_pos (decide_eq_true h)

theorem upTo_cons_of_lt {t : Nat} (h : t < now) : upTo (now :: admitted) t = upTo admitted t :=
  List.countP_cons_of_neg (by simpa using h)

theorem Spaced.start (slack gap first : Nat) : Spaced slack gap first first [] where
  spent := Nat.le_of_eq (by rw [List.length_nil, Nat.zero_mul, Nat.add_zero])
  late _ h := absurd h (Nat.lt_irrefl 0)

theorem Spaced.admit (h : Spaced slack gap first deadline admitted)
    (hnow : deadline ≤ now + slack) (hgap : deadline + gap ≤ deadline') :
    Spaced slack gap first deadline' (now :: admitted) where
  spent := by
    have hspent := h.spent
    rw [List.length_cons, Nat.add_mul, Nat.one_mul]
    omega
  late t ht := by
    rcases Nat.lt_or_ge t now with hlater | hby
    · rw [upTo_cons_of_lt hlater] at ht ⊢
      exact h.late t ht
    · -- All earlier admissions have taken their gap from this deadline.
      rw [upTo_cons_of_le hby, Nat.add_sub_cancel]
      have hearlier : upTo admitted t * gap ≤ admitted.length * gap :=
        Nat.mul_le_mul_right _ (upTo_le_length t)
      have hspent := h.spent
      omega

theorem Spaced.none_before (h : Spaced slack gap first deadline admitted) {t : Nat}
    (ht : t + slack < first) : upTo admitted t = 0 := by
  rcases Nat.eq_zero_or_pos (upTo admitted t) with hzero | hpos
  · exact hzero
  · have hlate := h.late t hpos
    omega

theorem Spaced.upTo_le (h : Spaced slack gap first deadline admitted) (hgap : 0 < gap) (t : Nat) :
    upTo admitted t ≤ (t + slack - first) / gap + 1 := by
  rcases Nat.eq_zero_or_pos (upTo admitted t) with hzero | hpos
  · rw [hzero]
    exact Nat.zero_le _
  · have hlate := h.late t hpos
    have hgaps : (upTo admitted t - 1) * gap ≤ t + slack - first := by omega
    have hcount : upTo admitted t - 1 ≤ (t + slack - first) / gap :=
      (Nat.le_div_iff_mul_le hgap).mpr hgaps
    omega

end PwOss.Pace
