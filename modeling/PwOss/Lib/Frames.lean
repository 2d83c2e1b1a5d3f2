/-
  A stream of elements cut into frames of a fixed length, and the frames in which a
  transfer stopped.

  `cuts` lists the positions at which transfers ended. `Torn stride cuts i` says that
  one of them lies inside frame `i`, and `untorn` is the stream without those frames:
  as the stream grows, its complete frames only ever gain frames at the end.
-/

namespace PwOss.Frames

variable {α : Type} {stride : Nat}

/-- Frame `i` of the stream. -/
def frame (stride : Nat) (l : List α) (i : Nat) : List α := (l.drop (i * stride)).take stride

/-- Some transfer ended inside frame `i`. -/
def Torn (stride : Nat) (cuts : List Nat) (i : Nat) : Prop :=
  ∃ cut ∈ cuts, i * stride < cut ∧ cut < (i + 1) * stride

instance (stride : Nat) (cuts : List Nat) (i : Nat) : Decidable (Torn stride cuts i) := by
  unfold Torn
  infer_instance

/-- The complete frames of the stream in which no transfer ended. -/
def untorn (stride : Nat) (cuts : List Nat) (l : List α) : List α :=
  (List.range (l.length / stride)).flatMap fun i =>
    if Torn stride cuts i then [] else frame stride l i

/-! ## Frames of a longer stream -/

theorem frame_append_left {l : List α} {i : Nat} (h : (i + 1) * stride ≤ l.length) (m : List α) :
    frame stride (l ++ m) i = frame stride l i := by
  rw [Nat.succ_mul] at h
  unfold frame
  rw [List.drop_append_of_le_length (by omega), List.take_append_of_le_length]
  rw [List.length_drop]
  omega

theorem frame_append_right {l : List α} {q : Nat} (h : l.length = q * stride) (m : List α)
    (i : Nat) : frame stride (l ++ m) (q + i) = frame stride m i := by
  unfold frame
  rw [Nat.add_mul, ← h, List.drop_append, List.drop_eq_nil_of_le (Nat.le_add_right _ _),
    List.nil_append, Nat.add_sub_cancel_left]

/-- Whole frames in a row are a prefix of the stream. -/
theorem flatMap_frame (m : List α) : ∀ {k : Nat}, k * stride ≤ m.length →
    (List.range k).flatMap (frame stride m) = m.take (k * stride)
  | 0, _ => by
    rw [Nat.zero_mul]
    rfl
  | k + 1, h => by
    rw [Nat.succ_mul] at h ⊢
    rw [List.range_succ, List.flatMap_append, flatMap_frame m (by omega), List.flatMap_singleton,
      frame, List.take_add]

theorem flatMap_congr {β : Type} {l : List Nat} {f g : Nat → List β} (h : ∀ i ∈ l, f i = g i) :
    l.flatMap f = l.flatMap g := by
  rw [List.flatMap_def, List.flatMap_def, List.map_congr_left h]

/-! ## Torn frames -/

theorem torn_append {cuts cuts' : List Nat} {i : Nat} :
    Torn stride (cuts ++ cuts') i ↔ Torn stride cuts i ∨ Torn stride cuts' i := by
  unfold Torn
  constructor
  · rintro ⟨cut, hcut, h⟩
    rcases List.mem_append.mp hcut with hcut | hcut
    · exact .inl ⟨cut, hcut, h⟩
    · exact .inr ⟨cut, hcut, h⟩
  · rintro (⟨cut, hcut, h⟩ | ⟨cut, hcut, h⟩)
    · exact ⟨cut, List.mem_append_left _ hcut, h⟩
    · exact ⟨cut, List.mem_append_right _ hcut, h⟩

/-- A transfer that ends behind a frame does not tear it. -/
theorem not_torn_singleton {cut i : Nat} (h : (i + 1) * stride ≤ cut) : ¬Torn stride [cut] i := by
  rintro ⟨c, hc, -, hlt⟩
  rw [List.mem_singleton.mp hc] at hlt
  omega

/-- Transfers that all end before a frame do not tear it. -/
theorem not_torn_of_le {cuts : List Nat} {i : Nat} (h : ∀ cut ∈ cuts, cut ≤ i * stride) :
    ¬Torn stride cuts i := by
  rintro ⟨cut, hcut, hlt, -⟩
  have := h cut hcut
  omega

/-- The complete frames so far stay as they are when the stream grows. -/
theorem untorn_prefix (l m : List α) (cuts : List Nat) {cut q : Nat} (hq : q * stride ≤ l.length)
    (hcut : q * stride ≤ cut) :
    ((List.range q).flatMap fun i =>
        if Torn stride (cuts ++ [cut]) i then [] else frame stride (l ++ m) i) =
      (List.range q).flatMap fun i => if Torn stride cuts i then [] else frame stride l i := by
  refine flatMap_congr fun i hi => ?_
  have hle : (i + 1) * stride ≤ q * stride := Nat.mul_le_mul_right _ (List.mem_range.mp hi)
  have htorn : Torn stride (cuts ++ [cut]) i ↔ Torn stride cuts i := by
    rw [torn_append, or_iff_left (not_torn_singleton (Nat.le_trans hle hcut))]
  rw [frame_append_left (Nat.le_trans hle hq)]
  by_cases h : Torn stride cuts i
  · rw [if_pos h, if_pos (htorn.mpr h)]
  · rw [if_neg h, if_neg (mt htorn.mp h)]

/-- A transfer that stays within a torn frame adds nothing. -/
theorem untorn_within (hpos : 0 < stride) (l m : List α) {cuts : List Nat}
    (htorn : Torn stride cuts (l.length / stride))
    (hm : l.length + m.length ≤ (l.length / stride + 1) * stride) :
    untorn stride (cuts ++ [l.length + m.length]) (l ++ m) = untorn stride cuts l := by
  have hle : l.length / stride * stride ≤ l.length := Nat.div_mul_le_self _ _
  have hprefix := untorn_prefix l m cuts hle (Nat.le_add_right_of_le (k := m.length) hle)
  unfold untorn
  rw [List.length_append]
  by_cases hend : l.length + m.length = (l.length / stride + 1) * stride
  · -- The torn frame is complete.
    have hdiv : (l.length + m.length) / stride = l.length / stride + 1 := by
      rw [hend, Nat.mul_div_cancel _ hpos]
    rw [hdiv, List.range_succ, List.flatMap_append, List.flatMap_singleton,
      if_pos (torn_append.mpr (.inl htorn)), List.append_nil, hprefix]
  · have hdiv : (l.length + m.length) / stride = l.length / stride := by
      refine Nat.le_antisymm ?_ (Nat.div_le_div_right (Nat.le_add_right _ _))
      exact Nat.le_of_lt_succ ((Nat.div_lt_iff_lt_mul hpos).mpr (Nat.lt_of_le_of_ne hm hend))
    rw [hdiv, hprefix]

/-- A transfer from a frame boundary adds its whole frames. -/
theorem untorn_append (hpos : 0 < stride) (l m : List α) {cuts : List Nat}
    (hl : stride ∣ l.length) (hcuts : ∀ cut ∈ cuts, cut ≤ l.length) :
    untorn stride (cuts ++ [l.length + m.length]) (l ++ m) =
      untorn stride cuts l ++ m.take (m.length - m.length % stride) := by
  obtain ⟨q, hq⟩ := hl
  rw [Nat.mul_comm] at hq
  have hlq : l.length / stride = q := by rw [hq, Nat.mul_div_cancel _ hpos]
  have hdiv : (l.length + m.length) / stride = q + m.length / stride := by
    rw [hq, Nat.add_comm, Nat.add_mul_div_right _ _ hpos, Nat.add_comm]
  have hwhole : m.length / stride * stride = m.length - m.length % stride := by
    have := Nat.div_add_mod m.length stride
    rw [Nat.mul_comm] at this
    omega
  unfold untorn
  rw [List.length_append, hdiv, hlq, List.range_add, List.flatMap_append,
    untorn_prefix l m cuts (Nat.le_of_eq hq.symm) (by omega), List.flatMap_map, ← hwhole,
    ← flatMap_frame m (Nat.div_mul_le_self _ _)]
  congr 1
  refine flatMap_congr fun i hi => ?_
  have hi' : (i + 1) * stride ≤ m.length / stride * stride :=
    Nat.mul_le_mul_right _ (List.mem_range.mp hi)
  have hle := Nat.div_mul_le_self m.length stride
  have hnot : ¬Torn stride (cuts ++ [l.length + m.length]) (q + i) := by
    rw [torn_append, not_or]
    constructor
    · refine not_torn_of_le fun cut hcut => ?_
      have := hcuts cut hcut
      rw [Nat.add_mul]
      omega
    · apply not_torn_singleton
      rw [Nat.add_assoc, Nat.add_mul, ← hq]
      omega
  rw [if_neg hnot, frame_append_right hq]

/-- A transfer from a frame boundary that ends inside a frame tears it. -/
theorem torn_last (hpos : 0 < stride) {l m : Nat} {cuts : List Nat} (hl : stride ∣ l)
    (hm : m % stride ≠ 0) : Torn stride (cuts ++ [l + m]) ((l + m) / stride) := by
  have hmod : (l + m) % stride = m % stride := by
    obtain ⟨q, rfl⟩ := hl
    rw [Nat.mul_add_mod]
  have hdiv := Nat.div_add_mod (l + m) stride
  have hlt := Nat.mod_lt (l + m) hpos
  rw [Nat.mul_comm] at hdiv
  refine ⟨l + m, List.mem_append_right _ (List.mem_singleton_self _), ?_, ?_⟩
  · omega
  · rw [Nat.succ_mul]
    omega

end PwOss.Frames
