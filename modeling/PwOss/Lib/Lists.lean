import Mathlib.Data.List.Basic
import Mathlib.Data.List.Nodup

/-
  Lists by position, the entries that a partial function makes of a list, and those
  that it makes of what lies ahead of a mark in the list.

  Two lists of one length have an entry at the same positions, and overwriting an entry
  is seen at its own position alone. What `filterMap` makes of a list is what it makes
  of the head followed by what it makes of the tail, and the last entry made is that of
  the tail, if it makes one. Marks of which it makes nothing may come, go and trade
  places: what lies ahead of the other ones stays the same.
-/

namespace PwOss.Lists

variable {α β γ : Type}

/-! ## Positions -/

/-- An entry of a list has a counterpart in a list of the same length. -/
theorem exists_getElem?_of_length {xs : List α} {ys : List β} (h : ys.length = xs.length)
    {k : Nat} {x : α} (hx : xs[k]? = some x) : ∃ y, ys[k]? = some y := by
  have hk : k < xs.length := (List.getElem?_eq_some_iff.mp hx).1
  exact ⟨_, List.getElem?_eq_getElem (h ▸ hk)⟩

theorem set_eq_self {l : List α} {i : Nat} {a : α} (h : l[i]? = some a) : l.set i a = l := by
  obtain ⟨hi, rfl⟩ := List.getElem?_eq_some_iff.mp h
  exact List.set_getElem_self hi

theorem getElem?_set_of {l : List α} {i : Nat} {a b : α} (h : l[i]? = some a) :
    (l.set i b)[i]? = some b :=
  List.getElem?_set_self (List.getElem?_eq_some_iff.mp h).1

/-- An entry that occurs once leaves its two sides. -/
theorem filter_ne_middle [DecidableEq α] {xs ys : List α} {a : α} (h : (xs ++ a :: ys).Nodup) :
    (xs ++ a :: ys).filter (· ≠ a) = xs ++ ys := by
  have hout : a ∉ xs ++ ys := (List.nodup_middle.mp h).notMem
  have hkeep : (xs ++ ys).filter (· ≠ a) = xs ++ ys := by
    rw [List.filter_eq_self]
    intro b hb
    simpa using ne_of_mem_of_not_mem hb hout
  rw [← hkeep, List.filter_append, List.filter_append, List.filter_cons_of_neg (by simp)]

/-! ## Partial maps -/

theorem filterMap_cons_toList (f : α → Option β) (a : α) (l : List α) :
    (a :: l).filterMap f = (f a).toList ++ l.filterMap f := by
  rw [List.filterMap_eq_flatMap_toList, List.flatMap_cons, ← List.filterMap_eq_flatMap_toList]

/-- A later entry replaces an earlier one. -/
theorem getLast?_filterMap_cons (f : α → Option β) (g : β → γ) (v : α) (vs : List α) (x : γ) :
    (((v :: vs).filterMap f).getLast?.map g).getD x =
      ((vs.filterMap f).getLast?.map g).getD (((f v).map g).getD x) := by
  cases hv : f v with
  | none =>
    rw [List.filterMap_cons_none hv]
    rfl
  | some a =>
    rw [List.filterMap_cons_some hv, List.getLast?_cons]
    cases (vs.filterMap f).getLast? <;> rfl

/-- Entries of which nothing is made can be left out. -/
theorem filterMap_filter_of {f : α → Option β} {p : α → Bool} {l : List α}
    (h : ∀ a ∈ l, p a = false → f a = none) : (l.filter p).filterMap f = l.filterMap f := by
  rw [List.filterMap_filter]
  apply List.filterMap_congr
  intro a ha
  by_cases hp : p a = true
  · rw [if_pos hp]
  · rw [if_neg hp, h a ha (by simpa using hp)]

/-- A test of the entries is one of what they make. -/
theorem filterMap_filter_comm {f : α → Option β} {p : α → Bool} {q : β → Bool} {l : List α}
    (h : ∀ a ∈ l, ∀ b, f a = some b → q b = p a) :
    (l.filter p).filterMap f = (l.filterMap f).filter q := by
  induction l with
  | nil => rfl
  | cons a l ih =>
    have ih := ih fun x hx => h x (List.mem_cons_of_mem a hx)
    have ha := h a (List.mem_cons_self ..)
    cases hf : f a with
    | none =>
      rw [List.filterMap_cons_none hf, ← ih]
      by_cases hp : p a = true
      · rw [List.filter_cons_of_pos hp, List.filterMap_cons_none hf]
      · rw [List.filter_cons_of_neg hp]
    | some b =>
      rw [List.filterMap_cons_some hf]
      by_cases hp : p a = true
      · have hq : q b = true := (ha b hf).trans hp
        rw [List.filter_cons_of_pos hp, List.filterMap_cons_some hf, List.filter_cons_of_pos hq,
          ih]
      · have hq : ¬ q b = true := by rwa [ha b hf]
        rw [List.filter_cons_of_neg hp, List.filter_cons_of_neg hq, ih]

/-! ## Ahead of a mark -/

section Ahead
variable [DecidableEq α] {c x y : α} {l k : List α} {f : α → Option β}

/-- The entries after the first `c`. -/
def after (c : α) : List α → List α
  | [] => []
  | a :: l => if a = c then l else after c l

/-- What is made of the entries after the first `c`. -/
def ahead (f : α → Option β) (c : α) (l : List α) : List β := (after c l).filterMap f

theorem after_cons_self (c : α) (l : List α) : after c (c :: l) = l := if_pos rfl

theorem after_cons_of_ne (h : x ≠ c) (l : List α) : after c (x :: l) = after c l := if_neg h

theorem after_sublist (c : α) (l : List α) : (after c l).Sublist l := by
  induction l with
  | nil => exact .slnil
  | cons a l ih =>
    by_cases h : a = c
    · rw [h, after_cons_self]
      exact .cons c (.refl l)
    · rw [after_cons_of_ne h]
      exact .cons a ih

theorem after_append (h : c ∈ l) : after c (l ++ k) = after c l ++ k := by
  induction l with
  | nil => cases h
  | cons a l ih =>
    by_cases ha : a = c
    · rw [ha, List.cons_append, after_cons_self, after_cons_self]
    · have hl : c ∈ l := (List.mem_cons.mp h).resolve_left (Ne.symm ha)
      rw [List.cons_append, after_cons_of_ne ha, after_cons_of_ne ha, ih hl]

theorem after_append_cons (h : c ∉ l) : after c (l ++ c :: k) = k := by
  induction l with
  | nil => exact after_cons_self c k
  | cons a l ih =>
    have ha : a ≠ c := fun ha => h (by simp [ha])
    rw [List.cons_append, after_cons_of_ne ha]
    exact ih fun hl => h (List.mem_cons_of_mem a hl)

theorem after_filter {p : α → Bool} (h : p c = true) :
    after c (l.filter p) = (after c l).filter p := by
  induction l with
  | nil => rfl
  | cons a l ih =>
    by_cases ha : a = c
    · rw [ha, List.filter_cons_of_pos h, after_cons_self, after_cons_self]
    · by_cases hp : p a = true
      · rw [List.filter_cons_of_pos hp, after_cons_of_ne ha, after_cons_of_ne ha, ih]
      · rw [List.filter_cons_of_neg hp, after_cons_of_ne ha, ih]

theorem ahead_congr {g : α → Option β} (h : ∀ a ∈ l, f a = g a) : ahead f c l = ahead g c l :=
  List.filterMap_congr fun a ha => h a ((after_sublist c l).mem ha)

theorem ahead_cons (h : x ≠ c) : ahead f c (x :: l) = ahead f c l :=
  congrArg (List.filterMap f) (after_cons_of_ne h l)

theorem ahead_middle (h : c ∉ k) : ahead f c (k ++ c :: l) = l.filterMap f :=
  congrArg (List.filterMap f) (after_append_cons h)

theorem ahead_append (h : c ∈ l) : ahead f c (l ++ [x]) = ahead f c l ++ (f x).toList := by
  rw [ahead, after_append h, List.filterMap_append, filterMap_cons_toList, List.filterMap_nil,
    List.append_nil, ahead]

theorem ahead_filter_comm {p : α → Bool} {q : β → Bool} (h : p c = true)
    (hpq : ∀ a ∈ l, ∀ b, f a = some b → q b = p a) :
    ahead f c (l.filter p) = (ahead f c l).filter q := by
  rw [ahead, after_filter h]
  exact filterMap_filter_comm fun a ha => hpq a ((after_sublist c l).mem ha)

/-- Another mark goes. -/
theorem ahead_filter (h : c ≠ x) (hf : f x = none) :
    ahead f c (l.filter (· ≠ x)) = ahead f c l := by
  rw [ahead, after_filter (by simpa using h)]
  apply filterMap_filter_of
  intro a _ ha
  have hax : a = x := by simpa using ha
  rw [hax, hf]

/-- Another mark moves on. -/
theorem ahead_swap (h : c ≠ x) (hf : f x = none) :
    ahead f c (k ++ y :: x :: l) = ahead f c (k ++ x :: y :: l) := by
  rw [← ahead_filter h hf, ← ahead_filter (l := k ++ x :: y :: l) h hf]
  by_cases hy : y = x <;> simp [hy]

/-- The mark itself moves on. -/
theorem ahead_hop (h : (k ++ x :: y :: l).Nodup) :
    ahead f x (k ++ x :: y :: l) = (f y).toList ++ ahead f x (k ++ y :: x :: l) := by
  have hout : x ∉ k ++ y :: l := (List.nodup_middle.mp h).notMem
  rw [List.mem_append, List.mem_cons, not_or, not_or] at hout
  have hsplit : k ++ y :: x :: l = (k ++ [y]) ++ x :: l := by simp
  rw [hsplit, ahead_middle hout.1, ahead_middle (by simp [hout]), filterMap_cons_toList]

end Ahead

end PwOss.Lists
