/-
  An index into a list of lists.

  A program that walks a list of groups and lowers the index by the length of each
  group it passes (`locate`) reads the concatenation of the groups: `locate_eq`. So
  counting the index up from 0 visits every entry of every group once, in order.
-/

namespace PwOss.Locate

variable {α β : Type}

/-- The group that `index` falls in, and its entry there. -/
def locate (entries : α → List β) : List α → Nat → Option (α × β)
  | [], _ => none
  | x :: xs, index =>
    match (entries x)[index]? with
    | some entry => some (x, entry)
    | none => locate entries xs (index - (entries x).length)

/-- The entries of all groups, each with its group. -/
def flatten (entries : α → List β) (xs : List α) : List (α × β) :=
  xs.flatMap fun x => (entries x).map fun entry => (x, entry)

theorem locate_eq (entries : α → List β) : ∀ (xs : List α) (index : Nat),
    locate entries xs index = (flatten entries xs)[index]?
  | [], _ => rfl
  | x :: xs, index => by
    unfold locate flatten
    rw [List.flatMap_cons, List.getElem?_append, List.length_map]
    by_cases h : index < (entries x).length
    · rw [if_pos h, List.getElem?_map, List.getElem?_eq_getElem h]
      rfl
    · rw [if_neg h, List.getElem?_eq_none (Nat.le_of_not_lt h)]
      exact locate_eq entries xs _

/-- Entries of a group may be told apart by a label on both: `locate` does not see it. -/
theorem flatten_map {γ δ : Type} (entries : α → List β) (f : γ → α) (labelled : γ → List δ)
    (g : δ → β) (h : ∀ x, (labelled x).map g = entries (f x)) (xs : List γ) :
    (flatten labelled xs).map (fun p => (f p.1, g p.2)) = flatten entries (xs.map f) := by
  unfold flatten
  rw [List.map_flatMap, List.flatMap_map]
  congr 1
  funext x
  rw [← h x, List.map_map, List.map_map]
  rfl

theorem mem_flatten {entries : α → List β} {xs : List α} {x : α} {entry : β} :
    (x, entry) ∈ flatten entries xs ↔ x ∈ xs ∧ entry ∈ entries x := by
  unfold flatten
  rw [List.mem_flatMap]
  constructor
  · rintro ⟨y, hy, he⟩
    obtain ⟨b, hb, heq⟩ := List.mem_map.mp he
    obtain ⟨rfl, rfl⟩ := Prod.mk.inj heq
    exact ⟨hy, hb⟩
  · rintro ⟨hx, he⟩
    exact ⟨x, hx, List.mem_map.mpr ⟨entry, he, rfl⟩⟩

/-- A relation between the groups of two entries, or between two entries of one group,
holds along the concatenation. -/
theorem pairwise_flatten {entries : α → List β} {xs : List α} {R : α × β → α × β → Prop}
    (hin : ∀ x ∈ xs, (entries x).Pairwise fun a b => R (x, a) (x, b))
    (hout : xs.Pairwise fun x y => ∀ a ∈ entries x, ∀ b ∈ entries y, R (x, a) (y, b)) :
    (flatten entries xs).Pairwise R := by
  unfold flatten
  rw [List.pairwise_flatMap]
  constructor
  · intro x hx
    rw [List.pairwise_map]
    exact hin x hx
  · refine hout.imp fun {x y} h p hp q hq => ?_
    obtain ⟨a, ha, rfl⟩ := List.mem_map.mp hp
    obtain ⟨b, hb, rfl⟩ := List.mem_map.mp hq
    exact h a ha b hb

end PwOss.Locate
