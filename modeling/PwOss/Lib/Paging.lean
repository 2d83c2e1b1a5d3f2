import Mathlib.Algebra.GroupWithZero.Nat

/-
  Listings that are read in pages.

  A listing can be resumed when what follows an entry is what a reader finds from the
  entry's own cursor. Reading such a listing page by page, each page from the cursor
  of the last entry read, gives what one reading gives (`pages_eq`), as long as a page
  may hold an entry at all.
-/

namespace PwOss.Paging

variable {ι β : Type}

/-- A listing from each valid cursor, and the cursor after each entry. -/
structure Resumable (ι β : Type) where
  Valid : ι → Prop
  rest : ι → List β
  next : β → ι
  resume : ∀ {i : ι} {xs ys : List β} {b : β}, Valid i → rest i = xs ++ b :: ys →
    Valid (next b) ∧ rest (next b) = ys

/-- Reads pages until one is empty. Each page starts where the last one ended. -/
def pages (next : β → ι) (call : ι → Option (List β)) : Nat → ι → Option (List β)
  | 0, _ => none
  | fuel + 1, i =>
    match call i with
    | none => none
    | some page =>
      match page.getLast? with
      | none => some []
      | some b => (pages next call fuel (next b)).map (page ++ ·)

theorem Resumable.pages_eq (L : Resumable ι β) {max : Nat} (hmax : 0 < max)
    {call : ι → Option (List β)} (hcall : ∀ i, L.Valid i → call i = some ((L.rest i).take max)) :
    ∀ (fuel : Nat) (i : ι), L.Valid i → (L.rest i).length < fuel →
      pages L.next call fuel i = some (L.rest i) := by
  intro fuel
  induction fuel with
  | zero => exact fun i _ hlength => absurd hlength (Nat.not_lt_zero _)
  | succ fuel ih =>
    intro i hi hlength
    rw [pages, hcall i hi]
    have hsplit : (L.rest i).take max ++ (L.rest i).drop max = L.rest i :=
      List.take_append_drop max (L.rest i)
    cases hlast : ((L.rest i).take max).getLast? with
    | none =>
      have hpage : (L.rest i).take max = [] := List.getLast?_eq_none_iff.mp hlast
      have hrest : L.rest i = [] := by
        rcases List.take_eq_nil_iff.mp hpage with hzero | hnil
        · omega
        · exact hnil
      simp only [hrest, List.take_nil]
      rfl
    | some b =>
      obtain ⟨xs, hpage⟩ := List.getLast?_eq_some_iff.mp hlast
      have hresume : L.rest i = xs ++ b :: (L.rest i).drop max := by
        rw [← List.singleton_append, ← List.append_assoc, ← hpage, hsplit]
      obtain ⟨hvalid, htail⟩ := L.resume hi hresume
      have hshorter : (L.rest (L.next b)).length < fuel := by
        have hpos : 0 < (L.rest i).length := by
          rw [hresume, List.length_append, List.length_cons]
          omega
        rw [htail, List.length_drop]
        omega
      simp only [hlast, ih (L.next b) hvalid hshorter, htail, Option.map_some, hsplit]

end PwOss.Paging
