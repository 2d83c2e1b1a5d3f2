import Mathlib.Algebra.BigOperators.Group.Finset.Piecewise
import Mathlib.Algebra.Order.Group.Multiset

/-
  A slot for one value between any number of parties.

  A lock word says whether the cell holds a value; a party that moved the word to
  BUSY has the cell to itself until it stores another word. The parties run
  programs of their own: a `Discipline` says of a program counter whether its
  party holds the slot, which value it carries and what it knows of the cell.

  `Guarded` is the invariant: BUSY has one holder, any other word tells what the
  cell holds, and every value that was put in was got out, or is in the cell, or
  is in one party's hand. Each kind of step has its rule.
-/

namespace PwOss.Slot

/-- The lock word of a slot. -/
inductive Word where
  | empty | full | busy | closed
  deriving DecidableEq

/-- The value that is there, as a collection. -/
def bag {α : Type} (value : Option α) : Multiset α := (value.toList : Multiset α)

@[simp] theorem bag_none {α : Type} : bag (none : Option α) = 0 := rfl

@[simp] theorem bag_some {α : Type} (a : α) : bag (some a) = {a} := rfl

/-- What a program counter says of its party. -/
structure Discipline (π α : Type) where
  /-- The party moved the word to BUSY and has not stored another one yet. -/
  holds : π → Bool
  /-- The value that the party carries. -/
  hand : π → Option α
  /-- What a holder knows of the cell. -/
  knows : π → Option α → Prop

/-- A slot and its parties, with everything put in and everything got out so far. -/
structure Shared (ι π α : Type) where
  word : Word
  cell : Option α
  pc : ι → π
  put : Multiset α
  got : Multiset α

variable {ι π α : Type}

/-- A party that holds nothing steps to where it holds nothing. -/
theorem Discipline.holds_update_iff (D : Discipline π α) [DecidableEq ι] {pc : ι → π} {i : ι}
    {p : π} (hp : D.holds (pc i) = false) (hp' : D.holds p = false) (j : ι) :
    D.holds (Function.update pc i p j) = true ↔ D.holds (pc j) = true := by
  by_cases hj : j = i
  · subst hj
    simp [hp, hp']
  · simp [hj]

variable [Fintype ι]

/-- The values in the hands of the parties. -/
def inHands (D : Discipline π α) (pc : ι → π) : Multiset α := ∑ i, bag (D.hand (pc i))

structure Guarded (D : Discipline π α) (s : Shared ι π α) : Prop where
  free : s.word ≠ .busy → ∀ i, D.holds (s.pc i) = false
  held : s.word = .busy → ∃ i, ∀ j, D.holds (s.pc j) = true ↔ j = i
  covers : s.word ≠ .busy → (s.cell.isSome ↔ s.word = .full)
  known : ∀ i, D.holds (s.pc i) = true → D.knows (s.pc i) s.cell
  kept : s.put = s.got + bag s.cell + inHands D s.pc

/-- A holder finds the word BUSY, and is the only one. -/
theorem Guarded.exclusive {D : Discipline π α} {s : Shared ι π α} {i : ι} (h : Guarded D s)
    (hp : D.holds (s.pc i) = true) :
    s.word = .busy ∧ ∀ j, D.holds (s.pc j) = true ↔ j = i := by
  have hbusy : s.word = .busy := by
    apply Classical.byContradiction
    intro hw
    rw [h.free hw i] at hp
    cases hp
  obtain ⟨k, hk⟩ := h.held hbusy
  refine ⟨hbusy, fun j => ?_⟩
  rw [hk, (hk i).mp hp]

/-- What a party that holds the slot knows of the cell. -/
theorem Guarded.knows {D : Discipline π α} {s : Shared ι π α} {i : ι} {q : π} (h : Guarded D s)
    (hi : s.pc i = q) (hq : D.holds q = true) : D.knows q s.cell := by
  have hk := h.known i (by rw [hi, hq])
  rwa [hi] at hk

/-- Off BUSY and FULL the cell is empty. -/
theorem Guarded.cell_eq_none {D : Discipline π α} {s : Shared ι π α} (h : Guarded D s)
    (hbusy : s.word ≠ .busy) (hfull : s.word ≠ .full) : s.cell = none := by
  apply Option.not_isSome_iff_eq_none.mp
  intro hsome
  exact hfull ((h.covers hbusy).mp hsome)

variable [DecidableEq ι]

/-- One party's step changes what is in its own hand. -/
theorem inHands_update (D : Discipline π α) (pc : ι → π) (i : ι) (p : π) :
    inHands D (Function.update pc i p) + bag (D.hand (pc i)) =
      inHands D pc + bag (D.hand p) := by
  have hcomp : (fun j => bag (D.hand (Function.update pc i p j))) =
      Function.update (fun j => bag (D.hand (pc j))) i (bag (D.hand p)) := by
    funext j
    by_cases hj : j = i
    · subst hj
      simp
    · simp [hj]
  unfold inHands
  rw [hcomp, Finset.sum_update_of_mem (Finset.mem_univ i),
    ← Finset.add_sum_erase _ _ (Finset.mem_univ i), Finset.sdiff_singleton_eq_erase]
  ac_rfl

/-- The books stay balanced when a step's own changes balance. -/
theorem kept_update {D : Discipline π α} {pc : ι → π} {i : ι} {p : π} {cell cell' : Option α}
    {put put' got got' : Multiset α} (h : put = got + bag cell + inHands D pc)
    (hb : put' + (got + bag cell + bag (D.hand (pc i))) =
      put + (got' + bag cell' + bag (D.hand p))) :
    put' = got' + bag cell' + inHands D (Function.update pc i p) := by
  have hhands := inHands_update D pc i p
  apply add_right_cancel (b := got + bag cell + bag (D.hand (pc i)))
  calc put' + (got + bag cell + bag (D.hand (pc i)))
      = put + (got' + bag cell' + bag (D.hand p)) := hb
    _ = got + bag cell + (got' + bag cell') + (inHands D pc + bag (D.hand p)) := by
      rw [h]
      ac_rfl
    _ = got' + bag cell' + inHands D (Function.update pc i p) +
        (got + bag cell + bag (D.hand (pc i))) := by
      rw [← hhands]
      ac_rfl

namespace Guarded
variable {D : Discipline π α} {s : Shared ι π α} {i : ι} {p q : π}

theorem pass_known (h : Guarded D s) (hp : D.holds p = false) (j : ι)
    (hj : D.holds (Function.update s.pc i p j) = true) :
    D.knows (Function.update s.pc i p j) s.cell := by
  by_cases hji : j = i
  · subst hji
    simp [hp] at hj
  · simp only [Function.update_of_ne hji] at hj ⊢
    exact h.known j hj

/-- A private step, off the slot. -/
theorem aside (h : Guarded D s) (hi : s.pc i = q) (hq : D.holds q = false)
    (hp : D.holds p = false) {put got : Multiset α}
    (hb : put + (s.got + bag s.cell + bag (D.hand q)) =
      s.put + (got + bag s.cell + bag (D.hand p))) :
    Guarded D { s with pc := Function.update s.pc i p, put, got } where
  free := by
    intro hw j
    have hfree := h.free hw j
    by_cases hj : j = i
    · subst hj
      simp [hp]
    · simpa [hj] using hfree
  held := by
    intro hw
    obtain ⟨k, hk⟩ := h.held hw
    exact ⟨k, fun j => (D.holds_update_iff (by rw [hi, hq]) hp j).trans (hk j)⟩
  covers := h.covers
  known := fun j => h.pass_known hp j
  kept := kept_update h.kept (by rw [hi, hb])

/-- A step that leaves the party's hand as it is. -/
theorem pass (h : Guarded D s) (hi : s.pc i = q) (hq : D.holds q = false)
    (hp : D.holds p = false) (hh : D.hand p = D.hand q) :
    Guarded D { s with pc := Function.update s.pc i p } :=
  h.aside hi hq hp (by rw [hh])

/-- A party comes with a value. -/
theorem bring (h : Guarded D s) (hi : s.pc i = q) (hq : D.holds q = false)
    (hp : D.holds p = false) (hh : D.hand q = none) :
    Guarded D { s with pc := Function.update s.pc i p, put := s.put + bag (D.hand p) } := by
  apply h.aside hi hq hp
  rw [hh, bag_none]
  ac_rfl

/-- A party leaves with its value. -/
theorem leave (h : Guarded D s) (hi : s.pc i = q) (hq : D.holds q = false)
    (hp : D.holds p = false) (hh : D.hand p = none) :
    Guarded D { s with pc := Function.update s.pc i p, got := s.got + bag (D.hand q) } := by
  apply h.aside hi hq hp
  rw [hh, bag_none]
  ac_rfl

/-- A party moves the word to BUSY. -/
theorem claim (h : Guarded D s) (hi : s.pc i = q) (hw : s.word ≠ .busy)
    (hp : D.holds p = true) (hh : D.hand p = D.hand q) (hk : D.knows p s.cell) :
    Guarded D { s with word := .busy, pc := Function.update s.pc i p } where
  free := fun hne => absurd rfl hne
  held := by
    intro _
    refine ⟨i, fun j => ?_⟩
    by_cases hj : j = i
    · subst hj
      simp [hp]
    · simp [hj, h.free hw j]
  covers := fun hne => absurd rfl hne
  known := by
    intro j hj
    by_cases hji : j = i
    · subst hji
      simpa using hk
    · simp [hji, h.free hw j] at hj
  kept := kept_update h.kept (by rw [hi, hh])

/-- The holder works on the cell. -/
theorem work (h : Guarded D s) (hi : s.pc i = q) (hq : D.holds q = true)
    (hp : D.holds p = true) {cell : Option α} (hk : D.knows p cell)
    (hb : bag cell + bag (D.hand p) = bag s.cell + bag (D.hand q)) :
    Guarded D { s with cell, pc := Function.update s.pc i p } := by
  obtain ⟨hbusy, halone⟩ := h.exclusive (by rw [hi, hq])
  refine ⟨fun hne => absurd hbusy hne, fun _ => ⟨i, fun j => ?_⟩, fun hne => absurd hbusy hne,
    fun j hj => ?_, kept_update h.kept ?_⟩
  · by_cases hj : j = i
    · subst hj
      simp [hp]
    · simp [hj, mt (halone j).mp hj]
  · by_cases hji : j = i
    · subst hji
      simpa using hk
    · simp [hji, mt (halone j).mp hji] at hj
  · rw [hi, add_assoc, add_assoc, hb]

/-- The holder stores another word and leaves with what it carries. -/
theorem release (h : Guarded D s) (hi : s.pc i = q) (hq : D.holds q = true)
    (hp : D.holds p = false) (hh : D.hand p = none) {w : Word} (hw : w ≠ .busy)
    (hc : s.cell.isSome ↔ w = .full) :
    Guarded D { s with
      word := w, pc := Function.update s.pc i p, got := s.got + bag (D.hand q) } := by
  obtain ⟨-, halone⟩ := h.exclusive (by rw [hi, hq])
  have hfree (j : ι) : D.holds (Function.update s.pc i p j) = false := by
    by_cases hj : j = i
    · subst hj
      simp [hp]
    · simp [hj, mt (halone j).mp hj]
  refine ⟨fun _ => hfree, fun hbusy => absurd hbusy hw, fun _ => hc, fun j hj => ?_,
    kept_update h.kept ?_⟩
  · rw [hfree j] at hj
    cases hj
  · dsimp only
    rw [hi, hh, bag_none]
    ac_rfl

/-- An empty slot is closed. -/
theorem shut (h : Guarded D s) (hi : s.pc i = q) (hw : s.word = .empty)
    (hp : D.holds p = false) (hh : D.hand p = D.hand q) :
    Guarded D { s with word := .closed, pc := Function.update s.pc i p } := by
  have hidle : s.word ≠ .busy := by simp [hw]
  have hfree (j : ι) : D.holds (Function.update s.pc i p j) = false := by
    by_cases hj : j = i
    · subst hj
      simp [hp]
    · simp [hj, h.free hidle j]
  refine ⟨fun _ => hfree, nofun, fun _ => ?_, fun j => h.pass_known hp j,
    kept_update h.kept (by rw [hi, hh])⟩
  simpa [hw] using h.covers hidle

end Guarded

end PwOss.Slot
