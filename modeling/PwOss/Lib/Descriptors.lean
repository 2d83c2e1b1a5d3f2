import Mathlib.Logic.Function.Basic

/-
  Descriptor tables whose numbers are used again.

  A table has an owner for each open number. Opening takes the lowest free number, so a
  number that was closed comes back for someone else: who kept it then has a stranger's
  file. `Held` is the invariant between a table and what its owners keep: each owner
  keeps at most one number, and the open numbers are just those that are kept, each by
  its own owner. Nothing is then leaked, and no number is kept past its close.
-/

namespace PwOss.Descriptors

variable {O : Type}

/-- What is open under each number. -/
abbrev Table (O : Type) := List (Option O)

namespace Table
variable (t : Table O)

def get (fd : Nat) : Option O := t[fd]?.join

/-- The lowest free number. -/
def free : Nat := t.findIdx (·.isNone)

/-- The table with an owner under the lowest free number. -/
def opens (o : O) : Table O := (t ++ [none]).set t.free (some o)

def close (fd : Nat) : Table O := t.set fd none

variable {t}

theorem free_le : t.free ≤ t.length := List.findIdx_le_length

@[simp] theorem get_free : t.get t.free = none := by
  unfold get
  rcases Nat.lt_or_ge t.free t.length with hlt | hge
  · have hnone : t[t.free].isNone = true := List.findIdx_getElem (w := hlt)
    rw [List.getElem?_eq_getElem hlt, Option.isNone_iff_eq_none.mp hnone]
    rfl
  · rw [List.getElem?_eq_none hge]
    rfl

theorem get_opens (o : O) (fd : Nat) :
    (t.opens o).get fd = if fd = t.free then some o else t.get fd := by
  have hfree := t.free_le
  unfold get opens
  rw [List.getElem?_set]
  by_cases heq : fd = t.free
  · have hlt : t.free < (t ++ [none]).length := by
      rw [List.length_append, List.length_singleton]
      omega
    rw [if_pos heq.symm, if_pos hlt, if_pos heq]
    rfl
  · rw [if_neg (Ne.symm heq), if_neg heq, List.getElem?_append]
    split
    · rfl
    · next hge =>
      -- the number that was added stays free
      rw [List.getElem?_eq_none (Nat.le_of_not_lt hge)]
      rcases Nat.eq_zero_or_pos (fd - t.length) with hzero | hpos
      · rw [hzero]
        rfl
      · have hout : [(none : Option O)].length ≤ fd - t.length := hpos
        rw [List.getElem?_eq_none hout]

theorem get_close (fd fd' : Nat) :
    (t.close fd).get fd' = if fd' = fd then none else t.get fd' := by
  unfold get close
  rw [List.getElem?_set]
  by_cases heq : fd' = fd
  · rw [if_pos heq.symm, if_pos heq]
    split <;> rfl
  · rw [if_neg (Ne.symm heq), if_neg heq]

end Table

/-- The open numbers are those that their owners keep. -/
def Held (own : O → Option Nat) (t : Table O) : Prop := ∀ fd o, t.get fd = some o ↔ own o = some fd

namespace Held
variable {own : O → Option Nat} {t : Table O} {o : O} {fd : Nat}

theorem empty : Held (fun _ : O => none) [] := fun fd o => by
  simp only [Table.get, List.getElem?_nil, Option.join_none, reduceCtorEq]

variable [DecidableEq O]

/-- A new number, for an owner that has none. -/
theorem opens (h : Held own t) (ho : own o = none) :
    Held (Function.update own o (some t.free)) (t.opens o) := by
  intro fd o'
  rw [Table.get_opens]
  by_cases hfd : fd = t.free <;> by_cases howner : o' = o
  · simp only [hfd, howner, if_pos, Function.update_self]
  · rw [if_pos hfd, Function.update_of_ne howner]
    refine ⟨fun heq => absurd (Option.some.inj heq).symm howner, fun heq => ?_⟩
    have hget := (h fd o').mpr heq
    rw [hfd, Table.get_free] at hget
    cases hget
  · rw [if_neg hfd, howner, Function.update_self]
    refine ⟨fun heq => ?_, fun heq => absurd (Option.some.inj heq).symm hfd⟩
    rw [(h fd o).mp heq] at ho
    cases ho
  · rw [if_neg hfd, Function.update_of_ne howner]
    exact h fd o'

/-- An owner closes its number. -/
theorem close (h : Held own t) (ho : own o = some fd) :
    Held (Function.update own o none) (t.close fd) := by
  intro fd' o'
  rw [Table.get_close]
  by_cases hfd : fd' = fd <;> by_cases howner : o' = o
  · simp only [hfd, howner, if_pos, Function.update_self, reduceCtorEq]
  · rw [if_pos hfd, Function.update_of_ne howner]
    constructor
    · intro heq
      cases heq
    · intro heq
      have hget := (h fd' o').mpr heq
      rw [hfd, (h fd o).mpr ho] at hget
      exact absurd (Option.some.inj hget).symm howner
  · rw [if_neg hfd, howner, Function.update_self]
    constructor
    · intro heq
      rw [(h fd' o).mp heq] at ho
      exact absurd (Option.some.inj ho) hfd
    · intro heq
      cases heq
  · rw [if_neg hfd, Function.update_of_ne howner]
    exact h fd' o'

end Held

end PwOss.Descriptors
