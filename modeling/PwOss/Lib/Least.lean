import Mathlib.Data.List.Basic

/-
  The first of the least entries of a list, under a key in a linear preorder.

  It is what `List.minOn?` finds. In a list that is ordered by a relation, what comes
  before it is not as small, and what comes after it is not smaller.
-/

namespace PwOss.Least

variable {α β : Type} [LE β] {f : α → β} {l : List α} {x y : α}

/-- `x` is the first of the least entries of `l` under `f`. -/
def FirstLeast (f : α → β) (l : List α) (x : α) : Prop :=
  ∃ before after, l = before ++ x :: after ∧ (∀ y ∈ before, ¬ f y ≤ f x) ∧ ∀ y ∈ after, f x ≤ f y

namespace FirstLeast

theorem mem (h : FirstLeast f l x) : x ∈ l := by
  obtain ⟨before, after, rfl, -, -⟩ := h
  exact List.mem_append_right _ List.mem_cons_self

/-- Where another entry of an ordered list stands. -/
theorem trichotomy {R : α → α → Prop} (hl : l.Pairwise R) (h : FirstLeast f l x) (hy : y ∈ l) :
    y = x ∨ R y x ∧ ¬ f y ≤ f x ∨ R x y ∧ f x ≤ f y := by
  obtain ⟨before, after, rfl, hbefore, hafter⟩ := h
  obtain ⟨-, hlast, hacross⟩ := List.pairwise_append.mp hl
  rcases List.mem_append.mp hy with hy | hy
  · exact .inr (.inl ⟨hacross y hy x List.mem_cons_self, hbefore y hy⟩)
  rcases List.mem_cons.mp hy with rfl | hy
  · exact .inl rfl
  · exact .inr (.inr ⟨List.rel_of_pairwise_cons hlast hy, hafter y hy⟩)

theorem unique (hx : FirstLeast f l x) (hy : FirstLeast f l y) : x = y := by
  obtain ⟨before, after, rfl, hbefore, hafter⟩ := hx
  obtain ⟨before', after', heq, hbefore', hafter'⟩ := hy
  rcases List.append_eq_append_iff.mp heq with ⟨gap, rfl, hgap⟩ | ⟨gap, rfl, hgap⟩
  · cases gap with
    | nil => exact (List.cons.inj hgap).1
    | cons first gap =>
      -- `x` stands before `y`
      obtain ⟨rfl, hrest⟩ := List.cons.inj hgap
      refine absurd (hafter y ?_) (hbefore' x (List.mem_append_right _ List.mem_cons_self))
      rw [hrest]
      exact List.mem_append_right _ List.mem_cons_self
  · cases gap with
    | nil => exact ((List.cons.inj hgap).1).symm
    | cons first gap =>
      obtain ⟨rfl, hrest⟩ := List.cons.inj hgap
      refine absurd (hafter' x ?_) (hbefore y (List.mem_append_right _ List.mem_cons_self))
      rw [hrest]
      exact List.mem_append_right _ List.mem_cons_self

variable [Std.IsLinearPreorder β]

theorem le (h : FirstLeast f l x) (hy : y ∈ l) : f x ≤ f y := by
  obtain ⟨before, after, rfl, hbefore, hafter⟩ := h
  rcases List.mem_append.mp hy with hy | hy
  · exact (Std.le_total (a := f x) (b := f y)).resolve_right (hbefore y hy)
  rcases List.mem_cons.mp hy with rfl | hy
  · exact Std.le_refl (f y)
  · exact hafter y hy

end FirstLeast

variable [Std.IsLinearPreorder β] [DecidableLE β]

/-- `minOn?` finds the first of the least. -/
theorem firstLeast_of_minOn? (h : l.minOn? f = some x) : FirstLeast f l x := by
  induction l generalizing x with
  | nil => cases h
  | cons a l ih =>
    rw [List.minOn?_cons] at h
    cases hl : l.minOn? f with
    | none =>
      rw [hl] at h
      cases h
      have hnil : l = [] := by
        by_contra hne
        have hsome := (List.isSome_minOn?_iff (f := f)).mpr hne
        rw [hl] at hsome
        cases hsome
      exact ⟨[], [], by rw [hnil]; rfl, nofun, nofun⟩
    | some m =>
      rw [hl] at h
      have hm := ih hl
      by_cases hle : f a ≤ f m
      · have hx : a = x := Option.some.inj ((congrArg some (minOn_eq_left hle).symm).trans h)
        subst hx
        exact ⟨[], l, rfl, nofun, fun y hy => Std.le_trans hle (hm.le hy)⟩
      · have hx : m = x := Option.some.inj ((congrArg some (minOn_eq_right hle).symm).trans h)
        subst hx
        obtain ⟨before, after, rfl, hbefore, hafter⟩ := hm
        refine ⟨a :: before, after, rfl, fun y hy => ?_, hafter⟩
        rcases List.mem_cons.mp hy with rfl | hy
        · exact hle
        · exact hbefore y hy

end PwOss.Least
