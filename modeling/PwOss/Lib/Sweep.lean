import PwOss.Lib.Proc

/-
  Loops over distinct indices, each of which owns a zone of the state.

  The state is read as cells, and `zone` says which index owns a cell. A step of
  the loop works on its own zone alone, so over the whole loop every cell of a
  visited zone goes through exactly one step: what holds of it after that step
  holds of it after the loop. `collect` gathers the results of its steps, each
  about a cell of the step's zone, and `visit` has none.
-/

namespace PwOss.Proc

variable {σ ι β κ γ : Type}

/-- A loop that gathers the results of its body. -/
def collect : List ι → (ι → Proc σ (List β)) → Proc σ (List β)
  | [], _ => pure []
  | i :: is, f => do
    let found ← f i
    let rest ← collect is f
    pure (found ++ rest)

/-- A loop whose body has no result. -/
def visit (is : List ι) (f : ι → Proc σ Unit) : Proc σ Unit := do
  let _ ← collect is fun i => do
    f i
    pure ([] : List Empty)
  pure ()

section Sweep
variable (cell : σ → κ → γ) (Inv : σ → Prop) (zone : κ → ι)

/-- One pass over the zones in `Z`: each of their cells is as `Post` says, with
whether a result is about it, and no other cell is touched or named. -/
structure Swept (about : β → κ → Prop) (Post : κ → γ → γ → Prop → Prop) (Z : ι → Prop)
    (s : σ) (found : List β) (t : σ) : Prop where
  inside : ∀ k, Z (zone k) → Post k (cell s k) (cell t k) (∃ b ∈ found, about b k)
  outside : ∀ k, ¬ Z (zone k) → cell t k = cell s k
  silent : ∀ k, ¬ Z (zone k) → ¬ ∃ b ∈ found, about b k

variable {cell Inv zone}

theorem Runs.collect {about : β → κ → Prop} {Post : κ → γ → γ → Prop → Prop}
    {f : ι → Proc σ (List β)} : ∀ {is : List ι}, is.Nodup →
    (∀ i ∈ is, ∀ s, Inv s → Runs (f i) s fun found t =>
      Inv t ∧ Swept cell zone about Post (· = i) s found t) →
    ∀ s, Inv s → Runs (collect is f) s fun found t =>
      Inv t ∧ Swept cell zone about Post (· ∈ is) s found t
  | [], _, _, s, hs => by
    refine .pure ⟨hs, ⟨fun k hk => absurd hk List.not_mem_nil, fun _ _ => rfl, ?_⟩⟩
    rintro k - ⟨b, hb, -⟩
    exact absurd hb List.not_mem_nil
  | i :: is, hnodup, hstep, s, hs => by
    obtain ⟨hnot, hrest⟩ := List.nodup_cons.mp hnodup
    have hlater := Runs.collect hrest fun j hj => hstep j (List.mem_cons_of_mem i hj)
    refine .bind_of (hstep i List.mem_cons_self s hs) fun found t ht => ?_
    refine .bind_of (hlater t ht.1) fun rest u hu => .pure ⟨hu.1, ?_⟩
    obtain ⟨first, later⟩ := And.intro ht.2 hu.2
    have happend : ∀ k, (∃ b ∈ found ++ rest, about b k) ↔
        (∃ b ∈ found, about b k) ∨ ∃ b ∈ rest, about b k := by
      intro k
      simp only [List.mem_append, or_and_right, exists_or]
    refine ⟨fun k hk => ?_, fun k hk => ?_, fun k hk => ?_⟩
    · rcases List.mem_cons.mp hk with heq | hmem
      · -- the step that owns `k`: the rest of the loop leaves it
        have hout : zone k ∉ is := heq ▸ hnot
        rw [later.outside k hout]
        have hsame : (∃ b ∈ found ++ rest, about b k) ↔ ∃ b ∈ found, about b k := by
          rw [happend, or_iff_left (later.silent k hout)]
        rw [hsame]
        exact first.inside k heq
      · have hne : zone k ≠ i := fun heq => hnot (heq ▸ hmem)
        rw [← first.outside k hne]
        have hsame : (∃ b ∈ found ++ rest, about b k) ↔ ∃ b ∈ rest, about b k := by
          rw [happend, or_iff_right (first.silent k hne)]
        rw [hsame]
        exact later.inside k hmem
    · obtain ⟨hne, hout⟩ := not_or.mp (mt List.mem_cons.mpr hk)
      rw [later.outside k hout, first.outside k hne]
    · obtain ⟨hne, hout⟩ := not_or.mp (mt List.mem_cons.mpr hk)
      rw [happend]
      exact not_or.mpr ⟨first.silent k hne, later.silent k hout⟩

theorem Runs.visit {Post : κ → γ → γ → Prop} {f : ι → Proc σ Unit}
    {is : List ι} (hnodup : is.Nodup)
    (hstep : ∀ i ∈ is, ∀ s, Inv s → Runs (f i) s fun _ t => Inv t ∧
      (∀ k, zone k = i → Post k (cell s k) (cell t k)) ∧
      ∀ k, zone k ≠ i → cell t k = cell s k)
    (s : σ) (hs : Inv s) :
    Runs (visit is f) s fun _ t => Inv t ∧
      (∀ k, zone k ∈ is → Post k (cell s k) (cell t k)) ∧
      ∀ k, zone k ∉ is → cell t k = cell s k := by
  have hpass : ∀ i ∈ is, ∀ s, Inv s → Runs (do f i; Pure.pure ([] : List Empty)) s fun found t =>
      Inv t ∧ Swept cell zone nofun (fun k old new _ => Post k old new) (· = i) s found t := by
    intro i hi s hs
    refine .bind_of (hstep i hi s hs) fun _ t ht => .pure ⟨ht.1, ht.2.1, ht.2.2, fun k _ h => ?_⟩
    obtain ⟨b, -⟩ := h
    exact b.elim
  refine .bind_of (Runs.collect hnodup hpass s hs) fun _ t ht => ?_
  exact .pure ⟨ht.1, ht.2.inside, ht.2.outside⟩

end Sweep

/-- What every step keeps, the loop keeps. -/
theorem Runs.visit_keeps {Inv : σ → Prop} {f : ι → Proc σ Unit} {is : List ι}
    (hstep : ∀ i ∈ is, ∀ s, Inv s → Runs (f i) s fun _ t => Inv t) (s : σ) (hs : Inv s) :
    Runs (Proc.visit is f) s fun _ t => Inv t := by
  have hcollect : ∀ is : List ι, (∀ i ∈ is, ∀ s, Inv s → Runs (f i) s fun _ t => Inv t) →
      ∀ s, Inv s → Runs (Proc.collect is fun i => do f i; Pure.pure ([] : List Empty)) s
        fun _ t => Inv t := by
    intro is
    induction is with
    | nil => exact fun _ s hs => .pure hs
    | cons i is ih =>
      intro hstep s hs
      refine .bind_of (R := fun _ t => Inv t)
        (.bind_of (hstep i List.mem_cons_self s hs) fun _ t ht => .pure ht) ?_
      intro found t ht
      exact .bind_of (ih (fun j hj => hstep j (List.mem_cons_of_mem i hj)) t ht)
        fun rest u hu => .pure hu
  exact .bind_of (hcollect is hstep s hs) fun _ _ ht => .pure ht

end PwOss.Proc
