/-
  Ordered maps: finite maps kept as an association list with increasing keys,
  the order in which they are iterated.

  A map is its list of entries with a proof that the keys increase, so equal keys
  hold equal values (`val_unique`) and a lookup is a membership (`get_eq_some`).
  `alter` rebuilds the list around a key.
-/

namespace PwOss.OrdMap

/-- A finite map, iterated by increasing key. -/
structure OrdMap (κ ν : Type) [LT κ] where
  entries : List (κ × ν)
  sorted : entries.Pairwise fun a b => a.1 < b.1

variable {κ ν : Type} [LT κ]

namespace OrdMap

/-- `BTreeMap::new`. -/
def empty : OrdMap κ ν := ⟨[], .nil⟩

section Unique
variable [Std.Irrefl fun a b : κ => a < b]

/-- No entry occurs twice. -/
theorem nodup (m : OrdMap κ ν) : m.entries.Nodup := by
  refine m.sorted.imp ?_
  intro a b hlt heq
  rw [heq] at hlt
  exact Std.Irrefl.irrefl b.1 hlt

/-- A key has one value. -/
theorem val_unique (m : OrdMap κ ν) {k : κ} {v w : ν} (hv : (k, v) ∈ m.entries)
    (hw : (k, w) ∈ m.entries) : v = w := by
  have hkeys : ∀ l : List (κ × ν), l.Pairwise (fun a b => a.1 < b.1) →
      (k, v) ∈ l → (k, w) ∈ l → v = w := by
    intro l
    induction l with
    | nil =>
      intro _ hv
      cases hv
    | cons e rest ih =>
      intro hs hv hw
      obtain ⟨hhead, hrest⟩ := List.pairwise_cons.mp hs
      rcases List.mem_cons.mp hv with rfl | hv'
      · rcases List.mem_cons.mp hw with heq | hw'
        · exact (Prod.mk.inj heq).2.symm
        · exact absurd (hhead _ hw') (Std.Irrefl.irrefl k)
      · rcases List.mem_cons.mp hw with rfl | hw'
        · exact absurd (hhead _ hv') (Std.Irrefl.irrefl k)
        · exact ih hrest hv' hw'
  exact hkeys m.entries m.sorted hv hw

end Unique

variable [DecidableEq κ]

def get (m : OrdMap κ ν) (k : κ) : Option ν := (m.entries.find? fun e => e.1 = k).map (·.2)

def erase (m : OrdMap κ ν) (k : κ) : OrdMap κ ν where
  entries := m.entries.filter fun e => e.1 ≠ k
  sorted := m.sorted.filter _

theorem mem_erase {m : OrdMap κ ν} {k : κ} {e : κ × ν} :
    e ∈ (m.erase k).entries ↔ e ∈ m.entries ∧ e.1 ≠ k := by
  simp only [erase, List.mem_filter, decide_eq_true_eq]

variable [Std.Irrefl fun a b : κ => a < b]

theorem get_eq_some {m : OrdMap κ ν} {k : κ} {v : ν} :
    m.get k = some v ↔ (k, v) ∈ m.entries := by
  unfold get
  constructor
  · intro h
    obtain ⟨⟨k', v'⟩, hf, rfl⟩ := Option.map_eq_some_iff.mp h
    have hk : k' = k := by simpa using List.find?_some hf
    subst hk
    exact List.mem_of_find?_eq_some hf
  · intro h
    have hsome : (m.entries.find? fun e => e.1 = k).isSome = true :=
      List.find?_isSome.mpr ⟨(k, v), h, by simp⟩
    obtain ⟨⟨k', v'⟩, hf⟩ := Option.isSome_iff_exists.mp hsome
    have hk : k' = k := by simpa using List.find?_some hf
    subst hk
    rw [hf, m.val_unique h (List.mem_of_find?_eq_some hf)]
    rfl

section Alter
variable [DecidableLT κ] [@Trans κ κ κ LT.lt LT.lt LT.lt]

/-- Puts a value at `k` that depends on the one there, which is `BTreeMap::entry`. -/
def alter (m : OrdMap κ ν) (k : κ) (f : Option ν → ν) : OrdMap κ ν where
  entries := m.entries.filter (·.1 < k) ++ (k, f (m.get k)) :: m.entries.filter (k < ·.1)
  sorted := by
    have hbelow : ∀ e ∈ m.entries.filter (·.1 < k), e.1 < k := fun e he =>
      of_decide_eq_true (List.mem_filter.mp he).2
    have habove : ∀ e ∈ m.entries.filter (k < ·.1), k < e.1 := fun e he =>
      of_decide_eq_true (List.mem_filter.mp he).2
    refine List.pairwise_append.mpr ⟨m.sorted.filter _, ?_, fun a ha b hb => ?_⟩
    · exact List.pairwise_cons.mpr ⟨habove, m.sorted.filter _⟩
    · rcases List.mem_cons.mp hb with rfl | hb
      · exact hbelow a ha
      · exact Trans.trans (hbelow a ha) (habove b hb)

variable [Std.Trichotomous fun a b : κ => a < b]

theorem mem_alter {m : OrdMap κ ν} {k : κ} {f : Option ν → ν} {e : κ × ν} :
    e ∈ (m.alter k f).entries ↔ e = (k, f (m.get k)) ∨ (e ∈ m.entries ∧ e.1 ≠ k) := by
  have hne : e.1 ≠ k ↔ e.1 < k ∨ k < e.1 := by
    constructor
    · intro hne
      by_cases hlt : e.1 < k
      · exact .inl hlt
      · exact .inr (Classical.not_not.mp fun hgt => hne (Std.Trichotomous.trichotomous e.1 k hlt hgt))
    · rintro (hlt | hlt) heq
      · exact Std.Irrefl.irrefl k (heq ▸ hlt)
      · exact Std.Irrefl.irrefl k (heq ▸ hlt)
  simp only [alter, List.mem_append, List.mem_cons, List.mem_filter, decide_eq_true_eq, hne,
    and_or_left]
  exact or_left_comm

/-- Only the value at the key is another one. -/
theorem get_alter {m : OrdMap κ ν} {k : κ} {f : Option ν → ν} (key : κ) :
    (m.alter k f).get key = if key = k then some (f (m.get k)) else m.get key := by
  refine Option.ext fun v => ?_
  rw [get_eq_some, mem_alter]
  by_cases hkey : key = k
  · subst hkey
    simp [eq_comm]
  · rw [if_neg hkey, get_eq_some]
    simp [hkey]

end Alter

end OrdMap

end PwOss.OrdMap
