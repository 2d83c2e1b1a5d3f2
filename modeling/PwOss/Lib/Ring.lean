import Mathlib.Data.List.Chain
import Mathlib.Data.List.Nodup
import Mathlib.Logic.Function.Basic
import PwOss.Lib.Lists
import PwOss.Lib.Proc

/-
  Circular doubly linked lists in memory.

  A `Memory` has one array for each field of a node; an access to a node that is not
  there fails. `Ring m head l` says that the nodes from `head` on are `l`, linked in
  both directions, and that `head` follows the last one. Whatever is done to a ring
  happens between two neighbours (`Ring.splice`): a node leaves between them
  (`Ring.leave`) or comes between them (`Ring.enter`).
-/

namespace PwOss.Links

open PwOss.Proc

/-- The nodes in memory, by address. -/
structure Memory (α : Type) where
  next : Nat → Nat
  prev : Nat → Nat
  /-- What a node holds beside its links: `none` where there is no node. -/
  data : Nat → Option α

variable {α β : Type}

/-! ## Access -/

def Memory.setNext (m : Memory α) (a b : Nat) : Memory α :=
  { m with next := Function.update m.next a b }

def Memory.setPrev (m : Memory α) (a b : Nat) : Memory α :=
  { m with prev := Function.update m.prev a b }

/-- There is a node at `a`. -/
def Memory.Live (m : Memory α) (a : Nat) : Prop := (m.data a).isSome = true

instance (m : Memory α) (a : Nat) : Decidable (m.Live a) :=
  inferInstanceAs (Decidable (_ = true))

def nextOf (a : Nat) : Proc (Memory α) Nat := do
  let m ← get
  require (m.Live a)
  return m.next a

def prevOf (a : Nat) : Proc (Memory α) Nat := do
  let m ← get
  require (m.Live a)
  return m.prev a

def dataOf (a : Nat) : Proc (Memory α) α := fun m => (m.data a).map fun d => (d, m)

def setNext (a b : Nat) : Proc (Memory α) Unit := do
  let m ← get
  require (m.Live a)
  modify fun m => m.setNext a b

def setPrev (a b : Nat) : Proc (Memory α) Unit := do
  let m ← get
  require (m.Live a)
  modify fun m => m.setPrev a b

/-- A node comes to be at `a`. -/
def Memory.place (m : Memory α) (a next prev : Nat) (d : Option α) : Memory α :=
  ⟨Function.update m.next a next, Function.update m.prev a prev, Function.update m.data a d⟩

/-- `p` and `n` become neighbours. -/
def Memory.bridge (m : Memory α) (p n : Nat) : Memory α :=
  (m.setNext p n).setPrev n p

/-- `a` comes between `p` and `n`. -/
def Memory.insert (m : Memory α) (p a n : Nat) : Memory α :=
  (((m.setPrev a p).setNext a n).setPrev n a).setNext p a

section Rules
variable {m : Memory α} {a b c : Nat}

theorem Memory.live_setNext : (m.setNext a b).Live c ↔ m.Live c := Iff.rfl

theorem Memory.live_setPrev : (m.setPrev a b).Live c ↔ m.Live c := Iff.rfl

@[simp] theorem Memory.prev_setNext : (m.setNext a b).prev = m.prev := rfl

@[simp] theorem Memory.next_setPrev : (m.setPrev a b).next = m.next := rfl

theorem Memory.next_setNext_of_ne (h : c ≠ a) : (m.setNext a b).next c = m.next c :=
  Function.update_of_ne h ..

theorem Memory.prev_setPrev_of_ne (h : c ≠ a) : (m.setPrev a b).prev c = m.prev c :=
  Function.update_of_ne h ..

theorem runs_nextOf {f : Nat → Proc (Memory α) β} {Q : β → Memory α → Prop} (h : m.Live a)
    (hf : Runs (f (m.next a)) m Q) : Runs (nextOf a >>= f) m Q :=
  .bind (.get (.require h (.pure hf)))

theorem runs_prevOf {f : Nat → Proc (Memory α) β} {Q : β → Memory α → Prop} (h : m.Live a)
    (hf : Runs (f (m.prev a)) m Q) : Runs (prevOf a >>= f) m Q :=
  .bind (.get (.require h (.pure hf)))

theorem runs_dataOf {d : α} {f : α → Proc (Memory α) β} {Q : β → Memory α → Prop}
    (h : m.data a = some d) (hf : Runs (f d) m Q) : Runs (dataOf a >>= f) m Q := by
  apply Runs.bind
  exact .of_eq (by rw [dataOf, h]; rfl) hf

theorem runs_setNext {Q : Unit → Memory α → Prop} (h : m.Live a)
    (hQ : Q () (m.setNext a b)) : Runs (setNext a b) m Q :=
  .get (.require h (.of_eq rfl hQ))

theorem runs_setPrev {Q : Unit → Memory α → Prop} (h : m.Live a)
    (hQ : Q () (m.setPrev a b)) : Runs (setPrev a b) m Q :=
  .get (.require h (.of_eq rfl hQ))

end Rules

/-! ## Rings -/

/-- `b` follows `a`. -/
def Memory.Linked (m : Memory α) (a b : Nat) : Prop := m.next a = b ∧ m.prev b = a

instance (m : Memory α) (a b : Nat) : Decidable (m.Linked a b) :=
  inferInstanceAs (Decidable (_ ∧ _))

/-- The nodes between `head` and `head` are `l`. -/
structure Ring (m : Memory α) (head : Nat) (l : List Nat) : Prop where
  links : List.IsChain m.Linked (head :: (l ++ [head]))
  nodup : (head :: l).Nodup
  live : ∀ a ∈ head :: l, m.Live a

/-- A chain stands while the links along it do. -/
theorem chain_congr {m m' : Memory α} {l : List Nat} (h : List.IsChain m.Linked l)
    (hnext : ∀ a ∈ l.dropLast, m'.next a = m.next a) (hprev : ∀ b ∈ l.tail, m'.prev b = m.prev b) :
    List.IsChain m'.Linked l := by
  induction l with
  | nil => exact .nil
  | cons a l ih =>
    cases l with
    | nil => exact .singleton a
    | cons b l =>
      rw [List.isChain_cons_cons] at h ⊢
      refine ⟨⟨?_, ?_⟩, ih h.2 (fun c hc => ?_) (fun c hc => ?_)⟩
      · rw [hnext a (by simp)]
        exact h.1.1
      · rw [hprev b (by simp)]
        exact h.1.2
      · exact hnext c (by simp [hc])
      · exact hprev c (List.mem_cons_of_mem b hc)

namespace Ring
variable {m m' : Memory α} {head : Nat} {l₁ l₂ : List Nat}

theorem live_of_mem {l : List Nat} {a : Nat} (h : Ring m head l) (ha : a ∈ l) : m.Live a :=
  h.live a (List.mem_cons_of_mem head ha)

/-- What is between `p` and `n` is replaced, and the links elsewhere stand. -/
theorem splice {p n : Nat} {xs ys : List Nat} (mid mid' : List Nat)
    (h : Ring m head (l₁ ++ (mid ++ l₂)))
    (hp : head :: l₁ = xs ++ [p]) (hn : l₂ ++ [head] = n :: ys)
    (hmid : List.IsChain m'.Linked (p :: (mid' ++ [n])))
    (hnext : ∀ a, a ≠ p → a ∉ mid' → m'.next a = m.next a)
    (hprev : ∀ b, b ≠ n → b ∉ mid' → m'.prev b = m.prev b)
    (hnodup : (head :: (l₁ ++ (mid' ++ l₂))).Nodup)
    (hlive : ∀ a ∈ head :: (l₁ ++ (mid' ++ l₂)), m'.Live a) :
    Ring m' head (l₁ ++ (mid' ++ l₂)) := by
  have hwhole (k : List Nat) :
      head :: (l₁ ++ (k ++ l₂) ++ [head]) = xs ++ p :: (k ++ n :: ys) := by
    calc head :: (l₁ ++ (k ++ l₂) ++ [head])
        = (head :: l₁) ++ (k ++ (l₂ ++ [head])) := by simp
      _ = xs ++ p :: (k ++ n :: ys) := by rw [hp, hn]; simp
  have hlinks := h.links
  rw [hwhole, List.isChain_split, List.isChain_cons_split] at hlinks
  obtain ⟨hleft, -, hright⟩ := hlinks
  -- no node is on both sides of `mid'`, or in it and on a side
  have hnodup' : ((head :: l₁) ++ (mid' ++ l₂)).Nodup := hnodup
  obtain ⟨hnear, hrest, hapart⟩ := List.nodup_append.mp hnodup'
  have hfar : (l₂ ++ [head]).Nodup := by
    apply List.Nodup.append (List.Nodup.of_append_right hrest) (List.nodup_singleton head)
    intro a ha hhead
    rw [List.mem_singleton.mp hhead] at ha
    exact hapart head (by simp) head (List.mem_append_right _ ha) rfl
  have hnear_mid : ∀ a ∈ head :: l₁, a ∉ mid' := fun a ha hm =>
    hapart a ha a (List.mem_append_left _ hm) rfl
  have hfar_mid : ∀ a ∈ l₂ ++ [head], a ∉ mid' := by
    intro a ha hm
    rcases List.mem_append.mp ha with ha | ha
    · exact (List.nodup_append.mp hrest).2.2 a hm a ha rfl
    · rw [List.mem_singleton.mp ha] at hm
      exact hnear_mid head (by simp) hm
  have hpmem : p ∈ head :: l₁ := by simp [hp]
  have hnmem : n ∈ l₂ ++ [head] := by simp [hn]
  refine ⟨?_, hnodup, hlive⟩
  rw [hwhole, List.isChain_split, List.isChain_cons_split, ← hp, ← hn]
  rw [← hp] at hleft
  rw [← hn] at hright
  refine ⟨chain_congr hleft (fun a ha => ?_) (fun b hb => ?_), hmid,
    chain_congr hright (fun a ha => ?_) (fun b hb => ?_)⟩
  · have hxs : a ∈ xs := by rwa [hp, List.dropLast_concat] at ha
    refine hnext a ?_ (hnear_mid a ((List.dropLast_sublist _).mem ha))
    rintro rfl
    rw [hp] at hnear
    exact (List.nodup_append.mp hnear).2.2 a hxs a (by simp) rfl
  · refine hprev b ?_ (hnear_mid b (List.mem_of_mem_tail hb))
    rintro rfl
    rcases List.mem_append.mp hnmem with hb' | hb'
    · exact hapart b (List.mem_of_mem_tail hb) b (List.mem_append_right _ hb') rfl
    · rw [List.mem_singleton.mp hb'] at hb
      exact (List.nodup_cons.mp hnear).1 hb
  · have hl₂ : a ∈ l₂ := by rwa [List.dropLast_concat] at ha
    refine hnext a ?_ (hfar_mid a (List.mem_append_left _ hl₂))
    rintro rfl
    exact hapart a hpmem a (List.mem_append_right _ hl₂) rfl
  · have hys : b ∈ ys := by rwa [hn] at hb
    refine hprev b ?_ (hfar_mid b (List.mem_of_mem_tail hb))
    rintro rfl
    rw [hn] at hfar
    exact (List.nodup_cons.mp hfar).1 hys

theorem linked {l : List Nat} {p n : Nat} (h : Ring m head l) (xs ys : List Nat)
    (hl : head :: (l ++ [head]) = xs ++ p :: n :: ys) : m.Linked p n := by
  have hlinks := h.links
  rw [hl, List.isChain_append_cons_cons] at hlinks
  exact hlinks.2.1

/-- The last node that is not after `l₁`, and the first one that is not before `l₂`. -/
theorem ends_exist (head : Nat) (l₁ l₂ : List Nat) :
    ∃ xs p n ys, head :: l₁ = xs ++ [p] ∧ l₂ ++ [head] = n :: ys := by
  obtain ⟨xs, p, hp⟩ := (List.eq_nil_or_concat (head :: l₁)).resolve_left (by simp)
  obtain ⟨n, ys, hn⟩ := List.exists_cons_of_ne_nil (l := l₂ ++ [head]) (by simp)
  exact ⟨xs, p, n, ys, by simpa using hp, hn⟩

/-- A node on a ring stands between two others. -/
theorem neighbours {a : Nat} (h : Ring m head (l₁ ++ a :: l₂)) :
    ∃ xs p n ys, head :: l₁ = xs ++ [p] ∧ l₂ ++ [head] = n :: ys ∧ m.Linked p a ∧
      m.Linked a n := by
  obtain ⟨xs, p, n, ys, hp, hn⟩ := ends_exist head l₁ l₂
  have hwhole : head :: (l₁ ++ a :: l₂ ++ [head]) = xs ++ p :: a :: n :: ys := by
    calc head :: (l₁ ++ a :: l₂ ++ [head])
        = (head :: l₁) ++ (a :: (l₂ ++ [head])) := by simp
      _ = xs ++ p :: a :: n :: ys := by rw [hp, hn]; simp
  refine ⟨xs, p, n, ys, hp, hn, h.linked _ _ hwhole, ?_⟩
  apply h.linked (xs ++ [p]) ys
  rw [hwhole]
  simp

/-- The neighbours of a node are there, and are others. -/
theorem around {l : List Nat} {a : Nat} (h : Ring m head l) (ha : a ∈ l) :
    m.Live (m.prev a) ∧ m.Live (m.next a) ∧ m.prev a ≠ a := by
  obtain ⟨l₁, l₂, rfl⟩ := List.append_of_mem ha
  obtain ⟨xs, p, n, ys, hp, hn, hpa, han⟩ := h.neighbours
  have hpmem : p ∈ head :: l₁ := by simp [hp]
  have hnmem : n ∈ l₂ ++ [head] := by simp [hn]
  have hnodup : ((head :: l₁) ++ a :: l₂).Nodup := h.nodup
  rw [hpa.2, han.1]
  refine ⟨h.live p ?_, h.live n ?_, (List.nodup_append.mp hnodup).2.2 p hpmem a (by simp)⟩
  · exact List.mem_append_left (a :: l₂) hpmem
  · simp only [List.mem_cons, List.mem_append, List.not_mem_nil, or_false] at hnmem ⊢
    tauto

/-- The neighbours of a node that leaves are joined. -/
theorem leave {a : Nat} (h : Ring m head (l₁ ++ a :: l₂)) :
    Ring (m.bridge (m.prev a) (m.next a)) head (l₁ ++ l₂) := by
  obtain ⟨xs, p, n, ys, hp, hn, hpa, han⟩ := h.neighbours
  rw [hpa.2, han.1]
  have hsub : (head :: (l₁ ++ l₂)).Sublist (head :: (l₁ ++ a :: l₂)) :=
    .cons_cons _ (.append (.refl _) (.cons _ (.refl _)))
  apply h.splice [a] [] hp hn
  · exact .cons_cons ⟨Function.update_self .., Function.update_self ..⟩ (.singleton n)
  · intro b hb _
    exact Function.update_of_ne hb ..
  · intro b hb _
    exact Function.update_of_ne hb ..
  · exact h.nodup.sublist hsub
  · exact fun b hb => h.live b (hsub.mem hb)

theorem leave_filter {l : List Nat} {a : Nat} (h : Ring m head l) (ha : a ∈ l) :
    Ring (m.bridge (m.prev a) (m.next a)) head (l.filter (· ≠ a)) := by
  obtain ⟨l₁, l₂, rfl⟩ := List.append_of_mem ha
  rw [Lists.filter_ne_middle (List.nodup_cons.mp h.nodup).2]
  exact h.leave

/-- The nodes on the two sides of a gap are linked. -/
theorem gap {p : Nat} {xs : List Nat} (h : Ring m head (l₁ ++ l₂)) (hp : head :: l₁ = xs ++ [p]) :
    ∃ n ys, l₂ ++ [head] = n :: ys ∧ m.Linked p n ∧ p ∈ head :: (l₁ ++ l₂) ∧
      n ∈ head :: (l₁ ++ l₂) := by
  obtain ⟨n, ys, hn⟩ := List.exists_cons_of_ne_nil (l := l₂ ++ [head]) (by simp)
  have hwhole : head :: (l₁ ++ l₂ ++ [head]) = xs ++ p :: n :: ys := by
    calc head :: (l₁ ++ l₂ ++ [head])
        = (head :: l₁) ++ (l₂ ++ [head]) := by simp
      _ = xs ++ p :: n :: ys := by rw [hp, hn]; simp
  have hpmem : p ∈ head :: l₁ := by simp [hp]
  have hnmem : n ∈ l₂ ++ [head] := by simp [hn]
  refine ⟨n, ys, hn, h.linked _ _ hwhole, List.mem_append_left l₂ hpmem, ?_⟩
  simp only [List.mem_cons, List.mem_append, List.not_mem_nil, or_false] at hnmem ⊢
  tauto

/-- A new node comes after `p`. -/
theorem enter {a p : Nat} {xs : List Nat} (h : Ring m head (l₁ ++ l₂))
    (hp : head :: l₁ = xs ++ [p]) (ha : a ∉ head :: (l₁ ++ l₂)) (hlive : m.Live a) :
    Ring (m.insert p a (m.next p)) head (l₁ ++ a :: l₂) := by
  obtain ⟨n, ys, hn, hpn, hpmem, hnmem⟩ := h.gap hp
  have hap : a ≠ p := (ne_of_mem_of_not_mem hpmem ha).symm
  have han : a ≠ n := (ne_of_mem_of_not_mem hnmem ha).symm
  have hperm : (head :: (l₁ ++ a :: l₂)).Perm (a :: head :: (l₁ ++ l₂)) :=
    (List.perm_middle.cons head).trans (.swap ..)
  rw [hpn.1]
  apply h.splice [] [a] hp hn
  · refine .cons_cons ⟨?_, ?_⟩ (.cons_cons ⟨?_, ?_⟩ (.singleton n))
    · exact Function.update_self ..
    · simp [Memory.insert, Memory.setNext, Memory.setPrev, han]
    · simp [Memory.insert, Memory.setNext, Memory.setPrev, hap]
    · exact Function.update_self ..
  · intro b hb hba
    rw [List.mem_singleton] at hba
    simp [Memory.insert, Memory.setNext, Memory.setPrev, hb, hba]
  · intro b hb hba
    rw [List.mem_singleton] at hba
    simp [Memory.insert, Memory.setNext, Memory.setPrev, hb, hba]
  · exact hperm.nodup_iff.mpr (List.nodup_cons.mpr ⟨ha, h.nodup⟩)
  · intro b hb
    rcases List.mem_cons.mp (hperm.mem_iff.mp hb) with rfl | hb
    · exact hlive
    · exact h.live b hb

/-- The last node, which may be `head`. -/
theorem last {l : List Nat} (h : Ring m head l) :
    ∃ xs, head :: l = xs ++ [m.prev head] ∧ m.next (m.prev head) = head := by
  obtain ⟨xs, p, -, -, hp, -⟩ := ends_exist head l []
  have hlast := h.linked (p := p) (n := head) xs []
    (by rw [← List.cons_append, hp, List.append_assoc]; rfl)
  rw [hlast.2]
  exact ⟨xs, hp, hlast.1⟩

/-- A new node comes at the end. -/
theorem append {a : Nat} {l : List Nat} (h : Ring m head l) (ha : a ∉ head :: l)
    (hlive : m.Live a) : Ring (m.insert (m.prev head) a head) head (l ++ [a]) := by
  obtain ⟨xs, hp, hnext⟩ := h.last
  have h' : Ring m head (l ++ []) := by rwa [List.append_nil]
  have hring := h'.enter hp (by rwa [List.append_nil]) hlive
  rwa [hnext] at hring

/-- Where the nodes are elsewhere written, the ring stands. -/
theorem place {a : Nat} {l : List Nat} (h : Ring m head l) (ha : a ∉ head :: l)
    (next prev : Nat) (d : Option α) : Ring (m.place a next prev d) head l := by
  have hoff : ∀ b ∈ head :: l, b ≠ a := by
    rintro b hb rfl
    exact ha hb
  have hmem {b : Nat} (hb : b ∈ head :: (l ++ [head])) : b ∈ head :: l := by
    simp only [List.mem_cons, List.mem_append, List.not_mem_nil, or_false] at hb ⊢
    tauto
  refine ⟨chain_congr h.links (fun b hb => ?_) (fun b hb => ?_), h.nodup, fun b hb => ?_⟩
  · exact Function.update_of_ne (hoff b (hmem ((List.dropLast_sublist _).mem hb))) ..
  · exact Function.update_of_ne (hoff b (hmem (List.mem_of_mem_tail hb))) ..
  · have hdata : (m.place a next prev d).data b = m.data b :=
      Function.update_of_ne (hoff b hb) ..
    rw [Memory.Live, hdata]
    exact h.live b hb

end Ring

end PwOss.Links
