import Mathlib.Data.List.Perm.Subperm
import PwOss.Spa.HookList

/-
  Traversals of a hook list survive what callbacks do to it.

  The nodes of the list are the registered hooks, in order, and the cursors of the
  traversals under way (`Woven`). What a traversal has called and what lies ahead of
  its cursor are the hooks that were in the list at its start and those that were
  appended since, without the ones that were removed ahead of it (`Follows`). The cursors
  ahead of its own belong to the traversals below it on the stack (`Skips`), so it hops
  over each of them at most once.
-/

namespace PwOss.Spa.HookList

open PwOss.Links PwOss.Lists PwOss.Proc PwOss.Transition

variable {C : Type}

/-! ## The invariant -/

/-- The hook at a node. -/
def hookAt (m : HookMemory C) (a : Nat) : Option (Hook C) := (m.data a).join

/-- The cursor at a node, if it is among `cursors`. -/
def cursorAt (cursors : List Nat) (a : Nat) : Option Nat := if a ∈ cursors then some a else none

structure Woven (list : Nat) (s : State C) (nodes : List Nat) : Prop where
  ring : Ring s.memory list nodes
  perm : nodes.Perm (s.frames.map Frame.cursor ++ s.hooks.map Hook.addr)
  cursors : ∀ c ∈ s.frames.map Frame.cursor, s.memory.data c = some none
  held : ∀ h ∈ s.hooks, s.memory.data h.addr = some (some h)
  order : nodes.filterMap (hookAt s.memory) = s.hooks
  numbers : (s.hooks.map Hook.number).Nodup
  older : ∀ h ∈ s.hooks, h.number < s.count

structure Follows (s : State C) (nodes : List Nat) (f : Frame C) : Prop where
  left : s.hooks = (f.start ++ f.added).filter (·.number ∉ f.removed)
  turns : f.called ++ ahead (hookAt s.memory) f.cursor nodes =
    (f.start ++ f.added).filter (·.number ∉ f.missed)
  numbers : ((f.start ++ f.added).map Hook.number).Nodup
  older : ∀ h ∈ f.start ++ f.added, h.number < s.count
  gone : ∀ n ∈ f.removed, n < s.count
  missed : ∀ n ∈ f.missed, n ∈ f.removed ∧ n ∉ f.called.map Hook.number

/-- The cursors of a stack, each with what it hopped over: it has the ones below it
ahead, or hopped over them. -/
def Skips (nodes : List Nat) : List (Nat × Nat) → Prop
  | [] => True
  | (c, skipped) :: below =>
    skipped + (ahead (cursorAt (below.map Prod.fst)) c nodes).length ≤ below.length ∧
      Skips nodes below

/-- The cursors of the frames, each with what it hopped over. -/
def hops (frames : List (Frame C)) : List (Nat × Nat) := frames.map fun f => (f.cursor, f.skipped)

structure Sound (list : Nat) (s : State C) (nodes : List Nat) : Prop where
  woven : Woven list s nodes
  follows : ∀ f ∈ s.frames, Follows s nodes f
  skips : Skips nodes (hops s.frames)

@[simp] theorem hops_fst (frames : List (Frame C)) :
    (hops frames).map Prod.fst = frames.map Frame.cursor := by
  simp [hops]

@[simp] theorem hops_gain (hook : Hook C) (frames : List (Frame C)) :
    hops (frames.map (Frame.gain hook)) = hops frames := by
  simp [hops, Function.comp_def, Frame.gain]

@[simp] theorem hops_lose (number : Nat) (frames : List (Frame C)) :
    hops (frames.map (Frame.lose number)) = hops frames := by
  simp [hops, Function.comp_def, Frame.lose]

/-- Callbacks leave the stack as it is. -/
@[simp] theorem cursors_gain (hook : Hook C) (frames : List (Frame C)) :
    (frames.map (Frame.gain hook)).map Frame.cursor = frames.map Frame.cursor := by
  rw [← hops_fst, hops_gain, hops_fst]

@[simp] theorem cursors_lose (number : Nat) (frames : List (Frame C)) :
    (frames.map (Frame.lose number)).map Frame.cursor = frames.map Frame.cursor := by
  rw [← hops_fst, hops_lose, hops_fst]

theorem cursorAt_of_notMem {cursors : List Nat} {a : Nat} (h : a ∉ cursors) :
    cursorAt cursors a = none := if_neg h

namespace Woven
variable {list : Nat} {s : State C} {nodes : List Nat}

theorem nodup (h : Woven list s nodes) : nodes.Nodup := (List.nodup_cons.mp h.ring.nodup).2

theorem mem_iff (h : Woven list s nodes) {a : Nat} :
    a ∈ nodes ↔ a ∈ s.frames.map Frame.cursor ∨ a ∈ s.hooks.map Hook.addr := by
  rw [h.perm.mem_iff, List.mem_append]

theorem off (h : Woven list s nodes) {a : Nat} (ha : s.Unlinked list a) : a ∉ list :: nodes := by
  rw [List.mem_cons, h.mem_iff]
  rintro (h' | h' | h')
  · exact ha.1 h'
  · exact ha.2.1 h'
  · exact ha.2.2 h'

theorem hookAt_cursor (h : Woven list s nodes) {c : Nat} (hc : c ∈ s.frames.map Frame.cursor) :
    hookAt s.memory c = none := by
  rw [hookAt, h.cursors c hc]
  rfl

theorem hookAt_hook (h : Woven list s nodes) {k : Hook C} (hk : k ∈ s.hooks) :
    hookAt s.memory k.addr = some k := by
  rw [hookAt, h.held k hk]
  rfl

theorem cursor_ne (h : Woven list s nodes) {c : Nat} (hc : c ∈ s.frames.map Frame.cursor)
    {k : Hook C} (hk : k ∈ s.hooks) : c ≠ k.addr := by
  rintro rfl
  have hnone := h.hookAt_cursor hc
  rw [h.hookAt_hook hk] at hnone
  cases hnone

/-- The hook at a node is the registered one. -/
theorem of_hookAt (h : Woven list s nodes) {a : Nat} {k : Hook C} (ha : a ∈ nodes)
    (hk : hookAt s.memory a = some k) : k ∈ s.hooks ∧ k.addr = a := by
  have hmem : k ∈ s.hooks := by
    rw [← h.order, List.mem_filterMap]
    exact ⟨a, ha, hk⟩
  rcases h.mem_iff.mp ha with hc | haddr
  · rw [h.hookAt_cursor hc] at hk
    cases hk
  · obtain ⟨k', hk', rfl⟩ := List.mem_map.mp haddr
    rw [h.hookAt_hook hk'] at hk
    cases hk
    exact ⟨hmem, rfl⟩

end Woven

/-! ## What the steps do to it -/

theorem hookAt_congr {m m' : HookMemory C} (h : m'.data = m.data) : hookAt m' = hookAt m := by
  funext a
  rw [hookAt, hookAt, h]

theorem hookAt_update {m m' : HookMemory C} {a b : Nat} {d : Option (Option (Hook C))}
    (h : m'.data = Function.update m.data a d) (hb : b ≠ a) : hookAt m' b = hookAt m b := by
  rw [hookAt, hookAt, h, Function.update_of_ne hb]

theorem Follows.keep {s s' : State C} {nodes nodes' : List Nat} {f : Frame C}
    (h : Follows s nodes f) (hhooks : s'.hooks = s.hooks) (hcount : s'.count = s.count)
    (hahead : ahead (hookAt s'.memory) f.cursor nodes' = ahead (hookAt s.memory) f.cursor nodes) :
    Follows s' nodes' f where
  left := hhooks.trans h.left
  turns := by
    rw [hahead]
    exact h.turns
  numbers := h.numbers
  older := by
    rw [hcount]
    exact h.older
  gone := by
    rw [hcount]
    exact h.gone
  missed := h.missed

/-- Where the traversal stands in its turns is nothing to the hooks. -/
theorem Follows.mark {s : State C} {nodes : List Nat} {f : Frame C} (h : Follows s nodes f)
    (calling : Bool) (skipped : Nat) : Follows s nodes { f with calling, skipped } :=
  ⟨h.left, h.turns, h.numbers, h.older, h.gone, h.missed⟩

theorem Skips.keep {nodes nodes' : List Nat} {stack : List (Nat × Nat)} (h : Skips nodes stack)
    (hsame : ∀ c ∈ stack.map Prod.fst, ∀ below, below ⊆ stack.map Prod.fst →
      ahead (cursorAt below) c nodes' = ahead (cursorAt below) c nodes) :
    Skips nodes' stack := by
  induction stack with
  | nil => trivial
  | cons top below ih =>
    have hsub : below.map Prod.fst ⊆ (top :: below).map Prod.fst := by simp
    refine ⟨?_, ih h.2 fun c hc lower hlower => ?_⟩
    · rw [hsame top.1 (by simp) _ hsub]
      exact h.1
    · exact hsame c (hsub hc) lower (List.Subset.trans hlower hsub)

section Steps
variable {list : Nat} {s : State C} {nodes : List Nat} {m : HookMemory C}

/-- Memory changes off the nodes. -/
theorem Sound.rewrite (h : Sound list s nodes) (hring : Ring m list nodes)
    (hdata : ∀ a ∈ nodes, m.data a = s.memory.data a) :
    Sound list { s with memory := m } nodes := by
  have hat : ∀ a ∈ nodes, hookAt m a = hookAt s.memory a := by
    intro a ha
    rw [hookAt, hookAt, hdata a ha]
  refine ⟨⟨hring, h.woven.perm, fun c hc => ?_, fun k hk => ?_, ?_, h.woven.numbers,
    h.woven.older⟩, fun f hf => ?_, h.skips⟩
  · exact (hdata c (h.woven.mem_iff.mpr (.inl hc))).trans (h.woven.cursors c hc)
  · exact (hdata k.addr (h.woven.mem_iff.mpr (.inr (List.mem_map_of_mem hk)))).trans
      (h.woven.held k hk)
  · exact (List.filterMap_congr hat).trans h.woven.order
  · exact (h.follows f hf).keep rfl rfl (ahead_congr hat)

/-! ### A hook is appended -/

/-- The next number is a new one. -/
theorem numbers_append {hooks : List (Hook C)} {k : Hook C} (h : (hooks.map Hook.number).Nodup)
    (hlt : ∀ j ∈ hooks, j.number < k.number) : ((hooks ++ [k]).map Hook.number).Nodup := by
  rw [List.map_append]
  apply h.append (List.nodup_singleton k.number)
  intro n hn hk
  obtain ⟨j, hj, rfl⟩ := List.mem_map.mp hn
  exact Nat.ne_of_lt (hlt j hj) (List.mem_singleton.mp hk)

theorem older_append {hooks : List (Hook C)} {k : Hook C}
    (hlt : ∀ j ∈ hooks, j.number < k.number) :
    ∀ j ∈ hooks ++ [k], j.number < k.number + 1 := by
  intro j hj
  rcases List.mem_append.mp hj with hj | hj
  · exact Nat.lt_succ_of_lt (hlt j hj)
  · rw [List.mem_singleton.mp hj]
    exact Nat.lt_succ_self k.number

theorem Woven.append (h : Woven list s nodes) {addr : Nat} {cb : C} (ha : s.Unlinked list addr)
    (hring : Ring m list (nodes ++ [addr]))
    (hdata : m.data =
      Function.update s.memory.data addr (some (some ⟨addr, s.count, cb⟩))) :
    Woven list ({ s with memory := m }.gain ⟨addr, s.count, cb⟩) (nodes ++ [addr]) where
  ring := hring
  perm := by
    show (nodes ++ [addr]).Perm
      ((s.frames.map (Frame.gain _)).map Frame.cursor ++ (s.hooks ++ [_]).map Hook.addr)
    rw [cursors_gain, List.map_append, ← List.append_assoc]
    exact h.perm.append_right [addr]
  cursors := by
    intro c hc
    have hc : c ∈ s.frames.map Frame.cursor := by
      rwa [← cursors_gain ⟨addr, s.count, cb⟩]
    have hne : c ≠ addr := ne_of_mem_of_not_mem hc ha.2.1
    show m.data c = some none
    rw [hdata, Function.update_of_ne hne, h.cursors c hc]
  held := by
    intro k hk
    show m.data k.addr = some (some k)
    rw [hdata]
    rcases List.mem_append.mp hk with hk | hk
    · rw [Function.update_of_ne (ne_of_mem_of_not_mem (List.mem_map_of_mem hk) ha.2.2), h.held k hk]
    · rw [List.mem_singleton.mp hk, Function.update_self]
  order := by
    have hout : addr ∉ nodes := fun hmem => h.off ha (List.mem_cons_of_mem list hmem)
    have hnew : hookAt m addr = some ⟨addr, s.count, cb⟩ := by
      rw [hookAt, hdata, Function.update_self]
      rfl
    show (nodes ++ [addr]).filterMap (hookAt m) = s.hooks ++ [⟨addr, s.count, cb⟩]
    rw [List.filterMap_append, List.filterMap_cons_some hnew, ← h.order]
    congr 1
    exact List.filterMap_congr fun a ha' => hookAt_update hdata (ne_of_mem_of_not_mem ha' hout)
  numbers := numbers_append h.numbers h.older
  older := older_append h.older

theorem Follows.gain {f : Frame C} (h : Follows s nodes f) (hf : f ∈ s.frames)
    (hw : Woven list s nodes) {addr : Nat} {cb : C} (ha : s.Unlinked list addr)
    (hdata : m.data =
      Function.update s.memory.data addr (some (some ⟨addr, s.count, cb⟩))) :
    Follows ({ s with memory := m }.gain ⟨addr, s.count, cb⟩) (nodes ++ [addr])
      (f.gain ⟨addr, s.count, cb⟩) where
  left := by
    have hnew : s.count ∉ f.removed := fun hmem => Nat.lt_irrefl s.count (h.gone _ hmem)
    show s.hooks ++ [_] = (f.start ++ (f.added ++ [_])).filter (·.number ∉ f.removed)
    rw [← List.append_assoc, List.filter_append, ← h.left, List.filter_cons_of_pos (by simpa),
      List.filter_nil]
  turns := by
    have hnew : s.count ∉ f.missed := fun hmem =>
      Nat.lt_irrefl s.count (h.gone _ (h.missed _ hmem).1)
    have hcursor : f.cursor ∈ nodes := hw.mem_iff.mpr (.inl (List.mem_map_of_mem hf))
    have hout : addr ∉ nodes := fun hmem => hw.off ha (List.mem_cons_of_mem list hmem)
    have hat : hookAt m addr = some ⟨addr, s.count, cb⟩ := by
      rw [hookAt, hdata, Function.update_self]
      rfl
    show f.called ++ ahead (hookAt m) f.cursor (nodes ++ [addr]) =
      (f.start ++ (f.added ++ [_])).filter (·.number ∉ f.missed)
    rw [ahead_append hcursor, hat, Option.toList_some, ← List.append_assoc, ← List.append_assoc,
      List.filter_append, ← h.turns, List.filter_cons_of_pos (by simpa), List.filter_nil,
      ahead_congr fun b hb => hookAt_update hdata (ne_of_mem_of_not_mem hb hout)]
  numbers := by
    show ((f.start ++ (f.added ++ [_])).map Hook.number).Nodup
    rw [← List.append_assoc]
    exact numbers_append h.numbers h.older
  older := by
    show ∀ k ∈ f.start ++ (f.added ++ [_]), k.number < s.count + 1
    rw [← List.append_assoc]
    exact older_append h.older
  gone := fun n hn => Nat.lt_succ_of_lt (h.gone n hn)
  missed := h.missed

theorem Sound.append (h : Sound list s nodes) {addr : Nat} {cb : C} (ha : s.Unlinked list addr)
    (hring : Ring m list (nodes ++ [addr]))
    (hdata : m.data =
      Function.update s.memory.data addr (some (some ⟨addr, s.count, cb⟩))) :
    Sound list ({ s with memory := m }.gain ⟨addr, s.count, cb⟩) (nodes ++ [addr]) where
  woven := h.woven.append ha hring hdata
  follows := by
    intro g hg
    obtain ⟨f, hf, rfl⟩ := List.mem_map.mp hg
    exact (h.follows f hf).gain hf h.woven ha hdata
  skips := by
    show Skips (nodes ++ [addr]) (hops (s.frames.map (Frame.gain _)))
    rw [hops_gain]
    apply h.skips.keep
    intro c hc below hbelow
    rw [hops_fst] at hc hbelow
    rw [ahead_append (h.woven.mem_iff.mpr (.inl hc)),
      cursorAt_of_notMem fun hmem => ha.2.1 (hbelow hmem), Option.toList_none, List.append_nil]

/-! ### A hook is removed -/

theorem Woven.number_iff (h : Woven list s nodes) {j k : Hook C} (hj : j ∈ s.hooks)
    (hk : k ∈ s.hooks) : j.number = k.number ↔ j.addr = k.addr := by
  constructor
  · intro hnumber
    rw [List.inj_on_of_nodup_map h.numbers hj hk hnumber]
  · intro haddr
    have hsame := h.held k hk
    rw [← haddr, h.held j hj] at hsame
    cases hsame
    rfl

theorem Frame.missed_lose_of_mem (f : Frame C) {n : Nat} (h : n ∈ f.called.map Hook.number) :
    (f.lose n).missed = f.missed := if_pos h

theorem Frame.missed_lose_of_notMem (f : Frame C) {n : Nat}
    (h : n ∉ f.called.map Hook.number) : (f.lose n).missed = f.missed ++ [n] := if_neg h

/-- At the nodes, to keep off a hook's address is to keep off its number. -/
theorem Woven.number_ne (h : Woven list s nodes) {k : Hook C} (hk : k ∈ s.hooks) (a : Nat)
    (ha : a ∈ nodes) (j : Hook C) (hj : hookAt s.memory a = some j) :
    decide (j.number ≠ k.number) = decide (a ≠ k.addr) := by
  obtain ⟨hmem, rfl⟩ := h.of_hookAt ha hj
  exact decide_eq_decide.mpr (not_congr (h.number_iff hmem hk))

theorem Woven.remove (h : Woven list s nodes) {k : Hook C} (hk : k ∈ s.hooks)
    (hring : Ring m list (nodes.filter (· ≠ k.addr))) (hdata : m.data = s.memory.data) :
    Woven list ({ s with memory := m }.lose k.number) (nodes.filter (· ≠ k.addr)) where
  ring := hring
  perm := by
    have hcursors : (s.frames.map Frame.cursor).filter (· ≠ k.addr) =
        s.frames.map Frame.cursor := by
      rw [List.filter_eq_self]
      intro c hc
      simpa using h.cursor_ne hc hk
    have hhooks : (s.hooks.map Hook.addr).filter (· ≠ k.addr) =
        (s.hooks.filter (·.number ≠ k.number)).map Hook.addr := by
      rw [List.filter_map]
      congr 1
      apply List.filter_congr
      intro j hj
      exact (h.number_ne hk j.addr (h.mem_iff.mpr (.inr (List.mem_map_of_mem hj))) j
        (h.hookAt_hook hj)).symm
    show (nodes.filter (· ≠ k.addr)).Perm
      ((s.frames.map (Frame.lose _)).map Frame.cursor ++ (s.hooks.filter _).map Hook.addr)
    rw [cursors_lose, ← hhooks, ← hcursors, ← List.filter_append]
    exact h.perm.filter _
  cursors := by
    intro c hc
    show m.data c = some none
    rw [hdata]
    apply h.cursors c
    rwa [← cursors_lose k.number]
  held := by
    intro j hj
    show m.data j.addr = some (some j)
    rw [hdata]
    exact h.held j (List.mem_of_mem_filter hj)
  order := by
    show (nodes.filter (· ≠ k.addr)).filterMap (hookAt m) = s.hooks.filter (·.number ≠ k.number)
    rw [hookAt_congr hdata, ← h.order]
    exact filterMap_filter_comm (h.number_ne hk)
  numbers := h.numbers.sublist (List.filter_sublist.map Hook.number)
  older := fun j hj => h.older j (List.mem_of_mem_filter hj)

/-- What was called and what lies ahead are different hooks. -/
theorem Follows.apart {f : Frame C} (h : Follows s nodes f) {j k : Hook C} (hj : j ∈ f.called)
    (hk : k ∈ ahead (hookAt s.memory) f.cursor nodes) : j.number ≠ k.number := by
  have hnodup := h.numbers.sublist
    ((List.filter_sublist (p := fun k => k.number ∉ f.missed)).map Hook.number)
  rw [← h.turns, List.map_append] at hnodup
  exact (List.nodup_append.mp hnodup).2.2 _ (List.mem_map_of_mem hj) _ (List.mem_map_of_mem hk)

theorem Follows.lose {f : Frame C} (h : Follows s nodes f) (hf : f ∈ s.frames)
    (hw : Woven list s nodes) {k : Hook C} (hk : k ∈ s.hooks) (hdata : m.data = s.memory.data) :
    Follows ({ s with memory := m }.lose k.number) (nodes.filter (· ≠ k.addr))
      (f.lose k.number) where
  left := by
    show s.hooks.filter (·.number ≠ k.number) =
      (f.start ++ f.added).filter (·.number ∉ f.removed ++ [k.number])
    rw [h.left, List.filter_filter]
    apply List.filter_congr
    intro j _
    simp [not_or, and_comm]
  turns := by
    have hne : f.cursor ≠ k.addr := hw.cursor_ne (List.mem_map_of_mem hf) hk
    have hahead : ahead (hookAt m) f.cursor (nodes.filter (· ≠ k.addr)) =
        (ahead (hookAt s.memory) f.cursor nodes).filter (·.number ≠ k.number) := by
      rw [hookAt_congr hdata]
      exact ahead_filter_comm (by simpa using hne) (hw.number_ne hk)
    show f.called ++ ahead (hookAt m) f.cursor (nodes.filter (· ≠ k.addr)) =
      (f.start ++ f.added).filter (·.number ∉ (f.lose k.number).missed)
    rw [hahead]
    by_cases hcalled : k.number ∈ f.called.map Hook.number
    · -- it was called, so it does not lie ahead
      have hkeep : (ahead (hookAt s.memory) f.cursor nodes).filter (·.number ≠ k.number) =
          ahead (hookAt s.memory) f.cursor nodes := by
        rw [List.filter_eq_self]
        intro j hj
        obtain ⟨i, hi, hsame⟩ := List.mem_map.mp hcalled
        have hij := h.apart hi hj
        rw [hsame] at hij
        simpa using hij.symm
      rw [hkeep, h.turns, f.missed_lose_of_mem hcalled]
    · -- it goes from what lies ahead
      have hkeep : f.called.filter (·.number ≠ k.number) = f.called := by
        rw [List.filter_eq_self]
        intro j hj
        simpa using ne_of_mem_of_not_mem (List.mem_map_of_mem hj) hcalled
      calc f.called ++ (ahead (hookAt s.memory) f.cursor nodes).filter (·.number ≠ k.number)
          = (f.called ++ ahead (hookAt s.memory) f.cursor nodes).filter
              (·.number ≠ k.number) := by rw [List.filter_append, hkeep]
        _ = (f.start ++ f.added).filter (·.number ∉ f.missed ++ [k.number]) := by
          rw [h.turns, List.filter_filter]
          apply List.filter_congr
          intro j _
          simp [not_or, and_comm]
        _ = (f.start ++ f.added).filter (·.number ∉ (f.lose k.number).missed) := by
          rw [f.missed_lose_of_notMem hcalled]
  numbers := h.numbers
  older := h.older
  gone := by
    intro n hn
    rcases List.mem_append.mp hn with hn | hn
    · exact h.gone n hn
    · rw [List.mem_singleton.mp hn]
      exact hw.older k hk
  missed := by
    intro n hn
    by_cases hcalled : k.number ∈ f.called.map Hook.number
    · rw [f.missed_lose_of_mem hcalled] at hn
      obtain ⟨hremoved, hout⟩ := h.missed n hn
      exact ⟨List.mem_append_left _ hremoved, hout⟩
    · rw [f.missed_lose_of_notMem hcalled] at hn
      rcases List.mem_append.mp hn with hn | hn
      · obtain ⟨hremoved, hout⟩ := h.missed n hn
        exact ⟨List.mem_append_left _ hremoved, hout⟩
      · rw [List.mem_singleton.mp hn]
        exact ⟨List.mem_append_right _ (List.mem_singleton_self _), hcalled⟩

theorem Sound.remove (h : Sound list s nodes) {k : Hook C} (hk : k ∈ s.hooks)
    (hring : Ring m list (nodes.filter (· ≠ k.addr))) (hdata : m.data = s.memory.data) :
    Sound list ({ s with memory := m }.lose k.number) (nodes.filter (· ≠ k.addr)) where
  woven := h.woven.remove hk hring hdata
  follows := by
    intro g hg
    obtain ⟨f, hf, rfl⟩ := List.mem_map.mp hg
    exact (h.follows f hf).lose hf h.woven hk hdata
  skips := by
    show Skips (nodes.filter (· ≠ k.addr)) (hops (s.frames.map (Frame.lose _)))
    rw [hops_lose]
    apply h.skips.keep
    intro c hc below hbelow
    rw [hops_fst] at hc hbelow
    apply ahead_filter (h.woven.cursor_ne hc hk)
    exact cursorAt_of_notMem fun hmem => h.woven.cursor_ne (hbelow hmem) hk rfl

/-! ### A traversal begins -/

/-- Nodes that are among the cursors are no more than these. -/
theorem length_cursorAt_le (cursors : List Nat) {nodes : List Nat} (h : nodes.Nodup) :
    (nodes.filterMap (cursorAt cursors)).length ≤ cursors.length := by
  have hback {a b : Nat} (hb : b ∈ cursorAt cursors a) : b ∈ cursors ∧ b = a := by
    rw [cursorAt, Option.mem_ite_none_right, Option.mem_some_iff] at hb
    exact ⟨hb.2 ▸ hb.1, hb.2.symm⟩
  have hnodup : (nodes.filterMap (cursorAt cursors)).Nodup := by
    apply h.filterMap
    intro a a' b hb hb'
    exact (hback hb).2.symm.trans (hback hb').2
  apply (List.subperm_of_subset hnodup fun b hb => ?_).length_le
  obtain ⟨a, -, ha⟩ := List.mem_filterMap.mp hb
  exact (hback ha).1

theorem Woven.begin (h : Woven list s nodes) {c : Nat} (hc : s.Unlinked list c)
    (hring : Ring m list (c :: nodes))
    (hdata : m.data = Function.update s.memory.data c (some none)) :
    Woven list { s with memory := m, frames := .begin c s.hooks :: s.frames } (c :: nodes) where
  ring := hring
  perm := h.perm.cons c
  cursors := by
    intro c' hc'
    show m.data c' = some none
    rw [hdata]
    rcases List.mem_cons.mp hc' with rfl | hc'
    · exact Function.update_self ..
    · rw [Function.update_of_ne (ne_of_mem_of_not_mem hc' hc.2.1), h.cursors c' hc']
  held := by
    intro k hk
    show m.data k.addr = some (some k)
    rw [hdata, Function.update_of_ne (ne_of_mem_of_not_mem (List.mem_map_of_mem hk) hc.2.2),
      h.held k hk]
  order := by
    have hout : c ∉ nodes := (List.nodup_cons.mp (List.nodup_cons.mp hring.nodup).2).1
    have hnone : hookAt m c = none := by
      rw [hookAt, hdata, Function.update_self]
      rfl
    show (c :: nodes).filterMap (hookAt m) = s.hooks
    rw [List.filterMap_cons_none hnone, ← h.order]
    exact List.filterMap_congr fun a ha => hookAt_update hdata (ne_of_mem_of_not_mem ha hout)
  numbers := h.numbers
  older := h.older

theorem Sound.begin (h : Sound list s nodes) {c : Nat} (hc : s.Unlinked list c)
    (hring : Ring m list (c :: nodes))
    (hdata : m.data = Function.update s.memory.data c (some none)) :
    Sound list { s with memory := m, frames := .begin c s.hooks :: s.frames } (c :: nodes) := by
  have hwoven := h.woven.begin hc hring hdata
  have hout : c ∉ nodes := (List.nodup_cons.mp (List.nodup_cons.mp hring.nodup).2).1
  refine ⟨hwoven, fun f hf => ?_, ?_, ?_⟩
  · rcases List.mem_cons.mp hf with rfl | hf
    · have hnone : hookAt m c = none := hwoven.hookAt_cursor (List.mem_cons_self ..)
      have hall : ahead (hookAt m) c (c :: nodes) = s.hooks := by
        calc ahead (hookAt m) c (c :: nodes)
            = nodes.filterMap (hookAt m) := by rw [ahead, after_cons_self]
          _ = (c :: nodes).filterMap (hookAt m) := (List.filterMap_cons_none hnone).symm
          _ = s.hooks := hwoven.order
      constructor
      case left => simp [Frame.begin]
      case turns => simpa [Frame.begin] using hall
      case numbers => simpa [Frame.begin] using h.woven.numbers
      case older => simpa [Frame.begin] using h.woven.older
      case gone => simp [Frame.begin]
      case missed => simp [Frame.begin]
    · have hne : c ≠ f.cursor := (ne_of_mem_of_not_mem (List.mem_map_of_mem hf) hc.2.1).symm
      refine (h.follows f hf).keep rfl rfl ?_
      rw [ahead_cons hne]
      exact ahead_congr fun a ha => hookAt_update hdata (ne_of_mem_of_not_mem ha hout)
  · show 0 + (ahead (cursorAt ((hops s.frames).map Prod.fst)) c (c :: nodes)).length ≤
      (hops s.frames).length
    rw [Nat.zero_add, ahead, after_cons_self, ← List.length_map Prod.fst]
    exact length_cursorAt_le _ h.woven.nodup
  · apply h.skips.keep
    intro c' hc' below _
    rw [hops_fst] at hc'
    exact ahead_cons (ne_of_mem_of_not_mem hc' hc.2.1).symm

/-! ### A traversal goes on, or ends -/

theorem Woven.top_mem (h : Woven list s nodes) {f : Frame C} {rest : List (Frame C)}
    (hs : s.frames = f :: rest) : f.cursor ∈ nodes := by
  apply h.mem_iff.mpr
  left
  rw [hs]
  exact List.mem_cons_self ..

theorem Woven.hookAt_top (h : Woven list s nodes) {f : Frame C} {rest : List (Frame C)}
    (hs : s.frames = f :: rest) : hookAt s.memory f.cursor = none := by
  apply h.hookAt_cursor
  rw [hs]
  exact List.mem_cons_self ..

/-- The innermost cursor is no other node. -/
theorem Woven.top (h : Woven list s nodes) {f : Frame C} {rest : List (Frame C)}
    (hs : s.frames = f :: rest) :
    f.cursor ∉ rest.map Frame.cursor ∧ f.cursor ∉ s.hooks.map Hook.addr := by
  have hnodup := h.perm.nodup_iff.mp h.nodup
  rw [hs, List.map_cons, List.cons_append, List.nodup_cons, List.mem_append, not_or] at hnodup
  exact hnodup.1

theorem Sound.skips_cons (h : Sound list s nodes) {f : Frame C} {rest : List (Frame C)}
    (hs : s.frames = f :: rest) :
    f.skipped + (ahead (cursorAt (rest.map Frame.cursor)) f.cursor nodes).length ≤ rest.length ∧
      Skips nodes (hops rest) := by
  have hall := h.skips
  rw [hs] at hall
  obtain ⟨htop, hrest⟩ : Skips nodes ((f.cursor, f.skipped) :: hops rest) := hall
  rw [hops_fst, hops, List.length_map] at htop
  exact ⟨htop, hrest⟩

theorem Sound.pop (h : Sound list s nodes) {f : Frame C} {rest : List (Frame C)}
    (hs : s.frames = f :: rest) (hring : Ring m list (nodes.filter (· ≠ f.cursor)))
    (hdata : m.data = s.memory.data) :
    Sound list { s with memory := m, frames := rest } (nodes.filter (· ≠ f.cursor)) := by
  obtain ⟨hrest, hhooks⟩ := h.woven.top hs
  have hmem : ∀ g ∈ rest, g ∈ s.frames := fun g hg => hs ▸ List.mem_cons_of_mem f hg
  have hnone := h.woven.hookAt_top hs
  have hperm := h.woven.perm.filter (· ≠ f.cursor)
  have hkeep : (rest.map Frame.cursor ++ s.hooks.map Hook.addr).filter (· ≠ f.cursor) =
      rest.map Frame.cursor ++ s.hooks.map Hook.addr := by
    rw [List.filter_eq_self]
    intro a ha
    rcases List.mem_append.mp ha with ha | ha
    · simpa using ne_of_mem_of_not_mem ha hrest
    · simpa using ne_of_mem_of_not_mem ha hhooks
  rw [hs, List.map_cons, List.cons_append, List.filter_cons_of_neg (by simp), hkeep] at hperm
  refine ⟨⟨hring, hperm, fun c hc => ?_, fun k hk => ?_, ?_, h.woven.numbers, h.woven.older⟩,
    fun g hg => ?_, ?_⟩
  · show m.data c = some none
    rw [hdata]
    exact h.woven.cursors c (by rw [hs]; exact List.mem_cons_of_mem _ hc)
  · show m.data k.addr = some (some k)
    rw [hdata]
    exact h.woven.held k hk
  · show (nodes.filter _).filterMap (hookAt m) = s.hooks
    rw [hookAt_congr hdata, ← h.woven.order]
    apply filterMap_filter_of
    intro a _ ha
    rw [show a = f.cursor by simpa using ha, hnone]
  · refine (h.follows g (hmem g hg)).keep rfl rfl ?_
    rw [hookAt_congr hdata]
    exact ahead_filter (ne_of_mem_of_not_mem (List.mem_map_of_mem hg) hrest) hnone
  · apply (h.skips_cons hs).2.keep
    intro c hc below hbelow
    rw [hops_fst] at hc hbelow
    apply ahead_filter (ne_of_mem_of_not_mem hc hrest)
    exact cursorAt_of_notMem fun hin => hrest (hbelow hin)

theorem Sound.return_ (h : Sound list s nodes) {f : Frame C} {rest : List (Frame C)}
    (hs : s.frames = f :: rest) :
    Sound list { s with frames := { f with calling := false } :: rest } nodes := by
  have hsame : s = { s with frames := f :: rest } := by rw [← hs]
  rw [hsame] at h
  refine ⟨⟨h.woven.ring, h.woven.perm, h.woven.cursors, h.woven.held, h.woven.order,
    h.woven.numbers, h.woven.older⟩, fun g hg => ?_, h.skips⟩
  rcases List.mem_cons.mp hg with rfl | hg
  · exact ((h.follows f (List.mem_cons_self ..)).mark false f.skipped).keep rfl rfl rfl
  · exact (h.follows g (List.mem_cons_of_mem _ hg)).keep rfl rfl rfl

/-- The innermost cursor hops over the next node. -/
theorem Woven.hop (h : Woven list s nodes) {f g : Frame C} {rest : List (Frame C)}
    (hs : s.frames = f :: rest) (hg : g.cursor = f.cursor) {item : Nat} {l₁ l₂ : List Nat}
    (hn : nodes = l₁ ++ f.cursor :: item :: l₂)
    (hring : Ring m list (l₁ ++ item :: f.cursor :: l₂)) (hdata : m.data = s.memory.data) :
    Woven list { s with memory := m, frames := g :: rest } (l₁ ++ item :: f.cursor :: l₂) := by
  have hcursors : (g :: rest).map Frame.cursor = s.frames.map Frame.cursor := by
    rw [hs, List.map_cons, List.map_cons, hg]
  have hnone := h.hookAt_top hs
  refine ⟨hring, ?_, fun c hc => ?_, fun k hk => ?_, ?_, h.numbers, h.older⟩
  · show (l₁ ++ item :: f.cursor :: l₂).Perm
      ((g :: rest).map Frame.cursor ++ s.hooks.map Hook.addr)
    rw [hcursors]
    exact ((List.Perm.swap ..).append_left l₁).trans (hn ▸ h.perm)
  · show m.data c = some none
    rw [hdata]
    exact h.cursors c (hcursors ▸ hc)
  · show m.data k.addr = some (some k)
    rw [hdata]
    exact h.held k hk
  · show (l₁ ++ item :: f.cursor :: l₂).filterMap (hookAt m) = s.hooks
    rw [hookAt_congr hdata, ← h.order, hn]
    simp [List.filterMap_cons, hnone]

/-- The traversal comes to a hook. -/
theorem Follows.reach {f : Frame C} (h : Follows s nodes f) (rest : List (Frame C))
    {k : Hook C} {nodes' : List Nat}
    (hbefore : ahead (hookAt s.memory) f.cursor nodes =
      k :: ahead (hookAt m) f.cursor nodes') :
    Follows (State.goOn f rest (.reached k) { s with memory := m }) nodes'
      { f with called := f.called ++ [k], calling := true } := by
  have hk : k ∈ (f.start ++ f.added).filter (·.number ∉ f.missed) := by
    rw [← h.turns, hbefore]
    simp
  refine ⟨h.left, ?_, h.numbers, h.older, h.gone, fun n hn => ?_⟩
  · show f.called ++ [k] ++ ahead (hookAt m) f.cursor nodes' = _
    rw [← h.turns, hbefore, List.append_assoc, List.singleton_append]
  · obtain ⟨hremoved, hout⟩ := h.missed n hn
    have hne : n ≠ k.number := ne_of_mem_of_not_mem hn (by simpa using List.of_mem_filter hk)
    refine ⟨hremoved, ?_⟩
    rw [List.map_append, List.mem_append, not_or]
    exact ⟨hout, by simpa using hne⟩

/-- A node that is no hook is another traversal's cursor. -/
theorem Woven.cursor_of_hookAt (h : Woven list s nodes) {a : Nat} (ha : a ∈ nodes)
    (hnone : hookAt s.memory a = none) : a ∈ s.frames.map Frame.cursor := by
  apply (h.mem_iff.mp ha).resolve_right
  intro haddr
  obtain ⟨k, hk, rfl⟩ := List.mem_map.mp haddr
  rw [h.hookAt_hook hk] at hnone
  cases hnone

/-- What holds of the innermost traversal after its hop is all there is to show: the ones
below see nothing of it. -/
theorem Sound.hop (h : Sound list s nodes) {f g : Frame C} {rest : List (Frame C)}
    (hs : s.frames = f :: rest) (hg : g.cursor = f.cursor) {item : Nat} {l₁ l₂ : List Nat}
    (hn : nodes = l₁ ++ f.cursor :: item :: l₂)
    (hring : Ring m list (l₁ ++ item :: f.cursor :: l₂)) (hdata : m.data = s.memory.data)
    (hfollows : Follows { s with memory := m, frames := g :: rest }
      (l₁ ++ item :: f.cursor :: l₂) g)
    (hskips : g.skipped + (ahead (cursorAt (rest.map Frame.cursor)) f.cursor
      (l₁ ++ item :: f.cursor :: l₂)).length ≤ rest.length) :
    Sound list { s with memory := m, frames := g :: rest } (l₁ ++ item :: f.cursor :: l₂) := by
  obtain ⟨hrest, -⟩ := h.woven.top hs
  have hnone := h.woven.hookAt_top hs
  have hsame {β : Type} {v : Nat → Option β} (hv : v f.cursor = none) {c : Nat}
      (hc : c ∈ rest.map Frame.cursor) :
      ahead v c (l₁ ++ item :: f.cursor :: l₂) = ahead v c nodes := by
    rw [hn]
    exact ahead_swap (ne_of_mem_of_not_mem hc hrest) hv
  refine ⟨h.woven.hop hs hg hn hring hdata, fun g' hg' => ?_, ?_, ?_⟩
  · rcases List.mem_cons.mp hg' with rfl | hg'
    · exact hfollows
    · refine (h.follows g' (hs ▸ List.mem_cons_of_mem f hg')).keep rfl rfl ?_
      rw [hookAt_congr hdata]
      exact hsame hnone (List.mem_map_of_mem hg')
  · show g.skipped + (ahead (cursorAt ((hops rest).map Prod.fst)) g.cursor _).length ≤
      (hops rest).length
    rw [hops_fst, hg, hops, List.length_map]
    exact hskips
  · apply (h.skips_cons hs).2.keep
    intro c hc below hsub
    rw [hops_fst] at hc hsub
    exact hsame (cursorAt_of_notMem fun hin => hrest (hsub hin)) hc

/-- What a hop puts behind the cursor. -/
theorem Woven.ahead_hop {β : Type} (h : Woven list s nodes) {c item : Nat} {l₁ l₂ : List Nat}
    (hn : nodes = l₁ ++ c :: item :: l₂) (v : Nat → Option β) :
    ahead v c nodes = (v item).toList ++ ahead v c (l₁ ++ item :: c :: l₂) := by
  have hnodup := h.nodup
  rw [hn] at hnodup ⊢
  exact Lists.ahead_hop hnodup

theorem Sound.reach (h : Sound list s nodes) {f : Frame C} {rest : List (Frame C)}
    (hs : s.frames = f :: rest) {item : Nat} {l₁ l₂ : List Nat} {k : Hook C}
    (hn : nodes = l₁ ++ f.cursor :: item :: l₂) (hk : hookAt s.memory item = some k)
    (hring : Ring m list (l₁ ++ item :: f.cursor :: l₂)) (hdata : m.data = s.memory.data) :
    Sound list (State.goOn f rest (.reached k) { s with memory := m })
      (l₁ ++ item :: f.cursor :: l₂) := by
  apply h.hop hs (g := { f with called := f.called ++ [k], calling := true }) rfl hn hring hdata
  · apply (h.follows f (hs ▸ List.mem_cons_self ..)).reach rest
    rw [h.woven.ahead_hop hn, hk, hookAt_congr hdata]
    rfl
  · have htop := (h.skips_cons hs).1
    rw [h.woven.ahead_hop hn, List.length_append] at htop
    show f.skipped + _ ≤ rest.length
    omega

theorem Sound.skip (h : Sound list s nodes) {f : Frame C} {rest : List (Frame C)}
    (hs : s.frames = f :: rest) {item : Nat} {l₁ l₂ : List Nat}
    (hn : nodes = l₁ ++ f.cursor :: item :: l₂) (hnone : hookAt s.memory item = none)
    (hring : Ring m list (l₁ ++ item :: f.cursor :: l₂)) (hdata : m.data = s.memory.data) :
    Sound list (State.goOn f rest .skipped { s with memory := m })
      (l₁ ++ item :: f.cursor :: l₂) := by
  apply h.hop hs (g := { f with skipped := f.skipped + 1 }) rfl hn hring hdata
  · have hmarked := (h.follows f (hs ▸ List.mem_cons_self ..)).mark f.calling (f.skipped + 1)
    refine hmarked.keep rfl rfl ?_
    show ahead (hookAt m) f.cursor _ = ahead (hookAt s.memory) f.cursor nodes
    rw [h.woven.ahead_hop hn, hnone, hookAt_congr hdata]
    rfl
  · -- the node is the cursor of a traversal below
    have hmem : item ∈ rest.map Frame.cursor := by
      have hcursor := h.woven.cursor_of_hookAt (by rw [hn]; simp) hnone
      rw [hs, List.map_cons, List.mem_cons] at hcursor
      apply hcursor.resolve_left
      rintro rfl
      have hnodup := h.woven.nodup
      rw [hn] at hnodup
      exact (List.nodup_middle.mp hnodup).notMem (by simp)
    have hsome : cursorAt (rest.map Frame.cursor) item = some item := if_pos hmem
    have htop := (h.skips_cons hs).1
    rw [h.woven.ahead_hop hn, hsome, List.length_append, Option.toList_some,
      List.length_singleton] at htop
    show f.skipped + 1 + _ ≤ rest.length
    omega

/-! ### Every step -/

/-- Whose turn it is. -/
def Enabled (s : State C) : Event C → Prop
  | .append _ _ => s.external = true
  | .remove _ => s.external = true
  | .forEachHook _ => s.external = true
  | .write _ _ _ _ => s.external = true
  | .run => ∃ f rest, s.frames = f :: rest ∧ f.calling = false
  | .return_ => ∃ f rest, s.frames = f :: rest ∧ f.calling = true
  | .unwind => ∃ f rest, s.frames = f :: rest ∧ f.calling = true

/-- What the traversal `f` does in a turn. -/
def Comes (s : State C) (f : Frame C) : Turn C → Prop
  | .finished => f.called = (f.start ++ f.added).filter (·.number ∉ f.missed)
  | .skipped => True
  | .reached hook => hook ∈ s.hooks ∧ hook.number ∉ f.called.map Hook.number

theorem access_runs {β : Type} {x : Proc (HookMemory C) β} {Q : β → HookMemory C → Prop}
    {k : β → State C → State C} (h : Runs x s.memory Q) :
    ∃ b m, s.access x k = some (k b { s with memory := m }) ∧ Q b m := by
  obtain ⟨b, m, hx, hQ⟩ := h
  exact ⟨b, m, by rw [State.access, hx], hQ⟩

theorem sound_run (h : Sound list s nodes) {f : Frame C} {rest : List (Frame C)}
    (hs : s.frames = f :: rest) (hf : f.calling = false) :
    ∃ turn m, step list s .run = some (State.goOn f rest turn { s with memory := m }) ∧
      Comes s f turn ∧
      ∃ nodes', Sound list (State.goOn f rest turn { s with memory := m }) nodes' := by
  have hstep : step list s .run = s.access (advance list f.cursor) (State.goOn f rest) := by
    simp only [step, hs, hf]
    rfl
  rw [hstep]
  have hmem := h.woven.top_mem hs
  have hfollows := h.follows f (hs ▸ List.mem_cons_self ..)
  obtain ⟨l₁, l₂, hn⟩ := List.append_of_mem hmem
  have hring := h.woven.ring
  rw [hn] at hring
  cases l₂ with
  | nil =>
    obtain ⟨turn, m, hx, rfl, hring', hdata⟩ := access_runs (runs_advance_last hring)
    have hend : ahead (hookAt s.memory) f.cursor nodes = [] := by
      have hnodup := h.woven.nodup
      rw [hn] at hnodup ⊢
      rw [ahead_middle fun hin => (List.nodup_append.mp hnodup).2.2 _ hin _ (by simp) rfl]
      rfl
    refine ⟨.finished, m, hx, ?_, nodes.filter (· ≠ f.cursor), ?_⟩
    · have hturns := hfollows.turns
      rwa [hend, List.append_nil] at hturns
    · rw [← hn] at hring'
      exact h.pop hs hring' hdata
  | cons item l₂ =>
    have hitem : item ∈ nodes := by
      rw [hn]
      simp
    obtain ⟨d, hd⟩ := Option.isSome_iff_exists.mp (h.woven.ring.live_of_mem hitem)
    obtain ⟨turn, m, hx, rfl, hring', hdata⟩ := access_runs (runs_advance_hop hring hd)
    have hat : hookAt s.memory item = d := by
      rw [hookAt, hd]
      rfl
    cases d with
    | none => exact ⟨.skipped, m, hx, trivial, _, h.skip hs hn hat hring' hdata⟩
    | some k =>
      refine ⟨.reached k, m, hx, ⟨(h.woven.of_hookAt hitem hat).1, ?_⟩, _,
        h.reach hs hn hat hring' hdata⟩
      intro hcalled
      obtain ⟨j, hj, hsame⟩ := List.mem_map.mp hcalled
      refine hfollows.apart hj (k := k) ?_ hsame
      rw [h.woven.ahead_hop hn, hat]
      simp

theorem sound_unwind (h : Sound list s nodes) {f : Frame C} {rest : List (Frame C)}
    (hs : s.frames = f :: rest) (hf : f.calling = true) :
    ∃ m, step list s .unwind = some { s with memory := m, frames := rest } ∧
      ∃ nodes', Sound list { s with memory := m, frames := rest } nodes' := by
  have hstep : step list s .unwind =
      s.access (unlink f.cursor) fun _ s => { s with frames := rest } := by
    simp only [step, hs, hf]
    rfl
  rw [hstep]
  have hmem := h.woven.top_mem hs
  obtain ⟨_, m, hx, hring, hdata⟩ := access_runs (runs_unlink h.woven.ring hmem)
  exact ⟨m, hx, _, h.pop hs hring hdata⟩

/-- A step that is someone's turn, under the callers' contract, does not fail and keeps
the invariant. -/
theorem sound_step (h : Sound list s nodes) {e : Event C} (hc : Contract list s e)
    (he : Enabled s e) : ∃ s', step list s e = some s' ∧ ∃ nodes', Sound list s' nodes' := by
  cases e with
  | append addr cb =>
    have hout : (⟨addr, s.count, cb⟩ : Hook C).addr ∉ list :: nodes := h.woven.off hc
    obtain ⟨_, m, hx, hring, hdata⟩ := access_runs (k := fun _ s => s.gain ⟨addr, s.count, cb⟩)
      (runs_append h.woven.ring hout)
    exact ⟨_, (if_pos he).trans hx, _, h.append hc hring hdata⟩
  | remove hook =>
    have hmem : hook.addr ∈ nodes := h.woven.mem_iff.mpr (.inr (List.mem_map_of_mem hc))
    obtain ⟨_, m, hx, hring, hdata⟩ := access_runs (k := fun _ s => s.lose hook.number)
      (runs_unlink h.woven.ring hmem)
    exact ⟨_, (if_pos he).trans hx, _, h.remove hc hring hdata⟩
  | forEachHook cursor =>
    obtain ⟨_, m, hx, hring, hdata⟩ := access_runs
      (k := fun _ s => { s with frames := .begin cursor s.hooks :: s.frames })
      (runs_weave h.woven.ring (h.woven.off hc))
    exact ⟨_, (if_pos he).trans hx, _, h.begin hc hring hdata⟩
  | write addr next prev data =>
    have hout := h.woven.off hc
    refine ⟨_, if_pos he, nodes, h.rewrite (h.woven.ring.place hout next prev data) ?_⟩
    intro a ha
    exact Function.update_of_ne
      (ne_of_mem_of_not_mem ha fun hin => hout (List.mem_cons_of_mem list hin)) ..
  | run =>
    obtain ⟨f, rest, hs, hf⟩ := he
    obtain ⟨turn, m, hx, -, hsound⟩ := sound_run h hs hf
    exact ⟨_, hx, hsound⟩
  | return_ =>
    obtain ⟨f, rest, hs, hf⟩ := he
    refine ⟨{ s with frames := { f with calling := false } :: rest }, ?_, nodes, h.return_ hs⟩
    simp only [step, hs, hf]
    rfl
  | unwind =>
    obtain ⟨f, rest, hs, hf⟩ := he
    obtain ⟨m, hx, hsound⟩ := sound_unwind h hs hf
    exact ⟨_, hx, hsound⟩

theorem enabled_of_step {s' : State C} {e : Event C} (h : step list s e = some s') :
    Enabled s e := by
  cases e with
  | append addr cb => exact (Option.ite_none_right_eq_some.mp h).1
  | remove hook => exact (Option.ite_none_right_eq_some.mp h).1
  | forEachHook cursor => exact (Option.ite_none_right_eq_some.mp h).1
  | write addr next prev data => exact (Option.ite_none_right_eq_some.mp h).1
  | run =>
    cases hs : s.frames with
    | nil => simp [step, hs] at h
    | cons f rest =>
      refine ⟨f, rest, hs, ?_⟩
      cases hf : f.calling with
      | false => rfl
      | true => simp [step, hs, hf] at h
  | return_ =>
    cases hs : s.frames with
    | nil => simp [step, hs] at h
    | cons f rest =>
      refine ⟨f, rest, hs, ?_⟩
      cases hf : f.calling with
      | false => simp [step, hs, hf] at h
      | true => rfl
  | unwind =>
    cases hs : s.frames with
    | nil => simp [step, hs] at h
    | cons f rest =>
      refine ⟨f, rest, hs, ?_⟩
      cases hf : f.calling with
      | false => simp [step, hs, hf] at h
      | true => rfl

end Steps

/-! ## Every run -/

theorem sound_init {list : Nat} {s : State C} (h : (system list).init s) :
    Sound list s (s.hooks.map Hook.addr) := by
  obtain ⟨hframes, hring, hheld, hnumbers, holder⟩ := h
  refine ⟨⟨hring, ?_, ?_, hheld, ?_, hnumbers, holder⟩, ?_, ?_⟩
  · rw [hframes]
    exact .refl _
  · rw [hframes]
    exact fun c hc => absurd hc List.not_mem_nil
  · have hat : ∀ k ∈ s.hooks, hookAt s.memory k.addr = some k := by
      intro k hk
      rw [hookAt, hheld k hk]
      rfl
    calc (s.hooks.map Hook.addr).filterMap (hookAt s.memory)
        = s.hooks.filterMap fun k => hookAt s.memory k.addr := List.filterMap_map ..
      _ = s.hooks.filterMap some := List.filterMap_congr hat
      _ = s.hooks := List.filterMap_some
  · rw [hframes]
    exact fun f hf => absurd hf List.not_mem_nil
  · rw [hframes]
    trivial

theorem sound_of_via {list : Nat} {s : State C}
    (h : Via (system list) (Contract list) s) : ∃ nodes, Sound list s nodes := by
  apply h.invariant (I := fun s => ∃ nodes, Sound list s nodes)
  refine ⟨fun s hs => ⟨_, sound_init hs⟩, ?_⟩
  rintro s e s' ⟨nodes, hsound⟩ hc hstep
  obtain ⟨t, ht, hnext⟩ := sound_step hsound hc (enabled_of_step hstep)
  have hsame : some t = some s' := ht.symm.trans hstep
  cases hsame
  exact hnext

/-- What a traversal under way did, and what it still has to do. -/
structure Frame.Exact (s : State C) (f : Frame C) : Prop where
  /-- The list is what it was at the start, with the hooks added and without those removed. -/
  left : s.hooks = (f.start ++ f.added).filter (·.number ∉ f.removed)
  /-- It called them in order, up to hooks that are all in the list, and passed over none but
  those removed before it came to them. -/
  order : ∃ ahead, f.called ++ ahead = (f.start ++ f.added).filter (·.number ∉ f.missed) ∧
    ahead.Sublist s.hooks
  once : (f.called.map Hook.number).Nodup
  missed : ∀ n ∈ f.missed, n ∈ f.removed ∧ n ∉ f.called.map Hook.number

/-- What a traversal leaves behind: the list as it was at the start, with the hooks added and
without those removed, and besides only the cursors of the traversals below it. -/
def Frame.Leaves (list : Nat) (f : Frame C) (rest : List (Frame C)) (m : HookMemory C) : Prop :=
  ∃ nodes, Ring m list nodes ∧
    nodes.filterMap (hookAt m) = (f.start ++ f.added).filter (·.number ∉ f.removed) ∧
    nodes.Perm (rest.map Frame.cursor ++
      ((f.start ++ f.added).filter (·.number ∉ f.removed)).map Hook.addr)

/-- A list that survives what callbacks do to it. -/
structure Survives (list : Nat) (s : State C) : Prop where
  /-- In memory there are the registered hooks, in order, and the cursors of the traversals
  under way. -/
  intact : ∃ nodes, Ring s.memory list nodes ∧ nodes.filterMap (hookAt s.memory) = s.hooks ∧
    nodes.Perm (s.frames.map Frame.cursor ++ s.hooks.map Hook.addr)
  clean : s.frames = [] → Ring s.memory list (s.hooks.map Hook.addr)
  traversals : ∀ f ∈ s.frames, f.Exact s
  /-- The turns of a traversal are no more than the hooks at its start, the hooks appended
  since and the traversals below it. -/
  bounded : ∀ above f below, s.frames = above ++ f :: below →
    f.called.length + f.skipped ≤ f.start.length + f.added.length + below.length
  /-- No step comes upon freed memory. -/
  progress : ∀ e, Contract list s e → Enabled s e → (step list s e).isSome = true
  /-- A turn calls a hook that is in the list and that was not called, hops over a cursor, or
  ends the traversal with every hook called that was not removed in time. -/
  run : ∀ f rest, s.frames = f :: rest → f.calling = false →
    ∃ turn m, step list s .run = some (State.goOn f rest turn { s with memory := m }) ∧
      Comes s f turn ∧ (turn = .finished → f.Leaves list rest m)
  unwind : ∀ f rest, s.frames = f :: rest → f.calling = true →
    ∃ m, step list s .unwind = some { s with memory := m, frames := rest } ∧
      f.Leaves list rest m

theorem Follows.exact {list : Nat} {s : State C} {nodes : List Nat} {f : Frame C}
    (h : Follows s nodes f) (hw : Woven list s nodes) : f.Exact s where
  left := h.left
  order := by
    refine ⟨ahead (hookAt s.memory) f.cursor nodes, h.turns, ?_⟩
    rw [← hw.order]
    exact (after_sublist f.cursor nodes).filterMap _
  once := by
    have hnodup := h.numbers.sublist
      ((List.filter_sublist (p := fun k => k.number ∉ f.missed)).map Hook.number)
    rw [← h.turns, List.map_append] at hnodup
    exact (List.nodup_append.mp hnodup).1
  missed := h.missed

theorem Follows.leaves {list : Nat} {s : State C} {nodes nodes' : List Nat} {f : Frame C}
    {rest : List (Frame C)} {m : HookMemory C} (h : Follows s nodes f)
    (hw : Woven list { s with memory := m, frames := rest } nodes') : f.Leaves list rest m := by
  refine ⟨nodes', hw.ring, ?_, ?_⟩
  · rw [← h.left]
    exact hw.order
  · rw [← h.left]
    exact hw.perm

theorem Skips.bound {nodes : List Nat} {above below : List (Nat × Nat)} {c skipped : Nat}
    (h : Skips nodes (above ++ (c, skipped) :: below)) : skipped ≤ below.length := by
  induction above with
  | nil => exact Nat.le_of_add_right_le h.1
  | cons top above ih => exact ih h.2

theorem Woven.clean {list : Nat} {s : State C} {nodes : List Nat} (h : Woven list s nodes)
    (hrest : s.frames = []) : nodes = s.hooks.map Hook.addr := by
  have hat : ∀ a ∈ nodes, some a = (hookAt s.memory a).map Hook.addr := by
    intro a ha
    cases hk : hookAt s.memory a with
    | none =>
      have hcursor := h.cursor_of_hookAt ha hk
      rw [hrest] at hcursor
      cases hcursor
    | some k => exact congrArg some (h.of_hookAt ha hk).2.symm
  calc nodes = nodes.filterMap some := List.filterMap_some.symm
    _ = nodes.filterMap fun a => (hookAt s.memory a).map Hook.addr := List.filterMap_congr hat
    _ = (nodes.filterMap (hookAt s.memory)).map Hook.addr := (List.map_filterMap ..).symm
    _ = s.hooks.map Hook.addr := by rw [h.order]

theorem Sound.bounded {list : Nat} {s : State C} {nodes : List Nat} (h : Sound list s nodes)
    {above below : List (Frame C)} {f : Frame C} (hs : s.frames = above ++ f :: below) :
    f.called.length + f.skipped ≤ f.start.length + f.added.length + below.length := by
  have hf : f ∈ s.frames := by
    rw [hs]
    simp
  have hcalled := congrArg List.length (h.follows f hf).turns
  have hle := List.length_filter_le (fun k => k.number ∉ f.missed) (f.start ++ f.added)
  have hskips := h.skips
  rw [hs, hops, List.map_append] at hskips
  have hskipped : f.skipped ≤ (hops below).length := Skips.bound hskips
  rw [List.length_append] at hcalled hle
  rw [hops, List.length_map] at hskipped
  omega

/-- `for_each_hook` survives any mutation of the list that it traverses. In every run of
traversals and of callbacks that append hooks, remove hooks, traverse the list or unwind,
no step comes upon freed memory; a traversal calls the hooks that are in the list when it
comes to them, once each and in order, and nothing else; it ends; and the list is what it
was, without the hooks removed and with the hooks added, with no cursor left. -/
theorem forEachHook_survives (list : Nat) {s : State C}
    (h : Via (system list) (Contract list) s) : Survives list s := by
  obtain ⟨nodes, hs⟩ := sound_of_via h
  refine ⟨⟨nodes, hs.woven.ring, hs.woven.order, hs.woven.perm⟩, fun hrest => ?_,
    fun f hf => (hs.follows f hf).exact hs.woven, fun above f below => hs.bounded,
    fun e hc he => ?_, fun f rest hframes hcalling => ?_, fun f rest hframes hcalling => ?_⟩
  · rw [← hs.woven.clean hrest]
    exact hs.woven.ring
  · obtain ⟨s', hstep, -⟩ := sound_step hs hc he
    rw [hstep]
    rfl
  · have hf := hs.follows f (hframes ▸ List.mem_cons_self ..)
    obtain ⟨turn, m, hstep, hcomes, nodes', hnext⟩ := sound_run hs hframes hcalling
    refine ⟨turn, m, hstep, hcomes, fun hturn => ?_⟩
    subst hturn
    exact hf.leaves hnext.woven
  · have hf := hs.follows f (hframes ▸ List.mem_cons_self ..)
    obtain ⟨m, hstep, nodes', hnext⟩ := sound_unwind hs hframes hcalling
    exact ⟨m, hstep, hf.leaves hnext.woven⟩

/-- Three hooks at 1, 2 and 3, and the list's head at 0. -/
def threeHooks : State Nat where
  memory :=
    { next := fun a => if a = 3 then 0 else a + 1
      prev := fun a => if a = 0 then 3 else a - 1
      data := fun a =>
        if a = 0 then some none else if a ≤ 3 then some (some ⟨a, a - 1, 10 * a⟩) else none }
  frames := []
  hooks := [⟨1, 0, 10⟩, ⟨2, 1, 20⟩, ⟨3, 2, 30⟩]
  count := 3

/-- The first hook's callback removes and frees the second hook and traverses the list again;
there the third hook's callback appends a fourth one and unwinds. Back in the
first traversal, the fourth hook's callback removes and frees its own hook. -/
def nestedRun : List (Event Nat) :=
  [.forEachHook 100, .run, .remove ⟨2, 1, 20⟩, .write 2 0 0 none, .forEachHook 101, .run,
    .return_, .run, .run, .append 4 40, .unwind, .return_, .run, .return_, .run,
    .remove ⟨4, 3, 40⟩, .write 4 0 0 none, .return_, .run]

theorem forEachHook_survives_nested :
    ∃ s : State Nat, Via (system 0) (Contract 0) s ∧
      (s.frames.length, s.hooks.map Hook.number) = (0, [0, 2]) ∧ Survives 0 s := by
  have hrun : ((system 0).runTested (fun s e => decide (Contract 0 s e)) threeHooks
      nestedRun).map (fun s => (s.frames.length, s.hooks.map Hook.number)) =
        some (0, [0, 2]) := by
    decide +kernel
  obtain ⟨s, hs, hend⟩ := Option.map_eq_some_iff.mp hrun
  have hinit : (system 0).init threeHooks := by
    refine ⟨rfl, ⟨?_, ?_, ?_⟩, ?_, ?_, ?_⟩ <;> decide
  have hreach : Via (system 0) (Contract 0) s :=
    (via_of_runTested nestedRun (.init hinit) hs).mono fun _ _ => of_decide_eq_true
  exact ⟨s, hreach, hend, forEachHook_survives 0 hreach⟩

end PwOss.Spa.HookList
