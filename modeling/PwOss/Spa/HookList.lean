import PwOss.Lib.Ring
import PwOss.Lib.Transition

/-
  A hook list and the traversals of it (`for_each_hook` of `spa/hooks.rs`).

  The list is a ring of nodes in memory: the head, the registered hooks and the
  cursors of the traversals under way. Callbacks run on the stack of the traversal
  that calls them and may do to the list whatever its owner may: append a hook,
  remove one, traverse the list again, or unwind. The stack is explicit: `frames`
  holds the traversals under way, innermost first. While a callback runs, or no
  traversal is under way, the next step is the caller's choice; otherwise the
  innermost traversal goes on (`run`). Memory that is not linked belongs to
  the callers, who may free it or write to it at any time (`write`). An access to
  freed memory fails, and so does the step.

  Correspondence (Rust ↔ Lean):
    `spa_list.next`, `spa_list.prev`             ↔ `Memory.next`, `Memory.prev`
    `spa_hook.cb`, its `funcs` null              ↔ `Memory.data`, its value `none`
    the cursor's insertion, its relinking        ↔ `insertAfter`
    its unlinking, `CursorGuard::drop`, `unlink` ↔ `unlink`
    `for_each_hook`, up to its loop              ↔ `weave`
    one turn of its loop, the end included       ↔ `advance`
    a return from `apply`, an unwind from it     ↔ `Event.return_`, `Event.unwind`
-/

namespace PwOss.Spa.HookList

open PwOss.Links PwOss.Proc PwOss.Transition

/-- A registered hook. Of it, the memory holds the callbacks; the rest is ghost. -/
structure Hook (C : Type) where
  addr : Nat
  /-- The hooks are numbered as they are registered. -/
  number : Nat
  cb : C
  deriving DecidableEq

variable {C : Type}

/-- The memory of a list: of a node other than the head, the hook that it is, if its
`funcs` is not null. -/
abbrev HookMemory (C : Type) := Memory (Option (Hook C))

/-! ## Links -/

def unlink (link : Nat) : Proc (HookMemory C) Unit := do
  let next ← nextOf link
  let prev ← prevOf link
  setNext prev next
  let prev ← prevOf link
  let next ← nextOf link
  setPrev next prev

def insertAfter (place link : Nat) : Proc (HookMemory C) Unit := do
  setPrev link place
  let next ← nextOf place
  setNext link next
  let next ← nextOf place
  setPrev next link
  setNext place link

/-- The hook list's tail gets one more hook. -/
def append (list : Nat) (hook : Hook C) : Proc (HookMemory C) Unit := do
  modify fun m => m.place hook.addr 0 0 (some (some hook))
  let prev ← prevOf list
  setPrev hook.addr prev
  setNext hook.addr list
  let prev ← prevOf list
  setNext prev hook.addr
  setPrev list hook.addr

/-! ## One traversal -/

/-- A zeroed cursor is woven in at the front. -/
def weave (list cur : Nat) : Proc (HookMemory C) Unit := do
  modify fun m => m.place cur 0 0 (some none)
  insertAfter list cur

/-- How a turn of the loop ends. -/
inductive Turn (C : Type) where
  /-- The cursor was the last node. -/
  | finished
  /-- The cursor hopped over a node with null `funcs`. -/
  | skipped
  /-- The cursor hopped over a hook, which is called. -/
  | reached (hook : Hook C)

def advance (list cur : Nat) : Proc (HookMemory C) (Turn C) := do
  let item ← nextOf cur
  if item = list then
    unlink cur
    return .finished
  else
    unlink cur
    insertAfter item cur
    let hook ← dataOf item
    match hook with
    | none => return .skipped
    | some hook => return .reached hook

/-! ## Callbacks -/

/-- A traversal under way. -/
structure Frame (C : Type) where
  cursor : Nat
  /-- The callback of a hook runs. -/
  calling : Bool
  -- ghost state
  /-- The hooks in the list when the traversal began. -/
  start : List (Hook C)
  /-- The hooks appended since. -/
  added : List (Hook C)
  /-- The numbers of the hooks removed since. -/
  removed : List Nat
  /-- The numbers of those that were removed before the traversal called them. -/
  missed : List Nat
  called : List (Hook C)
  skipped : Nat

namespace Frame

def begin (cursor : Nat) (hooks : List (Hook C)) : Frame C :=
  ⟨cursor, false, hooks, [], [], [], [], 0⟩

def gain (hook : Hook C) (f : Frame C) : Frame C := { f with added := f.added ++ [hook] }

def lose (number : Nat) (f : Frame C) : Frame C :=
  { f with
    removed := f.removed ++ [number]
    missed := if number ∈ f.called.map Hook.number then f.missed else f.missed ++ [number] }

end Frame

structure State (C : Type) where
  memory : HookMemory C
  frames : List (Frame C)
  -- ghost state
  /-- The registered hooks that were not removed, oldest first. -/
  hooks : List (Hook C)
  /-- How many hooks were registered so far. -/
  count : Nat

namespace State

/-- A callback, or the owner of the list, decides what happens next. -/
def external (s : State C) : Bool :=
  match s.frames with
  | [] => true
  | f :: _ => f.calling

/-- What the memory procedure ends in goes on to `k`. -/
def access {β : Type} (s : State C) (x : Proc (HookMemory C) β) (k : β → State C → State C) :
    Option (State C) :=
  match x s.memory with
  | none => none
  | some (b, memory) => some (k b { s with memory })

def gain (s : State C) (hook : Hook C) : State C :=
  { s with
    frames := s.frames.map (Frame.gain hook)
    hooks := s.hooks ++ [hook]
    count := s.count + 1 }

def lose (s : State C) (number : Nat) : State C :=
  { s with
    frames := s.frames.map (Frame.lose number)
    hooks := s.hooks.filter (·.number ≠ number) }

/-- The innermost traversal `f`, on top of `rest`, after a turn of its loop. -/
def goOn (f : Frame C) (rest : List (Frame C)) (turn : Turn C) (s : State C) : State C :=
  match turn with
  | .finished => { s with frames := rest }
  | .skipped => { s with frames := { f with skipped := f.skipped + 1 } :: rest }
  | .reached hook =>
    { s with frames := { f with called := f.called ++ [hook], calling := true } :: rest }

/-- No node of the list is at `addr`. -/
def Unlinked (list : Nat) (s : State C) (addr : Nat) : Prop :=
  addr ≠ list ∧ addr ∉ s.frames.map Frame.cursor ∧ addr ∉ s.hooks.map Hook.addr

end State

inductive Event (C : Type) where
  /-- A hook is registered: its storage and its callbacks. -/
  | append (addr : Nat) (cb : C)
  | remove (hook : Hook C)
  /-- A traversal begins: the address of its cursor. -/
  | forEachHook (cursor : Nat)
  /-- Memory outside the list changes, or is freed. -/
  | write (addr next prev : Nat) (data : Option (Option (Hook C)))
  /-- The innermost traversal goes on. -/
  | run
  /-- The callback returns. -/
  | return_
  /-- The callback unwinds. -/
  | unwind

/-- What callers owe the list: storage that is not in it, hooks that are. -/
def Contract (list : Nat) (s : State C) : Event C → Prop
  | .append addr _ => s.Unlinked list addr
  | .remove hook => hook ∈ s.hooks
  | .forEachHook cursor => s.Unlinked list cursor
  | .write addr _ _ _ => s.Unlinked list addr
  | .run => True
  | .return_ => True
  | .unwind => True

instance (list : Nat) (s : State C) (addr : Nat) : Decidable (s.Unlinked list addr) :=
  inferInstanceAs (Decidable (_ ∧ _))

instance [DecidableEq C] (list : Nat) (s : State C) : (e : Event C) → Decidable (Contract list s e)
  | .append addr _ => inferInstanceAs (Decidable (s.Unlinked list addr))
  | .remove hook => inferInstanceAs (Decidable (hook ∈ s.hooks))
  | .forEachHook cursor => inferInstanceAs (Decidable (s.Unlinked list cursor))
  | .write addr _ _ _ => inferInstanceAs (Decidable (s.Unlinked list addr))
  | .run => .isTrue trivial
  | .return_ => .isTrue trivial
  | .unwind => .isTrue trivial

def step (list : Nat) (s : State C) : Event C → Option (State C)
  | .append addr cb =>
    if s.external then
      s.access (append list ⟨addr, s.count, cb⟩) fun _ s => s.gain ⟨addr, s.count, cb⟩
    else none
  | .remove hook =>
    if s.external then s.access (unlink hook.addr) fun _ s => s.lose hook.number else none
  | .forEachHook cursor =>
    if s.external then
      s.access (weave list cursor) fun _ s =>
        { s with frames := .begin cursor s.hooks :: s.frames }
    else none
  | .write addr next prev data =>
    if s.external then some { s with memory := s.memory.place addr next prev data } else none
  | .run =>
    match s.frames with
    | f :: rest =>
      if f.calling then none else s.access (advance list f.cursor) (State.goOn f rest)
    | [] => none
  | .return_ =>
    match s.frames with
    | f :: rest => if f.calling then some { s with frames := { f with calling := false } :: rest }
      else none
    | [] => none
  | .unwind =>
    match s.frames with
    | f :: rest =>
      if f.calling then s.access (unlink f.cursor) fun _ s => { s with frames := rest } else none
    | [] => none

/-- Any hook list, at rest. -/
def system (list : Nat) : System (State C) (Event C) where
  init s :=
    s.frames = [] ∧ Ring s.memory list (s.hooks.map Hook.addr) ∧
      (∀ h ∈ s.hooks, s.memory.data h.addr = some (some h)) ∧
      (s.hooks.map Hook.number).Nodup ∧ ∀ h ∈ s.hooks, h.number < s.count
  step := step list

/-! ## What the operations do to the ring -/

section Operations
variable {m : HookMemory C} {list : Nat} {nodes : List Nat}

theorem runs_unlink {a : Nat} (h : Ring m list nodes) (ha : a ∈ nodes) :
    Runs (unlink a) m fun _ m' => Ring m' list (nodes.filter (· ≠ a)) ∧ m'.data = m.data := by
  have hlive := h.live_of_mem ha
  obtain ⟨hprev, hnext, hne⟩ := h.around ha
  apply runs_nextOf hlive
  apply runs_prevOf hlive
  apply Runs.bind
  apply runs_setNext hprev
  apply runs_prevOf (Memory.live_setNext.mpr hlive)
  apply runs_nextOf (Memory.live_setNext.mpr hlive)
  rw [Memory.prev_setNext, Memory.next_setNext_of_ne hne.symm]
  exact runs_setPrev (Memory.live_setNext.mpr hnext) ⟨h.leave_filter ha, rfl⟩

theorem runs_insertAfter {a p : Nat} {l₁ l₂ xs : List Nat} (h : Ring m list (l₁ ++ l₂))
    (hp : list :: l₁ = xs ++ [p]) (ha : a ∉ list :: (l₁ ++ l₂)) (hlive : m.Live a) :
    Runs (insertAfter p a) m fun _ m' => Ring m' list (l₁ ++ a :: l₂) ∧ m'.data = m.data := by
  have hring := h.enter hp ha hlive
  obtain ⟨n, ys, -, hpn, hpmem, hnmem⟩ := h.gap hp
  have hplive := h.live p hpmem
  have hnlive := h.live n hnmem
  rw [← hpn.1] at hnlive
  apply Runs.bind
  apply runs_setPrev hlive
  apply runs_nextOf (Memory.live_setPrev.mpr hplive)
  apply Runs.bind
  apply runs_setNext (Memory.live_setPrev.mpr hlive)
  apply runs_nextOf (Memory.live_setNext.mpr (Memory.live_setPrev.mpr hplive))
  rw [Memory.next_setNext_of_ne (ne_of_mem_of_not_mem hpmem ha), Memory.next_setPrev]
  apply Runs.bind
  apply runs_setPrev (Memory.live_setNext.mpr (Memory.live_setPrev.mpr hnlive))
  exact runs_setNext
    (Memory.live_setPrev.mpr (Memory.live_setNext.mpr (Memory.live_setPrev.mpr hplive)))
    ⟨hring, rfl⟩

theorem runs_append {hook : Hook C} (h : Ring m list nodes) (ha : hook.addr ∉ list :: nodes) :
    Runs (append list hook) m fun _ m' =>
      Ring m' list (nodes ++ [hook.addr]) ∧
        m'.data = Function.update m.data hook.addr (some (some hook)) := by
  have hplace := h.place ha 0 0 (some (some hook))
  have hlive : (m.place hook.addr 0 0 (some (some hook))).Live hook.addr := by
    simp [Memory.Live, Memory.place]
  have hlist := hplace.live list (List.mem_cons_self ..)
  have hne : list ≠ hook.addr := ne_of_mem_of_not_mem (List.mem_cons_self ..) ha
  obtain ⟨xs, hlast, -⟩ := hplace.last
  have hprev := hplace.live ((m.place hook.addr 0 0 (some (some hook))).prev list)
    (by rw [hlast]; simp)
  apply Runs.modify
  apply runs_prevOf hlist
  apply Runs.bind
  apply runs_setPrev hlive
  apply Runs.bind
  apply runs_setNext (Memory.live_setPrev.mpr hlive)
  apply runs_prevOf (Memory.live_setNext.mpr (Memory.live_setPrev.mpr hlist))
  rw [Memory.prev_setNext, Memory.prev_setPrev_of_ne hne]
  apply Runs.bind
  apply runs_setNext (Memory.live_setNext.mpr (Memory.live_setPrev.mpr hprev))
  exact runs_setPrev
    (Memory.live_setNext.mpr (Memory.live_setNext.mpr (Memory.live_setPrev.mpr hlist)))
    ⟨hplace.append ha hlive, rfl⟩

theorem runs_weave {cur : Nat} (h : Ring m list nodes) (ha : cur ∉ list :: nodes) :
    Runs (weave list cur) m fun _ m' =>
      Ring m' list (cur :: nodes) ∧ m'.data = Function.update m.data cur (some none) := by
  have hlive : (m.place cur 0 0 (some none)).Live cur := by simp [Memory.Live, Memory.place]
  have hring : Ring (m.place cur 0 0 (some none)) list ([] ++ nodes) :=
    h.place ha 0 0 (some none)
  have hfront : list :: [] = [] ++ [list] := rfl
  apply Runs.modify
  exact runs_insertAfter hring hfront ha hlive

/-- A cursor behind every other node ends its traversal. -/
theorem runs_advance_last {cur : Nat} {l₁ : List Nat} (h : Ring m list (l₁ ++ [cur])) :
    Runs (advance list cur) m fun turn m' =>
      turn = .finished ∧ Ring m' list ((l₁ ++ [cur]).filter (· ≠ cur)) ∧ m'.data = m.data := by
  have hmem : cur ∈ l₁ ++ [cur] := by simp
  have hnext := (h.linked (p := cur) (n := list) (list :: l₁) [] (by simp)).1
  apply runs_nextOf (h.live_of_mem hmem)
  rw [if_pos hnext]
  apply Runs.bind
  apply (runs_unlink h hmem).mono
  rintro _ m' ⟨hring, hdata⟩
  exact .pure ⟨rfl, hring, hdata⟩

/-- Any other cursor trades places with the node behind it. -/
theorem runs_advance_hop {cur item : Nat} {l₁ l₂ : List Nat} {d : Option (Hook C)}
    (h : Ring m list (l₁ ++ cur :: item :: l₂)) (hd : m.data item = some d) :
    Runs (advance list cur) m fun turn m' =>
      turn = d.elim .skipped .reached ∧ Ring m' list (l₁ ++ item :: cur :: l₂) ∧
        m'.data = m.data := by
  have hmem : cur ∈ l₁ ++ cur :: item :: l₂ := by simp
  have hnodup := List.nodup_cons.mp h.nodup
  have hnext := (h.linked (p := cur) (n := item) (list :: l₁) (l₂ ++ [list]) (by simp)).1
  have hitem : item ≠ list := ne_of_mem_of_not_mem (by simp) hnodup.1
  have hout : cur ∉ list :: (l₁ ++ item :: l₂) := by
    rw [List.mem_cons, not_or]
    exact ⟨ne_of_mem_of_not_mem hmem hnodup.1, (List.nodup_middle.mp hnodup.2).notMem⟩
  apply runs_nextOf (h.live_of_mem hmem)
  rw [hnext, if_neg hitem]
  apply Runs.bind
  apply (runs_unlink h hmem).mono
  rintro _ m₁ ⟨hring, hdata⟩
  rw [Lists.filter_ne_middle hnodup.2] at hring
  have hring' : Ring m₁ list ((l₁ ++ [item]) ++ l₂) := by simpa using hring
  have hlive : m₁.Live cur := by
    rw [Memory.Live, hdata]
    exact h.live_of_mem hmem
  have hlast : list :: (l₁ ++ [item]) = (list :: l₁) ++ [item] := rfl
  apply Runs.bind
  apply (runs_insertAfter hring' hlast (by simpa using hout) hlive).mono
  rintro _ m₂ ⟨hring₂, hdata₂⟩
  apply runs_dataOf (d := d) (by rw [hdata₂, hdata, hd])
  have hdone : m₂.data = m.data := hdata₂.trans hdata
  cases d with
  | none => exact .pure ⟨rfl, by simpa using hring₂, hdone⟩
  | some hook => exact .pure ⟨rfl, by simpa using hring₂, hdone⟩

end Operations

end PwOss.Spa.HookList
