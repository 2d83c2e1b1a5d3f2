import PwOss.Lib.Transition

/-
  Listener notifications of `spa/hooks.rs`: `LocalNotificationQueue`, and the
  registration of listeners behind it (`with_new_listener` and `add_listener` of
  the node, the device and the monitor).

  Listener callbacks run on the caller's stack and may do anything that the
  outermost caller may: enqueue a transaction, flush, register a listener, remove
  one. The stack is explicit: `frames` holds the drains and initial emissions under
  way, innermost first. While a frame is `calling`, or the stack is empty, the next
  step is the caller's choice (`enqueue`, `flush`, `register`, `remove`, `return_`).
  Otherwise the innermost frame goes on (`run`). So the runs of `system` are the
  trees of re-entrant callbacks, cut at any point.

  Correspondence (Rust ↔ Lean):
    `Pending.queue`, `Pending.dispatching`       ↔ `Notifier.queue`, `Notifier.dispatching`
    `ActivateListeners`                          ↔ `Entry.activate`
    `hooks`, an isolated `ListenerList`          ↔ `Notifier.active`, `Notifier.cohorts`
    `queue.extend`, `queue_node_info`, …         ↔ `Event.enqueue`
    `begin_dispatch` and `drain`, `flush`        ↔ `Event.flush`
    `dispatch_all`                               ↔ `enqueue`, then `flush`
    `defer_when_busy`, `with_new_listener`,
    `add_listener`                               ↔ `Event.register`
    `emit`, its cursor                           ↔ `Emission`
    `append_from`, `spa_hook_list_join`          ↔ `activate`, `join`
-/

namespace PwOss.Spa

open PwOss.Transition

/-! ## State -/

/-- An entry of the queue. -/
inductive Entry (N : Type) where
  | notice (note : N)
  /-- The barrier in front of the cohort that one registration opened. -/
  | activate (cohort : Nat)

/-- One traversal of a listener list: the hooks after the cursor. -/
structure Emission (N : Type) where
  note : N
  rest : List Nat

/-- A call under way. -/
inductive Task (N : Type) where
  | drain
  /-- `add_listener` in its initial callbacks: whether the listener is in a cohort of
  its own, the hooks set aside by the isolation, whether the call took the dispatch
  turn, and the snapshots still to emit. -/
  | initial (id : Nat) (deferred : Bool) (saved : List Nat) (claimed : Bool) (todo : List N)

structure Frame (N : Type) where
  task : Task N
  emission : Option (Emission N)
  /-- A listener's callback runs. -/
  calling : Bool

/-- What became of a registration. -/
structure Card (N : Type) where
  /-- The notifications enqueued before it. -/
  born : Nat
  /-- Its initial snapshot. -/
  initial : List N
  /-- What its callbacks were given. -/
  log : List N
  removed : Bool

/-- An endpoint: its queue, its listeners and the stack of calls on it. -/
structure Notifier (N : Type) where
  queue : List (Entry N)
  dispatching : Bool
  active : List Nat
  /-- The isolated list of each deferred registration. -/
  cohorts : Nat → List Nat
  frames : List (Frame N)
  -- ghost state
  /-- Every notification enqueued so far. -/
  sent : List N
  /-- How many of them left the queue. -/
  popped : Nat
  /-- Every registration so far. -/
  cards : Nat → Option (Card N)

variable {N : Type}

/-- `f` with the value `v` at `k`. -/
def update {α : Type} (f : Nat → α) (k : Nat) (v : α) : Nat → α := fun k' =>
  if k' = k then v else f k'

@[simp] theorem update_self {α : Type} (f : Nat → α) (k : Nat) (v : α) : update f k v k = v :=
  if_pos rfl

theorem update_ne {α : Type} (f : Nat → α) {k k' : Nat} (v : α) (h : k' ≠ k) :
    update f k v k' = f k' := if_neg h

/-- A hook is unlinked, in front of every cursor. -/
def Frame.unlink (id : Nat) (f : Frame N) : Frame N :=
  { f with
    task :=
      match f.task with
      | .drain => .drain
      | .initial i deferred saved claimed todo =>
        .initial i deferred (saved.filter (· ≠ id)) claimed todo
    emission := f.emission.map fun e => { e with rest := e.rest.filter (· ≠ id) } }

namespace Notifier

/-! ## The caller's steps -/

/-- The caller, or a listener's callback, decides what happens next. -/
def external (s : Notifier N) : Bool :=
  match s.frames with
  | [] => true
  | f :: _ => f.calling

def enqueue (s : Notifier N) (notes : List N) : Notifier N :=
  { s with queue := s.queue ++ notes.map .notice, sent := s.sent ++ notes }

/-- `begin_dispatch`, and `drain` if the turn was free. -/
def flush (s : Notifier N) : Notifier N :=
  if s.dispatching then s
  else { s with dispatching := true, frames := ⟨.drain, none, false⟩ :: s.frames }

/-- `add_listener`, up to its initial callbacks: behind a barrier when older work
waits, else isolated on the active list. -/
def register (s : Notifier N) (id : Nat) (initial : List N) : Notifier N :=
  let busy := s.dispatching || !s.queue.isEmpty
  let saved := if busy then [] else s.active
  { s with
    queue := if busy then s.queue ++ [.activate id] else s.queue
    active := if busy then s.active else [id]
    cohorts := if busy then update s.cohorts id [id] else s.cohorts
    dispatching := true
    frames := ⟨.initial id busy saved (!s.dispatching) initial, none, false⟩ :: s.frames
    cards := update s.cards id (some ⟨s.sent.length, initial, [], false⟩) }

/-- The host removes a listener. -/
def remove (s : Notifier N) (id : Nat) : Notifier N :=
  { s with
    active := s.active.filter (· ≠ id)
    cohorts := fun cohort => (s.cohorts cohort).filter (· ≠ id)
    frames := s.frames.map (Frame.unlink id)
    cards := update s.cards id ((s.cards id).map fun c => { c with removed := true }) }

/-! ## The innermost frame goes on -/

/-- The hook at the cursor is called. -/
def deliver (s : Notifier N) (note : N) (id : Nat) : Notifier N :=
  { s with
    cards := update s.cards id ((s.cards id).map fun c => { c with log := c.log ++ [note] }) }

/-- The list that a registration's initial callbacks traverse. -/
def isolated (s : Notifier N) (id : Nat) (deferred : Bool) : List Nat :=
  if deferred then s.cohorts id else s.active

/-- The end of `with_isolated_listener`: the hooks set aside come back in front. -/
def join (s : Notifier N) (id : Nat) (deferred : Bool) (saved : List Nat) : Notifier N :=
  if deferred then { s with cohorts := update s.cohorts id (saved ++ s.cohorts id) }
  else { s with active := saved ++ s.active }

/-- `append_from`: a cohort becomes active. -/
def activate (s : Notifier N) (cohort : Nat) : Notifier N :=
  { s with
    active := s.active ++ s.cohorts cohort
    cohorts := update s.cohorts cohort [] }

/-- The next step of the frame `f` on top of the frames `rest`. -/
def advance (s : Notifier N) (f : Frame N) (rest : List (Frame N)) : Notifier N :=
  match f.emission with
  | some ⟨note, id :: hooks⟩ =>
    { s.deliver note id with
      frames := { f with emission := some ⟨note, hooks⟩, calling := true } :: rest }
  | some ⟨_, []⟩ => { s with frames := { f with emission := none } :: rest }
  | none =>
    match f.task with
    | .initial id deferred saved claimed (note :: todo) =>
      { s with
        frames :=
          ⟨.initial id deferred saved claimed todo, some ⟨note, s.isolated id deferred⟩, false⟩ ::
            rest }
    | .initial id deferred saved claimed [] =>
      { s.join id deferred saved with
        frames := if claimed then ⟨.drain, none, false⟩ :: rest else rest }
    | .drain =>
      match s.queue with
      | .notice note :: queue =>
        { s with
          queue, popped := s.popped + 1,
          frames := ⟨.drain, some ⟨note, s.active⟩, false⟩ :: rest }
      | .activate cohort :: queue => { s.activate cohort with queue, frames := f :: rest }
      | [] => { s with dispatching := false, frames := rest }

inductive Event (N : Type) where
  | enqueue (notes : List N)
  | flush
  /-- A new registration with its initial snapshot. -/
  | register (id : Nat) (initial : List N)
  | remove (id : Nat)
  /-- The callback returns. -/
  | return_
  /-- The innermost frame goes on. -/
  | run

def step (s : Notifier N) : Event N → Option (Notifier N)
  | .enqueue notes => if s.external then some (s.enqueue notes) else none
  | .flush => if s.external then some s.flush else none
  | .register id initial =>
    if s.external = true ∧ (s.cards id).isNone = true then some (s.register id initial) else none
  | .remove id => if s.external then some (s.remove id) else none
  | .return_ =>
    match s.frames with
    | f :: rest =>
      if f.calling then some { s with frames := { f with calling := false } :: rest } else none
    | [] => none
  | .run =>
    match s.frames with
    | f :: rest => if f.calling then none else some (s.advance f rest)
    | [] => none

/-- An endpoint without listeners. -/
def system : System (Notifier N) (Event N) where
  init s :=
    s.queue = [] ∧ s.dispatching = false ∧ s.active = [] ∧ (∀ cohort, s.cohorts cohort = []) ∧
      s.frames = [] ∧ s.sent = [] ∧ s.popped = 0 ∧ ∀ id, s.cards id = none
  step := step

end Notifier

end PwOss.Spa
