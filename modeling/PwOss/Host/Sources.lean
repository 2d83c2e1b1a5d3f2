import PwOss.Lib.Descriptors
import PwOss.Lib.Proc

/-
  The sources that plugins register on the loops of their host, and their descriptors.

  A loop polls the descriptor that a source had when it was added, until it is removed.
  A `LoopSource` must not be changed or dropped in between, and what it polls must stay
  open: the number would come back for someone else. Assertions are `require`, and so is
  that a descriptor is closed and read by its owner only; a procedure that ends in
  `aborted` has called `abort`. Every procedure here leads from a state in which
  the loops poll what the watchers keep to another, whatever is answered (`Env.Sound`).

  Correspondence (Rust ↔ Lean):
    `spa/loop_api.rs` `LoopSource`: `set_fd`, `register`,
      `unregister`, `drop`                             ↔ the same names
    `TimerFd`, `HotplugMonitor`, `WakeDriver`, as owners
      of the number that they tell                     ↔ `Watch.owner`
    `timerfd_create`, `open`, `drop` of an owner       ↔ `openFd`, `Watch.dropOwner`
    `spa_loop` `add_source`, `remove_source`           ↔ `Env.polled`
    `device/watch.rs` `arm_route_watch`, of a watcher  ↔ `Watch.arm`
    `device/watch.rs`, `monitor/mod.rs`
      `on_hotplug_event`, of a closed source           ↔ `Watch.lose`
  Which of the two loops a source is on is left out: it is removed where it was added.
-/

namespace PwOss.Host

open PwOss.Descriptors PwOss.Proc

/-! ## Descriptors and loops -/

/-- The watchers of a plugin: those of a device, the second also of a monitor, and that
of a node. -/
inductive Slot where
  | timer | hotplug | wake
  deriving DecidableEq, Repr

structure WatchId where
  plugin : Nat
  slot : Slot
  deriving DecidableEq, Repr

/-- Who has opened a descriptor: a watcher of a plugin, or other code. -/
inductive Owner where
  | watch (id : WatchId)
  | other (k : Nat)
  deriving DecidableEq, Repr

/-- The descriptors of the process, and the number that a loop polls for each source. -/
structure Env where
  files : Table Owner
  polled : WatchId → Option Int

/-- The kernel opens a file for a watcher. -/
def openFd (id : WatchId) : Proc Env Nat := do
  let env ← get
  modify fun env => { env with files := env.files.opens (.watch id) }
  pure env.files.free

/-- A descriptor is read: it is the reader's own. -/
def readFd (id : WatchId) (fd : Nat) : Proc Env Unit := do
  let env ← get
  require (env.files.get fd = some (.watch id))
  pure ()

/-- A descriptor is closed: it is the closer's own. -/
def closeFd (id : WatchId) (fd : Nat) : Proc Env Unit := do
  let env ← get
  require (env.files.get fd = some (.watch id))
  modify fun env => { env with files := env.files.close fd }

/-! ## Sources -/

/-- `LoopSource`, without its callback and its data. -/
structure LoopSource where
  fd : Int
  registered : Bool
  deriving DecidableEq, Repr

namespace LoopSource

def new (fd : Int) : LoopSource := ⟨fd, false⟩

def setFd (fd : Int) (source : LoopSource) : Proc Env LoopSource := do
  require (source.registered = false)
  pure { source with fd }

/-- `register`, on a loop that adds the source or not. -/
def register (id : WatchId) (added : Bool) (source : LoopSource) : Proc Env (Bool × LoopSource) := do
  require (source.registered = false)
  if added then
    modify fun env => { env with polled := Function.update env.polled id (some source.fd) }
    pure (true, { source with registered := true })
  else pure (false, source)

/-- `unregister`, from a loop that removes the source or not. -/
def unregister (id : WatchId) (removed : Bool) (source : LoopSource) :
    Proc Env (Bool × LoopSource) :=
  if source.registered then
    if removed then do
      modify fun env => { env with polled := Function.update env.polled id none }
      pure (true, { source with registered := false })
    else pure (false, source)
  else pure (true, source)

/-- `drop`, which aborts for a source that is registered. -/
def drop (source : LoopSource) : Proc Env Unit := do
  require (source.registered = false)
  pure ()

end LoopSource

section
variable {env : Env} {id : WatchId} {source : LoopSource}

theorem openFd_runs (id : WatchId) : Runs (openFd id) env fun fd env' =>
    fd = env.files.free ∧ env' = { env with files := env.files.opens (.watch id) } :=
  .get (.modify (.pure ⟨rfl, rfl⟩))

theorem LoopSource.setFd_runs (h : source.registered = false) (fd : Int) :
    Runs (source.setFd fd) env fun source' env' => source' = .new fd ∧ env' = env := by
  refine .require h (.pure ⟨?_, rfl⟩)
  rw [h, LoopSource.new]

theorem LoopSource.register_runs (h : source.registered = false) (added : Bool) :
    Runs (source.register id added) env fun r env' =>
      (added = true ∧ r = (true, ⟨source.fd, true⟩) ∧
        env' = { env with polled := Function.update env.polled id (some source.fd) }) ∨
      (added = false ∧ r = (false, source) ∧ env' = env) := by
  refine .require h ?_
  cases added with
  | true => exact .modify (.pure (.inl ⟨rfl, rfl, rfl⟩))
  | false => exact .pure (.inr ⟨rfl, rfl, rfl⟩)

theorem LoopSource.unregister_runs (h : source.registered = true) (removed : Bool) :
    Runs (source.unregister id removed) env fun r env' =>
      (removed = true ∧ r = (true, .new source.fd) ∧
        env' = { env with polled := Function.update env.polled id none }) ∨
      (removed = false ∧ r = (false, source) ∧ env' = env) := by
  refine .ite (fun _ => ?_) fun hne => absurd h hne
  cases removed with
  | true => exact .modify (.pure (.inl ⟨rfl, rfl, rfl⟩))
  | false => exact .pure (.inr ⟨rfl, rfl, rfl⟩)

end

/-! ## Watchers -/

/-- A source, and the owner of the descriptor that it is for. -/
structure Watch where
  owner : Option Nat
  source : LoopSource
  deriving DecidableEq, Repr

/-- What a procedure ends in, if no assertion fails. -/
inductive Ended (α : Type) where
  | done (a : α)
  | aborted

/-- What the kernel and the loop answer to a watcher. -/
structure ArmAnswer where
  opened : Bool
  added : Bool

namespace Watch

def new : Watch := ⟨none, .new (-1)⟩

/-- The owner is dropped, and closes its descriptor. -/
def dropOwner (id : WatchId) (w : Watch) : Proc Env Watch :=
  match w.owner with
  | none => pure w
  | some fd => do
    closeFd id fd
    pure { w with owner := none }

/-- A source is registered, or its owner dropped and its number forgotten. -/
def attach (id : WatchId) (added : Bool) (w : Watch) : Proc Env (Bool × Watch) := do
  let (added, source) ← w.source.register id added
  if added then pure (true, { w with source })
  else
    let w ← Watch.dropOwner id { w with source }
    let source ← w.source.setFd (-1)
    pure (false, { w with source })

/-- A descriptor is opened and its source registered, or neither. -/
def arm (id : WatchId) (answer : ArmAnswer) (w : Watch) : Proc Env Watch :=
  if answer.opened then do
    let fd ← openFd id
    let source ← w.source.setFd fd
    let (_, w) ← Watch.attach id answer.added ⟨some fd, source⟩
    pure w
  else pure w

/-- A source is unregistered, its owner dropped and its number forgotten, or the loop
refuses and the process ends. -/
def detach (id : WatchId) (removed : Bool) (w : Watch) : Proc Env (Ended Watch) := do
  let (removed, source) ← w.source.unregister id removed
  if removed then do
    let w ← Watch.dropOwner id { w with source }
    let source ← w.source.setFd (-1)
    pure (.done { w with source })
  else pure .aborted

/-- `drop_in_place` of an owner and its source. -/
def dropInPlace (id : WatchId) (w : Watch) : Proc Env Unit := do
  let w ← w.dropOwner id
  w.source.drop

/-- A watcher with its descriptor, if it has one: it is registered just then. -/
def settled : Option Nat → Watch
  | none => new
  | some fd => ⟨some fd, ⟨fd, true⟩⟩

end Watch

/-! ## Settled states -/

/-- Owners keep the descriptors that are open, and the loops poll those of the watchers. -/
structure Env.Sound (own : Owner → Option Nat) (env : Env) : Prop where
  held : Held own env.files
  polled : ∀ id, env.polled id = (own (.watch id)).map (fun fd : Nat => (fd : Int))

section
variable {own : Owner → Option Nat} {env : Env} {id : WatchId} {fd : Nat}

/-- The state between a descriptor and its source: it is open and not polled. -/
structure Env.Open (own : Owner → Option Nat) (id : WatchId) (fd : Nat) (env : Env) : Prop where
  held : Held (Function.update own (.watch id) (some fd)) env.files
  unpolled : env.polled id = none
  polled : ∀ id', id' ≠ id →
    env.polled id' = (own (.watch id')).map (fun fd : Nat => (fd : Int))

theorem Env.Sound.open (h : env.Sound own) (hid : own (.watch id) = none) :
    Env.Open own id env.files.free { env with files := env.files.opens (.watch id) } :=
  ⟨h.held.opens hid, by rw [h.polled, hid]; rfl, fun id' _ => h.polled id'⟩

/-- A number that is polled is settled. -/
theorem Env.Open.added (h : Env.Open own id fd env) :
    Env.Sound (Function.update own (.watch id) (some fd))
      { env with polled := Function.update env.polled id (some (fd : Int)) } := by
  refine ⟨h.held, fun id' => ?_⟩
  by_cases heq : id' = id
  · simp only [heq, Function.update_self, Option.map_some]
  · have hne : Owner.watch id' ≠ .watch id := fun h => heq (Owner.watch.inj h)
    rw [Function.update_of_ne hne]
    exact (Function.update_of_ne heq _ _).trans (h.polled id' heq)

/-- A number that is closed before it is polled is settled. -/
theorem Env.Open.closeFd_runs (h : Env.Open own id fd env) :
    Runs (closeFd id fd) env fun _ env' =>
      Env.Sound (Function.update own (.watch id) none) env' := by
  have hown : Function.update own (.watch id) (some fd) (.watch id) = some fd :=
    Function.update_self ..
  refine .get (.require ((h.held fd _).mpr hown) (.of_eq rfl ⟨?_, fun id' => ?_⟩))
  · have hclosed := h.held.close hown
    rwa [Function.update_idem] at hclosed
  · by_cases heq : id' = id
    · rw [heq, Function.update_self]
      exact h.unpolled
    · have hne : Owner.watch id' ≠ .watch id := fun h => heq (Owner.watch.inj h)
      rw [Function.update_of_ne hne]
      exact h.polled id' heq

theorem Env.Open.dropOwner_runs (h : Env.Open own id fd env) (source : LoopSource) :
    Runs (Watch.dropOwner id ⟨some fd, source⟩) env fun w env' =>
      w = ⟨none, source⟩ ∧ Env.Sound (Function.update own (.watch id) none) env' :=
  .bind_of h.closeFd_runs fun _ _ hclosed => .pure ⟨rfl, hclosed⟩

/-- A source that is removed leaves its descriptor open and unpolled. -/
theorem Env.Sound.removed (h : env.Sound own) (hid : own (.watch id) = some fd) :
    Env.Open own id fd { env with polled := Function.update env.polled id none } := by
  refine ⟨?_, Function.update_self .., fun id' hne => ?_⟩
  · rw [← hid, Function.update_eq_self]
    exact h.held
  · exact (Function.update_of_ne hne _ _).trans (h.polled id')

/-- An open descriptor is registered, or closed again. -/
theorem Watch.attach_runs (h : Env.Open own id fd env) (added : Bool) :
    Runs (Watch.attach id added ⟨some fd, .new fd⟩) env fun r env' => r.1 = added ∧
      ∃ o, r.2 = .settled o ∧ (added = false → o = none) ∧
        Env.Sound (Function.update own (.watch id) o) env' := by
  refine .bind_of (LoopSource.register_runs rfl _) ?_
  rintro r env' (⟨rfl, rfl, rfl⟩ | ⟨rfl, rfl, rfl⟩)
  · exact .pure ⟨rfl, some fd, rfl, fun hfalse => absurd hfalse (by decide), h.added⟩
  · refine .bind_of (h.dropOwner_runs _) ?_
    rintro w env' ⟨rfl, hclosed⟩
    refine .bind_of (LoopSource.setFd_runs rfl _) ?_
    rintro source env'' ⟨rfl, rfl⟩
    exact .pure ⟨rfl, none, rfl, fun _ => rfl, hclosed⟩

/-- A new watcher is armed, or stays without a descriptor. -/
theorem Watch.arm_runs (h : env.Sound own) (hid : own (.watch id) = none) (answer : ArmAnswer) :
    Runs (Watch.new.arm id answer) env fun w env' =>
      ∃ o, w = .settled o ∧ Env.Sound (Function.update own (.watch id) o) env' := by
  refine .ite (fun _ => ?_) fun _ => .pure ⟨none, rfl, ?_⟩
  · refine .bind_of (openFd_runs id) ?_
    rintro _ _ ⟨rfl, rfl⟩
    refine .bind_of (LoopSource.setFd_runs rfl _) ?_
    rintro source env' ⟨rfl, rfl⟩
    refine .bind_of (Watch.attach_runs (h.open hid) _) ?_
    rintro ⟨added, w⟩ env' ⟨-, o, rfl, -, hsound⟩
    exact .pure ⟨o, rfl, hsound⟩
  · rw [← hid, Function.update_eq_self]
    exact h

/-- A watcher is detached, or the process ends. -/
theorem Watch.detach_runs (h : env.Sound own) (hid : own (.watch id) = some fd)
    (removed : Bool) :
    Runs ((Watch.settled (some fd)).detach id removed) env fun r env' =>
      (removed = false ∧ r = .aborted) ∨
      (r = .done Watch.new ∧ Env.Sound (Function.update own (.watch id) none) env') := by
  refine .bind_of (LoopSource.unregister_runs rfl removed) ?_
  rintro r env' (⟨-, rfl, rfl⟩ | ⟨hremoved, rfl, rfl⟩)
  · refine .bind_of ((h.removed hid).dropOwner_runs _) ?_
    rintro w env' ⟨rfl, hclosed⟩
    refine .bind_of (LoopSource.setFd_runs rfl _) ?_
    rintro source env'' ⟨rfl, rfl⟩
    exact .pure (.inr ⟨rfl, hclosed⟩)
  · exact .pure (.inl ⟨hremoved, rfl⟩)

/-- What is not polled is dropped: its descriptor is closed, if it has one. -/
theorem Watch.dropInPlace_runs (h : Env.Open own id fd env) (source : Int) :
    Runs (Watch.dropInPlace id ⟨some fd, .new source⟩) env fun _ env' =>
      Env.Sound (Function.update own (.watch id) none) env' := by
  refine .bind_of (h.dropOwner_runs _) ?_
  rintro w env' ⟨rfl, hclosed⟩
  exact .require rfl (.pure hclosed)

theorem Watch.dropInPlace_new (env : Env) (id : WatchId) :
    Runs (Watch.new.dropInPlace id) env fun _ env' => env' = env := by
  have howner : Runs (Watch.new.dropOwner id) env fun w env' => w = .new ∧ env' = env :=
    .of_eq rfl ⟨rfl, rfl⟩
  refine .bind_of howner ?_
  rintro w env' ⟨rfl, rfl⟩
  exact .require rfl (.pure rfl)

end

end PwOss.Host
