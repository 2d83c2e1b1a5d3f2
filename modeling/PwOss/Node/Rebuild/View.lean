import Mathlib.Logic.Relation

/-
  The rebuild bookkeeping of a port, as the models of the node share it.

  The threads of a rebuild (`Sys`), the source, the sink and the timer side
  (`Timing.DataState`) each keep the fields of `DataState` and `Port` that their own
  results are about, and each embeds `queue_rebuild`, `queue_required_rebuilds`,
  `poll_rebuild`, `poll_rebuild_completion` and `process_data_cycle` on them.
  `RebuildView` is the part that the four have in common, with those procedures on it.
  `Moves` says what the data loop may do to it. The source and the sink are shown to do so
  procedure by procedure beside their definitions, and whole cycles, the timer side and the
  threads in `Views`.

  What is proved:
    1. a cycle that is not skipped has no order in flight, and no control operation has
       taken its port over (`poll_serves`).
    2. a required rebuild is ordered as soon as the worker takes commands
       (`queueRequired_orders`).
    3. along any moves an order stays in flight until its completion installs, aborts or
       fails (`Run.keeps_order`), and the takeover is not touched (`Run.takeover`).
-/

namespace PwOss.Node

/-- What a completion of the worker says. -/
inductive Answer where
  | superseded | installed | aborted | retireAndRetry | failed
  deriving DecidableEq, Repr

/-- The order in flight ends with this answer. -/
def Answer.settles : Answer → Bool
  | .superseded | .retireAndRetry => false
  | .installed | .aborted | .failed => true

/-- What the data loop knows of the rebuilds of its port. -/
structure RebuildView where
  takeover : Bool
  /-- The port has a configuration. -/
  configured : Bool
  pending : Bool
  required : Bool
  deriving DecidableEq, Repr

namespace RebuildView

section Procedures
variable (v : RebuildView)

/-- `queue_rebuild`: whether an order is in flight. -/
def queue (flushed : Bool) : Bool × RebuildView :=
  if v.takeover = true ∨ flushed = false ∨ v.configured = false then (false, v)
  else (true, { v with pending := true })

/-- `queue_required_rebuilds`. -/
def queueRequired (flushed : Bool) : RebuildView :=
  if v.required = true ∧ v.pending = false then (v.queue flushed).2 else v

/-- `poll_rebuild_completion`: whether the cycle skips the port. -/
def complete : Answer → Bool × RebuildView
  | .superseded => (v.pending, v)
  | .installed => (false, { v with configured := true, pending := false, required := false })
  | .aborted => (true, { v with pending := false })
  | .retireAndRetry => (true, { v with required := false })
  | .failed => (true, { v with configured := false, pending := false, required := false })

/-- `poll_rebuild`: whether the cycle skips the port. -/
def poll (flushed : Bool) (answer : Option Answer) : Bool × RebuildView :=
  if v.takeover = true ∨ flushed = false then (true, v)
  else
    match answer with
    | none => (v.pending, v)
    | some answer => v.complete answer

end Procedures

variable {v w u : RebuildView} {flushed : Bool}

/-- A completion that lets the cycle go on leaves no order in flight. -/
theorem complete_serves {answer : Answer} (h : (v.complete answer).1 = false) :
    (v.complete answer).2.pending = false := by
  cases answer with
  | superseded => exact h
  | installed => rfl
  | aborted | retireAndRetry | failed => cases h

/-- A cycle that serves the port has it for itself: no order is in flight, and no control
operation has taken the port over. -/
theorem poll_serves {answer : Option Answer} (h : (v.poll flushed answer).1 = false) :
    (v.poll flushed answer).2.pending = false ∧ v.takeover = false := by
  unfold poll at h ⊢
  by_cases hskip : v.takeover = true ∨ flushed = false
  · rw [if_pos hskip] at h
    cases h
  · rw [if_neg hskip] at h ⊢
    refine ⟨?_, eq_false_of_ne_true fun htakeover => hskip (.inl htakeover)⟩
    cases answer with
    | none => exact h
    | some answer => exact complete_serves h

/-- A required rebuild of a configured port is ordered once the worker takes commands. -/
theorem queueRequired_orders (hrequired : v.required = true) (hfree : v.takeover = false)
    (hconfigured : v.configured = true) : (v.queueRequired true).pending = true := by
  unfold queueRequired queue
  by_cases hpending : v.pending = true
  · rw [if_neg (by simp [hpending])]
    exact hpending
  · rw [if_pos ⟨hrequired, eq_false_of_ne_true hpending⟩,
      if_neg (by simp [hfree, hconfigured])]

theorem complete_takeover (answer : Answer) : (v.complete answer).2.takeover = v.takeover := by
  cases answer <;> rfl

/-- An answer that does not settle the order leaves it in flight. -/
theorem complete_pending {answer : Answer} (h : answer.settles = false) :
    (v.complete answer).2.pending = v.pending := by
  cases answer with
  | superseded | retireAndRetry => rfl
  | installed | aborted | failed => cases h

/-! ## Moves of the data loop -/

/-- One move of the data loop, which takes the completions that `A` allows. -/
inductive Moves (A : Answer → Prop) : RebuildView → RebuildView → Prop
  /-- An order is queued. -/
  | ordered {v : RebuildView} (h : (v.queue true).1 = true) : Moves A v (v.queue true).2
  /-- A completion is taken, outside takeovers. -/
  | completed {v : RebuildView} {answer : Answer} (hA : A answer) (h : v.takeover = false) :
      Moves A v (v.complete answer).2
  /-- The I/O of a cycle asks for a rebuild, or an epoch reset forgets it. -/
  | worked {v : RebuildView} (required : Bool) : Moves A v { v with required }

/-- Any number of moves. -/
abbrev Run (A : Answer → Prop) : RebuildView → RebuildView → Prop :=
  Relation.ReflTransGen (Moves A)

variable {A B : Answer → Prop}

theorem queue_of_flushed (h : (v.queue flushed).1 = true) : flushed = true := by
  unfold queue at h
  cases flushed with
  | true => rfl
  | false =>
    rw [if_pos (.inr (.inl rfl))] at h
    cases h

theorem queue_of_queued (h : (v.queue flushed).1 = true) :
    (v.queue flushed).2 = { v with pending := true } := by
  unfold queue at h ⊢
  split
  · next hrefused =>
    rw [if_pos hrefused] at h
    cases h
  · rfl

/-- A submission that fails leaves the view as it is. -/
theorem queue_of_refused (h : (v.queue flushed).1 = false) : (v.queue flushed).2 = v := by
  unfold queue at h ⊢
  split
  · rfl
  · next hqueues =>
    rw [if_neg hqueues] at h
    cases h

theorem queue_run (A : Answer → Prop) (v : RebuildView) (flushed : Bool) :
    Run A v (v.queue flushed).2 := by
  cases h : (v.queue flushed).1 with
  | false =>
    rw [queue_of_refused h]
  | true =>
    cases queue_of_flushed h
    exact .single (.ordered h)

theorem queueRequired_run (A : Answer → Prop) (v : RebuildView) (flushed : Bool) :
    Run A v (v.queueRequired flushed) := by
  unfold queueRequired
  split
  · exact queue_run A v flushed
  · exact .refl

theorem poll_run (v : RebuildView) (flushed : Bool) {answer : Option Answer}
    (hA : ∀ a, answer = some a → A a) : Run A v (v.poll flushed answer).2 := by
  unfold poll
  by_cases hskip : v.takeover = true ∨ flushed = false
  · rw [if_pos hskip]
  · rw [if_neg hskip]
    cases answer with
    | none => exact .refl
    | some answer =>
      have hfree := eq_false_of_ne_true fun htakeover => hskip (.inl htakeover)
      exact .single (.completed (hA answer rfl) hfree)

theorem Moves.mono (hAB : ∀ a, A a → B a) (h : Moves A v w) : Moves B v w := by
  cases h with
  | ordered h => exact .ordered h
  | completed hA h => exact .completed (hAB _ hA) h
  | worked required => exact .worked required

theorem Run.mono (hAB : ∀ a, A a → B a) (h : Run A v w) : Run B v w :=
  Relation.ReflTransGen.mono (fun _ _ => Moves.mono hAB) _ _ h

/-- A control operation, not the data loop, takes a port over. -/
theorem Moves.takeover (h : Moves A v w) : w.takeover = v.takeover := by
  cases h with
  | ordered h =>
    unfold queue
    split <;> rfl
  | completed hA h => exact complete_takeover _
  | worked required => rfl

theorem Run.takeover (h : Run A v w) : w.takeover = v.takeover := by
  induction h with
  | refl => rfl
  | tail _ hmove ih => exact hmove.takeover.trans ih

theorem Moves.keeps_order (hA : ∀ a, A a → a.settles = false) (h : Moves A v w)
    (hp : v.pending = true) : w.pending = true := by
  cases h with
  | ordered h =>
    unfold queue
    split
    · exact hp
    · rfl
  | completed hanswer h => exact (complete_pending (hA _ hanswer)).trans hp
  | worked required => exact hp

/-- An order stays in flight until its completion installs, aborts or fails. -/
theorem Run.keeps_order (hA : ∀ a, A a → a.settles = false) (h : Run A v w)
    (hp : v.pending = true) : w.pending = true := by
  induction h with
  | refl => exact hp
  | tail _ hmove ih => exact hmove.keeps_order hA ih

end RebuildView

end PwOss.Node
