import Mathlib.Data.Fintype.Basic
import PwOss.Lib.Slot
import PwOss.Node.Rebuild.State

/-
  The two single-slot hand-offs of `rebuild/worker.rs`, one atomic operation a step.

  Any number of parties call the operations of a slot, each any of them, and run in any
  order; a weak compare-exchange may fail although the word matches. `given` lists what
  the calls brought, and the other lists what they returned with.

  What is proved:
    * what was brought was obtained once, or lies in the cell, or in the hand of one
      party whose call has not returned
    * the cell is touched by the one party that holds BUSY, and FULL, EMPTY and CLOSED
      tell what it holds
    * commands are taken in the order they were accepted, and none is outstanding once a
      `close` has returned; none is accepted afterwards

  Correspondence (Rust ↔ Lean):
    `NodeShared` (`slot_state`, `slot`)      ↔ `NodeShared`
    `exchange`                               ↔ `load`, `compare`, `replace`, `publish`
    `take_swap`                              ↔ `claim`, `take`, `vacate`
    `RebuildWorkSlot` (`state`, `value`)     ↔ `RebuildWorkSlot`
    `try_submit`                             ↔ `claim`, `fill`, `publish`
    `take`                                   ↔ `probe`, `take`, `vacate`
    `close`                                  ↔ `close`
-/

namespace PwOss.Node

open PwOss.Slot PwOss.Transition

variable {ι α : Type}

/-! ## The completion mailbox -/

def SlotState.word : SlotState → Word
  | .empty => .empty
  | .full => .full
  | .busy => .busy

theorem SlotState.word_eq_busy {state : SlotState} : state.word = .busy ↔ state = .busy := by
  cases state <;> simp [word]

/-- Where a party is in a call on the mailbox. -/
inductive SlotPc (α : Type) where
  | idle
  /-- `exchange`, before its load. -/
  | load (new : Option α)
  /-- `exchange`, before its compare-exchange. -/
  | compare (new : Option α) (cur : { cur : SlotState // cur ≠ .busy })
  /-- `exchange`, holding BUSY. -/
  | replace (new : Option α)
  /-- `exchange`, before its store. -/
  | publish (full : Bool) (prev : Option α)
  /-- `take_swap`, before its compare-exchange. -/
  | claim
  /-- `take_swap`, holding BUSY. -/
  | take
  /-- `take_swap`, before its store. -/
  | vacate (swap : Option α)
  deriving DecidableEq

namespace SlotPc

def holds : SlotPc α → Bool
  | replace _ | publish .. | take | vacate _ => true
  | idle | load _ | compare .. | claim => false

/-- The next operation reads and writes the cell. -/
def touches : SlotPc α → Bool
  | replace _ | take => true
  | _ => false

def hand : SlotPc α → Option α
  | load new | compare new _ | replace new => new
  | publish _ prev => prev
  | vacate swap => swap
  | idle | claim | take => none

def discipline : Discipline (SlotPc α) α where
  holds := holds
  hand := hand
  knows
    | publish full _, cell => cell.isSome = full
    | take, cell => cell.isSome = true
    | vacate _, cell => cell = none
    | _, _ => True

theorem holds_of_touches {p : SlotPc α} (h : p.touches = true) : p.holds = true := by
  cases p with
  | replace | take => rfl
  | _ => cases h

end SlotPc

/-- `NodeShared`'s mailbox and its callers. -/
structure NodeShared (ι α : Type) where
  slotState : SlotState
  slot : Option α
  pc : ι → SlotPc α
  given : List α
  obtained : List α

inductive SlotEvent (ι α : Type) where
  /-- The party calls `exchange`. -/
  | exchange (i : ι) (new : Option α)
  /-- The party calls `take_swap`. -/
  | takeSwap (i : ι)
  /-- The party's next atomic operation. -/
  | next (i : ι) (spurious : Bool)

namespace NodeShared
variable [DecidableEq ι]

/-- One atomic operation, with the private work up to the next one. -/
def step (s : NodeShared ι α) : SlotEvent ι α → Option (NodeShared ι α)
  | .exchange i new =>
    match s.pc i with
    | .idle =>
      some { s with pc := Function.update s.pc i (.load new), given := s.given ++ new.toList }
    | _ => none
  | .takeSwap i =>
    match s.pc i with
    | .idle => some { s with pc := Function.update s.pc i .claim }
    | _ => none
  | .next i spurious =>
    match s.pc i with
    | .idle => none
    | .load new =>
      -- BUSY: the writer yields and loads again
      if h : s.slotState = .busy then some { s with pc := Function.update s.pc i (.load new) }
      else some { s with pc := Function.update s.pc i (.compare new ⟨s.slotState, h⟩) }
    | .compare new cur =>
      if s.slotState = cur.1 ∧ spurious = false then
        some { s with slotState := .busy, pc := Function.update s.pc i (.replace new) }
      else some { s with pc := Function.update s.pc i (.load new) }
    | .replace new =>
      some { s with
        slot := new, pc := Function.update s.pc i (.publish new.isSome s.slot) }
    | .publish full prev =>
      some { s with
        slotState := if full then .full else .empty
        pc := Function.update s.pc i .idle
        obtained := s.obtained ++ prev.toList }
    | .claim =>
      if s.slotState = .full then
        some { s with slotState := .busy, pc := Function.update s.pc i .take }
      else some { s with pc := Function.update s.pc i .idle }
    | .take =>
      some { s with slot := none, pc := Function.update s.pc i (.vacate s.slot) }
    | .vacate swap =>
      some { s with
        slotState := .empty
        pc := Function.update s.pc i .idle
        obtained := s.obtained ++ swap.toList }

/-- The mailbox from `new` on. -/
def system : System (NodeShared ι α) (SlotEvent ι α) where
  init s := s.slotState = .empty ∧ s.slot = none ∧ (∀ i, s.pc i = .idle) ∧ s.given = [] ∧
    s.obtained = []
  step := step

/-- The mailbox as a slot. -/
def view (s : NodeShared ι α) : Shared ι (SlotPc α) α where
  word := s.slotState.word
  cell := s.slot
  pc := s.pc
  put := s.given
  got := s.obtained

/-- What a step of the party `i` can do. -/
inductive Stepped (s : NodeShared ι α) (i : ι) : NodeShared ι α → Prop where
  | brought (new : Option α) (hpc : s.pc i = .idle) :
      Stepped s i { s with
        pc := Function.update s.pc i (.load new), given := s.given ++ new.toList }
  | called (hpc : s.pc i = .idle) : Stepped s i { s with pc := Function.update s.pc i .claim }
  | waited {new : Option α} (hpc : s.pc i = .load new) :
      Stepped s i { s with pc := Function.update s.pc i (.load new) }
  | loaded {new : Option α} (hpc : s.pc i = .load new) (hw : s.slotState ≠ .busy) :
      Stepped s i { s with pc := Function.update s.pc i (.compare new ⟨s.slotState, hw⟩) }
  | claimed {new : Option α} {cur : { w : SlotState // w ≠ .busy }}
      (hpc : s.pc i = .compare new cur) (hw : s.slotState = cur.1) :
      Stepped s i { s with slotState := .busy, pc := Function.update s.pc i (.replace new) }
  | lost {new : Option α} {cur : { w : SlotState // w ≠ .busy }}
      (hpc : s.pc i = .compare new cur) :
      Stepped s i { s with pc := Function.update s.pc i (.load new) }
  | replaced {new : Option α} (hpc : s.pc i = .replace new) :
      Stepped s i { s with
        slot := new, pc := Function.update s.pc i (.publish new.isSome s.slot) }
  | published {full : Bool} {prev : Option α} (hpc : s.pc i = .publish full prev) :
      Stepped s i { s with
        slotState := if full then .full else .empty
        pc := Function.update s.pc i .idle
        obtained := s.obtained ++ prev.toList }
  | probed (hpc : s.pc i = .claim) (hw : s.slotState = .full) :
      Stepped s i { s with slotState := .busy, pc := Function.update s.pc i .take }
  | missed (hpc : s.pc i = .claim) : Stepped s i { s with pc := Function.update s.pc i .idle }
  | took (hpc : s.pc i = .take) :
      Stepped s i { s with slot := none, pc := Function.update s.pc i (.vacate s.slot) }
  | vacated {swap : Option α} (hpc : s.pc i = .vacate swap) :
      Stepped s i { s with
        slotState := .empty
        pc := Function.update s.pc i .idle
        obtained := s.obtained ++ swap.toList }

section Step
variable {s s' : NodeShared ι α} {e : SlotEvent ι α} {i : ι}

theorem stepped (hs : s.step e = some s') :
    ∃ i, ((∃ spurious, e = .next i spurious) ∨ s'.slot = s.slot) ∧ Stepped s i s' := by
  cases e with
  | exchange i new =>
    simp only [step] at hs
    split at hs
    · next hpc =>
      cases hs
      exact ⟨i, .inr rfl, .brought new hpc⟩
    · cases hs
  | takeSwap i =>
    simp only [step] at hs
    split at hs
    · next hpc =>
      cases hs
      exact ⟨i, .inr rfl, .called hpc⟩
    · cases hs
  | next i spurious =>
    refine ⟨i, .inl ⟨spurious, rfl⟩, ?_⟩
    cases hpc : s.pc i with
    | idle => simp [step, hpc] at hs
    | load new =>
      simp only [step, hpc] at hs
      split at hs
      · cases hs
        exact .waited hpc
      · next hfree =>
        cases hs
        exact .loaded hpc hfree
    | compare new cur =>
      simp only [step, hpc] at hs
      split at hs
      · next hmatch =>
        cases hs
        exact .claimed hpc hmatch.1
      · cases hs
        exact .lost hpc
    | replace new =>
      simp only [step, hpc] at hs
      cases hs
      exact .replaced hpc
    | publish full prev =>
      simp only [step, hpc] at hs
      cases hs
      exact .published hpc
    | claim =>
      simp only [step, hpc] at hs
      split at hs
      · next hfull =>
        cases hs
        exact .probed hpc hfull
      · cases hs
        exact .missed hpc
    | take =>
      simp only [step, hpc] at hs
      cases hs
      exact .took hpc
    | vacate swap =>
      simp only [step, hpc] at hs
      cases hs
      exact .vacated hpc

theorem Stepped.touches (h : Stepped s i s') (hm : s'.slot ≠ s.slot) :
    (s.pc i).touches = true := by
  cases h with
  | replaced hpc | took hpc =>
    rw [hpc]
    rfl
  | _ => exact absurd rfl hm

/-- An operation on the cell is one of a party that touches it. -/
theorem touches_of_moved (hs : s.step e = some s') (hm : s'.slot ≠ s.slot) :
    ∃ i spurious, e = .next i spurious ∧ (s.pc i).touches = true := by
  obtain ⟨i, he, hstepped⟩ := stepped hs
  obtain ⟨spurious, he⟩ := he.resolve_right hm
  exact ⟨i, spurious, he, hstepped.touches hm⟩

variable [Fintype ι]

theorem Stepped.guarded (h : Stepped s i s') (hg : Guarded SlotPc.discipline s.view) :
    Guarded SlotPc.discipline s'.view := by
  cases h with
  | brought new hpc =>
    have hi : s.view.pc i = .idle := hpc
    exact hg.bring (p := .load new) hi rfl rfl rfl
  | called hpc =>
    have hi : s.view.pc i = .idle := hpc
    exact hg.pass (p := .claim) hi rfl rfl rfl
  | @waited new hpc =>
    have hi : s.view.pc i = .load new := hpc
    exact hg.pass (p := .load new) hi rfl rfl rfl
  | @loaded new hpc hfree =>
    have hi : s.view.pc i = .load new := hpc
    exact hg.pass (p := .compare new ⟨s.slotState, hfree⟩) hi rfl rfl rfl
  | @claimed new cur hpc hw =>
    have hi : s.view.pc i = .compare new cur := hpc
    have hfree : s.view.word ≠ .busy := mt SlotState.word_eq_busy.mp (hw ▸ cur.2)
    exact hg.claim (p := .replace new) hi hfree rfl rfl (by exact trivial)
  | @lost new cur hpc =>
    have hi : s.view.pc i = .compare new cur := hpc
    exact hg.pass (p := .load new) hi rfl rfl rfl
  | @replaced new hpc =>
    have hi : s.view.pc i = .replace new := hpc
    apply hg.work (p := .publish new.isSome s.slot) hi rfl rfl (by exact rfl)
    exact add_comm ..
  | @published full prev hpc =>
    have hi : s.view.pc i = .publish full prev := hpc
    have hknown : s.view.cell.isSome = full := hg.knows hi rfl
    cases full with
    | true => exact hg.release (p := .idle) hi rfl rfl rfl (w := .full) nofun (by simp [hknown])
    | false =>
      exact hg.release (p := .idle) hi rfl rfl rfl (w := .empty) nofun (by simp [hknown])
  | probed hpc hfull =>
    have hi : s.view.pc i = .claim := hpc
    have hword : s.view.word = .full := congrArg SlotState.word hfull
    have hfree : s.view.word ≠ .busy := by simp [hword]
    exact hg.claim (p := .take) hi hfree rfl rfl (by exact (hg.covers hfree).mpr hword)
  | missed hpc =>
    have hi : s.view.pc i = .claim := hpc
    exact hg.pass (p := .idle) hi rfl rfl rfl
  | took hpc =>
    have hi : s.view.pc i = .take := hpc
    apply hg.work (p := .vacate s.slot) hi rfl rfl (by exact rfl)
    exact add_comm ..
  | @vacated swap hpc =>
    have hi : s.view.pc i = .vacate swap := hpc
    have hknown : s.view.cell = none := hg.knows hi rfl
    exact hg.release (p := .idle) hi rfl rfl rfl (w := .empty) nofun (by simp [hknown])

/-- The hand-off of a mailbox loses and duplicates nothing. -/
structure Exact (s : NodeShared ι α) : Prop where
  kept : (s.given : Multiset α) = s.obtained + bag s.slot + ∑ i, bag (s.pc i).hand
  touched : ∀ i, (s.pc i).touches = true →
    s.slotState = .busy ∧ ∀ j, (s.pc j).holds = true ↔ j = i
  moved : ∀ e s', s.step e = some s' → s'.slot ≠ s.slot →
    ∃ i spurious, e = .next i spurious ∧ (s.pc i).touches = true
  full : s.slotState = .full → s.slot.isSome
  empty : s.slotState = .empty → s.slot = none

theorem exact (h : Reachable system s) : s.Exact := by
  have hg : Guarded SlotPc.discipline s.view := by
    refine h.invariant (I := fun s => Guarded SlotPc.discipline s.view) ⟨?_, ?_⟩
    · intro s hs
      obtain ⟨hstate, hslot, hidle, hgiven, hobtained⟩ := hs
      refine ⟨fun _ i => ?_, fun hw => ?_, fun _ => ?_, fun i hi => ?_, ?_⟩
      · simp [view, hidle, SlotPc.discipline, SlotPc.holds]
      · simp [view, hstate, SlotState.word] at hw
      · simp [view, hstate, hslot, SlotState.word]
      · simp [view, hidle, SlotPc.discipline, SlotPc.holds] at hi
      · simp [view, hidle, hgiven, hobtained, hslot, inHands, SlotPc.discipline, SlotPc.hand]
    · intro s e s' hs _ hstep
      obtain ⟨i, -, hstepped⟩ := stepped hstep
      exact hstepped.guarded hs
  have hbusy {i : ι} (hi : (s.pc i).touches = true) := hg.exclusive (SlotPc.holds_of_touches hi)
  refine ⟨hg.kept, fun i hi => ⟨?_, (hbusy hi).2⟩, fun e s' => touches_of_moved, ?_, ?_⟩
  · exact SlotState.word_eq_busy.mp (hbusy hi).1
  · intro hfull
    have hword : s.view.word = .full := congrArg SlotState.word hfull
    exact (hg.covers (by simp [hword])).mpr hword
  · intro hempty
    have hword : s.view.word = .empty := congrArg SlotState.word hempty
    exact hg.cell_eq_none (by simp [hword]) (by simp [hword])

end Step

end NodeShared

/-! ## The work slot -/

def WorkState.word : WorkState → Word
  | .empty => .empty
  | .full => .full
  | .busy => .busy
  | .closed => .closed

theorem WorkState.word_eq_busy {state : WorkState} : state.word = .busy ↔ state = .busy := by
  cases state <;> simp [word]

/-- Where a party is in a call on the work slot. -/
inductive WorkPc (α : Type) where
  | idle
  /-- `try_submit`, before its compare-exchange. -/
  | claim (work : α)
  /-- `try_submit`, holding BUSY. -/
  | fill (work : α)
  /-- `try_submit`, before its store. -/
  | publish (work : α)
  /-- `take`, before its compare-exchange. -/
  | probe
  /-- `take`, holding BUSY. -/
  | take
  /-- `take`, before its store. -/
  | vacate (work : Option α)
  /-- `close`, before its compare-exchange. -/
  | close
  deriving DecidableEq

namespace WorkPc

def holds : WorkPc α → Bool
  | fill _ | publish _ | take | vacate _ => true
  | idle | claim _ | probe | close => false

/-- The next operation reads or writes the cell. -/
def touches : WorkPc α → Bool
  | fill _ | take => true
  | _ => false

def hand : WorkPc α → Option α
  | claim work | fill work => some work
  | vacate work => work
  | idle | publish _ | probe | take | close => none

/-- The accepted command that the holder has still to hand over. -/
def owed (value : Option α) : WorkPc α → Option α
  | take => value
  | vacate work => work
  | _ => none

def discipline : Discipline (WorkPc α) α where
  holds := holds
  hand := hand
  knows
    | fill _, cell => cell = none
    | publish work, cell => cell = some work
    | take, cell => cell.isSome = true
    | vacate _, cell => cell = none
    | _, _ => True

theorem holds_of_touches {p : WorkPc α} (h : p.touches = true) : p.holds = true := by
  cases p with
  | fill | take => rfl
  | _ => cases h

end WorkPc

/-- `RebuildWorkSlot` and its callers. -/
structure RebuildWorkSlot (ι α : Type) where
  state : WorkState
  value : Option α
  pc : ι → WorkPc α
  given : List α
  returned : List α
  accepted : List α
  taken : List α
  /-- A `close` has returned. -/
  closed : Bool

inductive WorkEvent (ι α : Type) where
  /-- The party calls `try_submit`. -/
  | trySubmit (i : ι) (work : α)
  /-- The party calls `take`. -/
  | take (i : ι)
  /-- The party calls `close`. -/
  | close (i : ι)
  /-- The party's next atomic operation. -/
  | next (i : ι)

namespace RebuildWorkSlot
variable [DecidableEq ι]

/-- One atomic operation, with the private work up to the next one. -/
def step (s : RebuildWorkSlot ι α) : WorkEvent ι α → Option (RebuildWorkSlot ι α)
  | .trySubmit i work =>
    match s.pc i with
    | .idle =>
      some { s with pc := Function.update s.pc i (.claim work), given := s.given ++ [work] }
    | _ => none
  | .take i =>
    match s.pc i with
    | .idle => some { s with pc := Function.update s.pc i .probe }
    | _ => none
  | .close i =>
    match s.pc i with
    | .idle => some { s with pc := Function.update s.pc i .close }
    | _ => none
  | .next i =>
    match s.pc i with
    | .idle => none
    | .claim work =>
      if s.state = .empty then
        some { s with state := .busy, pc := Function.update s.pc i (.fill work) }
      else
        some { s with pc := Function.update s.pc i .idle, returned := s.returned ++ [work] }
    | .fill work =>
      some { s with value := some work, pc := Function.update s.pc i (.publish work) }
    | .publish work =>
      some { s with
        state := .full
        pc := Function.update s.pc i .idle
        accepted := s.accepted ++ [work] }
    | .probe =>
      if s.state = .full then
        some { s with state := .busy, pc := Function.update s.pc i .take }
      else some { s with pc := Function.update s.pc i .idle }
    | .take =>
      some { s with value := none, pc := Function.update s.pc i (.vacate s.value) }
    | .vacate work =>
      some { s with
        state := .empty
        pc := Function.update s.pc i .idle
        taken := s.taken ++ work.toList }
    | .close =>
      match s.state with
      | .empty =>
        some { s with state := .closed, pc := Function.update s.pc i .idle, closed := true }
      | .closed => some { s with pc := Function.update s.pc i .idle, closed := true }
      -- the worker is woken, and `close` tries again
      | .full | .busy => some { s with pc := Function.update s.pc i .close }

/-- The slot from `new` on. -/
def system : System (RebuildWorkSlot ι α) (WorkEvent ι α) where
  init s := s.state = .empty ∧ s.value = none ∧ (∀ i, s.pc i = .idle) ∧ s.given = [] ∧
    s.returned = [] ∧ s.accepted = [] ∧ s.taken = [] ∧ s.closed = false
  step := step

/-- The work slot as a slot. -/
def view (s : RebuildWorkSlot ι α) : Shared ι (WorkPc α) α where
  word := s.state.word
  cell := s.value
  pc := s.pc
  put := s.given
  got := s.returned + s.taken

/-- The commands accepted were taken in their order, up to the one under way. -/
structure Settled (s : RebuildWorkSlot ι α) : Prop where
  rest : s.state ≠ .busy → s.accepted = s.taken ++ s.value.toList
  under : ∀ i, (s.pc i).holds = true → s.accepted = s.taken ++ ((s.pc i).owed s.value).toList
  shut : s.closed = true → s.state = .closed

/-- What a step of the party `i` can do. -/
inductive Stepped (s : RebuildWorkSlot ι α) (i : ι) : RebuildWorkSlot ι α → Prop where
  | submit (work : α) (hpc : s.pc i = .idle) :
      Stepped s i { s with
        pc := Function.update s.pc i (.claim work), given := s.given ++ [work] }
  | called {p : WorkPc α} (hpc : s.pc i = .idle) (hp : p = .probe ∨ p = .close) :
      Stepped s i { s with pc := Function.update s.pc i p }
  | claimed {work : α} (hpc : s.pc i = .claim work) (hw : s.state = .empty) :
      Stepped s i { s with state := .busy, pc := Function.update s.pc i (.fill work) }
  | refused {work : α} (hpc : s.pc i = .claim work) (hw : s.state ≠ .empty) :
      Stepped s i { s with
        pc := Function.update s.pc i .idle, returned := s.returned ++ [work] }
  | filled {work : α} (hpc : s.pc i = .fill work) :
      Stepped s i { s with
        value := some work, pc := Function.update s.pc i (.publish work) }
  | published {work : α} (hpc : s.pc i = .publish work) :
      Stepped s i { s with
        state := .full, pc := Function.update s.pc i .idle, accepted := s.accepted ++ [work] }
  | probed (hpc : s.pc i = .probe) (hw : s.state = .full) :
      Stepped s i { s with state := .busy, pc := Function.update s.pc i .take }
  | missed (hpc : s.pc i = .probe) : Stepped s i { s with pc := Function.update s.pc i .idle }
  | took (hpc : s.pc i = .take) :
      Stepped s i { s with value := none, pc := Function.update s.pc i (.vacate s.value) }
  | vacated {work : Option α} (hpc : s.pc i = .vacate work) :
      Stepped s i { s with
        state := .empty, pc := Function.update s.pc i .idle, taken := s.taken ++ work.toList }
  | shut (hpc : s.pc i = .close) (hw : s.state = .empty) :
      Stepped s i { s with
        state := .closed, pc := Function.update s.pc i .idle, closed := true }
  | shutBefore (hpc : s.pc i = .close) (hw : s.state = .closed) :
      Stepped s i { s with pc := Function.update s.pc i .idle, closed := true }
  | retried (hpc : s.pc i = .close) : Stepped s i { s with pc := Function.update s.pc i .close }

variable {s s' : RebuildWorkSlot ι α} {i : ι}

theorem stepped {e : WorkEvent ι α} (hs : s.step e = some s') :
    ∃ i, (e = .next i ∨ s'.value = s.value) ∧ Stepped s i s' := by
  cases e with
  | trySubmit i work =>
    simp only [step] at hs
    split at hs
    · next hpc =>
      cases hs
      exact ⟨i, .inr rfl, .submit work hpc⟩
    · cases hs
  | take i =>
    simp only [step] at hs
    split at hs
    · next hpc =>
      cases hs
      exact ⟨i, .inr rfl, .called hpc (.inl rfl)⟩
    · cases hs
  | close i =>
    simp only [step] at hs
    split at hs
    · next hpc =>
      cases hs
      exact ⟨i, .inr rfl, .called hpc (.inr rfl)⟩
    · cases hs
  | next i =>
    refine ⟨i, .inl rfl, ?_⟩
    cases hpc : s.pc i with
    | idle => simp [step, hpc] at hs
    | claim work =>
      simp only [step, hpc] at hs
      split at hs
      · next hw =>
        cases hs
        exact .claimed hpc hw
      · next hw =>
        cases hs
        exact .refused hpc hw
    | fill work =>
      simp only [step, hpc] at hs
      cases hs
      exact .filled hpc
    | publish work =>
      simp only [step, hpc] at hs
      cases hs
      exact .published hpc
    | probe =>
      simp only [step, hpc] at hs
      split at hs
      · next hw =>
        cases hs
        exact .probed hpc hw
      · cases hs
        exact .missed hpc
    | take =>
      simp only [step, hpc] at hs
      cases hs
      exact .took hpc
    | vacate work =>
      simp only [step, hpc] at hs
      cases hs
      exact .vacated hpc
    | close =>
      simp only [step, hpc] at hs
      split at hs
      · next hw =>
        cases hs
        exact .shut hpc hw
      · next hw =>
        cases hs
        exact .shutBefore hpc hw
      · cases hs
        exact .retried hpc
      · cases hs
        exact .retried hpc

theorem Stepped.touches (h : Stepped s i s') (hm : s'.value ≠ s.value) :
    (s.pc i).touches = true := by
  cases h with
  | filled hpc | took hpc =>
    rw [hpc]
    rfl
  | _ => exact absurd rfl hm

/-- Off the slot nothing is settled anew. -/
theorem Settled.aside (hs : s.Settled) {p : WorkPc α} (hp : p.holds = false)
    (hpc : s'.pc = Function.update s.pc i p) (hstate : s'.state = s.state)
    (hvalue : s'.value = s.value) (haccepted : s'.accepted = s.accepted)
    (htaken : s'.taken = s.taken) (hclosed : s'.closed = true → s.state = .closed) :
    s'.Settled where
  rest := by
    rw [hstate, hvalue, haccepted, htaken]
    exact hs.rest
  under := by
    intro j hj
    rw [hvalue, haccepted, htaken, hpc]
    rw [hpc] at hj
    by_cases hji : j = i
    · subst hji
      simp [hp] at hj
    · simp only [Function.update_of_ne hji] at hj ⊢
      exact hs.under j hj
  shut := fun h => hstate.trans (hclosed h)

section Guard
variable [Fintype ι]

theorem Stepped.guarded (h : Stepped s i s') (hg : Guarded WorkPc.discipline s.view) :
    Guarded WorkPc.discipline s'.view := by
  cases h with
  | submit work hpc =>
    have hi : s.view.pc i = .idle := hpc
    exact hg.bring (p := .claim work) hi rfl rfl rfl
  | called hpc hp =>
    have hi : s.view.pc i = .idle := hpc
    rcases hp with rfl | rfl
    · exact hg.pass (p := .probe) hi rfl rfl rfl
    · exact hg.pass (p := .close) hi rfl rfl rfl
  | @claimed work hpc hw =>
    have hi : s.view.pc i = .claim work := hpc
    have hword : s.view.word = .empty := congrArg WorkState.word hw
    have hfree : s.view.word ≠ .busy := by simp [hword]
    have hnone : s.view.cell = none := hg.cell_eq_none hfree (by simp [hword])
    exact hg.claim (p := .fill work) hi hfree rfl rfl (by exact hnone)
  | @refused work hpc hw =>
    have hi : s.view.pc i = .claim work := hpc
    have hl := hg.leave (p := .idle) hi rfl rfl rfl
    have hgot : s.view.got + bag (WorkPc.discipline.hand (.claim work)) =
        ((s.returned ++ [work] : List α) : Multiset α) + s.taken := add_right_comm ..
    rw [hgot] at hl
    exact hl
  | @filled work hpc =>
    have hi : s.view.pc i = .fill work := hpc
    have hnone : s.view.cell = none := hg.knows hi rfl
    apply hg.work (p := .publish work) hi rfl rfl (by exact rfl)
    rw [hnone]
    exact add_comm ..
  | @published work hpc =>
    have hi : s.view.pc i = .publish work := hpc
    have hsome : s.view.cell = some work := hg.knows hi rfl
    have hr := hg.release (p := .idle) hi rfl rfl rfl (w := .full) nofun (by simp [hsome])
    have hgot : s.view.got + bag (WorkPc.discipline.hand (.publish work)) =
        (s.returned : Multiset α) + s.taken := add_zero _
    rw [hgot] at hr
    exact hr
  | probed hpc hw =>
    have hi : s.view.pc i = .probe := hpc
    have hword : s.view.word = .full := congrArg WorkState.word hw
    have hfree : s.view.word ≠ .busy := by simp [hword]
    exact hg.claim (p := .take) hi hfree rfl rfl (by exact (hg.covers hfree).mpr hword)
  | missed hpc =>
    have hi : s.view.pc i = .probe := hpc
    exact hg.pass (p := .idle) hi rfl rfl rfl
  | took hpc =>
    have hi : s.view.pc i = .take := hpc
    apply hg.work (p := .vacate s.value) hi rfl rfl (by exact rfl)
    exact add_comm ..
  | @vacated work hpc =>
    have hi : s.view.pc i = .vacate work := hpc
    have hnone : s.view.cell = none := hg.knows hi rfl
    have hr := hg.release (p := .idle) hi rfl rfl rfl (w := .empty) nofun (by simp [hnone])
    have hgot : s.view.got + bag (WorkPc.discipline.hand (.vacate work)) =
        (s.returned : Multiset α) + (s.taken ++ work.toList : List α) := add_assoc ..
    rw [hgot] at hr
    exact hr
  | shut hpc hw =>
    have hi : s.view.pc i = .close := hpc
    have hword : s.view.word = .empty := congrArg WorkState.word hw
    exact hg.shut (p := .idle) hi hword rfl rfl
  | shutBefore hpc hw =>
    have hi : s.view.pc i = .close := hpc
    exact hg.pass (p := .idle) hi rfl rfl rfl
  | retried hpc =>
    have hi : s.view.pc i = .close := hpc
    exact hg.pass (p := .close) hi rfl rfl rfl

/-- Whoever claims the slot owes what lies in it. -/
theorem Settled.claim (hs : s.Settled) (hg : Guarded WorkPc.discipline s.view) {p : WorkPc α}
    (hw : s.state ≠ .busy) (hc : s.state ≠ .closed) (ho : p.owed s.value = s.value) :
    Settled { s with state := .busy, pc := Function.update s.pc i p } where
  rest := fun hne => absurd rfl hne
  under := by
    intro j hj
    by_cases hji : j = i
    · subst hji
      simpa [ho] using hs.rest hw
    · have hfree : (s.pc j).holds = false := hg.free (mt WorkState.word_eq_busy.mp hw) j
      simp [hji, hfree] at hj
  shut := fun h => absurd (hs.shut h) hc

/-- The holder's work on the cell leaves what it owes. -/
theorem Settled.work (hs : s.Settled) (hg : Guarded WorkPc.discipline s.view) {p q : WorkPc α}
    (hi : s.pc i = q) (hq : q.holds = true) {value : Option α}
    (ho : p.owed value = q.owed s.value) :
    Settled { s with value, pc := Function.update s.pc i p } := by
  have hheld : (s.pc i).holds = true := by rw [hi, hq]
  obtain ⟨hbusy, halone⟩ := hg.exclusive hheld
  refine ⟨fun hne => absurd (WorkState.word_eq_busy.mp hbusy) hne, fun j hj => ?_, hs.shut⟩
  by_cases hji : j = i
  · subst hji
    simpa [ho, hi] using hs.under j hheld
  · simp only [Function.update_of_ne hji] at hj
    exact absurd ((halone j).mp hj) hji

/-- The holder leaves the slot with every accepted command taken but the one in it. -/
theorem Settled.release (hs : s.Settled) (hg : Guarded WorkPc.discipline s.view)
    (hq : (s.pc i).holds = true) {state : WorkState} {accepted taken : List α}
    (ha : accepted = taken ++ s.value.toList) :
    Settled { s with state, pc := Function.update s.pc i .idle, accepted, taken } := by
  obtain ⟨hbusy, halone⟩ := hg.exclusive hq
  refine ⟨fun _ => ha, fun j hj => ?_, fun h => ?_⟩
  · by_cases hji : j = i
    · subst hji
      simp [WorkPc.holds] at hj
    · simp only [Function.update_of_ne hji] at hj
      exact absurd ((halone j).mp hj) hji
  · have hclosed := hs.shut h
    rw [WorkState.word_eq_busy.mp hbusy] at hclosed
    cases hclosed

theorem Stepped.settled (h : Stepped s i s') (hg : Guarded WorkPc.discipline s.view)
    (hs : s.Settled) : s'.Settled := by
  have hcell {p : WorkPc α} (hi : s.pc i = p) (hp : p.holds = true) :
      WorkPc.discipline.knows p s.value := hg.knows (s := s.view) hi hp
  cases h with
  | submit work hpc => exact hs.aside rfl rfl rfl rfl rfl rfl hs.shut
  | called hpc hp =>
    refine hs.aside ?_ rfl rfl rfl rfl rfl hs.shut
    rcases hp with rfl | rfl <;> rfl
  | claimed hpc hw =>
    have hword : s.view.word = .empty := congrArg WorkState.word hw
    have hnone : s.value = none := hg.cell_eq_none (by simp [hword]) (by simp [hword])
    exact hs.claim hg (by simp [hw]) (by simp [hw]) hnone.symm
  | refused hpc hw => exact hs.aside rfl rfl rfl rfl rfl rfl hs.shut
  | filled hpc => exact hs.work hg hpc rfl rfl
  | @published work hpc =>
    have hsome : s.value = some work := hcell hpc rfl
    have hheld : (s.pc i).holds = true := by rw [hpc]; rfl
    have hbefore := hs.under i hheld
    rw [hpc] at hbefore
    refine hs.release hg hheld ?_
    rw [hbefore, hsome]
    simp [WorkPc.owed]
  | probed hpc hw => exact hs.claim hg (by simp [hw]) (by simp [hw]) rfl
  | missed hpc => exact hs.aside rfl rfl rfl rfl rfl rfl hs.shut
  | took hpc => exact hs.work hg hpc rfl rfl
  | @vacated work hpc =>
    have hnone : s.value = none := hcell hpc rfl
    have hheld : (s.pc i).holds = true := by rw [hpc]; rfl
    have hbefore := hs.under i hheld
    rw [hpc] at hbefore
    refine hs.release hg hheld ?_
    rw [hbefore, hnone]
    simp [WorkPc.owed]
  | shut hpc hw =>
    have hword : s.view.word = .empty := congrArg WorkState.word hw
    refine ⟨fun _ => hs.rest (by simp [hw]), fun j hj => ?_, fun _ => rfl⟩
    have hfree : (s.pc j).holds = false := hg.free (by simp [hword]) j
    by_cases hji : j = i
    · subst hji
      simp [WorkPc.holds] at hj
    · simp [hji, hfree] at hj
  | shutBefore hpc hw => exact hs.aside rfl rfl rfl rfl rfl rfl fun _ => hw
  | retried hpc => exact hs.aside rfl rfl rfl rfl rfl rfl hs.shut

/-- The hand-off of a work slot loses and duplicates nothing, and ends with its close. -/
structure Exact (s : RebuildWorkSlot ι α) : Prop where
  kept : (s.given : Multiset α) = s.returned + s.taken + bag s.value + ∑ i, bag (s.pc i).hand
  touched : ∀ i, (s.pc i).touches = true →
    s.state = .busy ∧ ∀ j, (s.pc j).holds = true ↔ j = i
  moved : ∀ e s', s.step e = some s' → s'.value ≠ s.value →
    ∃ i, e = .next i ∧ (s.pc i).touches = true
  full : s.state = .full → s.value.isSome
  empty : s.state = .empty ∨ s.state = .closed → s.value = none
  drained : s.closed = true → s.taken = s.accepted
  sealed : s.closed = true → ∀ es s', system.run s es = some s' → s'.accepted = s.accepted

structure Sound (s : RebuildWorkSlot ι α) : Prop where
  guarded : Guarded WorkPc.discipline s.view
  settled : s.Settled

theorem Sound.step (h : s.Sound) {e : WorkEvent ι α} (hs : s.step e = some s') : s'.Sound := by
  obtain ⟨i, -, hstepped⟩ := stepped hs
  exact ⟨hstepped.guarded h.guarded, hstepped.settled h.guarded h.settled⟩

theorem sound (h : Reachable system s) : s.Sound := by
  refine h.invariant (I := Sound) ⟨?_, fun s e s' hs _ => hs.step⟩
  intro s hs
  obtain ⟨hstate, hvalue, hidle, hgiven, hreturned, haccepted, htaken, hclosed⟩ := hs
  refine ⟨⟨fun _ i => ?_, fun hw => ?_, fun _ => ?_, fun i hi => ?_, ?_⟩,
    ⟨fun _ => ?_, fun i hi => ?_, fun hc => ?_⟩⟩
  · simp [view, hidle, WorkPc.discipline, WorkPc.holds]
  · simp [view, hstate, WorkState.word] at hw
  · simp [view, hstate, hvalue, WorkState.word]
  · simp [view, hidle, WorkPc.discipline, WorkPc.holds] at hi
  · simp [view, hidle, hgiven, hreturned, htaken, hvalue, inHands, WorkPc.discipline, WorkPc.hand]
  · simp [haccepted, htaken, hvalue]
  · simp [hidle, WorkPc.holds] at hi
  · simp [hclosed] at hc

/-- Nothing is accepted by a closed slot. -/
theorem Stepped.sealed (h : Stepped s i s') (hg : Guarded WorkPc.discipline s.view)
    (hc : s.state = .closed) : s'.state = .closed ∧ s'.accepted = s.accepted := by
  have hword : s.view.word = .closed := congrArg WorkState.word hc
  have hfree : (s.pc i).holds = false := hg.free (by simp [hword]) i
  cases h with
  | submit | called | refused | missed | shutBefore | retried => exact ⟨hc, rfl⟩
  | claimed _ hw | probed _ hw | shut _ hw =>
    rw [hc] at hw
    cases hw
  | filled hpc | published hpc | took hpc | vacated hpc =>
    rw [hpc] at hfree
    cases hfree

theorem Sound.sealed (h : s.Sound) (hc : s.state = .closed) (es : List (WorkEvent ι α))
    (hrun : system.run s es = some s') : s'.accepted = s.accepted := by
  induction es generalizing s with
  | nil =>
    cases hrun
    rfl
  | cons e es ih =>
    obtain ⟨t, ht, hrest⟩ := run_cons hrun
    obtain ⟨i, -, hstepped⟩ := stepped ht
    obtain ⟨hclosed, haccepted⟩ := hstepped.sealed h.guarded hc
    rw [← haccepted]
    exact ih (h.step ht) hclosed hrest

theorem exact (h : Reachable system s) : s.Exact := by
  have hs := sound h
  have hbusy {i : ι} (hi : (s.pc i).touches = true) :=
    hs.guarded.exclusive (WorkPc.holds_of_touches hi)
  have hnone (hw : s.state = .empty ∨ s.state = .closed) : s.value = none := by
    rcases hw with hw | hw
    · have hword : s.view.word = .empty := congrArg WorkState.word hw
      exact hs.guarded.cell_eq_none (by simp [hword]) (by simp [hword])
    · have hword : s.view.word = .closed := congrArg WorkState.word hw
      exact hs.guarded.cell_eq_none (by simp [hword]) (by simp [hword])
  refine ⟨hs.guarded.kept, fun i hi => ⟨WorkState.word_eq_busy.mp (hbusy hi).1, (hbusy hi).2⟩,
    ?_, ?_, hnone, ?_, fun hc es s' => hs.sealed (hs.settled.shut hc) es⟩
  · intro e s' hstep hmoved
    obtain ⟨i, he, hstepped⟩ := stepped hstep
    exact ⟨i, he.resolve_right hmoved, hstepped.touches hmoved⟩
  · intro hfull
    have hword : s.view.word = .full := congrArg WorkState.word hfull
    exact (hs.guarded.covers (by simp [hword])).mpr hword
  · intro hc
    have hclosed := hs.settled.shut hc
    have hrest := hs.settled.rest (by simp [hclosed])
    rw [hnone (.inr hclosed)] at hrest
    simpa using hrest.symm

end Guard

end RebuildWorkSlot

/-- The single-slot hand-offs lose and duplicate nothing. In every interleaving of the
operations of any parties, every value put in was obtained once, or lies in the cell, or is
carried by a party whose call has not returned; the cell is touched by the one holder of
BUSY; FULL says that it holds a value, EMPTY and CLOSED that it holds none. Once a `close`
has returned, the commands accepted are the commands taken, and no more are accepted. -/
theorem handoff_exact (ι α : Type) [Fintype ι] [DecidableEq ι] :
    (∀ s : NodeShared ι α, Reachable NodeShared.system s → s.Exact) ∧
    ∀ s : RebuildWorkSlot ι α, Reachable RebuildWorkSlot.system s → s.Exact :=
  ⟨fun _ => NodeShared.exact, fun _ => RebuildWorkSlot.exact⟩

/-- The worker deposits, the data loop takes, and the main loop discards. -/
def depositRace {ι : Type} (worker main loop : ι) : List (SlotEvent ι Nat) :=
  [.exchange worker (some 1), .next worker false, .next worker true, .next worker false,
    .next worker false, .takeSwap loop, .next loop false, .next worker false,
    .next worker false, .exchange main none, .next main false, .takeSwap loop,
    .next loop false, .next main false, .next main false, .next loop false, .next loop false,
    .next main false, .next main false, .next main false, .next main false]

/-- The data loop submits while the main loop closes; the worker takes. -/
def closeRace {ι : Type} (worker main loop : ι) : List (WorkEvent ι Nat) :=
  [.trySubmit loop 5, .close main, .next loop, .next main, .next loop, .next loop, .next main,
    .take worker, .next worker, .next worker, .next worker, .next main, .trySubmit loop 6,
    .next loop]

theorem handoff_exact_races :
    (∃ s, NodeShared.system.run ⟨.empty, none, fun _ => .idle, [], []⟩
        (depositRace (0 : Fin 3) 1 2) = some s ∧
      (s.slotState, s.slot, s.given, s.obtained) = (.empty, none, [1], [1]) ∧ s.Exact) ∧
    ∃ s, RebuildWorkSlot.system.run ⟨.empty, none, fun _ => .idle, [], [], [], [], false⟩
        (closeRace (0 : Fin 3) 1 2) = some s ∧
      (s.closed, s.given, s.returned, s.accepted) = (true, [5, 6], [6], [5]) ∧ s.Exact := by
  constructor
  · have hrun : (NodeShared.system.run ⟨.empty, none, fun _ => .idle, [], []⟩
        (depositRace (0 : Fin 3) 1 2)).map
        (fun s => (s.slotState, s.slot, s.given, s.obtained)) =
          some (.empty, none, [1], [1]) := by
      decide +kernel
    obtain ⟨s, hs, hend⟩ := Option.map_eq_some_iff.mp hrun
    refine ⟨s, hs, hend, (handoff_exact (Fin 3) Nat).1 s ?_⟩
    exact via_of_run _ (.init ⟨rfl, rfl, fun _ => rfl, rfl, rfl⟩) (fun _ _ _ => trivial) hs
  · have hrun : (RebuildWorkSlot.system.run
        ⟨.empty, none, fun _ => .idle, [], [], [], [], false⟩
        (closeRace (0 : Fin 3) 1 2)).map (fun s => (s.closed, s.given, s.returned, s.accepted)) =
          some (true, [5, 6], [6], [5]) := by
      decide +kernel
    obtain ⟨s, hs, hend⟩ := Option.map_eq_some_iff.mp hrun
    refine ⟨s, hs, hend, (handoff_exact (Fin 3) Nat).2 s ?_⟩
    exact via_of_run _ (.init ⟨rfl, rfl, fun _ => rfl, rfl, rfl, rfl, rfl, rfl⟩)
      (fun _ _ _ => trivial) hs

end PwOss.Node
