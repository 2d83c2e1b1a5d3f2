import PwOss.Lib.Transition
import PwOss.Node.Source.Process

/-
  Who owns the buffers of a source port, over whole runs of cycles, control
  operations and host steps.

  The host returns an id by leaving it in the area with OK or NEED_DATA. It names
  ids that it has seen, or none. All that decides about ids is the `Ledger` of a
  state: device operations leave it alone (`Frame`), and `Lent` is what holds of it.

  What is proved:
    1. `buffers_owned`: in every run in which nothing restarts the counter of fresh
       ids while ids of the set are out, and the counter stays within 32 bits, the
       source never takes the block of an id that the host holds, never hands out an
       id twice, and the blocks that the host holds are as they were published.
    2. `buffer_overwritten`: a background rebuild restarts the counter, and the next
       fresh id is the one that the host holds.

  Correspondence (Rust ↔ Lean):
    `process`                                ↔ `Event.process`
    `port_set_io`, the host in its area      ↔ `Event.hostIo`
    `port_use_buffers`                       ↔ `Event.useBuffers`
    `send_command`                           ↔ `Event.start`, `pause`, `suspend`
    `install_device`, `release_format`       ↔ `Event.takeTakeover`, `retireDevice`,
                                               `install`, `releaseFormat`, `releaseTakeover`
-/

namespace PwOss.Node.Source

open PwOss.Backend PwOss.Transition

variable {δ : Type} (ops : CaptureOperations δ)

/-! ## Runs -/

inductive Event (δ : Type) where
  | process (c : Cycle δ)
  /-- The host sets its area, or writes into it. -/
  | hostIo (area : Option IoBuffers)
  | useBuffers (blocks : List HostBlock)
  | start
  | pause
  | suspend (placeholder : δ)
  | releaseFormat (placeholder : δ)
  | takeTakeover
  | retireDevice (closed : δ)
  | install (dsp : δ) (config : Option StreamConfig) (quantumBytes : Nat)
  | releaseTakeover

/-- The host names no buffer, the one in its area, or one that the source has used. -/
def hostNames (s : Source δ) (area : IoBuffers) : Prop :=
  area.bufferId = noBuffer ∨ area.bufferId ∈ s.used ∨
    s.io.map (·.bufferId) = some area.bufferId

instance (s : Source δ) (area : IoBuffers) : Decidable (s.hostNames area) := by
  unfold hostNames
  infer_instance

/-- The host's area; an id that it offers is returned. -/
def setHostIo (area : Option IoBuffers) (s : Source δ) : Source δ :=
  { s with
    io := area
    held :=
      match area with
      | none => s.held
      | some area =>
        if area.offers then s.held.filter fun lent => lent.1 != area.bufferId else s.held }

/-- A fresh node, and one step of the data loop or the host. -/
def step (s : Source δ) : Event δ → Option (Source δ)
  | .process c => some (processDataCycle ops c s)
  | .hostIo area =>
    if (∀ a ∈ area, s.hostNames a) then some (s.setHostIo area) else none
  | .useBuffers blocks =>
    -- The count is a `u32`.
    if blocks.length < 2 ^ 32 then some (s.portUseBuffers blocks) else none
  | .start => some s.startLoop
  | .pause => some s.pauseLoop
  | .suspend placeholder => some (s.suspendLoop placeholder)
  | .releaseFormat placeholder => some (Source.releaseFormat placeholder s)
  | .takeTakeover => some s.takeTakeover
  | .retireDevice closed => some (s.retireDevice closed)
  | .install dsp config quantumBytes => some (s.installSwap dsp config quantumBytes)
  | .releaseTakeover => some s.releaseTakeover

/-- A node before its first format. -/
def fresh (placeholder : δ) : Source δ where
  started := false
  takeover := false
  dsp := placeholder
  config := none
  buffers := []
  io := none
  setupPeriod := 0
  deliveryQuantumBytes := 0
  rebuildPending := false
  rebuildRequired := false
  xrunTracker := {}
  ext := {}
  used := []
  held := []
  faults := []

def system : System (Source δ) (Event δ) where
  init s := ∃ placeholder, s = fresh placeholder
  step := step ops

/-! ## The ledger -/

/-- What decides about buffer ids. -/
structure Ledger where
  buffers : List HostBlock
  io : Option IoBuffers
  /-- `active_buffers`. -/
  counter : Nat
  used : List UInt32
  held : List (UInt32 × HostBlock)
  faults : List OwnershipFault

def ledger (s : Source δ) : Ledger :=
  ⟨s.buffers, s.io, s.ext.activeBuffers, s.used, s.held, s.faults⟩

/-- What the device and the geometry leave alone: the ledger, the takeover, the
configuration and the order in flight. -/
structure Frame where
  ledger : Ledger
  takeover : Bool
  config : Option StreamConfig
  rebuildPending : Bool

def frame (s : Source δ) : Frame := ⟨s.ledger, s.takeover, s.config, s.rebuildPending⟩

section Frame

variable {maxsize : Nat} (c : Cycle δ) (s : Source δ)

@[simp] theorem frame_commitGeometry (period : Nat) (geometry : CaptureBufferGeometry) :
    (s.commitGeometry period geometry).frame = s.frame := by
  unfold commitGeometry
  split <;> rfl

theorem frame_retunePeriod (config : StreamConfig) (period : Nat) :
    (retunePeriod ops config period s).2.frame = s.frame := by
  unfold retunePeriod
  dsimp only
  split
  case h_3 => exact frame_commitGeometry ..
  all_goals rfl

theorem ledger_queueRebuild (flushed : Bool) : (s.queueRebuild flushed).2.ledger = s.ledger := by
  unfold queueRebuild
  split <;> rfl

theorem ledger_queueRequiredRebuilds (flushed : Bool) :
    (s.queueRequiredRebuilds flushed).ledger = s.ledger := by
  unfold queueRequiredRebuilds
  split
  · exact ledger_queueRebuild s flushed
  · rfl

theorem frame_measuredOverruns : (measuredOverruns ops c s).2.frame = s.frame := by
  unfold measuredOverruns
  split <;> rfl

theorem frame_recoverOverrun (count : Nat) (preReadFill : Option Nat) :
    (recoverOverrun ops count preReadFill s).frame = s.frame := by
  unfold recoverOverrun
  dsimp only
  split
  · rfl
  · split <;> rfl

theorem frame_settleOverruns (freewheel : Bool) (preReadFill : Option Nat) :
    (settleOverruns ops c freewheel preReadFill s).frame = s.frame := by
  unfold settleOverruns
  by_cases hrun : ops.isRunning s.dsp = true ∧ freewheel = false
  · rw [if_pos hrun]
    dsimp only
    split
    · rw [frame_recoverOverrun, frame_measuredOverruns]
    · exact frame_measuredOverruns ops c s
  · rw [if_neg hrun]
    rfl

theorem frame_primeCapture (config : StreamConfig) (period graphRate : Nat)
    (data : Scratch maxsize) :
    (primeCapture ops config period graphRate data s).state.frame = s.frame := by
  unfold primeCapture
  dsimp only
  exact frame_commitGeometry ..

theorem frame_readBlock (ispace : Nat) (data : Scratch maxsize) :
    (readBlock ops ispace data s).2.2.frame = s.frame := by
  unfold readBlock
  split <;> rfl

theorem frame_boundedRead (queued stride : Nat) (data : Scratch maxsize) :
    (boundedRead ops queued stride data s).state.frame = s.frame := by
  unfold boundedRead
  exact frame_readBlock ..

theorem frame_fillBlock (config : StreamConfig) (freewheel : Bool) (period graphRate : Nat)
    (data : Scratch maxsize) :
    (fillBlock ops c config freewheel period graphRate data s).state.frame = s.frame := by
  unfold fillBlock
  split
  · rfl
  split
  · exact frame_primeCapture ..
  split
  · rfl
  · exact frame_boundedRead ..

end Frame

/-! ## What a cycle does to the ledger -/

namespace Ledger

/-- The device swap restarts the counter. -/
def restart (l : Ledger) : Ledger := { l with counter := 0 }

def handOut (l : Ledger) (id : UInt32) : Ledger :=
  { l with
    counter := l.counter + 1
    used := l.used ++ [id]
    faults := l.faults ++ if id ∈ l.used then [.handedOutAgain id] else [] }

def take (l : Ledger) (id : UInt32) : Ledger :=
  { l with faults := l.faults ++ if id ∈ l.held.map (·.1) then [.tookHeld id] else [] }

/-- The block of `id` was written, and the area names it. -/
def write (l : Ledger) (id : UInt32) (block : HostBlock) (status : BufferStatus) : Ledger :=
  { l with buffers := l.buffers.set id.toNat block, io := some ⟨status, id⟩ }

def lend (l : Ledger) (id : UInt32) (block : HostBlock) : Ledger :=
  { l.write id block .haveData with held := (id, block) :: l.held }

end Ledger

section Cycle

variable (c : Cycle δ) (s : Source δ)

theorem ledger_retuneCycle (config : StreamConfig) (period : Nat) :
    (retuneCycle ops c config period s).2.ledger = s.ledger := by
  have hretune := congrArg Frame.ledger (frame_retunePeriod ops s config period)
  change (retunePeriod ops config period s).2.ledger = s.ledger at hretune
  unfold retuneCycle
  dsimp only
  split
  · rw [ledger_queueRebuild, hretune]
  · exact hretune

theorem ledger_serveBlock (position : Position) (config : StreamConfig) (id : UInt32)
    (block : HostBlock) :
    (∃ b, (serveBlock ops c position config id block s).ledger = s.ledger.write id b .ok) ∨
      ∃ b, (serveBlock ops c position config id block s).ledger = s.ledger.lend id b := by
  unfold serveBlock
  dsimp only
  generalize hfilled : fillBlock ops c config _ _ _ _ _ = filled
  have hframe : filled.state.frame = s.frame := by
    rw [← hfilled, frame_fillBlock]
    rfl
  generalize hsettled : settleOverruns ops c _ _ filled.state = t
  have ht : t.ledger = s.ledger := by
    refine congrArg Frame.ledger (show t.frame = s.frame from ?_)
    rw [← hsettled, frame_settleOverruns, hframe]
  rw [← ht]
  cases filled.bytes with
  | none => exact .inl ⟨_, rfl⟩
  | some size => exact .inr ⟨_, rfl⟩

/-- A cycle with a block leaves the ledger, keeps the block in the area, or lends it. -/
theorem ledger_cycleBlock (position : Position) (config : StreamConfig) (id : UInt32)
    (block : HostBlock) :
    (cycleBlock ops c position config id block s).ledger = s.ledger ∨
      (∃ b, (cycleBlock ops c position config id block s).ledger = s.ledger.write id b .ok) ∨
      ∃ b, (cycleBlock ops c position config id block s).ledger = s.ledger.lend id b := by
  have hretune := ledger_retuneCycle ops c s config (cyclePeriod position config).2
  unfold cycleBlock
  dsimp only
  split
  · exact .inl hretune
  · right
    rw [← hretune]
    exact ledger_serveBlock ops c _ position config id block

/-- The completion that the cycle takes swaps the device. -/
def Cycle.swaps (c : Cycle δ) (s : Source δ) : Bool :=
  !s.takeover && c.flushed &&
    match c.completion with
    | some (.installed ..) | some (.failed ..) => true
    | _ => false

theorem ledger_pollRebuild :
    (s.pollRebuild c).2.ledger = if c.swaps s then s.ledger.restart else s.ledger := by
  unfold pollRebuild Cycle.swaps
  cases s.takeover with
  | true => rfl
  | false =>
    cases c.flushed with
    | false => rfl
    | true =>
      simp only [Bool.false_eq_true, Bool.true_eq_false, or_self, if_false]
      cases c.completion with
      | none => rfl
      | some completion => cases completion <;> rfl

/-- The id of a cycle is the next of the counter or the one in the area. -/
theorem ledger_cycleBufferId (area : IoBuffers) :
    (area.bufferId = noBuffer ∧
        (s.cycleBufferId area).2.ledger = s.ledger.handOut (s.cycleBufferId area).1 ∧
        (s.cycleBufferId area).1 = .ofNat s.ledger.counter) ∨
      (area.bufferId ≠ noBuffer ∧ (s.cycleBufferId area).2.ledger = s.ledger ∧
        (s.cycleBufferId area).1 = area.bufferId) := by
  unfold cycleBufferId
  by_cases h : area.bufferId = noBuffer
  · rw [if_pos h]
    exact .inl ⟨h, rfl, rfl⟩
  · rw [if_neg h]
    exact .inr ⟨h, rfl, rfl⟩

end Cycle

/-! ## Lent buffers -/

/-- What holds of the ledger while a set of buffers is in place. -/
structure Ledger.Lent (l : Ledger) : Prop where
  few : l.buffers.length < 2 ^ 32
  used_lt : ∀ id ∈ l.used, id.toNat < l.counter
  /-- The host holds ids that were handed out, and their blocks are as it got them. -/
  intact : ∀ p ∈ l.held, p.1 ∈ l.used ∧ l.buffers[p.1.toNat]? = some p.2
  named : ∀ area, l.io = some area → area.bufferId = noBuffer ∨ area.bufferId ∈ l.used
  /-- What the area offers, the host does not hold. -/
  free : ∀ area, l.io = some area → area.offers = true → area.bufferId ∉ l.held.map (·.1)

/-- Nothing went wrong, and a set in place is lent properly. -/
structure Ledger.Owned (l : Ledger) : Prop where
  clean : l.faults = []
  lent : l.buffers ≠ [] → l.Lent

namespace Ledger

variable {l : Ledger} {id : UInt32} {block : HostBlock}

theorem Owned.restart (h : l.Owned) (hc : l.buffers = [] ∨ l.counter = 0) : l.restart.Owned := by
  refine ⟨h.clean, fun hb => ?_⟩
  have hcounter : l.counter = 0 := hc.resolve_left hb
  have heq : l.restart = l := by rw [Ledger.restart, ← hcounter]
  rw [heq]
  exact h.lent hb

/-- The id of the counter is a fresh one. -/
theorem Lent.next_not_used (h : l.Lent) (hc : l.counter < 2 ^ 32) :
    UInt32.ofNat l.counter ∉ l.used := by
  intro hmem
  have hlt := h.used_lt _ hmem
  rw [UInt32.toNat_ofNat_of_lt' hc] at hlt
  exact Nat.lt_irrefl _ hlt

theorem Lent.next_not_held (h : l.Lent) (hc : l.counter < 2 ^ 32) :
    UInt32.ofNat l.counter ∉ l.held.map (·.1) := by
  intro hmem
  obtain ⟨p, hp, hid⟩ := List.mem_map.mp hmem
  exact h.next_not_used hc (hid ▸ (h.intact p hp).1)

theorem Lent.handOut (h : l.Lent) (hc : l.counter < 2 ^ 32) :
    (l.handOut (.ofNat l.counter)).Lent where
  few := h.few
  used_lt := by
    intro id hid
    rcases List.mem_append.mp hid with hid | hid
    · exact Nat.lt_succ_of_lt (h.used_lt id hid)
    · rw [List.mem_singleton.mp hid, UInt32.toNat_ofNat_of_lt' hc]
      exact Nat.lt_succ_self _
  intact := fun p hp => ⟨List.mem_append_left _ (h.intact p hp).1, (h.intact p hp).2⟩
  named := fun area ha => (h.named area ha).imp_right (List.mem_append_left _)
  free := h.free

theorem handOut_faults (h : l.Lent) (hc : l.counter < 2 ^ 32) :
    (l.handOut (.ofNat l.counter)).faults = l.faults := by
  rw [Ledger.handOut, if_neg (h.next_not_used hc), List.append_nil]

theorem take_eq (hid : id ∉ l.held.map (·.1)) : l.take id = l := by
  rw [take, if_neg hid, List.append_nil]

/-- Writing a block that the host does not hold. -/
theorem Lent.write (h : l.Lent) (hused : id ∈ l.used) (hid : id ∉ l.held.map (·.1))
    (status : BufferStatus) : (l.write id block status).Lent where
  few := by
    show (l.buffers.set id.toNat block).length < 2 ^ 32
    rw [List.length_set]
    exact h.few
  used_lt := h.used_lt
  intact := by
    intro p hp
    have hne : id.toNat ≠ p.1.toNat := by
      intro heq
      apply hid
      rw [UInt32.toNat_inj.mp heq]
      exact List.mem_map_of_mem hp
    refine ⟨(h.intact p hp).1, ?_⟩
    show (l.buffers.set id.toNat block)[p.1.toNat]? = some p.2
    rw [List.getElem?_set_ne hne]
    exact (h.intact p hp).2
  named := by
    intro area ha
    cases ha
    exact .inr hused
  free := by
    intro area ha _
    cases ha
    exact hid

/-- Lending the block that was just written. -/
theorem Lent.lend (h : l.Lent) (hused : id ∈ l.used) (hid : id ∉ l.held.map (·.1))
    (hlt : id.toNat < l.buffers.length) : (l.lend id block).Lent := by
  have hwrite : (l.write id block .haveData).Lent := h.write hused hid .haveData
  refine ⟨hwrite.few, h.used_lt, ?_, hwrite.named, ?_⟩
  · intro p hp
    rcases List.mem_cons.mp hp with rfl | hp
    · exact ⟨hused, List.getElem?_set_self hlt⟩
    · exact hwrite.intact p hp
  · intro area ha hoffers
    cases ha
    exact absurd (hoffers : false = true) Bool.false_ne_true

end Ledger

/-! ## Steps keep the ledger owned -/

section Steps

variable {s : Source δ} {c : Cycle δ}

theorem mem_of_validDataBlock {id : UInt32} {block : HostBlock}
    (h : s.validDataBlock id = some block) : id.toNat < s.buffers.length :=
  (List.getElem?_eq_some_iff.mp (Option.filter_eq_some_iff.mp h).1).1

theorem owned_cycleBlock {position : Position} {config : StreamConfig} {id : UInt32}
    {block : HostBlock} (h : s.ledger.Owned) (hused : id ∈ s.used) (hfree : id ∉ s.heldIds)
    (hlt : id.toNat < s.buffers.length) :
    (cycleBlock ops c position config id block s).ledger.Owned := by
  have hlent : s.ledger.Lent :=
    h.lent (List.ne_nil_of_length_pos (Nat.lt_of_le_of_lt (Nat.zero_le _) hlt))
  rcases ledger_cycleBlock ops c s position config id block with heq | ⟨b, heq⟩ | ⟨b, heq⟩
  · rw [heq]
    exact h
  · rw [heq]
    exact ⟨h.clean, fun _ => hlent.write hused hfree .ok⟩
  · rw [heq]
    exact ⟨h.clean, fun _ => hlent.lend hused hfree hlt⟩

/-- A step that the run may take: no swap of the device while ids of the set in place
are out, no counter beyond 32 bits, and no set of buffers over an area that names one. -/
def Orderly (s : Source δ) : Event δ → Prop
  | .process c =>
    s.ext.activeBuffers < 2 ^ 32 ∧
      (s.started = true ∧ c.position.isSome = true ∧ c.swaps s = true →
        s.buffers = [] ∨ s.ext.activeBuffers = 0)
  | .install .. => s.buffers = [] ∨ s.ext.activeBuffers = 0
  | .useBuffers blocks => blocks = [] ∨ ∀ area ∈ s.io, area.bufferId = noBuffer
  | _ => True

instance (s : Source δ) (e : Event δ) : Decidable (Orderly s e) := by
  cases e <;> unfold Orderly <;> infer_instance

/-- The id that a cycle takes was handed out, and the host does not hold it. -/
theorem owned_cycleBufferId {area : IoBuffers} (h : s.ledger.Owned) (hb : s.buffers ≠ [])
    (hc : s.ext.activeBuffers < 2 ^ 32) (hio : s.io = some area) (hoffers : area.offers = true) :
    (s.cycleBufferId area).2.ledger.Owned ∧
      (s.cycleBufferId area).1 ∈ (s.cycleBufferId area).2.used ∧
      (s.cycleBufferId area).1 ∉ (s.cycleBufferId area).2.heldIds := by
  have hlent := h.lent hb
  rcases ledger_cycleBufferId s area with ⟨-, hledger, hid⟩ | ⟨hsome, hledger, hid⟩
  · rw [hid] at hledger
    have hused : (s.cycleBufferId area).2.used = s.used ++ [.ofNat s.ledger.counter] :=
      congrArg Ledger.used hledger
    have hheld : (s.cycleBufferId area).2.held = s.held := congrArg Ledger.held hledger
    rw [hledger, hid, heldIds, hused, hheld]
    refine ⟨⟨(Ledger.handOut_faults hlent hc).trans h.clean, fun _ => hlent.handOut hc⟩, ?_,
      hlent.next_not_held hc⟩
    exact List.mem_append_right _ (List.mem_singleton_self _)
  · have hused : (s.cycleBufferId area).2.used = s.used := congrArg Ledger.used hledger
    have hheld : (s.cycleBufferId area).2.held = s.held := congrArg Ledger.held hledger
    rw [hledger, hid, heldIds, hused, hheld]
    exact ⟨h, (hlent.named area hio).resolve_left hsome, hlent.free area hio hoffers⟩

theorem owned_processPorts {position : Position} (h : s.ledger.Owned)
    (hc : s.ext.activeBuffers < 2 ^ 32)
    (hswap : c.swaps s = true → s.buffers = [] ∨ s.ext.activeBuffers = 0) :
    (processPorts ops c position s).ledger.Owned := by
  have hpoll := ledger_pollRebuild c s
  have howned : (s.pollRebuild c).2.ledger.Owned := by
    rw [hpoll]
    split
    · next hs => exact h.restart (hswap hs)
    · exact h
  have hcount : (s.pollRebuild c).2.ext.activeBuffers < 2 ^ 32 := by
    have hcounter := congrArg Ledger.counter hpoll
    split at hcounter
    · exact Nat.lt_of_le_of_lt (Nat.le_of_eq hcounter) (Nat.two_pow_pos 32)
    · exact Nat.lt_of_le_of_lt (Nat.le_of_eq hcounter) hc
  unfold processPorts
  dsimp only
  generalize s.pollRebuild c = polled at howned hcount
  split
  · exact howned
  split
  · next config area hconfig hio =>
    by_cases hb : polled.2.buffers = []
    · rw [if_pos hb]
      exact howned
    rw [if_neg hb]
    by_cases hclosed : ops.isClosed polled.2.dsp = true
    · rw [if_pos hclosed, ledger_queueRebuild]
      exact howned
    rw [if_neg hclosed]
    by_cases hstatus : area.status ≠ .ok ∧ area.status ≠ .needData
    · rw [if_pos hstatus]
      exact howned
    rw [if_neg hstatus]
    have hoffers : area.offers = true := by
      unfold IoBuffers.offers
      rw [Bool.or_eq_true, beq_iff_eq, beq_iff_eq]
      by_cases hok : area.status = .ok
      · exact .inl hok
      · exact .inr (Decidable.not_not.mp fun hne => hstatus ⟨hok, hne⟩)
    obtain ⟨hcycle, hused, hfree⟩ := owned_cycleBufferId howned hb hcount hio hoffers
    generalize polled.2.cycleBufferId area = taken at hcycle hused hfree
    split
    · exact hcycle
    · next block hblock =>
      have htake : (taken.2.takeBlock taken.1).ledger = taken.2.ledger.take taken.1 := rfl
      rw [Ledger.take_eq hfree] at htake
      refine owned_cycleBlock ops (htake ▸ hcycle) hused hfree ?_
      exact mem_of_validDataBlock hblock
  · exact howned

theorem owned_processDataCycle (h : s.ledger.Owned) (hc : s.ext.activeBuffers < 2 ^ 32)
    (hswap : s.started = true ∧ c.position.isSome = true ∧ c.swaps s = true →
      s.buffers = [] ∨ s.ext.activeBuffers = 0) :
    (processDataCycle ops c s).ledger.Owned := by
  unfold processDataCycle
  split
  · exact h
  next position hposition =>
  split
  · exact h
  · next hstarted =>
    rw [Bool.not_eq_false] at hstarted
    have hswap' : c.swaps s = true → s.buffers = [] ∨ s.ext.activeBuffers = 0 :=
      fun hs => hswap ⟨hstarted, by rw [hposition, Option.isSome_some], hs⟩
    dsimp only
    rw [ledger_queueRequiredRebuilds]
    have hqueue := ledger_queueRequiredRebuilds s (c.queueFlushed .beforePorts)
    have htakeover : (s.queueRequiredRebuilds (c.queueFlushed .beforePorts)).takeover =
        s.takeover := by
      unfold queueRequiredRebuilds queueRebuild
      split
      · split <;> rfl
      · rfl
    generalize s.queueRequiredRebuilds (c.queueFlushed .beforePorts) = t at hqueue htakeover
    have hcounter : t.ext.activeBuffers = s.ext.activeBuffers := congrArg Ledger.counter hqueue
    have hbuffers : t.buffers = s.buffers := congrArg Ledger.buffers hqueue
    refine owned_processPorts ops (hqueue ▸ h) (hcounter ▸ hc) ?_
    unfold Cycle.swaps at hswap' ⊢
    rw [htakeover, hbuffers, hcounter]
    exact hswap'

theorem owned_setHostIo {area : Option IoBuffers} (h : s.ledger.Owned)
    (hnames : ∀ a ∈ area, s.hostNames a) : (s.setHostIo area).ledger.Owned := by
  refine ⟨h.clean, fun hb => ?_⟩
  have hlent := h.lent hb
  have hsub : ∀ p ∈ (s.setHostIo area).held, p ∈ s.held := by
    intro p hp
    unfold setHostIo at hp
    cases area with
    | none => exact hp
    | some a =>
      dsimp only at hp
      split at hp
      · exact (List.mem_filter.mp hp).1
      · exact hp
  refine ⟨hlent.few, hlent.used_lt, fun p hp => hlent.intact p (hsub p hp), ?_, ?_⟩
  · rintro a rfl
    rcases hnames a rfl with hnone | hused | hcurrent
    · exact .inl hnone
    · exact .inr hused
    · obtain ⟨current, hio, hid⟩ := Option.map_eq_some_iff.mp hcurrent
      rw [← hid]
      exact hlent.named current hio
  · rintro a rfl hoffers hmem
    obtain ⟨p, hp, hid⟩ := List.mem_map.mp hmem
    change p ∈ (if a.offers then _ else _) at hp
    rw [if_pos hoffers, List.mem_filter, hid] at hp
    exact absurd hp.2 (by simp)

/-- A set of buffers replaces the one in place. -/
theorem owned_portUseBuffers {blocks : List HostBlock} (h : s.ledger.Owned)
    (hlen : blocks.length < 2 ^ 32)
    (hio : blocks = [] ∨ ∀ area ∈ s.io, area.bufferId = noBuffer) :
    (s.portUseBuffers blocks).ledger.Owned := by
  refine ⟨h.clean, fun hb => ?_⟩
  have hnone := hio.resolve_left hb
  refine ⟨hlen, fun id hid => absurd hid List.not_mem_nil,
    fun p hp => absurd hp List.not_mem_nil, fun area ha => .inl (hnone area ha),
    fun area _ _ => List.not_mem_nil⟩

/-- Without buffers there is nothing to lend. -/
theorem owned_of_no_buffers {l : Ledger} (hclean : l.faults = []) (hb : l.buffers = []) : l.Owned :=
  ⟨hclean, fun h => absurd hb h⟩

end Steps

theorem owned_inductive : Inductive (system ops) Orderly fun s => s.ledger.Owned where
  init := by
    rintro s ⟨placeholder, rfl⟩
    exact owned_of_no_buffers rfl rfl
  step := by
    intro s e s' h horderly hstep
    cases e with
    | process c =>
      cases hstep
      exact owned_processDataCycle ops h horderly.1 horderly.2
    | hostIo area =>
      simp only [system, step] at hstep
      split at hstep
      · next hnames =>
        cases hstep
        exact owned_setHostIo h hnames
      · cases hstep
    | useBuffers blocks =>
      simp only [system, step] at hstep
      split at hstep
      · next hlen =>
        cases hstep
        exact owned_portUseBuffers h hlen horderly
      · cases hstep
    | start =>
      cases hstep
      unfold startLoop
      split
      · exact h
      · exact h
    | suspend placeholder =>
      cases hstep
      exact owned_of_no_buffers h.clean rfl
    | releaseFormat placeholder =>
      cases hstep
      exact owned_of_no_buffers h.clean rfl
    | install dsp config quantumBytes =>
      cases hstep
      exact h.restart horderly
    | pause | takeTakeover | retireDevice _ | releaseTakeover =>
      cases hstep
      exact h

/-- **Buffers are owned.**  In every run whose steps are orderly, the source takes no
block that the host holds and hands out no id twice, and the blocks that the host holds
are as they were published. -/
theorem buffers_owned {s : Source δ} (h : Via (system ops) Orderly s) :
    s.faults = [] ∧ (s.buffers ≠ [] → ∀ lent ∈ s.held, s.buffers[lent.1.toNat]? = some lent.2) := by
  have howned : s.ledger.Owned := h.invariant (owned_inductive ops)
  refine ⟨howned.clean, fun hb lent hlent => ?_⟩
  exact ((howned.lent hb).intact lent hlent).2

/-! ## A rebuild restarts the counter -/

/-- A capture stream that delivers the byte 7. -/
def sevens : CaptureOperations Unit where
  isClosed _ := false
  isRunning _ := true
  queuedBytes _ := 4
  overruns s := (.resettingEvents 0, s)
  primeBuffer _ scratch s := ((⟨16, 4, 6, 8, 14, false⟩, ⟨scratch, rfl⟩), s)
  retuneBuffer _ _ s := (.unchanged, s)
  read len s := (⟨List.replicate len 7, len, .progress, by simp, by simp⟩, s)
  recoverOverrun _ _ s := (none, s)
  clearOverrunObservation s := s

/-- Mono bytes, four of them a cycle. -/
def monoBytes : StreamConfig := ⟨0x101, 48000, 1, [], 0, 1⟩

def zeroBlock : HostBlock := ⟨true, [0, 0, 0, 0], 0, 0, by decide⟩

/-- A realtime cycle of four frames. -/
def fourFrames (completion : Option (Completion Unit)) : Cycle Unit where
  position := some ⟨false, false, 0, 4, 48000, true⟩
  flushed := true
  queueFlushed _ := true
  completion
  wakeFill := none
  wakeXruns := none

theorem init_fresh : (system sevens).init (fresh ()) := ⟨(), rfl⟩

/-- The host holds the buffer 0 with four device bytes, and asks for another. -/
def holdsFirst : List (Event Unit) :=
  [.install () (some monoBytes) 4, .useBuffers [zeroBlock, zeroBlock],
    .hostIo (some ⟨.needData, noBuffer⟩), .start, .process (fourFrames none),
    .hostIo (some ⟨.needData, 0⟩), .process (fourFrames none),
    .hostIo (some ⟨.needData, noBuffer⟩)]

/-- After these steps, in order, the source has touched nothing that the host holds. -/
theorem buffers_owned_held :
    ∃ s, Via (system sevens) Orderly s ∧ s.heldIds = [0] ∧ s.faults = [] ∧
      (s.buffers ≠ [] → ∀ lent ∈ s.held, s.buffers[lent.1.toNat]? = some lent.2) := by
  obtain ⟨s, hrun, hheld⟩ : ∃ s, (system sevens).runTested (fun s e => decide (Orderly s e))
      (fresh ()) holdsFirst = some s ∧ s.heldIds = [0] := by
    refine ⟨_, rfl, ?_⟩
    decide +kernel
  have hvia : Via (system sevens) Orderly s :=
    (via_of_runTested holdsFirst (.init init_fresh) hrun).mono fun s e he => of_decide_eq_true he
  exact ⟨s, hvia, hheld, buffers_owned sevens hvia⟩

/-- A background rebuild installs a device, and the same cycle writes silence into the
buffer 0, which the host holds. -/
theorem buffer_overwritten :
    ∃ s, Reachable (system sevens) s ∧ s.faults = [.handedOutAgain 0, .tookHeld 0] ∧
      ∃ lent ∈ s.held, s.buffers[lent.1.toNat]? ≠ some lent.2 := by
  obtain ⟨s, hrun, hfaults, hlost⟩ : ∃ s, (system sevens).run (fresh ())
      (holdsFirst ++ [.process (fourFrames (some (.installed () monoBytes 4)))]) = some s ∧
      s.faults = [.handedOutAgain 0, .tookHeld 0] ∧
      ∃ lent ∈ s.held, s.buffers[lent.1.toNat]? ≠ some lent.2 := by
    refine ⟨_, rfl, ?_, ?_⟩
    · decide +kernel
    · decide +kernel
  exact ⟨s, via_of_run _ (.init init_fresh) (fun _ _ _ => trivial) hrun, hfaults, hlost⟩

end PwOss.Node.Source
