import PwOss.Node.Rebuild.Slots

/-
  Rebuild bookkeeping: the port's pending flag against the orders and
  completions in flight.

  A `Claim` is an order or a completion, seen through the generation it carries.
  The abstract `Ledger` says what the flag stands for: while it is set (or an
  order is about to be submitted) there is exactly one claim, it is current, and
  the port has a config; otherwise there is none. `Sys.Bookkeeping` ties the
  ledger to the node outside takeovers and says what a takeover has already
  emptied at each of its stages; `bookkeeping` proves it for every reachable
  state. Everything else in this module is the accounting of one step.
-/

namespace PwOss.Node

open PwOss.Backend PwOss.Sys PwOss.Transition

/-! ## The abstract ledger -/

/-- An order or a completion: the generation it carries, the generation count at
which the order was queued, and whether it is only on its way to be closed. -/
structure Claim where
  generation : UInt64
  queuedAt : Nat
  retired : Bool
  deriving DecidableEq

/-- What `rebuild_pending` stands for. -/
structure Ledger (claim : Claim) (pending alive configured : Bool) (claims : List Claim) :
    Prop where
  current : ∀ c ∈ claims, c = claim
  atMost : claims.length ≤ pending.toNat
  atLeast : alive = true → pending = true → claims ≠ []
  config : claims ≠ [] → configured = true

namespace Ledger
variable {c : Claim} {pending alive configured : Bool} {l l' : List Claim}

theorem empty : Ledger c false alive configured [] :=
  ⟨by simp, by simp, by simp, by simp⟩

theorem eq_nil (h : Ledger c false alive configured l) : l = [] :=
  List.eq_nil_of_length_eq_zero (by simpa using h.atMost)

/-- The claims may change places. -/
theorem perm (h : Ledger c pending alive configured l) (hp : l'.Perm l) :
    Ledger c pending alive configured l' where
  current := fun d hd => h.current d (hp.mem_iff.mp hd)
  atMost := by rw [hp.length_eq]; exact h.atMost
  atLeast := fun ha hpend hnil => h.atLeast ha hpend (by simpa [hnil] using hp.symm)
  config := fun hne => h.config (fun hnil => hne (by simpa [hnil] using hp))

/-- A configured port without a claim may queue one. -/
theorem order (h : Ledger c false alive true l) : Ledger c true alive true (c :: l) := by
  rw [h.eq_nil]
  exact ⟨by simp, by simp, by simp, by simp⟩

/-- The only claim is consumed. -/
theorem consume {d e : Claim} {configured' : Bool}
    (h : Ledger c pending alive configured (d :: l)) : Ledger e false alive configured' l := by
  have hl : l = [] := by
    have := h.atMost
    cases pending <;> simp at this
    exact this
  rw [hl]
  exact empty

/-- A dead node may lose claims. -/
theorem forget (h : Ledger c pending alive configured l) (ha : alive = false)
    (hsub : l'.Sublist l) : Ledger c pending alive configured l' where
  current := fun d hd => h.current d (hsub.mem hd)
  atMost := Nat.le_trans hsub.length_le h.atMost
  atLeast := by simp [ha]
  config := fun hne => h.config (fun hnil => hne (by simpa [hnil] using hsub))

/-- Two claims are one too many. -/
theorem not_two (h : Ledger c pending alive configured l) (hlen : 2 ≤ l.length) : False := by
  have h2 := h.atMost
  have h3 : pending.toNat ≤ 1 := Bool.toNat_le pending
  omega

/-- On a live node the flag says that there is exactly one current claim. -/
theorem pending_iff (h : Ledger c pending true configured l) :
    pending = true ↔ (l.map Claim.generation).count c.generation = 1 := by
  constructor
  · intro hp
    have hlen := h.atMost
    rw [hp] at hlen
    obtain ⟨d, rfl⟩ : ∃ d, l = [d] := by
      cases l with
      | nil => exact absurd rfl (h.atLeast rfl hp)
      | cons d l =>
        have hl : l = [] := List.eq_nil_of_length_eq_zero (by
          simp only [List.length_cons, Bool.toNat_true] at hlen
          omega)
        exact ⟨d, by rw [hl]⟩
    rw [h.current d (by simp)]
    simp
  · intro hcount
    cases hp : pending with
    | true => rfl
    | false =>
      rw [hp] at h
      rw [h.eq_nil] at hcount
      simp at hcount

end Ledger

/-! ## The claims of a node -/

def RebuildRequest.claim (r : RebuildRequest) : Claim := ⟨r.generation, r.queuedAt, false⟩

def DeviceSwap.claim (swap : DeviceSwap) : Claim := ⟨swap.generation, swap.queuedAt, false⟩

def RebuildWork.claims : RebuildWork → List Claim
  | .rebuild request => [request.claim]
  | .retireDevice _ => []
  | .retireSwap swap => [⟨swap.generation, swap.queuedAt, true⟩]

@[simp] theorem OpenRequest.complete_claim (o : OpenRequest) (dsp : Device) (res : OpenResult) :
    (o.complete dsp res).claim = o.request.claim := by
  cases res with
  | opened config adjusted => rfl
  | failed err =>
    simp only [OpenRequest.complete]
    split <;> rfl

/-- The claims of a cell that may be empty. -/
def RebuildWork.optionClaims : Option RebuildWork → List Claim
  | none => []
  | some work => work.claims

def DeviceSwap.optionClaims : Option DeviceSwap → List Claim
  | none => []
  | some swap => [swap.claim]

/-- The claims in the worker's running command. -/
def WorkerPc.claims : WorkerPc → List Claim
  | .taken work | .command work | .dropWork work => work.claims
  | .task request | .retireFirst request => [request.claim]
  | .check _ o _ | .opening o => [o.request.claim]
  | .deposit swap | .depositBusy swap => [swap.claim]
  | _ => []

/-- The claims the data loop holds between two of its operations. -/
def DataPc.claims : DataPc → List Claim
  | .claim work _ | .publish work _ => work.claims
  | .apply swap => [swap.claim]
  | _ => []

/-- The data loop submits an order whose pending flag it sets afterwards. -/
def DataPc.queuing : DataPc → Bool
  | .claim _ (.queued _) | .publish _ (.queued _) => true
  | _ => false

namespace Sys

/-- The claims among the deferred cell, the work slot, the worker's running
command and the completion mailbox. -/
def inFlight (s : Sys) : List Claim :=
  RebuildWork.optionClaims s.deferred ++ (RebuildWork.optionClaims s.workValue ++
    (s.worker.claims ++ DeviceSwap.optionClaims s.slot))

/-- The claim of an order queued now. -/
def claim (s : Sys) : Claim := ⟨s.port.generation, s.bumps, false⟩

/-- The node's ledger when the data loop holds `hand`. -/
def Ledger (s : Sys) (hand : List Claim) (queuing : Bool) : Prop :=
  Node.Ledger s.claim (s.port.rebuildPending || queuing) s.alive s.port.config.isSome
    (hand ++ s.inFlight)

end Sys

/-! ## Program counter classes -/

/-- Counters at which the data loop neither holds a value nor is about to look at
the cells. -/
def DataPc.settled : DataPc → Bool
  | .idle | .ports | .stampLoss | .portIo _ | .portQueued | .notify _ => true
  | _ => false

/-- Counters behind a flush of the deferred cell. -/
def DataPc.flushed : DataPc → Bool
  | .claim .. | .publish .. | .swapReady | .takeSwap | .takeBusy | .apply _ => true
  | _ => false

def AfterSubmit.unclaimed : AfterSubmit → Bool
  | .flushQueue _ | .queued _ | .polled false | .failed => true
  | _ => false

/-- Counters at which the port has no pending rebuild. -/
def DataPc.unclaimed : DataPc → Bool
  | .claim _ next | .publish _ next => next.unclaimed
  | .portIo false => true
  | _ => false

@[simp] theorem DataPc.queuing_publish (work : RebuildWork) (next : AfterSubmit) :
    (DataPc.publish work next).queuing = (DataPc.claim work next).queuing := by
  cases next <;> rfl

@[simp] theorem DataPc.unclaimed_portIo (skip : Bool) :
    (DataPc.portIo skip).unclaimed = !skip := by
  cases skip <;> rfl

/-- The worker neither runs nor takes a command. -/
def WorkerPc.free : WorkerPc → Bool
  | .idle | .locked | .checkClosed | .exited => true
  | _ => false

/-- The main loop holds the rebuild lease. -/
def MainPc.leased : MainPc → Bool
  | .drop _ next | .discard next | .discardBusy next | .waitIdle next _ => next.leased
  | .opening .. | .retireQuery .. | .swapQuery .. | .releaseTakeover .. => true
  | _ => false

/-- The main loop has waited for the worker under its lease. -/
def MainPc.waited : MainPc → Bool
  | .drop _ next | .discard next | .discardBusy next => next.waited
  | .opening .. | .retireQuery .. | .swapQuery .. | .releaseTakeover .. => true
  | _ => false

/-- The main loop has drained the mailbox behind that wait. -/
def MainPc.drained : MainPc → Bool
  | .drop _ next => next.drained
  | .opening .. | .retireQuery .. | .swapQuery .. | .releaseTakeover .. => true
  | _ => false

/-- The mailbox is only emptied under the lease or by `clear`, waits come before
the drain that follows them, and a release on an error path reports the error. -/
def MainPc.guarded : MainPc → Bool
  | .drop _ next => next.guarded
  | .discard next | .discardBusy next => (next.leased || next.closed) && next.guarded
  | .waitIdle next stopped =>
    !next.drained && next.guarded && stopped.guarded
  | .releaseTakeover _ strict res => strict || res != 0
  | _ => true

theorem MainPc.waited_of_drained {pc : MainPc} (h : pc.drained = true) : pc.waited = true := by
  induction pc <;> simp_all [drained, waited]

theorem MainPc.leased_of_waited {pc : MainPc} (h : pc.waited = true) : pc.leased = true := by
  induction pc <;> simp_all [leased, waited]

@[simp] theorem Install.done_leased (i : Install) (c : StreamConfig) (res : Int) :
    (i.done c res).leased = false ∧ (i.done c res).waited = false ∧
      (i.done c res).drained = false ∧ (i.done c res).guarded = true := by
  cases i <;> simp only [Install.done] <;> (try split) <;> exact ⟨rfl, rfl, rfl, rfl⟩

@[simp] theorem Call.released_leased (c : Call) (res : Int) :
    (c.released res).leased = false ∧ (c.released res).waited = false ∧
      (c.released res).drained = false ∧ (c.released res).guarded = true := by
  cases c <;> simp only [Call.released] <;> (try split) <;> exact ⟨rfl, rfl, rfl, rfl⟩

@[simp] theorem Call.enter_leased (c : Call) :
    c.enter.leased = false ∧ c.enter.waited = false ∧ c.enter.drained = false ∧
      c.enter.guarded = true := by
  cases c <;> exact ⟨rfl, rfl, rfl, rfl⟩

/-! ## The invariant -/

/-- The bookkeeping while the data loop holds `hand`. -/
structure Sys.Held (s : Sys) (hand : List Claim) (queuing : Bool) : Prop where
  ledger : s.takeover = false → s.Ledger hand queuing
  deferred : s.takeover = true → s.deferred = none
  leased : s.main.leased = true → s.takeover = true
  waited : s.main.waited = true → s.worker.free = true ∧ s.workState = .empty
  drained : s.main.drained = true → s.slot = none
  guarded : s.main.guarded = true

structure Sys.Bookkeeping (s : Sys) : Prop where
  held : s.Held s.data.claims s.data.queuing
  settled : s.takeover = true → s.data.settled = true
  flushed : s.data.flushed = true → s.deferred = none
  unclaimed : s.data.unclaimed = true → s.port.rebuildPending = false

/-- A command the worker destroys carries no claim of a live node. -/
structure Sys.Dropped (s : Sys) : Prop where
  claims : ∀ work, s.worker = .dropWork work → s.takeover = false → s.alive = true →
    work.claims = []

namespace Sys.Held
variable {s : Sys} {site : QueueSite} {r : Reading} {hand : List Claim} {queuing : Bool}

/-- The data loop moves on without touching the claims. -/
theorem local_work (h : s.Held hand queuing) {data : DataPc} {event : Option FormatLost} :
    { s with data, pendingMainEvent := event }.Held hand queuing :=
  ⟨h.ledger, h.deferred, h.leased, h.waited, h.drained, h.guarded⟩

theorem settle (h : s.Held [] false) {data : DataPc} {event : Option FormatLost}
    (hc : data.claims = []) (hq : data.queuing = false) (hset : data.settled = true)
    (hf : data.flushed = false) (hu : data.unclaimed = true → s.port.rebuildPending = false) :
    { s with data, pendingMainEvent := event }.Bookkeeping where
  held := by
    show Held _ data.claims data.queuing
    rw [hc, hq]
    exact h.local_work
  settled := fun _ => hset
  flushed := fun hd => by simp [hf] at hd
  unclaimed := hu

/-- The data loop goes on at the mailbox: nothing is deferred there. -/
theorem atMailbox (h : s.Held [] false) (ht : s.takeover = false) (hnone : s.deferred = none)
    {data : DataPc} {slotState : SlotState} (hc : data.claims = []) (hq : data.queuing = false)
    (hu : data.unclaimed = false) : { s with data, slotState }.Bookkeeping where
  held := by
    show Held _ data.claims data.queuing
    rw [hc, hq]
    exact ⟨h.ledger, h.deferred, h.leased, h.waited, h.drained, h.guarded⟩
  settled := by simp [ht]
  flushed := fun _ => hnone
  unclaimed := fun hd => by simp [hu] at hd

theorem resume (h : s.Held [] false) : (s.resume site).Bookkeeping :=
  resume_rule (h.settle rfl rfl rfl rfl nofun) (h.settle rfl rfl rfl rfl nofun)
    (h.settle rfl rfl rfl rfl nofun) (fun _ _ => h.settle rfl rfl rfl rfl nofun)

theorem order (h : s.Held [] false) (ht : s.takeover = false) (hd : s.deferred = none)
    (hp : s.port.rebuildPending = false) {config : StreamConfig}
    (hc : s.port.config = some config) :
    { s with data := .claim (s.order config) (.queued site) }.Bookkeeping where
  held :=
    { ledger := fun _ => by
        have hl := h.ledger ht
        simp only [Sys.Ledger, hp, hc, Option.isSome_some, Bool.or_false] at hl
        simp only [Sys.Ledger, hp, hc, Option.isSome_some]
        exact hl.order
      deferred := h.deferred
      leased := h.leased
      waited := h.waited
      drained := h.drained
      guarded := h.guarded }
  settled := by simp [ht]
  flushed := fun _ => hd
  unclaimed := fun _ => hp

theorem queuePortRebuild (h : s.Held [] false) (ht : s.takeover = false)
    (hd : s.deferred = none) (hp : s.port.rebuildPending = false) :
    (s.queuePortRebuild site).Bookkeeping :=
  queuePortRebuild_rule h.resume (fun _ hc => h.order ht hd hp hc)

/-- The deferred command moves into the data loop's hand. -/
theorem flush (h : s.Held [] false) (ht : s.takeover = false) {work : RebuildWork}
    (hd : s.deferred = some work) {next : AfterSubmit}
    (hq : (DataPc.claim work next).queuing = false)
    (hu : next.unclaimed = true → s.port.rebuildPending = false) :
    { s with deferred := none, data := .claim work next }.Bookkeeping where
  held :=
    { ledger := fun _ => by
        have hl := h.ledger ht
        simp only [Sys.Ledger, Sys.inFlight, hd] at hl
        simp only [Sys.Ledger, Sys.inFlight, hq]
        exact hl
      deferred := fun _ => rfl
      leased := h.leased
      waited := h.waited
      drained := h.drained
      guarded := h.guarded }
  settled := by simp [ht]
  flushed := fun _ => rfl
  unclaimed := hu

theorem queueRebuild (h : s.Held [] false) (hp : s.port.rebuildPending = false) :
    (s.queueRebuild site).Bookkeeping :=
  queueRebuild_rule h.resume (fun _ ht hd hc => h.order ht hd hp hc)
    (fun _ ht hd => h.flush ht hd rfl (fun _ => hp))

theorem queueRequiredRebuilds (h : s.Held [] false) :
    (s.queueRequiredRebuilds site).Bookkeeping :=
  queueRequiredRebuilds_rule h.resume (fun hp => h.queueRebuild hp)

theorem finishPorts (h : s.Held [] false) : (s.finishPorts r).Bookkeeping := by
  have hport : { s with port := s.port.cycle r }.Held [] false :=
    ⟨h.ledger, h.deferred, h.leased, h.waited, h.drained, h.guarded⟩
  exact hport.queueRequiredRebuilds

theorem pollRebuild (h : s.Held [] false) : s.pollRebuild.Bookkeeping :=
  pollRebuild_rule (fun _ => h.settle rfl rfl rfl rfl nofun)
    (fun ht hd =>
      { held := ⟨h.ledger, h.deferred, h.leased, h.waited, h.drained, h.guarded⟩
        settled := by simp [ht]
        flushed := fun _ => hd
        unclaimed := nofun })
    (fun _ ht hd => h.flush ht hd rfl nofun)

end Sys.Held

namespace Sys.Bookkeeping
variable {s s' : Sys} {r : Reading}

/-- Outside its settled counters the data loop runs without a takeover. -/
theorem no_takeover (hb : s.Bookkeeping) (h : s.data.settled = false) : s.takeover = false := by
  cases ht : s.takeover
  · rfl
  · rw [hb.settled ht] at h
    cases h

/-- A submission given back is retained in the deferred cell. -/
theorem returned (hb : s.Bookkeeping) {work : RebuildWork} {next : AfterSubmit}
    (hd : s.data = .claim work next) : (s.returned work next).Bookkeeping := by
  have hnone := hb.flushed (by rw [hd]; rfl)
  have ht := hb.no_takeover (by rw [hd]; rfl)
  have hun := hb.unclaimed
  have hh := hb.held
  rw [hd] at hun hh
  have hl := hh.ledger ht
  -- the command sits in the deferred cell now, which was free
  simp only [Sys.Ledger, Sys.inFlight, hnone] at hl
  have hmove : (DataPc.claim work next).queuing = false →
      { s with deferred := some work }.Held [] false := fun hq =>
    ⟨fun _ => by rw [hq] at hl; exact hl, by simp [ht], hh.leased, hh.waited, hh.drained,
      hh.guarded⟩
  cases next with
  | flushQueue site => exact (hmove rfl).resume
  | flushPoll => exact (hmove rfl).settle rfl rfl rfl rfl nofun
  | queued site =>
    have hqueued : { s with deferred := some work, port := { s.port with
        rebuildPending := true } }.Held [] false :=
      ⟨fun _ => by rw [show s.port.rebuildPending = false from hun rfl] at hl; exact hl,
        by simp [ht], hh.leased, hh.waited, hh.drained, hh.guarded⟩
    exact hqueued.resume
  | polled skip =>
    cases skip with
    | false => exact (hmove rfl).settle rfl rfl rfl rfl (fun _ => hun rfl)
    | true => exact (hmove rfl).settle rfl rfl rfl rfl nofun
  | failed => exact (hmove rfl).settle rfl rfl rfl rfl nofun

/-- A published submission sits in the work slot. -/
theorem submitted (hs : s.Slots) (hb : s.Bookkeeping) {work : RebuildWork} {next : AfterSubmit}
    (hd : s.data = .publish work next) :
    ({ s with workValue := some work, workState := .full }.submitted next).Bookkeeping := by
  have hnone := hb.flushed (by rw [hd]; rfl)
  have hfree := hs.work.publishing (by rw [hd]; rfl)
  have ht := hb.no_takeover (by rw [hd]; rfl)
  have hun := hb.unclaimed
  have hh := hb.held
  rw [hd] at hun hh
  have hl := hh.ledger ht
  have hwaited : s.main.waited = false := by
    cases hw : s.main.waited
    · rfl
    · have := hh.leased (MainPc.leased_of_waited hw)
      simp [ht] at this
  -- the command moves from the hand into the slot, which was free
  simp only [Sys.Ledger, Sys.inFlight, hnone, hfree, DataPc.claims, RebuildWork.optionClaims,
    List.nil_append] at hl
  have hmove : (DataPc.publish work next).queuing = false →
      { s with workValue := some work, workState := .full }.Held [] false := fun hq =>
    { ledger := fun _ => by
        rw [hq] at hl
        simp only [Sys.Ledger, Sys.inFlight, hnone, RebuildWork.optionClaims, List.nil_append]
        exact hl
      deferred := by simp [ht]
      leased := hh.leased
      waited := by simp [hwaited]
      drained := hh.drained
      guarded := hh.guarded }
  cases next with
  | flushQueue site => exact (hmove rfl).queuePortRebuild ht hnone (hun rfl)
  | flushPoll =>
    exact
      { held :=
          ⟨(hmove rfl).ledger, (hmove rfl).deferred, hh.leased, (hmove rfl).waited, hh.drained,
            hh.guarded⟩
        settled := by simp [Sys.submitted, ht]
        flushed := fun _ => hnone
        unclaimed := nofun }
  | queued site =>
    have hqueued : { s with workValue := some work, workState := .full, port := { s.port with
        rebuildPending := true } }.Held [] false :=
      { ledger := fun _ => by
          rw [show s.port.rebuildPending = false from hun rfl] at hl
          simp only [Sys.Ledger, Sys.inFlight, hnone, RebuildWork.optionClaims, List.nil_append]
          exact hl
        deferred := by simp [ht]
        leased := hh.leased
        waited := by simp [hwaited]
        drained := hh.drained
        guarded := hh.guarded }
    exact hqueued.resume
  | polled skip =>
    cases skip with
    | false => exact (hmove rfl).settle rfl rfl rfl rfl (fun _ => hun rfl)
    | true => exact (hmove rfl).settle rfl rfl rfl rfl nofun
  | failed => exact (hmove rfl).settle rfl rfl rfl rfl nofun

/-- The completion in the data loop's hand answers the current order. -/
theorem apply_current (hb : s.Bookkeeping) {swap : DeviceSwap} (hd : s.data = .apply swap) :
    swap.claim = s.claim ∧ s.inFlight = [] ∧ s.port.rebuildPending = true := by
  have ht := hb.no_takeover (by rw [hd]; rfl)
  have hl := hb.held.ledger ht
  simp only [hd, DataPc.claims, DataPc.queuing, Sys.Ledger, Bool.or_false] at hl
  have hlen := hl.atMost
  simp only [List.cons_append, List.nil_append, List.length_cons] at hlen
  have hp : s.port.rebuildPending = true := by
    cases hp : s.port.rebuildPending
    · simp [hp] at hlen
    · rfl
  refine ⟨hl.current _ (by simp), ?_, hp⟩
  rw [hp, Bool.toNat_true] at hlen
  exact List.eq_nil_of_length_eq_zero (by omega)

/-- The polled completion is consumed, or its retry takes the claim over. -/
theorem pollRebuildCompletion (hb : s.Bookkeeping) {swap : DeviceSwap}
    (hd : s.data = .apply swap) : (s.pollRebuildCompletion swap).Bookkeeping := by
  obtain ⟨hcur, hnil, hp⟩ := hb.apply_current hd
  have hnone := hb.flushed (by rw [hd]; rfl)
  have ht := hb.no_takeover (by rw [hd]; rfl)
  have hh := hb.held
  have hl := hh.ledger ht
  have hgen : swap.generation = s.port.generation := congrArg Claim.generation hcur
  have hqueued : swap.queuedAt = s.bumps := congrArg Claim.queuedAt hcur
  have hans := swap.answers
  simp only [hd, DataPc.claims, Sys.Ledger, hp] at hl
  -- the completion is consumed, and the port's former device goes to the worker
  have hconsumed (dsp : Device) (config : Option StreamConfig) {next : AfterSubmit}
      (hnext : (DataPc.claim (.retireDevice s.port.dsp) next).queuing = false) :
      { s with
        port := { s.port with dsp, config, rebuildPending := false, rebuildRequired := false }
        data := .claim (.retireDevice s.port.dsp) next }.bump.Bookkeeping :=
    { held := by
        show Held _ _ (DataPc.claim (.retireDevice s.port.dsp) next).queuing
        rw [hnext]
        exact ⟨fun _ => hl.consume, fun _ => hnone, hh.leased, hh.waited, hh.drained, hh.guarded⟩
      settled := by simp [bump, ht]
      flushed := fun _ => hnone
      unclaimed := fun _ => rfl }
  simp only [Sys.pollRebuildCompletion, hgen, ne_eq, not_true_eq_false, if_false]
  cases ho : swap.outcome with
  | installed dsp config => exact hconsumed dsp (some config) rfl
  | aborted =>
    have hheld : { s with port := { s.port with rebuildPending := false } }.Held [] false :=
      ⟨fun _ => hl.consume, hh.deferred, hh.leased, hh.waited, hh.drained, hh.guarded⟩
    exact hheld.settle rfl rfl rfl rfl fun hpend => by cases hpend
  | retireAndRetry request placeholder =>
    rw [ho] at hans
    obtain ⟨hrgen, hrq, -⟩ := hans
    have hclaim : request.claim = swap.claim := by
      simp only [RebuildRequest.claim, DeviceSwap.claim, hrgen, hrq]
    exact
      { held :=
          { ledger := fun _ => by
              rw [← hclaim] at hl
              simp only [Sys.Ledger, hp]
              exact hl
            deferred := fun _ => hnone
            leased := hh.leased
            waited := hh.waited
            drained := hh.drained
            guarded := hh.guarded }
        settled := by simp [ht]
        flushed := fun _ => hnone
        unclaimed := fun hpend => by cases hpend }
  | failed placeholder => exact hconsumed placeholder none rfl

theorem data (hs : s.Slots) (hb : s.Bookkeeping) (h : dataStep r s = some s') :
    s'.Bookkeeping := by
  have hh := hb.held
  have hun := hb.unclaimed
  unfold dataStep at h
  cases hd : s.data <;> simp only [hd] at h hh hun
  case idle => cases h
  case claim work next =>
    cases h
    split
    · next he =>
      have ht := hb.no_takeover (by rw [hd]; rfl)
      exact
        { held :=
            { ledger := by
                show _ → Sys.Ledger _ _ (DataPc.publish work next).queuing
                rw [DataPc.queuing_publish]
                exact hh.ledger
              deferred := hh.deferred
              leased := hh.leased
              waited := fun hw => by
                have := hh.leased (MainPc.leased_of_waited hw)
                simp [ht] at this
              drained := hh.drained
              guarded := hh.guarded }
          settled := by simp [ht]
          flushed := fun _ => hb.flushed (by rw [hd]; rfl)
          unclaimed := hun }
    · exact hb.returned hd
  case publish work next =>
    cases h
    exact hb.submitted hs hd
  case ports =>
    cases h
    split
    · exact hh.finishPorts
    · exact hh.pollRebuild
  case swapReady =>
    have ht := hb.no_takeover (by rw [hd]; rfl)
    have hnone := hb.flushed (by rw [hd]; rfl)
    cases h
    split
    · exact hh.atMailbox ht hnone rfl rfl rfl
    · exact hh.settle rfl rfl rfl rfl (by simp)
  case takeSwap =>
    have ht := hb.no_takeover (by rw [hd]; rfl)
    have hnone := hb.flushed (by rw [hd]; rfl)
    cases h
    split
    · exact hh.atMailbox ht hnone rfl rfl rfl
    · exact hh.settle rfl rfl rfl rfl (by simp)
  case takeBusy =>
    have ht := hb.no_takeover (by rw [hd]; rfl)
    have hnone := hb.flushed (by rw [hd]; rfl)
    have hsome := hs.mailbox.taking (by rw [hd]; rfl)
    split at h
    · next swap hslot =>
      cases h
      have hl := hh.ledger ht
      -- the completion moves from the mailbox into the hand
      have hperm : (swap.claim :: (RebuildWork.optionClaims s.deferred ++
          (RebuildWork.optionClaims s.workValue ++ (s.worker.claims ++ [])))).Perm
          ([] ++ s.inFlight) := by
        simp only [Sys.inFlight, hslot, DeviceSwap.optionClaims, List.append_nil, List.nil_append,
          ← List.append_assoc]
        exact (List.perm_append_singleton _ _).symm
      exact
        { held :=
            ⟨fun _ => hl.perm hperm, hh.deferred, hh.leased, hh.waited, fun _ => rfl, hh.guarded⟩
          settled := by simp [ht]
          flushed := fun _ => hnone
          unclaimed := nofun }
    · next hslot => simp [hslot] at hsome
  case apply swap =>
    cases h
    exact hb.pollRebuildCompletion hd
  case stampLoss =>
    cases h
    exact hh.settle rfl rfl rfl rfl nofun
  case portIo skip =>
    cases h
    split
    · next hask =>
      simp only [Bool.and_eq_true, Bool.not_eq_true'] at hask
      rw [hask.1] at hun
      exact hh.queueRebuild (hun rfl)
    · exact hh.finishPorts
  case portQueued =>
    cases h
    exact hh.finishPorts
  case notify event =>
    cases h
    exact
      { held := ⟨hh.ledger, hh.deferred, hh.leased, hh.waited, hh.drained, hh.guarded⟩
        settled := fun _ => rfl
        flushed := nofun
        unclaimed := nofun }

/-- The worker moves on with the claims it has. -/
theorem of_worker (hb : s.Bookkeeping) {worker : WorkerPc} {active : Bool}
    {slotState : SlotState} {openFds : List Nat} {nextFd : Nat}
    (hc : worker.claims = s.worker.claims) (hf : s.worker.free = true → worker.free = true) :
    { s with worker, active, slotState, openFds, nextFd }.Bookkeeping where
  held :=
    { ledger := fun ht => by
        have hl := hb.held.ledger ht
        simp only [Sys.Ledger, Sys.inFlight] at hl
        simp only [Sys.Ledger, Sys.inFlight, hc]
        exact hl
      deferred := hb.held.deferred
      leased := hb.held.leased
      waited := fun hw => ⟨hf (hb.held.waited hw).1, (hb.held.waited hw).2⟩
      drained := hb.held.drained
      guarded := hb.held.guarded }
  settled := hb.settled
  flushed := hb.flushed
  unclaimed := hb.unclaimed

/-- A worker with a command runs before any wait for it has returned. -/
theorem not_waited (hb : s.Bookkeeping) (h : s.worker.free = false) : s.main.waited = false := by
  cases hw : s.main.waited
  · rfl
  · simp [(hb.held.waited hw).1] at h

theorem not_drained (hb : s.Bookkeeping) (h : s.worker.free = false) :
    s.main.drained = false := by
  cases hd : s.main.drained
  · rfl
  · have := hb.not_waited h
    simp [MainPc.waited_of_drained hd] at this

/-- `take` moves the command out of the work slot. -/
theorem worker_take (hb : s.Bookkeeping) {work : RebuildWork} (hw : s.worker = .taking)
    (hv : s.workValue = some work) :
    { s with workValue := none, workState := .empty, worker := .taken work }.Bookkeeping where
  held :=
    { ledger := fun ht => by
        have hl := hb.held.ledger ht
        simp only [Sys.Ledger, Sys.inFlight, hw, hv] at hl
        simp only [Sys.Ledger, Sys.inFlight]
        exact hl
      deferred := hb.held.deferred
      leased := hb.held.leased
      waited := fun h => by
        have := hb.not_waited (by rw [hw]; rfl)
        simp [this] at h
      drained := hb.held.drained
      guarded := hb.held.guarded }
  settled := hb.settled
  flushed := hb.flushed
  unclaimed := hb.unclaimed

/-- The deposit moves the completion into the mailbox; a predecessor it replaces
only exists under a takeover. -/
theorem worker_deposit (hb : s.Bookkeeping) {swap : DeviceSwap}
    (hw : s.worker = .depositBusy swap) {worker : WorkerPc}
    (hc : worker.claims = [] ∨ s.slot ≠ none) :
    { s with slot := some swap, slotState := .full, worker }.Bookkeeping where
  held :=
    { ledger := fun ht => by
        have hl := hb.held.ledger ht
        cases hslot : s.slot with
        | none =>
          have hnil : worker.claims = [] := hc.resolve_right (by simp [hslot])
          simp only [Sys.Ledger, Sys.inFlight, hw, hslot] at hl
          simp only [Sys.Ledger, Sys.inFlight, hnil]
          exact hl
        | some prev =>
          simp only [Sys.Ledger, Sys.inFlight, hw, hslot, WorkerPc.claims,
            DeviceSwap.optionClaims] at hl
          refine (hl.not_two ?_).elim
          simp only [List.length_append, List.length_cons, List.length_nil]
          omega
      deferred := hb.held.deferred
      leased := hb.held.leased
      waited := fun h => by
        have := hb.not_waited (by rw [hw]; rfl)
        simp [this] at h
      drained := fun h => by
        have := hb.not_drained (by rw [hw]; rfl)
        simp [this] at h
      guarded := hb.held.guarded }
  settled := hb.settled
  flushed := hb.flushed
  unclaimed := hb.unclaimed

/-- Destroying a command loses its claims, which a live node does not miss. -/
theorem worker_drop (hb : s.Bookkeeping) (hdrop : s.Dropped) {work : RebuildWork}
    (hw : s.worker = .dropWork work) :
    { s.closeFds work.fds with worker := .finish }.Bookkeeping where
  held :=
    { ledger := fun ht => by
        have hl := hb.held.ledger ht
        simp only [Sys.Ledger, Sys.inFlight, hw, WorkerPc.claims] at hl
        simp only [Sys.Ledger, Sys.inFlight, WorkerPc.claims]
        cases ha : s.alive with
        | true =>
          rw [hdrop.claims work hw ht ha, ha] at hl
          simp only [closeFds, ha]
          exact hl
        | false =>
          rw [ha] at hl
          simp only [closeFds, ha]
          exact hl.forget rfl (.append (.refl _) (.append (.refl _) (.append (.refl _)
            (List.sublist_append_right _ _))))
      deferred := hb.held.deferred
      leased := hb.held.leased
      waited := fun h => by
        have := hb.not_waited (by rw [hw]; rfl)
        simp [closeFds, this] at h
      drained := hb.held.drained
      guarded := hb.held.guarded }
  settled := hb.settled
  flushed := hb.flushed
  unclaimed := hb.unclaimed

theorem worker (hs : s.Slots) (hb : s.Bookkeeping) (hdrop : s.Dropped)
    (h : workerStep r s = some s') : s'.Bookkeeping := by
  unfold workerStep at h
  cases hw : s.worker <;> simp only [hw] at h
  case exited => cases h
  case locked =>
    cases h
    split
    · next hfull =>
      -- a full slot has not been waited for
      have hwaited : s.main.waited = false := by
        cases hm : s.main.waited
        · rfl
        · have := (hb.held.waited hm).2
          simp [hfull] at this
      exact
        { held :=
            { ledger := fun ht => by
                have hl := hb.held.ledger ht
                simp only [Sys.Ledger, Sys.inFlight, hw] at hl
                exact hl
              deferred := hb.held.deferred
              leased := hb.held.leased
              waited := by simp [hwaited]
              drained := hb.held.drained
              guarded := hb.held.guarded }
          settled := hb.settled
          flushed := hb.flushed
          unclaimed := hb.unclaimed }
    · exact hb.of_worker (by rw [hw]; rfl) (fun _ => rfl)
  case taking =>
    have hsome := hs.work.taking (by rw [hw]; rfl)
    split at h
    · next work hv =>
      cases h
      exact hb.worker_take hw hv
    · next hv => simp [hv] at hsome
  case dropWork work =>
    cases h
    exact hb.worker_drop hdrop hw
  case depositBusy swap =>
    cases h
    refine hb.worker_deposit hw ?_
    split
    · exact .inl rfl
    · next prev hslot => exact .inr (by simp [hslot])
  case deposit swap =>
    split at h
    · cases h
    · cases h
      exact hb.of_worker (by rw [hw]; rfl) (by rw [hw]; nofun)
  all_goals
    repeat' split at h
    all_goals cases h
    all_goals
      refine hb.of_worker ?_ ?_ <;> rw [hw] <;>
        first
        | rfl
        | exact fun _ => rfl
        | (intro hfree; cases hfree)
        | simp [WorkerPc.claims]

/-- The main loop moves on without touching the claims. -/
theorem of_main (hb : s.Bookkeeping) {port : Port} {started alive sharedStarted stopping : Bool}
    {slotState : SlotState} {workState : WorkState} {main : MainPc} {epoch : UInt64}
    {tasks : List FormatLost} {flags : FormatFlags} {openFds : List Nat}
    {nextFd publications : Nat} (hp : port.rebuildPending = s.port.rebuildPending)
    (hg : port.generation = s.port.generation) (hc : port.config = s.port.config)
    (ha : alive = true → s.alive = true) (h1 : main.leased = true → s.takeover = true)
    (h2 : main.waited = true → s.worker.free = true ∧ workState = .empty)
    (h3 : main.drained = true → s.slot = none) (h4 : main.guarded = true) :
    { s with port, started, alive, sharedStarted, stopping, slotState, workState, main, epoch,
             tasks, flags, openFds, nextFd, publications }.Bookkeeping where
  held :=
    { ledger := fun ht => by
        have hl := hb.held.ledger ht
        have hclaim : (⟨port.generation, s.bumps, false⟩ : Claim) = s.claim := by rw [hg]; rfl
        show Node.Ledger ⟨port.generation, s.bumps, false⟩ (port.rebuildPending || _) alive
          port.config.isSome _
        rw [hclaim, hp, hc]
        exact { hl with atLeast := fun h => hl.atLeast (ha h) }
      deferred := hb.held.deferred
      leased := h1
      waited := h2
      drained := h3
      guarded := h4 }
  settled := hb.settled
  flushed := hb.flushed
  unclaimed := fun hu => hp.trans (hb.unclaimed hu)

/-- Under a takeover the ledger is closed. -/
theorem of_lease {s : Sys} (hd : s.data = .idle) (ht : s.takeover = true)
    (hdef : s.deferred = none)
    (h2 : s.main.waited = true → s.worker.free = true ∧ s.workState = .empty)
    (h3 : s.main.drained = true → s.slot = none) (h4 : s.main.guarded = true) :
    s.Bookkeeping where
  held := ⟨by simp [ht], fun _ => hdef, fun _ => ht, h2, h3, h4⟩
  settled := fun _ => by rw [hd]; rfl
  flushed := fun h => by rw [hd] at h; cases h
  unclaimed := fun h => by rw [hd] at h; cases h

/-- At the end of a takeover nothing is in flight. -/
theorem inFlight_nil (hs : s.Slots) (hb : s.Bookkeeping) (h : s.main.drained = true) :
    s.inFlight = [] := by
  have hw := MainPc.waited_of_drained h
  obtain ⟨hfree, hempty⟩ := hb.held.waited hw
  have hdef := hb.held.deferred (hb.held.leased (MainPc.leased_of_waited hw))
  have hvalue := hs.work.empty (.inl hempty)
  have hslot := hb.held.drained h
  have hworker : s.worker.claims = [] := by
    cases hworker : s.worker <;> first | rfl | (rw [hworker] at hfree; cases hfree)
  simp [inFlight, hdef, hvalue, hslot, hworker, RebuildWork.optionClaims,
    DeviceSwap.optionClaims]

/-- The release of a takeover opens an empty ledger. -/
theorem of_release (hs : s.Slots) (hb : s.Bookkeeping) (h : s.main.drained = true)
    (hd : s.data = .idle) {port : Port} {sharedGeneration : UInt64} {bumps : Nat}
    {main : MainPc} (hp : port.rebuildPending = false) (h1 : main.leased = false)
    (h4 : main.guarded = true) :
    { s with port, takeover := false, sharedGeneration, bumps, main }.Bookkeeping := by
  have hnil := hb.inFlight_nil hs h
  have hdef := hb.held.deferred
    (hb.held.leased (MainPc.leased_of_waited (MainPc.waited_of_drained h)))
  have hwaited : main.waited = false := by
    cases hw : main.waited
    · rfl
    · simp [MainPc.leased_of_waited hw] at h1
  have hdrained : main.drained = false := by
    cases hm : main.drained
    · rfl
    · simp [MainPc.waited_of_drained hm] at hwaited
  exact
    { held :=
        { ledger := fun _ => by
            show Node.Ledger _ (port.rebuildPending || s.data.queuing) _ _
              (s.data.claims ++ s.inFlight)
            rw [hd, hp, hnil]
            exact .empty
          deferred := by simp
          leased := by simp [h1]
          waited := by simp [hwaited]
          drained := by simp [hdrained]
          guarded := h4 }
      settled := fun _ => by rw [hd]; rfl
      flushed := fun hf => by rw [hd] at hf; cases hf
      unclaimed := fun hu => by rw [hd] at hu; cases hu }

/-- `discard_swap` empties the mailbox, under the lease or once the node is dead. -/
theorem main_discard (hs : s.Slots) (hb : s.Bookkeeping) {next : MainPc}
    (hm : s.main = .discardBusy next) {owned : List Nat} :
    { s with slot := none, slotState := .empty, main := .drop owned next }.Bookkeeping := by
  have hguard := hb.held.guarded
  simp only [hm, MainPc.guarded, Bool.and_eq_true, Bool.or_eq_true] at hguard
  exact
    { held :=
        { ledger := fun ht => by
            rcases hguard.1 with hl | hc
            · have := hb.held.leased (by rw [hm]; exact hl)
              simp [show s.takeover = false from ht] at this
            · have hdead : s.alive = false := by rw [hs.life.alive, hm]; simp [MainPc.closed, hc]
              have hl := hb.held.ledger ht
              simp only [Sys.Ledger, Sys.inFlight, hdead] at hl
              simp only [Sys.Ledger, Sys.inFlight, hdead]
              exact hl.forget rfl (.append (.refl _) (.append (.refl _) (.append (.refl _)
                (.append (.refl _) (List.nil_sublist _)))))
          deferred := hb.held.deferred
          leased := fun h => hb.held.leased (by rw [hm]; exact h)
          waited := fun h => hb.held.waited (by rw [hm]; exact h)
          drained := fun _ => rfl
          guarded := hguard.2 }
      settled := hb.settled
      flushed := hb.flushed
      unclaimed := hb.unclaimed }

/-- `wait_idle` returns once the worker is free and its slot empty. -/
theorem main_wait (hs : s.Slots) (hb : s.Bookkeeping) {next stopped : MainPc}
    (hm : s.main = .waitIdle next stopped) (hheld : s.mutexHeld = false)
    (hactive : s.active = false) (hempty : s.workState = .empty) :
    { s with main := next }.Bookkeeping := by
  have hguard := hb.held.guarded
  simp only [hm, MainPc.guarded, Bool.and_eq_true, Bool.not_eq_true'] at hguard
  have hfree : s.worker.free = true := by
    rw [hs.work.active] at hactive
    simp only [Sys.mutexHeld] at hheld
    cases hw : s.worker <;>
      first | rfl | (simp [hw] at hheld; done) | (rw [hw] at hactive; cases hactive)
  exact hb.of_main rfl rfl rfl id (fun h => hb.held.leased (by rw [hm]; exact h))
    (fun _ => ⟨hfree, hempty⟩) (by simp [hguard.1.1]) hguard.1.2

theorem main (hs : s.Slots) (hb : s.Bookkeeping) (h : mainStep r s = some s') :
    s'.Bookkeeping := by
  have hleased := hb.held.leased
  have hwaited := hb.held.waited
  have hdrained := hb.held.drained
  have hguard := hb.held.guarded
  unfold mainStep at h
  cases hm : s.main <;> simp only [hm] at h hleased hwaited hdrained hguard
  case discardBusy next =>
    cases h
    exact hb.main_discard hs hm
  case waitIdle next stopped =>
    have hstop : s.stopping = false := by rw [hs.life.stopping, hm]; rfl
    split at h
    · cases h
    · next hheld =>
      split at h
      · next hidle =>
        cases h
        simp only [Bool.and_eq_true, Bool.not_eq_true', decide_eq_true_eq] at hidle
        exact hb.main_wait hs hm (by simpa using hheld) hidle.1 hidle.2
      · simp [hstop] at h
  case stopQuery suspend wasStarted =>
    split at h
    · cases h
      exact hb.of_main rfl rfl rfl id nofun nofun nofun rfl
    · split at h
      · cases h
      · next hd =>
        split at h <;> cases h <;>
          exact of_lease (Decidable.not_not.mp hd) rfl rfl nofun nofun rfl
  case fence caller config =>
    split at h
    · cases h
      exact hb.of_main rfl rfl rfl id (by simp) (by simp) (by simp) (by simp)
    · split at h
      · cases h
      · next hd =>
        cases h
        exact of_lease (Decidable.not_not.mp hd) rfl rfl nofun nofun rfl
  case releaseQuery =>
    split at h
    · cases h
      exact hb.of_main rfl rfl rfl id nofun nofun nofun rfl
    · split at h
      · cases h
      · next hd =>
        cases h
        exact of_lease (Decidable.not_not.mp hd) rfl rfl nofun nofun rfl
  case swapQuery caller config dsp res =>
    split at h
    · cases h
      exact hb.of_main rfl rfl rfl id hleased hwaited hdrained rfl
    · split at h
      · cases h
      · next hd =>
        cases h
        exact hb.of_release hs (by rw [hm]; rfl) (Decidable.not_not.mp hd) rfl
          (by simp [MainPc.leased]) (by simp [MainPc.guarded])
  case releaseTakeover call strict res =>
    split at h
    · cases h
      exact hb.of_main rfl rfl rfl id (by simp) (by simp) (by simp) (by simp)
    · split at h
      · cases h
      · next hd =>
        cases h
        exact hb.of_release hs (by rw [hm]; rfl) (Decidable.not_not.mp hd) rfl (by simp) (by simp)
  case discard next =>
    split at h
    · cases h
    · cases h
      exact hb.of_main rfl rfl rfl id hleased hwaited nofun hguard
  -- the remaining steps touch neither the claims nor the lease
  all_goals
    repeat' split at h
    all_goals cases h
    all_goals
      refine hb.of_main rfl rfl rfl ?_ ?_ ?_ ?_ ?_ <;>
        first | rfl | assumption | exact id | simp [MainPc.waited]

theorem initial : Sys.initial.Bookkeeping where
  held := ⟨fun _ => .empty, by simp [Sys.initial], nofun, nofun, nofun, rfl⟩
  settled := fun _ => rfl
  flushed := nofun
  unclaimed := nofun

theorem step {e : Event} (hs : s.Slots) (hb : s.Bookkeeping) (hdrop : s.Dropped)
    (h : step s e = some s') : s'.Bookkeeping := by
  cases e with
  | wake ready | process ready =>
    simp only [Node.step] at h
    split at h
    · next hidle =>
      have hh := hb.held
      rw [hidle.1] at hh
      cases h
      split
      · exact hh.queueRequiredRebuilds
      · exact hb
    · cases h
  | data r => exact hb.data hs h
  | worker r => exact hb.worker hs hdrop h
  | main r => exact hb.main hs h
  | call c =>
    simp only [Node.step] at h
    split at h
    · cases h
      exact hb.of_main rfl rfl rfl id (by simp) (by simp) (by simp) (by simp)
    · cases h
  | deliver =>
    simp only [Node.step, deliver] at h
    repeat' split at h
    all_goals cases h
    all_goals
      exact hb.of_main rfl rfl rfl id hb.held.leased hb.held.waited hb.held.drained
        hb.held.guarded

end Sys.Bookkeeping

namespace Sys.Dropped
variable {s s' : Sys} {r : Reading}

theorem congr (hd : s.Dropped) (h1 : s'.worker = s.worker) (h2 : s'.takeover = s.takeover)
    (h3 : s'.alive = true → s.alive = true) : s'.Dropped :=
  ⟨fun work hw ht ha => hd.claims work (h1 ▸ hw) (h2 ▸ ht) (h3 ha)⟩

theorem of_localWork (hd : s.Dropped) (hl : s.LocalWork s') : s'.Dropped :=
  hd.congr hl.worker hl.takeover (by rw [hl.alive]; exact id)

/-- Only the worker decides what it destroys. -/
theorem of_not_dropping (h : ∀ work, s'.worker ≠ .dropWork work) : s'.Dropped :=
  ⟨fun work hw => absurd hw (h work)⟩

theorem data (hd : s.Dropped) (h : dataStep r s = some s') : s'.Dropped := by
  obtain ⟨work, next, -, -, rfl⟩ | ⟨work, next, -, rfl⟩ | ⟨-, -, rfl⟩ | ⟨swap, -, -, rfl⟩ |
    ⟨-, -, rfl⟩ | ⟨event, -, rfl⟩ | ⟨-, -, hl⟩ := dataStep_cases h
  · exact hd.congr rfl rfl id
  · have hmid : Sys.Dropped { s with workValue := some work, workState := .full } :=
      hd.congr rfl rfl id
    exact hmid.of_localWork (.submitted _)
  · exact hd.congr rfl rfl id
  · exact hd.congr rfl rfl id
  · exact hd.congr rfl rfl id
  · exact hd.congr rfl rfl id
  · exact hd.of_localWork hl

theorem worker (hs : s.Slots) (hb : s.Bookkeeping) (h : workerStep r s = some s') :
    s'.Dropped := by
  unfold workerStep at h
  cases hw : s.worker <;> simp only [hw] at h
  case command work =>
    split at h
    · next hstop =>
      cases h
      refine ⟨fun _ _ _ ha => ?_⟩
      have halive : s.alive = false := by
        rw [hs.life.alive]
        rw [hs.life.stopping] at hstop
        simp [MainPc.closed_of_stopped hstop]
      simp [halive] at ha
    · cases work with
      | rebuild request =>
        cases h
        exact of_not_dropping (by simp)
      | retireDevice device =>
        cases h
        refine ⟨fun work hwork _ _ => ?_⟩
        cases hwork
        rfl
      | retireSwap swap =>
        cases h
        refine ⟨fun _ _ ht _ => ?_⟩
        -- a superseded completion is not current
        have hl := hb.held.ledger ht
        have hcur := hl.current ⟨swap.generation, swap.queuedAt, true⟩
          (by simp [Sys.inFlight, hw, WorkerPc.claims, RebuildWork.claims])
        have hretired := congrArg Claim.retired hcur
        cases hretired
  case task request =>
    cases h
    split
    · exact of_not_dropping (by simp)
    · next hdead => exact ⟨fun _ _ _ ha => absurd ha hdead⟩
  case depositBusy swap =>
    cases h
    cases hslot : s.slot with
    | none => exact of_not_dropping (by simp)
    | some prev =>
      refine ⟨fun _ _ ht _ => ?_⟩
      have hl := hb.held.ledger ht
      refine (hl.not_two ?_).elim
      simp only [Sys.inFlight, hw, hslot, WorkerPc.claims, DeviceSwap.optionClaims,
        List.length_append, List.length_cons, List.length_nil]
      omega
  all_goals
    repeat' split at h
    all_goals cases h
    all_goals
      refine of_not_dropping ?_
      simp

theorem main (hd : s.Dropped) (hb : s.Bookkeeping) (h : mainStep r s = some s') :
    s'.Dropped := by
  have hfree : s.main.waited = true → s.worker = s'.worker → s'.Dropped := by
    intro hw hworker
    refine of_not_dropping fun work hwork => ?_
    have := (hb.held.waited hw).1
    rw [hworker, hwork] at this
    cases this
  unfold mainStep at h
  cases hm : s.main <;> simp only [hm] at h hfree
  all_goals
    repeat' split at h
    all_goals cases h
    all_goals
      first
      | exact hd.congr rfl rfl id
      | exact hd.congr rfl rfl nofun
      | exact hfree rfl rfl
      | exact ⟨fun _ _ ht => by cases ht⟩

theorem step {e : Event} (hs : s.Slots) (hb : s.Bookkeeping) (hd : s.Dropped)
    (h : step s e = some s') : s'.Dropped := by
  cases e with
  | wake ready | process ready =>
    simp only [Node.step] at h
    split at h
    · cases h
      split
      · exact hd.of_localWork .queueRequiredRebuilds
      · exact hd
    · cases h
  | data r => exact hd.data h
  | worker r => exact worker hs hb h
  | main r => exact hd.main hb h
  | call c =>
    simp only [Node.step] at h
    split at h
    · cases h
      exact hd.congr rfl rfl id
    · cases h
  | deliver =>
    simp only [Node.step, deliver] at h
    repeat' split at h
    all_goals cases h
    all_goals exact hd.congr rfl rfl id

end Sys.Dropped

/-! ## Every reachable state -/

theorem bookkeeping_inductive (P : Sys → Event → Prop) :
    Inductive node P (fun s => s.Slots ∧ s.Bookkeeping ∧ s.Dropped) where
  init := fun _ h0 => h0 ▸ ⟨.initial, .initial, ⟨fun _ hw => by cases hw⟩⟩
  step := fun _ _ _ ⟨hs, hb, hd⟩ _ h => ⟨hs.step h, hb.step hs hd h, hd.step hs hb h⟩

theorem bookkeeping {P : Sys → Event → Prop} {s : Sys} (h : Via node P s) : s.Bookkeeping :=
  (h.invariant (bookkeeping_inductive P)).2.1

/-- The data loop moves a command or a completion between two of its places. -/
def DataPc.transit : DataPc → Bool
  | .claim .. | .publish .. | .apply _ => true
  | _ => false

/-- The pending flag of a live node without a takeover stands for exactly one
order or completion of the current generation: among the deferred cell, the work
slot, the worker's command and the mailbox whenever the data loop holds none
itself, and counting the data loop's hand in every state. A submission always
finds the deferred cell free. -/
theorem rebuild_pending_iff {s : Sys} (h : Reachable node s) :
    (s.alive = true → s.takeover = false →
      (s.data.transit = false → (s.port.rebuildPending = true ↔
        (s.inFlight.map Claim.generation).count s.port.generation = 1)) ∧
      ((s.port.rebuildPending || s.data.queuing) = true ↔
        ((s.data.claims ++ s.inFlight).map Claim.generation).count s.port.generation = 1)) ∧
    (∀ work next, s.data = .claim work next → s.deferred = none) := by
  have hb := bookkeeping h
  refine ⟨fun halive ht => ?_, fun work next hd => hb.flushed (by rw [hd]; rfl)⟩
  have hl := hb.held.ledger ht
  rw [Sys.Ledger, halive] at hl
  refine ⟨fun htransit => ?_, hl.pending_iff⟩
  have hclaims : s.data.claims = [] ∧ s.data.queuing = false := by
    cases hd : s.data <;> first | exact ⟨rfl, rfl⟩ | (rw [hd] at htransit; cases htransit)
  rw [hclaims.1, hclaims.2, Bool.or_false, List.nil_append] at hl
  exact hl.pending_iff

/-- A node that is configured and started. -/
def startedRun (config : StreamConfig) : List Event :=
  let r : Reading := { result := .opened config false, running := true }
  .call (.setFormat config) :: List.replicate 15 (.main r) ++
    .call (.useBuffers true) :: List.replicate 2 (.main r) ++
    .call .start :: List.replicate 3 (.main r)

/-- A process cycle that latches `rebuild_required` and queues the rebuild. -/
def latchCycle : List Event :=
  let r : Reading := { running := true }
  [.process true, .data r, .data r, .data { r with latched := true }, .data r, .data r]

/-- A started node whose data loop queues a rebuild. -/
def rebuildRun (config : StreamConfig) : List Event := startedRun config ++ latchCycle

def stereo : StreamConfig := ⟨0, 48000, 2, [3, 4], 0, 4⟩

theorem rebuild_pending_iff_queued :
    ∃ s, node.run Sys.initial (rebuildRun stereo) = some s ∧ s.port.rebuildPending = true ∧
      (s.inFlight.map Claim.generation).count s.port.generation = 1 := by
  have h : Reachable node _ :=
    via_of_run (rebuildRun stereo) (.init rfl) (fun _ _ _ => trivial) rfl
  exact ⟨_, rfl, rfl, (((rebuild_pending_iff h).1 rfl rfl).1 rfl).mp rfl⟩

end PwOss.Node
