import PwOss.Node.Rebuild.Bookkeeping

/-
  What Pause, Suspend and the release of a format leave behind.

  `Sys.NoLeak` accounts for every open descriptor: each is owned by the port, by
  a command or completion in one of its places, or by a thread. A call that ends
  with all those places empty and a closed port therefore ends with no open
  descriptor. `Sys.Quiet` says what each stage of a control call has established,
  and `Sys.Unconfigured` what stays true until the host sets a new format.
-/

namespace PwOss.Node

open PwOss.Backend PwOss.Sys PwOss.Transition

/-! ## Ownership of descriptors -/

def DataPc.fds : DataPc → List Nat
  | .claim work _ | .publish work _ => work.fds
  | .apply swap => swap.outcome.fds
  | _ => []

def CheckAt.fds : CheckAt → List Nat
  | .beforeOpen => []
  | .afterOpen dsp _ => dsp.fds

def WorkerPc.fds : WorkerPc → List Nat
  | .taken work | .command work | .dropWork work => work.fds
  | .task request | .retireFirst request => request.fds
  | .check _ _ pos => pos.fds
  | .deposit swap | .depositBusy swap => swap.outcome.fds
  | _ => []

def MainPc.fds : MainPc → List Nat
  | .drop owned next => owned ++ next.fds
  | .discard next | .discardBusy next | .waitIdle next _ => next.fds
  | .swapQuery _ _ dsp _ => dsp.fds
  | _ => []

/-- The descriptors owned outside the data loop's hand. -/
def Sys.stored (s : Sys) : List Nat :=
  s.port.dsp.fds ++ RebuildWork.optionFds s.deferred ++ RebuildWork.optionFds s.workValue ++
    s.worker.fds ++ DeviceSwap.optionFds s.slot ++ s.main.fds

/-- Every open descriptor has an owner. -/
structure Sys.NoLeak (s : Sys) (hand : List Nat) : Prop where
  owned : ∀ fd ∈ s.openFds, fd ∈ hand ∨ fd ∈ s.stored

def Sys.Owned (s : Sys) : Prop := s.NoLeak s.data.fds

theorem OpenRequest.complete_fds (o : OpenRequest) (dsp : Device) (res : OpenResult) :
    (o.complete dsp res).outcome.fds = dsp.fds := by
  cases res with
  | opened config adjusted => rfl
  | failed err =>
    simp only [OpenRequest.complete]
    split
    · simp [SwapOutcome.fds, RebuildRequest.fds, o.taken]
    · rfl

theorem SwapOutcome.Answers.retry_fds {generation : UInt64} {queuedAt : Nat}
    {request : RebuildRequest} {placeholder : Device}
    (h : (SwapOutcome.retireAndRetry request placeholder).Answers generation queuedAt) :
    request.fds = [] := by
  simp [RebuildRequest.fds, h.2.2]

namespace Sys.NoLeak
variable {s s' : Sys} {r : Reading} {site : QueueSite} {hand : List Nat}

/-- No descriptor was opened or closed, and the owned ones are still owned. -/
theorem move {hand' : List Nat} (h : s.NoLeak hand) (ho : s'.openFds = s.openFds)
    (hsub : ∀ fd, fd ∈ hand ∨ fd ∈ s.stored → fd ∈ hand' ∨ fd ∈ s'.stored) :
    s'.NoLeak hand' :=
  ⟨fun fd hfd => hsub fd (h.owned fd (ho ▸ hfd))⟩

/-- Closed descriptors need no owner. -/
theorem close (h : s.NoLeak hand) {fds : List Nat}
    (ho : s'.openFds = s.openFds.filter (· ∉ fds))
    (hsub : ∀ fd, fd ∉ fds → fd ∈ hand ∨ fd ∈ s.stored → fd ∈ hand ∨ fd ∈ s'.stored) :
    s'.NoLeak hand := by
  refine ⟨fun fd hfd => ?_⟩
  rw [ho, List.mem_filter, decide_eq_true_eq] at hfd
  exact hsub fd hfd.2 (h.owned fd hfd.1)

/-- A descriptor is opened by its owner. -/
theorem opened (h : s.NoLeak hand) {new : Nat} (ho : s'.openFds = new :: s.openFds)
    (hnew : new ∈ s'.stored) (hsub : ∀ fd, fd ∈ s.stored → fd ∈ s'.stored) :
    s'.NoLeak hand := by
  refine ⟨fun fd hfd => ?_⟩
  rw [ho, List.mem_cons] at hfd
  rcases hfd with rfl | hfd
  · exact .inr hnew
  · exact (h.owned fd hfd).imp id (hsub fd)

theorem resume (h : s.NoLeak []) : (s.resume site).Owned :=
  resume_rule (h.move rfl fun _ => id) (h.move rfl fun _ => id) (h.move rfl fun _ => id)
    (fun _ _ => h.move rfl fun _ => id)

/-- Taking the deferred command in hand. -/
theorem flush (h : s.NoLeak []) {work : RebuildWork} (hd : s.deferred = some work)
    {next : AfterSubmit} : Sys.Owned { s with deferred := none, data := .claim work next } := by
  refine h.move rfl fun fd hfd => ?_
  simp only [Sys.stored, hd, RebuildWork.optionFds, Option.map_some, Option.getD_some,
    List.mem_append, List.not_mem_nil, false_or] at hfd
  simp only [Sys.stored, RebuildWork.optionFds, Option.map_none, Option.getD_none, DataPc.fds,
    List.mem_append, List.not_mem_nil, or_false]
  rcases hfd with ((((hport | hwork) | hvalue) | hworker) | hslot) | hmain <;> simp [*]

theorem queuePortRebuild (h : s.NoLeak []) : (s.queuePortRebuild site).Owned :=
  queuePortRebuild_rule h.resume (fun _ _ => h.move rfl fun _ => id)

theorem queueRebuild (h : s.NoLeak []) : (s.queueRebuild site).Owned :=
  queueRebuild_rule h.resume (fun _ _ _ _ => h.move rfl fun _ => id)
    (fun _ _ hd => h.flush hd)

theorem queueRequiredRebuilds (h : s.NoLeak []) : (s.queueRequiredRebuilds site).Owned :=
  queueRequiredRebuilds_rule h.resume (fun _ => h.queueRebuild)

theorem finishPorts (h : s.NoLeak []) : (s.finishPorts r).Owned := by
  have hport : Sys.NoLeak { s with port := s.port.cycle r } [] :=
    h.move rfl fun fd => by simp [Sys.stored, Port.cycle]
  exact hport.queueRequiredRebuilds

theorem pollRebuild (h : s.NoLeak []) : s.pollRebuild.Owned :=
  pollRebuild_rule (fun _ => h.move rfl fun _ => id) (fun _ _ => h.move rfl fun _ => id)
    (fun _ _ hd => h.flush hd)

end Sys.NoLeak

namespace Sys.Owned
variable {s s' : Sys} {r : Reading}

/-- A command given back moves into the free deferred cell. -/
theorem returned (h : s.Owned) {work : RebuildWork} {next : AfterSubmit}
    (hd : s.data = .claim work next) (hnone : s.deferred = none) :
    (s.returned work next).Owned := by
  have hmove : ∀ port : Port, port.dsp = s.port.dsp →
      Sys.NoLeak { s with deferred := some work, port } [] := by
    intro port hdsp
    refine h.move rfl fun fd hfd => ?_
    simp only [hd, DataPc.fds, Sys.stored, hnone, RebuildWork.optionFds, Option.map_none,
      Option.getD_none, List.mem_append, List.not_mem_nil, or_false] at hfd
    simp only [Sys.stored, hdsp, RebuildWork.optionFds, Option.map_some, Option.getD_some,
      List.mem_append, List.not_mem_nil, false_or]
    rcases hfd with hwork | ((((hport | hvalue) | hworker) | hslot) | hmain) <;> simp [*]
  cases next with
  | flushQueue site => exact (hmove s.port rfl).resume
  | flushPoll => exact (hmove s.port rfl).move rfl fun _ => id
  | queued site => exact (hmove { s.port with rebuildPending := true } rfl).resume
  | polled skip => exact (hmove s.port rfl).move rfl fun _ => id
  | failed => exact (hmove s.port rfl).move rfl fun _ => id

/-- A published command moves into the free work cell. -/
theorem submitted (h : s.Owned) {work : RebuildWork} {next : AfterSubmit}
    (hd : s.data = .publish work next) (hnone : s.workValue = none) :
    ({ s with workValue := some work, workState := .full }.submitted next).Owned := by
  have hmove : ∀ port : Port, port.dsp = s.port.dsp →
      Sys.NoLeak { s with workValue := some work, workState := .full, port } [] := by
    intro port hdsp
    refine h.move rfl fun fd hfd => ?_
    simp only [hd, DataPc.fds, Sys.stored, hnone, RebuildWork.optionFds, Option.map_none,
      Option.getD_none, List.mem_append, List.not_mem_nil, or_false] at hfd
    simp only [Sys.stored, hdsp, RebuildWork.optionFds, Option.map_some, Option.getD_some,
      List.mem_append, List.not_mem_nil, false_or]
    rcases hfd with hwork | ((((hport | hdef) | hworker) | hslot) | hmain) <;> simp [*]
  cases next with
  | flushQueue site => exact (hmove s.port rfl).queuePortRebuild
  | flushPoll => exact (hmove s.port rfl).move rfl fun _ => id
  | queued site => exact (hmove { s.port with rebuildPending := true } rfl).resume
  | polled skip => exact (hmove s.port rfl).move rfl fun _ => id
  | failed => exact (hmove s.port rfl).move rfl fun _ => id

/-- The port and the hand trade devices. -/
theorem pollRebuildCompletion (h : s.Owned) {swap : DeviceSwap} (hd : s.data = .apply swap) :
    (s.pollRebuildCompletion swap).Owned := by
  have hans := swap.answers
  simp only [Sys.pollRebuildCompletion]
  split
  · exact h.move rfl fun fd => by simp [hd, DataPc.fds, RebuildWork.fds, Sys.stored]
  · cases ho : swap.outcome with
    | installed dsp config =>
      refine h.move rfl fun fd => ?_
      simp only [hd, DataPc.fds, ho, SwapOutcome.fds, RebuildWork.fds, Sys.stored, bump,
        List.mem_append]
      grind
    | aborted =>
      refine h.move rfl fun fd => ?_
      simp only [hd, DataPc.fds, ho, SwapOutcome.fds, Sys.stored, List.mem_append]
      grind
    | retireAndRetry request placeholder =>
      rw [ho] at hans
      refine h.move rfl fun fd => ?_
      simp only [hd, DataPc.fds, ho, SwapOutcome.fds, hans.retry_fds, Sys.stored,
        List.mem_append, List.not_mem_nil, false_or]
      simp only [RebuildWork.fds, RebuildRequest.fds, Option.map_some, Option.getD_some]
      grind
    | failed placeholder =>
      refine h.move rfl fun fd => ?_
      simp only [hd, DataPc.fds, ho, SwapOutcome.fds, RebuildWork.fds, Sys.stored, bump,
        List.mem_append]
      grind

theorem data (hs : s.Slots) (hb : s.Bookkeeping) (h : s.Owned) (hstep : dataStep r s = some s') :
    s'.Owned := by
  have hh := h
  unfold dataStep at hstep
  unfold Owned at hh
  cases hd : s.data <;> simp only [hd] at hstep hh
  case idle => cases hstep
  case claim work next =>
    cases hstep
    split
    · exact hh.move rfl fun _ => id
    · exact h.returned hd (hb.flushed (by rw [hd]; rfl))
  case publish work next =>
    cases hstep
    exact h.submitted hd (hs.work.publishing (by rw [hd]; rfl))
  case ports =>
    cases hstep
    split
    · exact NoLeak.finishPorts hh
    · exact NoLeak.pollRebuild hh
  case swapReady | takeSwap =>
    cases hstep
    split <;> exact hh.move rfl fun _ => id
  case takeBusy =>
    split at hstep
    · next swap hslot =>
      cases hstep
      refine hh.move rfl fun fd => ?_
      simp only [DataPc.fds, Sys.stored, hslot, DeviceSwap.optionFds, Option.map_some,
        Option.getD_some, Option.map_none, Option.getD_none, List.mem_append]
      grind
    · cases hstep
      exact hh.move rfl fun _ => id
  case apply swap =>
    cases hstep
    exact h.pollRebuildCompletion hd
  case stampLoss =>
    cases hstep
    exact hh.move rfl fun _ => id
  case portIo skip =>
    cases hstep
    split
    · exact NoLeak.queueRebuild hh
    · exact NoLeak.finishPorts hh
  case portQueued =>
    cases hstep
    exact NoLeak.finishPorts hh
  case notify event =>
    cases hstep
    exact hh.move rfl fun _ => id

/-- A worker step that moves what the worker owns. -/
theorem of_worker (h : s.Owned) {worker : WorkerPc} {active : Bool} {slotState : SlotState}
    (hsub : ∀ fd, fd ∈ s.worker.fds → fd ∈ worker.fds) :
    Sys.Owned { s with worker, active, slotState } := by
  refine NoLeak.move h rfl fun fd => ?_
  have := hsub fd
  simp only [Sys.stored, List.mem_append]
  grind

/-- A worker step that closes what the worker owned. -/
theorem of_worker_close (h : s.Owned) {fds : List Nat} {worker : WorkerPc}
    (hsub : ∀ fd, fd ∉ fds → fd ∈ s.worker.fds → fd ∈ worker.fds) :
    Sys.Owned { s.closeFds fds with worker } := by
  refine NoLeak.close h rfl fun fd hfd => ?_
  have := hsub fd hfd
  simp only [Sys.stored, closeFds, List.mem_append]
  grind

theorem worker (hs : s.Slots) (h : s.Owned) (hstep : workerStep r s = some s') : s'.Owned := by
  unfold workerStep at hstep
  cases hw : s.worker <;> simp only [hw] at hstep
  case exited => cases hstep
  case locked =>
    cases hstep
    split
    · exact NoLeak.move h rfl fun fd => by simp [Sys.stored, hw, WorkerPc.fds]
    · exact h.of_worker fun fd => by simp [hw, WorkerPc.fds]
  case taking =>
    have hsome := hs.work.taking (by rw [hw]; rfl)
    split at hstep
    · next work hv =>
      cases hstep
      refine NoLeak.move h rfl fun fd => ?_
      simp only [Sys.stored, hv, hw, WorkerPc.fds, RebuildWork.optionFds, Option.map_some,
        Option.getD_some, Option.map_none, Option.getD_none, List.mem_append]
      grind
    · next hv => simp [hv] at hsome
  case retireFirst request =>
    split at hstep
    · next hnone =>
      cases hstep
      exact h.of_worker fun fd => by simp [hw, WorkerPc.fds, RebuildRequest.fds, hnone]
    · next old hold =>
      cases hstep
      exact h.of_worker_close fun fd hfd => by
        simp [hw, WorkerPc.fds, RebuildRequest.fds, hold, hfd]
  case dropWork work =>
    cases hstep
    exact h.of_worker_close fun fd hfd => by simp [hw, WorkerPc.fds, hfd]
  case check load o pos =>
    split at hstep
    · split at hstep <;> cases hstep
      all_goals
        refine h.of_worker fun fd => ?_
        simp [hw, WorkerPc.fds, CheckAt.fds, OpenRequest.complete_fds]
    · split at hstep <;> cases hstep
      · exact h.of_worker fun fd => by simp [hw, WorkerPc.fds, CheckAt.fds]
      · exact h.of_worker_close fun fd hfd => by simp [hw, WorkerPc.fds, CheckAt.fds, hfd]
  case opening o =>
    repeat' split at hstep
    all_goals cases hstep
    · exact h.of_worker fun fd => by simp [hw, WorkerPc.fds]
    · refine NoLeak.opened h rfl ?_ fun fd => ?_
      · simp [Sys.stored, WorkerPc.fds, CheckAt.fds, Device.fds]
      · simp only [Sys.stored, hw, WorkerPc.fds, List.mem_append]
        grind
    · exact h.of_worker fun fd => by simp [hw, WorkerPc.fds]
  case depositBusy swap =>
    cases hstep
    refine NoLeak.move h rfl fun fd => ?_
    cases hslot : s.slot <;>
      simp only [Sys.stored, hw, hslot, WorkerPc.fds, RebuildWork.fds, DeviceSwap.optionFds,
        Option.map_some, Option.getD_some, Option.map_none, Option.getD_none, List.mem_append] <;>
      grind
  -- the remaining steps keep what the worker owns
  all_goals
    repeat' split at hstep
    all_goals cases hstep
    all_goals
      refine h.of_worker fun fd => ?_
      simp [hw, WorkerPc.fds, RebuildWork.fds]

/-- A main-loop step that leaves the port's device and moves what it owns itself. -/
theorem of_main (h : s.Owned) (ho : s'.openFds = s.openFds) (h1 : s'.data = s.data)
    (h2 : s'.port.dsp.fds = s.port.dsp.fds) (h3 : s'.deferred = s.deferred)
    (h4 : s'.workValue = s.workValue) (h5 : s'.worker = s.worker) (h6 : s'.slot = s.slot)
    (hsub : ∀ fd, fd ∈ s.main.fds → fd ∈ s'.main.fds) : s'.Owned := by
  unfold Owned
  rw [h1]
  refine NoLeak.move h ho fun fd => ?_
  have := hsub fd
  simp only [Sys.stored, h2, h3, h4, h5, h6, List.mem_append]
  grind

theorem main (hs : s.Slots) (h : s.Owned) (hstep : mainStep r s = some s') : s'.Owned := by
  unfold mainStep at hstep
  cases hm : s.main <;> simp only [hm] at hstep
  case drop owned next =>
    cases hstep
    refine NoLeak.close h rfl fun fd hfd => ?_
    simp only [Sys.stored, hm, MainPc.fds, closeFds, List.mem_append]
    grind
  case discardBusy next =>
    cases hstep
    refine NoLeak.move h rfl fun fd => ?_
    simp only [Sys.stored, hm, MainPc.fds, DeviceSwap.optionFds, Option.map_none,
      Option.getD_none, List.mem_append, List.not_mem_nil]
    grind
  case stopQuery suspend wasStarted =>
    repeat' split at hstep
    all_goals cases hstep
    · exact h.of_main rfl rfl rfl rfl rfl rfl rfl fun fd => by simp [hm, MainPc.fds]
    all_goals
      refine NoLeak.move h rfl fun fd => ?_
      simp only [Sys.stored, hm, MainPc.fds, MainPc.takeover, lease, bump, unconfigure, Port.cycle,
        Device.fds_setRunning, Device.fds_closed, RebuildWork.optionFds, Option.map_none,
        Option.getD_none, List.mem_append, List.not_mem_nil]
      grind
  case fence caller config =>
    repeat' split at hstep
    all_goals cases hstep
    · exact h.of_main rfl rfl rfl rfl rfl rfl rfl fun fd => by simp [hm, MainPc.fds]
    · refine NoLeak.move h rfl fun fd => ?_
      simp only [Sys.stored, hm, MainPc.fds, MainPc.takeover, lease, bump, RebuildWork.optionFds,
        Option.map_none, Option.getD_none, List.mem_append, List.not_mem_nil]
      grind
  case releaseQuery =>
    repeat' split at hstep
    all_goals cases hstep
    · exact h.of_main rfl rfl rfl rfl rfl rfl rfl fun fd => by simp [hm, MainPc.fds]
    · refine NoLeak.move h rfl fun fd => ?_
      simp only [Sys.stored, hm, MainPc.fds, MainPc.takeover, lease, bump, unconfigure,
        Device.fds_closed, RebuildWork.optionFds, Option.map_none, Option.getD_none,
        List.mem_append, List.not_mem_nil]
      grind
  case waitIdle next stopped =>
    have hstop : s.stopping = false := by rw [hs.life.stopping, hm]; rfl
    repeat' split at hstep
    all_goals cases hstep
    · exact h.of_main rfl rfl rfl rfl rfl rfl rfl fun fd => by simp [hm, MainPc.fds]
    · next hst => simp [hstop] at hst
  case opening caller config retry =>
    repeat' split at hstep
    all_goals cases hstep
    · refine NoLeak.opened h rfl ?_ fun fd => ?_
      · simp [Sys.stored, MainPc.fds, Device.fds]
      · simp only [Sys.stored, hm, MainPc.fds, List.mem_append]
        grind
    all_goals exact h.of_main rfl rfl rfl rfl rfl rfl rfl fun fd => by simp [hm, MainPc.fds]
  case retireQuery caller config =>
    repeat' split at hstep
    all_goals cases hstep
    · exact h.of_main rfl rfl rfl rfl rfl rfl rfl fun fd => by simp [hm, MainPc.fds]
    · refine NoLeak.move h rfl fun fd => ?_
      simp only [Sys.stored, hm, MainPc.fds, Device.fds_closed, List.mem_append, List.not_mem_nil]
      grind
  case swapQuery caller config dsp res =>
    repeat' split at hstep
    all_goals cases hstep
    · exact h.of_main rfl rfl rfl rfl rfl rfl rfl fun fd => by simp [hm, MainPc.fds]
    · refine NoLeak.move h rfl fun fd => ?_
      simp only [Sys.stored, hm, MainPc.fds, bump, List.mem_append]
      grind
  -- the remaining steps own nothing, and leave the port's device
  all_goals
    repeat' split at hstep
    all_goals cases hstep
    all_goals
      refine h.of_main rfl rfl ?_ rfl rfl rfl rfl fun fd => ?_ <;>
        first | rfl | simp [hm, MainPc.fds, Port.cycle]

theorem step {e : Event} (hs : s.Slots) (hb : s.Bookkeeping) (h : s.Owned)
    (hstep : step s e = some s') : s'.Owned := by
  cases e with
  | wake ready | process ready =>
    simp only [Node.step] at hstep
    split at hstep
    · next hidle =>
      have hh : s.NoLeak [] := by
        unfold Owned at h
        rwa [hidle.1] at h
      cases hstep
      split
      · exact hh.queueRequiredRebuilds
      · exact h
    · cases hstep
  | data r => exact h.data hs hb hstep
  | worker r => exact h.worker hs hstep
  | main r => exact h.main hs hstep
  | call c =>
    simp only [Node.step] at hstep
    split at hstep
    · next hidle =>
      cases hstep
      exact h.of_main rfl rfl rfl rfl rfl rfl rfl fun fd => by simp [hidle, MainPc.fds]
    · cases hstep
  | deliver =>
    simp only [Node.step, deliver] at hstep
    repeat' split at hstep
    all_goals cases hstep
    all_goals exact h.of_main rfl rfl rfl rfl rfl rfl rfl fun _ => id

end Sys.Owned

/-! ## What a control call leaves -/

/-- No order, completion or replacement device anywhere but in the port. -/
structure Sys.Empty (s : Sys) : Prop where
  deferred : s.deferred = none
  workSlot : s.workValue = none
  worker : s.worker.free = true
  mailbox : s.slot = none

/-- Counters at which the data loop holds nothing. -/
def DataPc.handsOff : DataPc → Bool
  | .idle | .ports | .swapReady | .portIo _ | .portQueued | .notify _ => true
  | _ => false

/-- `install_device` is not under way. -/
def MainPc.installs : MainPc → Bool
  | .drop _ next | .discard next | .discardBusy next | .waitIdle next _ => next.installs
  | .fence .. | .opening .. | .retireQuery .. | .swapQuery .. => true
  | _ => false

/-- A released port: nothing can open a device but a new format. -/
structure Sys.Unconfigured (s : Sys) : Prop where
  config : s.port.config = none
  dsp : s.port.dsp = .closed
  empty : s.Empty
  data : s.data.handsOff = true

namespace Sys.Unconfigured
variable {s s' : Sys} {r : Reading} {site : QueueSite}

theorem of_data (h : s.Unconfigured) {data : DataPc} {event : Option FormatLost}
    (hd : data.handsOff = true) : Sys.Unconfigured { s with data, pendingMainEvent := event } :=
  ⟨h.config, h.dsp, ⟨h.empty.deferred, h.empty.workSlot, h.empty.worker, h.empty.mailbox⟩, hd⟩

theorem resume (h : s.Unconfigured) : (s.resume site).Unconfigured :=
  resume_rule (h.of_data rfl) (h.of_data rfl) (h.of_data rfl) (fun _ _ => h.of_data rfl)

/-- Without a config there is no order to queue. -/
theorem queueRebuild (h : s.Unconfigured) : (s.queueRebuild site).Unconfigured :=
  queueRebuild_rule h.resume (fun _ _ _ hc => by simp [h.config] at hc)
    (fun _ _ hd => by simp [h.empty.deferred] at hd)

theorem queueRequiredRebuilds (h : s.Unconfigured) :
    (s.queueRequiredRebuilds site).Unconfigured :=
  queueRequiredRebuilds_rule h.resume (fun _ => h.queueRebuild)

theorem of_port (h : s.Unconfigured) : Sys.Unconfigured { s with port := s.port.cycle r } :=
  ⟨h.config, by simp [Port.cycle, h.dsp],
    ⟨h.empty.deferred, h.empty.workSlot, h.empty.worker, h.empty.mailbox⟩, h.data⟩

theorem finishPorts (h : s.Unconfigured) : (s.finishPorts r).Unconfigured :=
  h.of_port.queueRequiredRebuilds

theorem pollRebuild (h : s.Unconfigured) : s.pollRebuild.Unconfigured :=
  pollRebuild_rule (fun _ => h.of_data rfl) (fun _ _ => h.of_data rfl)
    (fun _ _ hd => by simp [h.empty.deferred] at hd)

theorem dataStep (hs : s.Slots) (h : s.Unconfigured) (hstep : dataStep r s = some s') :
    s'.Unconfigured := by
  have hoff := h.data
  unfold Node.dataStep at hstep
  cases hd : s.data <;> simp only [hd] at hstep hoff
  case idle => cases hstep
  case ports =>
    cases hstep
    split
    · exact h.finishPorts
    · exact h.pollRebuild
  case swapReady =>
    cases hstep
    split
    · next hfull =>
      have := hs.mailbox.full hfull
      simp [h.empty.mailbox] at this
    · exact h.of_data rfl
  case portIo skip =>
    cases hstep
    split
    · exact h.queueRebuild
    · exact h.finishPorts
  case portQueued =>
    cases hstep
    exact h.finishPorts
  case notify event =>
    cases hstep
    exact ⟨h.config, h.dsp,
      ⟨h.empty.deferred, h.empty.workSlot, h.empty.worker, h.empty.mailbox⟩, rfl⟩
  all_goals cases hoff

end Sys.Unconfigured

/-- What no worker step touches. -/
theorem workerStep_frame {s s' : Sys} {r : Reading} (h : workerStep r s = some s') :
    s'.port = s.port ∧ s'.data = s.data ∧ s'.started = s.started ∧ s'.main = s.main ∧
      s'.deferred = s.deferred ∧ s'.flags = s.flags ∧ s'.epoch = s.epoch ∧ s'.tasks = s.tasks ∧
      s'.pendingMainEvent = s.pendingMainEvent ∧ s'.publications = s.publications ∧
      s'.takeover = s.takeover := by
  unfold workerStep at h
  cases hw : s.worker <;> simp only [hw] at h
  all_goals
    repeat' split at h
    all_goals cases h
    all_goals exact ⟨rfl, rfl, rfl, rfl, rfl, rfl, rfl, rfl, rfl, rfl, rfl⟩

/-- A free worker with an empty slot stays free. -/
theorem Sys.Empty.workerStep {s s' : Sys} {r : Reading} (hs : s.Slots) (h : s.Empty)
    (hstep : workerStep r s = some s') : s'.Empty := by
  have hfree := h.worker
  unfold Node.workerStep at hstep
  cases hw : s.worker <;> simp only [hw] at hstep hfree
  case idle =>
    cases hstep
    exact ⟨h.deferred, h.workSlot, rfl, h.mailbox⟩
  case locked =>
    cases hstep
    split
    · next hfull =>
      have := hs.work.full hfull
      simp [h.workSlot] at this
    · exact ⟨h.deferred, h.workSlot, rfl, h.mailbox⟩
  case checkClosed =>
    cases hstep
    refine ⟨h.deferred, h.workSlot, ?_, h.mailbox⟩
    simp only
    split <;> rfl
  case exited => cases hstep
  all_goals cases hfree

@[simp] theorem Install.done_installs (i : Install) (c : StreamConfig) (res : Int) :
    (i.done c res).installs = false := by
  cases i <;> simp only [Install.done] <;> (try split) <;> rfl

@[simp] theorem Call.released_installs (c : Call) (res : Int) :
    (c.released res).installs = false := by
  cases c <;> simp only [Call.released] <;> (try split) <;> rfl

namespace Sys.Unconfigured
variable {s s' : Sys} {r : Reading}

theorem workerStep (hs : s.Slots) (h : s.Unconfigured) (hstep : workerStep r s = some s') :
    s'.Unconfigured := by
  obtain ⟨hport, hdata, -⟩ := workerStep_frame hstep
  exact ⟨hport ▸ h.config, hport ▸ h.dsp, h.empty.workerStep hs hstep, hdata ▸ h.data⟩

/-- A main-loop step outside an install keeps the port released. -/
theorem mainStep (hs : s.Slots) (h : s.Unconfigured) (hi : s.main.installs = false)
    (hstep : mainStep r s = some s') : s'.Unconfigured ∧ s'.main.installs = false := by
  obtain ⟨hconfig, hdsp, ⟨hdef, hwork, hworker, hslot⟩, hoff⟩ := h
  unfold Node.mainStep at hstep
  cases hm : s.main <;> simp only [hm] at hstep hi
  case fence | opening | retireQuery | swapQuery => cases hi
  case waitIdle next stopped =>
    have hstop : s.stopping = false := by rw [hs.life.stopping, hm]; rfl
    repeat' split at hstep
    all_goals cases hstep
    · exact ⟨⟨hconfig, hdsp, ⟨hdef, hwork, hworker, hslot⟩, hoff⟩, hi⟩
    · next hst => simp [hstop] at hst
  case stopQuery suspend wasStarted =>
    repeat' split at hstep
    all_goals cases hstep
    · exact ⟨⟨hconfig, hdsp, ⟨hdef, hwork, hworker, hslot⟩, hoff⟩, rfl⟩
    · exact ⟨⟨rfl, rfl, ⟨rfl, hwork, hworker, hslot⟩, hoff⟩, rfl⟩
    · refine ⟨⟨hconfig, ?_, ⟨rfl, hwork, hworker, hslot⟩, hoff⟩, rfl⟩
      simp [lease, bump, Port.cycle, hdsp]
  case releaseQuery =>
    repeat' split at hstep
    all_goals cases hstep
    · exact ⟨⟨hconfig, hdsp, ⟨hdef, hwork, hworker, hslot⟩, hoff⟩, rfl⟩
    · exact ⟨⟨rfl, rfl, ⟨rfl, hwork, hworker, hslot⟩, hoff⟩, rfl⟩
  case snapshot =>
    repeat' split at hstep
    all_goals cases hstep
    · exact ⟨⟨hconfig, hdsp, ⟨hdef, hwork, hworker, hslot⟩, hoff⟩, rfl⟩
    · next hrun _ =>
      rw [hdsp] at hrun
      cases hrun
    · exact ⟨⟨hconfig, hdsp, ⟨hdef, hwork, hworker, hslot⟩, hoff⟩, rfl⟩
  case startQuery =>
    repeat' split at hstep
    all_goals cases hstep
    · exact ⟨⟨hconfig, hdsp, ⟨hdef, hwork, hworker, hslot⟩, hoff⟩, rfl⟩
    · next hready => simp [hconfig] at hready
    · exact ⟨⟨hconfig, hdsp, ⟨hdef, hwork, hworker, hslot⟩, hoff⟩, rfl⟩
  case buffersQuery nonempty =>
    repeat' split at hstep
    all_goals cases hstep
    · exact ⟨⟨hconfig, hdsp, ⟨hdef, hwork, hworker, hslot⟩, hoff⟩, rfl⟩
    · exact ⟨⟨hconfig, by simp [Port.cycle, hdsp], ⟨hdef, hwork, hworker, hslot⟩, hoff⟩, rfl⟩
  case discardBusy next =>
    cases hstep
    exact ⟨⟨hconfig, hdsp, ⟨hdef, hwork, hworker, rfl⟩, hoff⟩, hi⟩
  -- the remaining steps touch neither the port's stream nor the places
  all_goals
    repeat' split at hstep
    all_goals cases hstep
    all_goals
      refine ⟨⟨hconfig, hdsp, ⟨hdef, hwork, hworker, hslot⟩, hoff⟩, ?_⟩
      first | rfl | exact hi | simp

/-- Only a new format ends a released port. -/
theorem step {e : Event} (hs : s.Slots) (h : s.Unconfigured) (hi : s.main.installs = false)
    (he : ∀ config, e ≠ .call (.setFormat config)) (hstep : step s e = some s') :
    s'.Unconfigured ∧ s'.main.installs = false := by
  cases e with
  | wake ready | process ready =>
    simp only [Node.step] at hstep
    split at hstep
    · cases hstep
      split
      · exact ⟨h.queueRequiredRebuilds, by rw [LocalWork.queueRequiredRebuilds.main]; exact hi⟩
      · exact ⟨h, hi⟩
    · cases hstep
  | data r =>
    obtain ⟨hmain, -⟩ := dataStep_frame hstep
    exact ⟨h.dataStep hs hstep, hmain ▸ hi⟩
  | worker r =>
    obtain ⟨-, -, -, hmain, -⟩ := workerStep_frame hstep
    exact ⟨h.workerStep hs hstep, hmain ▸ hi⟩
  | main r => exact h.mainStep hs hi hstep
  | call c =>
    simp only [Node.step] at hstep
    split at hstep
    · cases hstep
      refine ⟨⟨h.config, h.dsp, ⟨h.empty.1, h.empty.2, h.empty.3, h.empty.4⟩, h.data⟩, ?_⟩
      cases c <;> first | rfl | exact absurd rfl (he _)
    · cases hstep
  | deliver =>
    simp only [Node.step, deliver] at hstep
    repeat' split at hstep
    all_goals cases hstep
    all_goals
      exact ⟨⟨h.config, h.dsp, ⟨h.empty.1, h.empty.2, h.empty.3, h.empty.4⟩, h.data⟩, hi⟩

end Sys.Unconfigured

/-! ## The stages of a control call -/

/-- How a control call in progress ends when it returns 0. -/
inductive Ending where
  | paused
  | released
  deriving DecidableEq

def Call.ending : Call → Option Ending
  | .pause => some .paused
  | .suspend | .releaseFormat => some .released
  | _ => none

/-- The ending of a call that is past its closure on the data loop. -/
def MainPc.ending : MainPc → Option Ending
  | .drop _ next | .discard next | .discardBusy next | .waitIdle next _ => next.ending
  | .releaseTakeover call true res => if res = 0 then call.ending else none
  | .formatQuery call res => if res = 0 then call.ending else none
  | .publish call _ res => if res = 0 then call.ending else none
  | .ret call res => if res = 0 then call.ending else none
  | _ => none

@[simp] theorem Install.done_ending (i : Install) (c : StreamConfig) (res : Int) :
    (i.done c res).ending = none := by
  cases i <;> simp only [Install.done] <;> (try split) <;> simp [MainPc.ending, Call.ending]

@[simp] theorem Call.enter_ending (c : Call) : c.enter.ending = none := by
  cases c <;> rfl

/-- After its release a call heads for the ending it was heading for. -/
theorem Call.released_ending {c : Call} {res : Int} {ending : Ending}
    (h : (c.released res).ending = some ending) : res = 0 ∧ c.ending = some ending := by
  cases c <;> simp only [Call.released] at h <;> (try split at h) <;>
    simp_all [MainPc.ending, Call.ending]

/-- The port holds no stream. -/
def Sys.Closed (s : Sys) : Prop := s.port.config = none ∧ s.port.dsp = .closed

namespace Sys.Closed
variable {s s' : Sys} {r : Reading} {site : QueueSite}

theorem queueRebuild (h : s.Closed) : (s.queueRebuild site).Closed :=
  queueRebuild_rule (resume_rule h h h (fun _ _ => h)) (fun _ _ _ _ => h) (fun _ _ _ => h)

theorem queueRequiredRebuilds (h : s.Closed) : (s.queueRequiredRebuilds site).Closed :=
  queueRequiredRebuilds_rule (resume_rule h h h (fun _ _ => h)) (fun _ => h.queueRebuild)

theorem finishPorts (h : s.Closed) : (s.finishPorts r).Closed := by
  have hport : Sys.Closed { s with port := s.port.cycle r } :=
    ⟨h.1, by simp [Port.cycle, h.2]⟩
  exact hport.queueRequiredRebuilds

/-- Under a takeover no completion reaches the port. -/
theorem dataStep (hb : s.Bookkeeping) (ht : s.takeover = true) (h : s.Closed)
    (hstep : dataStep r s = some s') : s'.Closed := by
  have hset := hb.settled ht
  unfold Node.dataStep at hstep
  cases hd : s.data <;> simp only [hd] at hstep hset
  case idle => cases hstep
  case ports =>
    cases hstep
    split
    · exact h.finishPorts
    · exact pollRebuild_rule (fun _ => h) (fun _ _ => h) (fun _ _ _ => h)
  case stampLoss =>
    cases hstep
    exact h
  case portIo skip =>
    cases hstep
    split
    · exact h.queueRebuild
    · exact h.finishPorts
  case portQueued =>
    cases hstep
    exact h.finishPorts
  case notify event =>
    cases hstep
    exact h
  all_goals cases hset

end Sys.Closed

structure Sys.Quiet (s : Sys) : Prop where
  paused : s.main.ending = some .paused →
    s.started = false ∧ (s.main.leased = false → s.data = .idle ∧ s.Empty)
  released : s.main.ending = some .released →
    s.Closed ∧ (s.main.leased = false → s.Unconfigured)

/-- At the end of a takeover the places are empty. -/
theorem Sys.Bookkeeping.empty {s : Sys} (hs : s.Slots) (hb : s.Bookkeeping)
    (h : s.main.drained = true) : s.Empty := by
  have hw := MainPc.waited_of_drained h
  obtain ⟨hfree, hempty⟩ := hb.held.waited hw
  exact
    { deferred := hb.held.deferred (hb.held.leased (MainPc.leased_of_waited hw))
      workSlot := hs.work.empty (.inl hempty)
      worker := hfree
      mailbox := hb.held.drained h }

namespace Sys.Quiet
variable {s s' : Sys} {r : Reading}

theorem of_ending (h : s'.main.ending = none) : s'.Quiet :=
  ⟨by simp [h], by simp [h]⟩

theorem data (hs : s.Slots) (hb : s.Bookkeeping) (h : s.Quiet) (hstep : dataStep r s = some s') :
    s'.Quiet := by
  obtain ⟨hmain, hstarted, -⟩ := dataStep_frame hstep
  refine ⟨fun he => ?_, fun he => ?_⟩ <;> rw [hmain] at he
  · obtain ⟨hstop, hquiet⟩ := h.paused he
    refine ⟨hstarted.trans hstop, fun hl => ?_⟩
    -- a stopped data loop is idle, and takes no step
    obtain ⟨hidle, -⟩ := hquiet (hmain ▸ hl)
    simp [dataStep, hidle] at hstep
  · obtain ⟨hclosed, hquiet⟩ := h.released he
    cases hl : s.main.leased with
    | false =>
      have hun := (hquiet hl).dataStep hs hstep
      exact ⟨⟨hun.config, hun.dsp⟩, fun _ => hun⟩
    | true =>
      refine ⟨hclosed.dataStep hb (hb.held.leased hl) hstep, fun hl' => ?_⟩
      rw [hmain, hl] at hl'
      cases hl'

theorem worker (hs : s.Slots) (h : s.Quiet) (hstep : workerStep r s = some s') : s'.Quiet := by
  obtain ⟨hport, hdata, hstarted, hmain, -⟩ := workerStep_frame hstep
  refine ⟨fun he => ?_, fun he => ?_⟩ <;> rw [hmain] at he ⊢
  · obtain ⟨hstop, hquiet⟩ := h.paused he
    exact ⟨hstarted.trans hstop,
      fun hl => ⟨hdata.trans (hquiet hl).1, (hquiet hl).2.workerStep hs hstep⟩⟩
  · obtain ⟨hclosed, hquiet⟩ := h.released he
    exact ⟨⟨by rw [hport]; exact hclosed.1, by rw [hport]; exact hclosed.2⟩,
      fun hl => (hquiet hl).workerStep hs hstep⟩

/-- The main loop moves on towards the ending it had. -/
theorem of_main (h : s.Quiet) (he : s'.main.ending = s.main.ending)
    (hl : s'.main.leased = s.main.leased) (h1 : s'.started = s.started)
    (h2 : s'.port = s.port) (h3 : s'.data = s.data) (h4 : s.Empty → s'.Empty) : s'.Quiet := by
  refine ⟨fun hend => ?_, fun hend => ?_⟩ <;> rw [he] at hend <;> rw [hl]
  · obtain ⟨hstop, hquiet⟩ := h.paused hend
    exact ⟨h1.trans hstop, fun hl => ⟨h3.trans (hquiet hl).1, h4 (hquiet hl).2⟩⟩
  · obtain ⟨hclosed, hquiet⟩ := h.released hend
    refine ⟨⟨h2 ▸ hclosed.1, h2 ▸ hclosed.2⟩, fun hl => ?_⟩
    obtain ⟨hconfig, hdsp, hempty, hoff⟩ := hquiet hl
    exact ⟨h2 ▸ hconfig, h2 ▸ hdsp, h4 hempty, h3 ▸ hoff⟩

theorem main (hs : s.Slots) (hb : s.Bookkeeping) (h : s.Quiet)
    (hstep : mainStep r s = some s') : s'.Quiet := by
  unfold mainStep at hstep
  cases hm : s.main <;> simp only [hm] at hstep
  case stopQuery suspend wasStarted =>
    repeat' split at hstep
    all_goals cases hstep
    · exact of_ending rfl
    · exact ⟨nofun, fun _ => ⟨⟨rfl, rfl⟩, nofun⟩⟩
    · exact ⟨fun _ => ⟨rfl, nofun⟩, nofun⟩
  case releaseQuery =>
    repeat' split at hstep
    all_goals cases hstep
    · exact of_ending rfl
    · exact ⟨nofun, fun _ => ⟨⟨rfl, rfl⟩, nofun⟩⟩
  case drop owned next =>
    cases hstep
    exact h.of_main (by rw [hm]; rfl) (by rw [hm]; rfl) rfl rfl rfl
      (fun he => ⟨he.1, he.2, he.3, he.4⟩)
  case discard next =>
    split at hstep
    · cases hstep
    · cases hstep
      exact h.of_main (by rw [hm]; rfl) (by rw [hm]; rfl) rfl rfl rfl
        (fun he => ⟨he.1, he.2, he.3, he.4⟩)
  case discardBusy next =>
    cases hstep
    exact h.of_main (by rw [hm]; rfl) (by rw [hm]; rfl) rfl rfl rfl
      (fun he => ⟨he.1, he.2, he.3, rfl⟩)
  case waitIdle next stopped =>
    have hstop : s.stopping = false := by rw [hs.life.stopping, hm]; rfl
    repeat' split at hstep
    all_goals cases hstep
    · exact h.of_main (by rw [hm]; rfl) (by rw [hm]; rfl) rfl rfl rfl
        (fun he => ⟨he.1, he.2, he.3, he.4⟩)
    · next hst => simp [hstop] at hst
  case releaseTakeover call strict res =>
    have hguard := hb.held.guarded
    have hempty := hb.empty hs (by rw [hm]; rfl)
    simp only [hm, MainPc.guarded, Bool.or_eq_true, bne_iff_ne] at hguard
    split at hstep
    · cases hstep
      -- a refused release reports an error
      refine ⟨fun he => ?_, fun he => ?_⟩ <;> obtain ⟨hres, -⟩ := Call.released_ending he
      all_goals
        split at hres
        · cases hres
        · next hstrict => exact absurd hres (hguard.resolve_left hstrict)
    · split at hstep
      · cases hstep
      · next hd =>
        cases hstep
        have hidle := Decidable.not_not.mp hd
        refine ⟨fun he => ?_, fun he => ?_⟩ <;>
          obtain ⟨rfl, hend⟩ := Call.released_ending he <;>
          rw [hguard.resolve_right (by simp)] at hm
        · obtain ⟨hstop, -⟩ := h.paused (by rw [hm]; exact hend)
          exact ⟨hstop, fun _ => ⟨hidle, ⟨hempty.1, hempty.2, hempty.3, hempty.4⟩⟩⟩
        · obtain ⟨hclosed, -⟩ := h.released (by rw [hm]; exact hend)
          exact ⟨hclosed, fun _ => ⟨hclosed.1, hclosed.2,
            ⟨hempty.1, hempty.2, hempty.3, hempty.4⟩, by rw [hidle]; rfl⟩⟩
  case formatQuery call res =>
    repeat' split at hstep
    all_goals cases hstep
    · exact of_ending rfl
    · exact h.of_main (by rw [hm]; rfl) (by rw [hm]; rfl) rfl rfl rfl
        (fun he => ⟨he.1, he.2, he.3, he.4⟩)
  case publish call config res =>
    cases hstep
    exact h.of_main (by rw [hm]; rfl) (by rw [hm]; rfl) rfl rfl rfl
      (fun he => ⟨he.1, he.2, he.3, he.4⟩)
  -- the remaining steps head for no ending
  all_goals
    repeat' split at hstep
    all_goals cases hstep
    all_goals
      refine of_ending ?_
      first | rfl | simp [MainPc.ending]

theorem step {e : Event} (hs : s.Slots) (hb : s.Bookkeeping) (h : s.Quiet)
    (hstep : step s e = some s') : s'.Quiet := by
  cases e with
  | wake ready | process ready =>
    simp only [Node.step] at hstep
    split at hstep
    · next hidle =>
      cases hstep
      split
      · next hrun =>
        simp only [Bool.and_eq_true] at hrun
        refine ⟨fun he => ?_, fun he => ?_⟩ <;>
          rw [LocalWork.queueRequiredRebuilds.main] at he ⊢
        · simp [(h.paused he).1] at hrun
        · obtain ⟨hclosed, hquiet⟩ := h.released he
          exact ⟨hclosed.queueRequiredRebuilds, fun hl => (hquiet hl).queueRequiredRebuilds⟩
      · exact h
    · cases hstep
  | data r => exact h.data hs hb hstep
  | worker r => exact h.worker hs hstep
  | main r => exact h.main hs hb hstep
  | call c =>
    simp only [Node.step] at hstep
    split at hstep
    · cases hstep
      exact of_ending (by simp)
    · cases hstep
  | deliver =>
    simp only [Node.step, deliver] at hstep
    repeat' split at hstep
    all_goals cases hstep
    all_goals exact h.of_main rfl rfl rfl rfl rfl (fun he => ⟨he.1, he.2, he.3, he.4⟩)

end Sys.Quiet

/-! ## Every reachable state -/

theorem quiescence_inductive (P : Sys → Event → Prop) :
    Inductive node P
      (fun s => (s.Slots ∧ s.Bookkeeping ∧ s.Dropped) ∧ s.Owned ∧ s.Quiet) where
  init := fun s h0 =>
    ⟨(bookkeeping_inductive P).init s h0, h0 ▸ ⟨⟨nofun⟩, .of_ending rfl⟩⟩
  step := fun s e s' ⟨hb, ho, hq⟩ he h =>
    ⟨(bookkeeping_inductive P).step s e s' hb he h, ho.step hb.1 hb.2.1 h, hq.step hb.1 hb.2.1 h⟩

/-- A released port with nothing in flight and no main-loop call at work holds no
descriptor. -/
theorem Sys.Unconfigured.openFds_nil {s : Sys} (h : s.Unconfigured) (ho : s.Owned)
    (hm : s.main.fds = []) : s.openFds = [] := by
  have hworker : s.worker.fds = [] := by
    have hfree := h.empty.worker
    cases hw : s.worker <;> first | rfl | (rw [hw] at hfree; cases hfree)
  have hdata : s.data.fds = [] := by
    have hoff := h.data
    cases hd : s.data <;> first | rfl | (rw [hd] at hoff; cases hoff)
  refine List.eq_nil_iff_forall_not_mem.mpr fun fd hfd => ?_
  have := ho.owned fd hfd
  simp [Sys.stored, hworker, hdata, hm, h.dsp, h.empty.deferred, h.empty.workSlot,
    h.empty.mailbox, RebuildWork.optionFds, DeviceSwap.optionFds] at this

/-- A run without a new format keeps a released port released. -/
theorem released_run (es : List Event) {s s' : Sys}
    (h : s.Slots ∧ s.Unconfigured ∧ s.main.installs = false)
    (hes : ∀ (_ : Sys) e, e ∈ es → ∀ config, e ≠ .call (.setFormat config))
    (hrun : node.run s es = some s') :
    s'.Slots ∧ s'.Unconfigured ∧ s'.main.installs = false := by
  refine run_induction (fun t => t.Slots ∧ t.Unconfigured ∧ t.main.installs = false)
    (fun t e t' ht he hstep => ?_) es h hes hrun
  obtain ⟨hs, hun, hi⟩ := ht
  exact ⟨hs.step hstep, hun.step hs hi he hstep⟩

/-- When Pause returns 0 the deferred cell, the work slot, the worker and the
mailbox are empty. When Suspend returns 0, or `release_format` returns 0 to
`port_set_param` and until that returns, they are empty too, the port holds a
closed device and no config, every descriptor the node ever opened is closed
again, and this stays so along every run without a new format. -/
theorem control_quiescent {s : Sys} (h : Reachable node s) :
    (s.main = .ret .pause 0 → s.Empty) ∧
    (s.main = .ret .suspend 0 ∨ s.main = .formatQuery .releaseFormat 0 ∨
        s.main = .ret .releaseFormat 0 →
      (s.Empty ∧ s.port.dsp = .closed ∧ s.port.config = none ∧ s.openFds = []) ∧
      ∀ es s', (∀ e ∈ es, ∀ config, e ≠ .call (.setFormat config)) →
        node.run s es = some s' →
        s'.Empty ∧ s'.port.dsp = .closed ∧ s'.port.config = none) := by
  obtain ⟨-, howned, hquiet⟩ := h.invariant (quiescence_inductive _)
  refine ⟨fun hm => ?_, fun hm => ?_⟩
  · exact ((hquiet.paused (by rw [hm]; rfl)).2 (by rw [hm]; rfl)).2
  · obtain ⟨hend, hleased, hfds, hinst⟩ : s.main.ending = some .released ∧
        s.main.leased = false ∧ s.main.fds = [] ∧ s.main.installs = false := by
      rcases hm with hm | hm | hm <;> rw [hm] <;> exact ⟨rfl, rfl, rfl, rfl⟩
    have hun := (hquiet.released hend).2 hleased
    refine ⟨⟨hun.empty, hun.dsp, hun.config, hun.openFds_nil howned hfds⟩,
      fun es s' hes hrun => ?_⟩
    obtain ⟨-, hun', -⟩ := released_run es ⟨slots h, hun, hinst⟩ (fun _ e he => hes e he) hrun
    exact ⟨hun'.empty, hun'.dsp, hun'.config⟩

/-- A configured, started node, released while a rebuild order is queued. -/
def releaseRun (config : StreamConfig) : List Event :=
  rebuildRun config ++ .call .releaseFormat :: List.replicate 4 (.main {}) ++
    List.replicate 13 (.worker {}) ++ List.replicate 8 (.main {})

theorem control_quiescent_released :
    ∃ s, node.run Sys.initial (releaseRun stereo) = some s ∧ s.main = .ret .releaseFormat 0 ∧
      s.openFds = [] := by
  have h : Reachable node _ :=
    via_of_run (releaseRun stereo) (.init rfl) (fun _ _ _ => trivial) rfl
  exact ⟨_, rfl, rfl, ((control_quiescent h).2 (.inr (.inr rfl))).1.2.2.2⟩

end PwOss.Node
