import PwOss.Backend.Stream
import PwOss.Sys.Errno
import PwOss.Lib.Transition

/-
  The state of one node as its three threads share it: the data loop, the main
  loop and the rebuild worker.

  Each thread has a program counter. The places where one thread's atomic
  operation can be seen by another are separate counters; the private work
  between two of them belongs to the step of the neighbouring operation.
  `MAX_PORTS` is 1, so there is one port and `port_idx` is left out.

  Correspondence (Rust ↔ Lean):
    `rebuild/worker.rs` `RebuildRequest`, `DeviceSwap`, `SwapOutcome`,
      `RebuildWork`                       ↔ the types of the same names
    `RebuildWorkSlot` (`state`, `value`)  ↔ `Sys.workState`, `Sys.workValue`
    `RebuildWorkSlot::active` (a mutex)   ↔ `Sys.active`; the worker holds the
      mutex in `WorkerPc.locked`, `taking` and `taken`
    `NodeShared` (`slot_state`, `slot`)   ↔ `Sys.slotState`, `Sys.slot`
    `state.rs` `Port`, `DataState`        ↔ `Port` and the data fields of `Sys`
    `events.rs` `FormatPublication`       ↔ `Sys.epoch`
    the main loop's task queue            ↔ `Sys.tasks`

  `queuedAt`, `bumps`, `stamp` and `publications` are ghost counters: they count
  the generation bumps and the format publications in `Nat`, where the code's
  own `u64` counters wrap.
-/

namespace PwOss.Node

open PwOss.Backend PwOss.Sys

/-- A stream device: closed, or holding an open descriptor. -/
inductive Device where
  | closed
  | setup (fd : Nat)
  | running (fd : Nat)
  deriving DecidableEq, Repr

namespace Device

/-- The descriptors the device keeps open. -/
def fds : Device → List Nat
  | closed => []
  | setup fd | running fd => [fd]

def isClosed : Device → Bool
  | closed => true
  | _ => false

def isRunning : Device → Bool
  | running _ => true
  | _ => false

/-- The device after the I/O of a cycle left it triggered or not. -/
def setRunning (run : Bool) : Device → Device
  | closed => closed
  | setup fd | running fd => if run then running fd else setup fd

@[simp] theorem fds_setRunning (run : Bool) (d : Device) : (d.setRunning run).fds = d.fds := by
  cases d <;> cases run <;> rfl

@[simp] theorem setRunning_closed (run : Bool) : Device.closed.setRunning run = .closed := rfl

@[simp] theorem fds_closed : Device.closed.fds = [] := rfl

end Device

/-- `RebuildRequest`. -/
structure RebuildRequest where
  generation : UInt64
  config : StreamConfig
  retried : Bool
  retireFirst : Option Device
  queuedAt : Nat
  deriving DecidableEq

/-- `SwapOutcome`. -/
inductive SwapOutcome where
  | installed (dsp : Device) (config : StreamConfig)
  | aborted
  | retireAndRetry (request : RebuildRequest) (placeholder : Device)
  | failed (placeholder : Device)
  deriving DecidableEq

/-- A retry answers the order of the completion that carries it, and its dying
descriptor is still to be filled in. -/
def SwapOutcome.Answers (generation : UInt64) (queuedAt : Nat) : SwapOutcome → Prop
  | .retireAndRetry request _ =>
    request.generation = generation ∧ request.queuedAt = queuedAt ∧ request.retireFirst = none
  | _ => True

/-- `DeviceSwap`: a worker completion, with the generation of the order it
answers. -/
structure DeviceSwap where
  generation : UInt64
  outcome : SwapOutcome
  queuedAt : Nat
  answers : outcome.Answers generation queuedAt
  deriving DecidableEq

/-- `DepositOnUnwind::drop`: the completion of a task that did not finish. -/
def RebuildRequest.abort (request : RebuildRequest) : DeviceSwap :=
  ⟨request.generation, .aborted, request.queuedAt, trivial⟩

/-- `RebuildWork`: an owned command for the worker. -/
inductive RebuildWork where
  | rebuild (request : RebuildRequest)
  | retireDevice (device : Device)
  | retireSwap (swap : DeviceSwap)
  deriving DecidableEq

/-- A request whose `retire_first` was taken: the one the open runs with. -/
structure OpenRequest where
  request : RebuildRequest
  taken : request.retireFirst = none
  deriving DecidableEq

/-- `request.retire_first.take()`, less the device it returns. -/
def RebuildRequest.take (request : RebuildRequest) : OpenRequest :=
  ⟨{ request with retireFirst := none }, rfl⟩

/-- The descriptors a request owns. -/
def RebuildRequest.fds (request : RebuildRequest) : List Nat :=
  (request.retireFirst.map Device.fds).getD []

/-- The descriptors a completion owns. -/
def SwapOutcome.fds : SwapOutcome → List Nat
  | .installed dsp _ => dsp.fds
  | .aborted => []
  | .retireAndRetry request placeholder => request.fds ++ placeholder.fds
  | .failed placeholder => placeholder.fds

/-- The descriptors a command owns. -/
def RebuildWork.fds : RebuildWork → List Nat
  | .rebuild request => request.fds
  | .retireDevice device => device.fds
  | .retireSwap swap => swap.outcome.fds

/-- The descriptors of a command that may be absent. -/
def RebuildWork.optionFds (work : Option RebuildWork) : List Nat :=
  (work.map RebuildWork.fds).getD []

/-- The descriptors of a completion that may be absent. -/
def DeviceSwap.optionFds (swap : Option DeviceSwap) : List Nat :=
  (swap.map (·.outcome.fds)).getD []

/-- The states of the work slot. -/
inductive WorkState where
  | empty | full | busy | closed
  deriving DecidableEq, Repr

/-- The states of the completion mailbox. -/
inductive SlotState where
  | empty | full | busy
  deriving DecidableEq, Repr

/-- `MainEvent::FormatLost`: the publication epoch read when the loss was
recorded, and the ghost count of publications at that moment. -/
structure FormatLost where
  expectedEpoch : UInt64
  stamp : Nat
  deriving DecidableEq

/-- The fields of `Port` that rebuilds read and write. -/
structure Port where
  config : Option StreamConfig
  buffers : Bool
  dsp : Device
  rebuildPending : Bool
  generation : UInt64
  rebuildRequired : Bool

/-- Where `queue_rebuild` was called from. -/
inductive QueueSite where
  | wake
  | beforePorts
  | inPorts
  | afterPorts
  deriving DecidableEq, Repr

/-- What follows a submission on the data loop. -/
inductive AfterSubmit where
  /-- `flush_deferred_work` inside `queue_rebuild`. -/
  | flushQueue (site : QueueSite)
  /-- `flush_deferred_work` inside `poll_rebuild`. -/
  | flushPoll
  /-- `queue_port_rebuild`'s order. -/
  | queued (site : QueueSite)
  /-- `poll_rebuild_completion`'s last action before it returns `skip`. -/
  | polled (skip : Bool)
  /-- The retired device of a `Failed` completion. -/
  | failed
  deriving DecidableEq, Repr

/-- The data loop's program counter. -/
inductive DataPc where
  | idle
  /-- `try_submit`, before its EMPTY → BUSY exchange. -/
  | claim (work : RebuildWork) (next : AfterSubmit)
  /-- `try_submit`, holding BUSY. -/
  | publish (work : RebuildWork) (next : AfterSubmit)
  /-- `process_ports` entered. -/
  | ports
  /-- `poll_rebuild`, before the `swap_ready` load. -/
  | swapReady
  /-- `take_swap`, before its FULL → BUSY exchange. -/
  | takeSwap
  /-- `take_swap`, holding BUSY. -/
  | takeBusy
  /-- `poll_rebuild_completion` with the completion in hand. -/
  | apply (swap : DeviceSwap)
  /-- The `Failed` arm, before it reads the publication epoch. -/
  | stampLoss
  /-- `process_ports` after `poll_rebuild` returned `skip`. -/
  | portIo (skip : Bool)
  /-- `process_ports` after its own `queue_rebuild`. -/
  | portQueued
  /-- `queue_main_event`. -/
  | notify (event : FormatLost)
  deriving DecidableEq

/-- `rebuild_request_is_current`'s three loads. -/
inductive CurrentLoad where
  | alive | started | generation
  deriving DecidableEq, Repr

/-- `D::try_open_configure`'s result: the applied configuration and whether it
was adjusted, or an error that leaves the device closed. -/
inductive OpenResult where
  | opened (config : StreamConfig) (adjusted : Bool)
  | failed (err : Errno)
  deriving DecidableEq

/-- Which of `rebuild_task`'s two currency checks runs, with what it holds. -/
inductive CheckAt where
  | beforeOpen
  | afterOpen (dsp : Device) (res : OpenResult)
  deriving DecidableEq

/-- The worker's program counter. -/
inductive WorkerPc where
  /-- Top of `rebuild_worker_loop`, mutex free. -/
  | idle
  /-- `active` locked, before `take`'s FULL → BUSY exchange. -/
  | locked
  /-- `take`, holding BUSY. -/
  | taking
  /-- `take` returned a command; the mutex is still held. -/
  | taken (work : RebuildWork)
  /-- No command: before the WORK_CLOSED load. -/
  | checkClosed
  | exited
  /-- `active` is set; before the `stopping` load. -/
  | command (work : RebuildWork)
  /-- Destroy an owned command. -/
  | dropWork (work : RebuildWork)
  /-- `rebuild_task` entered. -/
  | task (request : RebuildRequest)
  /-- The unwind guard is armed; before `retire_first` closes. -/
  | retireFirst (request : RebuildRequest)
  | check (load : CurrentLoad) (open_ : OpenRequest) (pos : CheckAt)
  | opening (open_ : OpenRequest)
  /-- `exchange(Some swap)`, before it wins BUSY. -/
  | deposit (swap : DeviceSwap)
  | depositBusy (swap : DeviceSwap)
  /-- The command is done; `active` is still set. -/
  | finish
  deriving DecidableEq

/-- The host's calls on the main loop. -/
inductive Call where
  | start
  | pause
  | suspend
  | setFormat (config : StreamConfig)
  | releaseFormat
  | props
  | useBuffers (nonempty : Bool)
  | clear
  deriving DecidableEq

/-- The two callers of `install_device`. -/
inductive Install where
  | setFormat
  | props
  deriving DecidableEq, Repr

/-- The main loop's program counter. `drop`, `discard` and `waitIdle` carry what
the caller does next. -/
inductive MainPc where
  | idle
  /-- The call returned `res`. -/
  | ret (call : Call) (res : Int)
  | startQuery
  | startStore
  /-- `Pause` and `Suspend`: `shared.started.swap(false)`. -/
  | stopSwap (suspend : Bool)
  | stopQuery (suspend : Bool) (wasStarted : Bool)
  | restoreStarted (suspend : Bool) (wasStarted : Bool)
  | fence (caller : Install) (config : StreamConfig)
  | releaseQuery
  /-- Destroy owned devices, given by their descriptors. -/
  | drop (owned : List Nat) (next : MainPc)
  /-- `discard_swap`, before `exchange(None)` wins BUSY. -/
  | discard (next : MainPc)
  | discardBusy (next : MainPc)
  /-- `wait_idle`, with what follows `true` and `false`. -/
  | waitIdle (next : MainPc) (stopped : MainPc)
  /-- `install_device`'s `try_open_configure`; `retry` after the EBUSY retirement. -/
  | opening (caller : Install) (config : StreamConfig) (retry : Bool)
  | retireQuery (caller : Install) (config : StreamConfig)
  | swapQuery (caller : Install) (config : StreamConfig) (dsp : Device) (res : OpenResult)
  /-- `release_rebuild_takeover`, then `res`; a call that ends in the release
  reports its refusal (`strict`). -/
  | releaseTakeover (call : Call) (strict : Bool) (res : Int)
  /-- `port_set_param`'s query of the resulting config. -/
  | formatQuery (call : Call) (res : Int)
  /-- `publish_format_state`, up to its epoch advance. -/
  | publish (call : Call) (config : Option StreamConfig) (res : Int)
  | snapshot
  /-- `emit_format_lost` after a failed `store_and_rebuild` install. -/
  | emitLost
  | buffersQuery (nonempty : Bool)
  /-- `clear`, step by step. -/
  | clearStarted
  | clearClose
  | clearStopping
  | clearSlot
  | clearJoin
  | cleared
  deriving DecidableEq

/-- The published flags of the Format param. -/
inductive FormatFlags where
  | write
  | readwrite
  deriving DecidableEq, Repr

/-- One node. -/
structure Sys where
  -- `DataState`
  port : Port
  started : Bool
  takeover : Bool
  deferred : Option RebuildWork
  pendingMainEvent : Option FormatLost
  data : DataPc
  -- `NodeShared`
  alive : Bool
  sharedStarted : Bool
  sharedGeneration : UInt64
  slotState : SlotState
  slot : Option DeviceSwap
  -- `RebuildWorkSlot` and the worker
  stopping : Bool
  workState : WorkState
  workValue : Option RebuildWork
  active : Bool
  worker : WorkerPc
  -- the main loop
  main : MainPc
  epoch : UInt64
  tasks : List FormatLost
  flags : FormatFlags
  -- the kernel's descriptors
  openFds : List Nat
  nextFd : Nat
  -- ghost counters
  bumps : Nat
  publications : Nat

/-- Destroying devices frees their descriptors. -/
def Sys.closeFds (fds : List Nat) (s : Sys) : Sys :=
  { s with openFds := s.openFds.filter (· ∉ fds) }

/-- A freshly initialised node. -/
def Sys.initial : Sys where
  port :=
    { config := none, buffers := false, dsp := .closed, rebuildPending := false,
      generation := 0, rebuildRequired := false }
  started := false
  takeover := false
  deferred := none
  pendingMainEvent := none
  data := .idle
  alive := true
  sharedStarted := false
  sharedGeneration := 0
  slotState := .empty
  slot := none
  stopping := false
  workState := .empty
  workValue := none
  active := false
  worker := .idle
  main := .idle
  epoch := 0
  tasks := []
  flags := .write
  openFds := []
  nextFd := 0
  bumps := 0
  publications := 0

end PwOss.Node
