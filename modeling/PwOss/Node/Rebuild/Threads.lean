import PwOss.Node.Rebuild.State

/-
  The steps of the three threads, and the node as a transition system.

  Correspondence (Rust ↔ Lean):
    `process.rs` `queue_required_rebuilds`       ↔ `Sys.queueRequiredRebuilds`
    `worker.rs` `queue_rebuild`                  ↔ `Sys.queueRebuild`
    `worker.rs` `queue_port_rebuild`             ↔ `Sys.queuePortRebuild`
    `worker.rs` `try_submit`                     ↔ `DataPc.claim`, `DataPc.publish`
    `worker.rs` `submit_or_defer_to`             ↔ `Sys.submitted`, `Sys.returned`
    `rebuild.rs` `poll_rebuild`                  ↔ `Sys.pollRebuild`, `DataPc.swapReady`
    `rebuild.rs` `poll_rebuild_completion`       ↔ `Sys.pollRebuildCompletion`
    `worker.rs` `rebuild_worker_loop`, `rebuild_task` ↔ `workerStep`
    `rebuild.rs` `install_device`, `store_and_rebuild`,
    `ports.rs` `release_format`, `port_set_param`,
    `commands.rs` `send_command`, `factory.rs` `clear` ↔ `mainStep`

  What the host, the kernel and the device decide is a `Reading` of the step: a
  loop that refuses a call, an open that fails or panics, a cycle that latches
  `rebuild_required`. A closure that the main loop runs on the data loop is one
  step, enabled between two data-loop cycles.
-/

namespace PwOss.Node

open PwOss.Backend PwOss.Sys PwOss.Transition

/-- What the environment decides in one step. -/
structure Reading where
  /-- The loop accepted the closure or the task. -/
  accepted : Bool := true
  /-- `D::try_open_configure`'s result. -/
  result : OpenResult := .failed .eio
  /-- The open, or the close of `retire_first`, panicked. -/
  panics : Bool := false
  /-- `process_ports` skips the ports of a freewheeling graph. -/
  freewheel : Bool := false
  /-- The port's io area is set. -/
  io : Bool := true
  /-- `rebuild_after_start`, or a retune that the driver refused. -/
  rebuild : Bool := false
  /-- The cycle latched `rebuild_required`. -/
  latched : Bool := false
  /-- The cycle ran `reset_stream_epoch`. -/
  epochReset : Bool := false
  /-- The cycle left the device triggered. -/
  running : Bool := false

/-! ## Data loop -/

/-- What a cycle's device I/O leaves of the port. -/
def Port.cycle (r : Reading) (p : Port) : Port :=
  { p with
    dsp := p.dsp.setRunning r.running
    rebuildRequired := (p.rebuildRequired && !r.epochReset) || r.latched }

namespace Sys

/-- The end of `process_data_cycle`: take the pending main-loop event. -/
def finishProcess (s : Sys) : Sys :=
  match s.pendingMainEvent with
  | none => { s with data := .idle }
  | some event => { s with pendingMainEvent := none, data := .notify event }

/-- `queue_rebuild` returned to its caller. -/
def resume (site : QueueSite) (s : Sys) : Sys :=
  match site with
  | .wake => { s with data := .idle }
  | .beforePorts => { s with data := .ports }
  | .inPorts => { s with data := .portQueued }
  | .afterPorts => s.finishProcess

/-- `queue_port_rebuild`, up to its submission. -/
def queuePortRebuild (site : QueueSite) (s : Sys) : Sys :=
  match s.port.config with
  | none => s.resume site
  | some config =>
    { s with
      data := .claim
        (.rebuild
          { generation := s.port.generation, config, retried := false, retireFirst := none,
            queuedAt := s.bumps })
        (.queued site) }

def queueRebuild (site : QueueSite) (s : Sys) : Sys :=
  if s.takeover then s.resume site
  else
    match s.deferred with
    | some work => { s with deferred := none, data := .claim work (.flushQueue site) }
    | none => s.queuePortRebuild site

def queueRequiredRebuilds (site : QueueSite) (s : Sys) : Sys :=
  if s.port.rebuildRequired && !s.port.rebuildPending then s.queueRebuild site
  else s.resume site

/-- `poll_rebuild`, up to the `swap_ready` load. -/
def pollRebuild (s : Sys) : Sys :=
  if s.takeover then { s with data := .portIo true }
  else
    match s.deferred with
    | some work => { s with deferred := none, data := .claim work .flushPoll }
    | none => { s with data := .swapReady }

/-- The submission succeeded: what the caller does next. -/
def submitted (next : AfterSubmit) (s : Sys) : Sys :=
  match next with
  | .flushQueue site => s.queuePortRebuild site
  | .flushPoll => { s with data := .swapReady }
  | .queued site => { s with port := { s.port with rebuildPending := true } }.resume site
  | .polled skip => { s with data := .portIo skip }
  | .failed => { s with data := .stampLoss }

/-- The slot was occupied and returned `work`: the caller retains it. -/
def returned (work : RebuildWork) (next : AfterSubmit) (s : Sys) : Sys :=
  match next with
  | .flushQueue site => { s with deferred := some work }.resume site
  | .flushPoll => { s with deferred := some work, data := .portIo true }
  | .queued site =>
    { s with deferred := some work, port := { s.port with rebuildPending := true } }.resume site
  | .polled skip => { s with deferred := some work, data := .portIo skip }
  | .failed => { s with deferred := some work, data := .stampLoss }

/-- The generation bump of a port, with the store that publishes it. -/
def bump (s : Sys) : Sys :=
  { s with
    port := { s.port with generation := s.port.generation + 1 }
    sharedGeneration := s.port.generation + 1
    bumps := s.bumps + 1 }

/-- `poll_rebuild_completion` with the completion in hand, up to the submission
it ends in. -/
def pollRebuildCompletion (swap : DeviceSwap) (s : Sys) : Sys :=
  if swap.generation ≠ s.port.generation then
    -- superseded: the whole message goes to the worker
    { s with data := .claim (.retireSwap swap) (.polled s.port.rebuildPending) }
  else
    match swap.outcome with
    | .installed dsp config =>
      { s with
        port :=
          { s.port with
            dsp, config := some config, rebuildPending := false, rebuildRequired := false }
        data := .claim (.retireDevice s.port.dsp) (.polled false) }.bump
    | .aborted =>
      { s with port := { s.port with rebuildPending := false }, data := .portIo true }
    | .retireAndRetry request placeholder =>
      { s with
        port := { s.port with dsp := placeholder, rebuildRequired := false }
        data :=
          .claim (.rebuild { request with retireFirst := some s.port.dsp }) (.polled true) }
    | .failed placeholder =>
      { s with
        port :=
          { s.port with
            dsp := placeholder, config := none, rebuildPending := false,
            rebuildRequired := false }
        data := .claim (.retireDevice s.port.dsp) .failed }.bump

/-- `process_ports` past `poll_rebuild`: the port asks for a rebuild of its own. -/
def portAsksRebuild (r : Reading) (s : Sys) : Bool :=
  s.port.config.isSome && s.port.buffers && r.io && (s.port.dsp.isClosed || r.rebuild)

/-- The rest of the cycle's I/O and the second `queue_required_rebuilds`. -/
def finishPorts (r : Reading) (s : Sys) : Sys :=
  { s with port := s.port.cycle r }.queueRequiredRebuilds .afterPorts

end Sys

/-- One step of a data-loop cycle. -/
def dataStep (r : Reading) (s : Sys) : Option Sys :=
  match s.data with
  | .idle => none
  | .claim work next =>
    some (if s.workState = .empty then { s with workState := .busy, data := .publish work next }
      else s.returned work next)
  | .publish work next =>
    some ({ s with workValue := some work, workState := .full }.submitted next)
  | .ports => some (if r.freewheel then s.finishPorts r else s.pollRebuild)
  | .swapReady =>
    some (if s.slotState = .full then { s with data := .takeSwap }
      else { s with data := .portIo s.port.rebuildPending })
  | .takeSwap =>
    some (if s.slotState = .full then { s with slotState := .busy, data := .takeBusy }
      else { s with data := .portIo s.port.rebuildPending })
  | .takeBusy =>
    match s.slot with
    | some swap => some { s with slot := none, slotState := .empty, data := .apply swap }
    | none => some { s with slotState := .empty, data := .portIo s.port.rebuildPending }
  | .apply swap => some (s.pollRebuildCompletion swap)
  | .stampLoss =>
    some { s with pendingMainEvent := some ⟨s.epoch, s.publications⟩, data := .portIo true }
  | .portIo skip =>
    some (if !skip && s.portAsksRebuild r then s.queueRebuild .inPorts else s.finishPorts r)
  | .portQueued => some (s.finishPorts r)
  | .notify event =>
    some { s with tasks := if r.accepted then s.tasks ++ [event] else s.tasks, data := .idle }

/-! ## Worker -/

/-- The value one of the currency loads must read. -/
def CurrentLoad.holds (load : CurrentLoad) (request : RebuildRequest) (s : Sys) : Bool :=
  match load with
  | .alive => s.alive
  | .started => s.sharedStarted
  | .generation => s.sharedGeneration == request.generation

/-- `rebuild_task`'s outcome once its second currency check passed. -/
def OpenRequest.complete (o : OpenRequest) (dsp : Device) (res : OpenResult) : DeviceSwap :=
  match res with
  | .opened config _ =>
    ⟨o.request.generation, .installed dsp config, o.request.queuedAt, trivial⟩
  | .failed err =>
    if err = .ebusy ∧ o.request.retried = false then
      ⟨o.request.generation, .retireAndRetry { o.request with retried := true } dsp,
        o.request.queuedAt, rfl, rfl, o.taken⟩
    else ⟨o.request.generation, .failed dsp, o.request.queuedAt, trivial⟩

/-- One step of the rebuild worker. -/
def workerStep (r : Reading) (s : Sys) : Option Sys :=
  match s.worker with
  | .idle => some { s with worker := .locked }
  | .locked =>
    some (if s.workState = .full then { s with workState := .busy, worker := .taking }
      else { s with worker := .checkClosed })
  | .taking =>
    match s.workValue with
    | some work => some { s with workValue := none, workState := .empty, worker := .taken work }
    | none => some { s with workState := .empty, worker := .checkClosed }
  | .taken work => some { s with active := true, worker := .command work }
  | .checkClosed =>
    some { s with worker := if s.workState = .closed then .exited else .idle }
  | .exited => none
  | .command work =>
    if s.stopping then some { s with worker := .dropWork work }
    else
      match work with
      | .rebuild request => some { s with worker := .task request }
      | .retireDevice _ | .retireSwap _ => some { s with worker := .dropWork work }
  | .dropWork work => some { s.closeFds work.fds with worker := .finish }
  | .task request =>
    some { s with worker := if s.alive then .retireFirst request else .dropWork (.rebuild request) }
  | .retireFirst request =>
    match request.retireFirst with
    | none => some { s with worker := .check .alive request.take .beforeOpen }
    | some old =>
      some { s.closeFds old.fds with
        worker :=
          if r.panics then .deposit request.abort
          else .check .alive request.take .beforeOpen }
  | .check load o pos =>
    if load.holds o.request s then
      match load, pos with
      | .alive, _ => some { s with worker := .check .started o pos }
      | .started, _ => some { s with worker := .check .generation o pos }
      | .generation, .beforeOpen => some { s with worker := .opening o }
      | .generation, .afterOpen dsp res => some { s with worker := .deposit (o.complete dsp res) }
    else
      match pos with
      | .beforeOpen => some { s with worker := .deposit o.request.abort }
      | .afterOpen dsp _ => some { s.closeFds dsp.fds with worker := .deposit o.request.abort }
  | .opening o =>
    if r.panics then some { s with worker := .deposit o.request.abort }
    else
      match r.result with
      | .opened _ _ =>
        some { s with
          openFds := s.nextFd :: s.openFds
          nextFd := s.nextFd + 1
          worker := .check .alive o (.afterOpen (.setup s.nextFd) r.result) }
      | .failed _ =>
        some { s with worker := .check .alive o (.afterOpen .closed r.result) }
  | .deposit swap =>
    if s.slotState = .busy then none
    else some { s with slotState := .busy, worker := .depositBusy swap }
  | .depositBusy swap =>
    some { s with
      slot := some swap
      slotState := .full
      worker :=
        match s.slot with
        | none => .finish
        | some prev => .dropWork (.retireSwap prev) }
  | .finish => some { s with active := false, worker := .idle }

/-! ## Main loop -/

/-- The mutex around `active` is held by the worker. -/
def Sys.mutexHeld (s : Sys) : Bool :=
  match s.worker with
  | .locked | .taking | .taken _ => true
  | _ => false

/-- The host call that `install_device` serves. -/
def Install.call (config : StreamConfig) : Install → Call
  | .setFormat => .setFormat config
  | .props => .props

/-- `install_device` returned `res`. -/
def Install.done (caller : Install) (config : StreamConfig) (res : Int) : MainPc :=
  match caller with
  | .setFormat => .formatQuery (.setFormat config) res
  | .props => if res < 0 then .emitLost else .ret .props 0

/-- `install_device`'s result for an open that ran. -/
def OpenResult.res : OpenResult → Int
  | .opened _ adjusted => if adjusted then 1 else 0
  | .failed err => err.neg

/-- The configuration an install commits. -/
def OpenResult.config? : OpenResult → Option StreamConfig
  | .opened config _ => some config
  | .failed _ => none

/-- What a call does after `release_rebuild_takeover`. -/
def Call.released (call : Call) (res : Int) : MainPc :=
  match call with
  | .suspend => .publish .suspend none res
  | .setFormat config => .formatQuery (.setFormat config) res
  | .releaseFormat => if res = 0 then .formatQuery .releaseFormat 0 else .ret .releaseFormat res
  | .props => if res < 0 then .emitLost else .ret .props 0
  | call => .ret call res

/-- The takeover sequence of `install_device`, `release_format`, `Pause` and
`Suspend`: destroy what the closure handed out, drain the mailbox, wait for the
worker, drain what it deposited meanwhile. -/
def MainPc.takeover (owned : List Nat) (next stopped : MainPc) : MainPc :=
  .drop owned (.discard (.waitIdle (.discard next) stopped))

namespace Sys

/-- `-EIO`: the loop did not accept the call. -/
def refuse (call : Call) (s : Sys) : Sys :=
  { s with main := .ret call Errno.eio.neg }

/-- The lease a main-loop closure takes: the retained command is handed out, the
port claims the pending flag and its generation moves on. -/
def lease (s : Sys) : Sys :=
  { s with
    takeover := true
    deferred := none
    port := { s.port with rebuildPending := true } }.bump

/-- `take_suspended_device` and the port half of `release_format`. -/
def unconfigure (s : Sys) : Sys :=
  { s with
    port :=
      { s.port with dsp := .closed, config := none, buffers := false, rebuildRequired := false } }

/-- `publish_format_state`: the flags follow `config`, and the epoch advances. -/
def publishFormat (config : Option StreamConfig) (s : Sys) : Sys :=
  { s with
    flags := if config.isSome then .readwrite else .write
    epoch := s.epoch + 1
    publications := s.publications + 1 }

end Sys

/-- One step of the main loop's current call. -/
def mainStep (r : Reading) (s : Sys) : Option Sys :=
  match s.main with
  | .idle | .cleared => none
  | .ret _ _ => some { s with main := .idle }
  | .startQuery =>
    if !r.accepted then some (s.refuse .start)
    else if s.data ≠ .idle then none
    else if s.port.config.isSome && s.port.buffers then
      some { s with port := s.port.cycle r, started := true, main := .startStore }
    else some (s.refuse .start)
  | .startStore => some { s with sharedStarted := true, main := .ret .start 0 }
  | .stopSwap suspend =>
    some { s with sharedStarted := false, main := .stopQuery suspend s.sharedStarted }
  | .stopQuery suspend wasStarted =>
    if !r.accepted then some { s with main := .restoreStarted suspend wasStarted }
    else if s.data ≠ .idle then none
    else if suspend then
      some { s.unconfigure.lease with
        started := false
        main := .takeover (RebuildWork.optionFds s.deferred)
          (.drop s.port.dsp.fds (.releaseTakeover .suspend true 0))
          (.discard (.drop s.port.dsp.fds (.releaseTakeover .suspend true Errno.eio.neg))) }
    else
      some { ({ s with port := s.port.cycle r } : Sys).lease with
        started := false
        main := .takeover (RebuildWork.optionFds s.deferred) (.releaseTakeover .pause true 0)
          (.releaseTakeover .pause false Errno.eio.neg) }
  | .restoreStarted suspend wasStarted =>
    some ({ s with sharedStarted := wasStarted }.refuse (if suspend then .suspend else .pause))
  | .fence caller config =>
    if !r.accepted then some { s with main := caller.done config Errno.eio.neg }
    else if s.data ≠ .idle then none
    else
      some { s.lease with
        main := .takeover (RebuildWork.optionFds s.deferred) (.opening caller config false)
          (.releaseTakeover (caller.call config) false Errno.eio.neg) }
  | .releaseQuery =>
    if !r.accepted then some (s.refuse .releaseFormat)
    else if s.data ≠ .idle then none
    else
      some { s.unconfigure.lease with
        main := .takeover (s.port.dsp.fds ++ RebuildWork.optionFds s.deferred)
          (.releaseTakeover .releaseFormat true 0)
          (.releaseTakeover .releaseFormat false Errno.eio.neg) }
  | .drop owned next => some { s.closeFds owned with main := next }
  | .discard next =>
    if s.slotState = .busy then none
    else some { s with slotState := .busy, main := .discardBusy next }
  | .discardBusy next =>
    some { s with
      slot := none, slotState := .empty, main := .drop (DeviceSwap.optionFds s.slot) next }
  | .waitIdle next stopped =>
    if s.mutexHeld then none
    else if !s.active && s.workState = .empty then some { s with main := next }
    else if s.stopping then some { s with main := stopped }
    else none
  | .opening caller config retry =>
    match r.result with
    | .opened _ _ =>
      some { s with
        openFds := s.nextFd :: s.openFds
        nextFd := s.nextFd + 1
        main := .swapQuery caller config (.setup s.nextFd) r.result }
    | .failed err =>
      if err = .ebusy ∧ retry = false then some { s with main := .retireQuery caller config }
      else some { s with main := .swapQuery caller config .closed r.result }
  | .retireQuery caller config =>
    if !r.accepted then
      some { s with main := .releaseTakeover (caller.call config) false Errno.eio.neg }
    else if s.data ≠ .idle then none
    else
      some { s with
        port := { s.port with dsp := .closed }
        main := .drop s.port.dsp.fds (.opening caller config true) }
  | .swapQuery caller config dsp res =>
    if !r.accepted then
      some { s with
        main := .drop dsp.fds (.releaseTakeover (caller.call config) false Errno.eio.neg) }
    else if s.data ≠ .idle then none
    else
      some { ({ s with
          port :=
            { s.port with
              dsp, config := res.config?, rebuildPending := false, rebuildRequired := false }
          takeover := false } : Sys).bump with
        main := .drop s.port.dsp.fds (caller.done config res.res) }
  | .releaseTakeover call strict res =>
    if !r.accepted then
      some { s with main := call.released (if strict then Errno.eio.neg else res) }
    else if s.data ≠ .idle then none
    else
      some { s with
        takeover := false
        port := { s.port with rebuildPending := false }
        main := call.released res }
  | .formatQuery call res =>
    if !r.accepted then some (s.refuse call)
    else if s.data ≠ .idle then none
    else some { s with main := .publish call s.port.config res }
  | .publish call config res => some { s.publishFormat config with main := .ret call res }
  | .snapshot =>
    if !r.accepted then some (s.refuse .props)
    else if s.data ≠ .idle then none
    else
      match s.port.dsp.isRunning, s.port.config with
      | true, some config => some { s with main := .fence .props config }
      | _, _ => some { s with main := .ret .props 0 }
  | .emitLost => some { s.publishFormat none with main := .ret .props 0 }
  | .buffersQuery nonempty =>
    if !r.accepted then some (s.refuse (.useBuffers nonempty))
    else if s.data ≠ .idle then none
    else
      some { s with
        port := { s.port.cycle r with buffers := nonempty }
        main := .ret (.useBuffers nonempty) 0 }
  | .clearStarted => some { s with sharedStarted := false, main := .clearClose }
  | .clearClose => some { s with alive := false, main := .clearStopping }
  | .clearStopping => some { s with stopping := true, main := .clearSlot }
  | .clearSlot =>
    match s.workState with
    | .empty | .closed => some { s with workState := .closed, main := .clearJoin }
    | .full | .busy => none
  | .clearJoin => if s.worker = .exited then some { s with main := .discard .cleared } else none

/-- The first step of a call. -/
def Call.enter : Call → MainPc
  | .start => .startQuery
  | .pause => .stopSwap false
  | .suspend => .stopSwap true
  | .setFormat config => .fence .setFormat config
  | .releaseFormat => .releaseQuery
  | .props => .snapshot
  | .useBuffers nonempty => .buffersQuery nonempty
  | .clear => .clearStarted

/-- `deliver_on_main` of the oldest queued loss. -/
def Sys.deliver (s : Sys) : Option Sys :=
  match s.tasks with
  | [] => none
  | event :: rest =>
    some (if s.alive && s.epoch == event.expectedEpoch then
        { s with tasks := rest }.publishFormat none
      else { s with tasks := rest })

/-! ## The node -/

/-- The events of the node: a wake or a process call that passed its gates, one
step of each thread, a host call, and the delivery of a queued loss. -/
inductive Event where
  | wake (ready : Bool)
  | process (ready : Bool)
  | data (r : Reading)
  | worker (r : Reading)
  | call (c : Call)
  | main (r : Reading)
  | deliver

def step (s : Sys) : Event → Option Sys
  | .wake ready =>
    if s.data = .idle ∧ s.main ≠ .cleared then
      some (if s.started && ready then s.queueRequiredRebuilds .wake else s)
    else none
  | .process ready =>
    if s.data = .idle ∧ s.main ≠ .cleared then
      some (if s.started && ready then s.queueRequiredRebuilds .beforePorts else s)
    else none
  | .data r => dataStep r s
  | .worker r => workerStep r s
  | .call c => if s.main = .idle then some { s with main := c.enter } else none
  | .main r => mainStep r s
  | .deliver => if s.main = .idle then s.deliver else none

/-- The node as a transition system. -/
def node : System Sys Event where
  init s := s = Sys.initial
  step := step

end PwOss.Node
