import PwOss.Node.Timing.Wake

/-
  What happens to a driving node: the commands of `node/commands.rs`, the device
  swaps of `node/rebuild.rs` and `node/ports.rs`, and the wake and `process`.

  A wake that calls the `ready` hook is two events, and the host may do anything in
  between, on the same thread: `wake` up to the call, and `readyReturned`. What a
  backend leaves of the stream comes with the event as `StreamFlags`.

  Correspondence (Rust ↔ Lean):
    `send_command` (Start, Pause, Suspend)    ↔ `Event.start`, `pause`, `suspend`
    `set_io`                                  ↔ `Event.setIo`
    `install_device`, its three closures      ↔ `Event.installFence`, `retireBusy`, `install`
    `release_format`                          ↔ `Event.releaseFormat`
    `release_rebuild_takeover`                ↔ `Event.releaseTakeover`
    `poll_rebuild_completion`                 ↔ `DataState.pollRebuildCompletion`
    `process_data_cycle`                      ↔ `DataState.processDataCycle`
    `on_wake`                                 ↔ `DataState.onWake`, `signal`,
                                                `readyReturned`
-/

namespace PwOss.Node.Timing

open PwOss.Transition

/-- What a backend operation leaves of the stream. -/
structure StreamFlags where
  running : Bool
  setupPeriod : Nat
  rebuildPending : Bool
  rebuildRequired : Bool
  deriving DecidableEq, Repr

/-- The completion that a cycle's `poll_rebuild` takes; the flag is the new device's. -/
inductive Swap where
  | installed (running : Bool)
  | aborted
  | retireAndRetry
  | failed
  | stale
  deriving DecidableEq, Repr

/-- `process_ports`: the completion it takes, and how it leaves the stream. -/
structure PortsPass where
  swap : Option Swap
  flags : StreamFlags
  deriving DecidableEq, Repr

/-- The area that `set_io` sets, `none` for NULL. -/
inductive IoArea where
  | position (area : Option Position)
  | clock (area : Option Clock)
  deriving DecidableEq, Repr

inductive Event where
  | start (configured : Bool) (flags : StreamFlags)
  | pause (flags : StreamFlags)
  | suspend
  | setIo (area : IoArea)
  | setCallbacks (hook : Option Hook)
  /-- The host writes into the areas it has set. -/
  | hostWrites (position : Position) (clock : Clock)
  | installFence
  | retireBusy
  | install (running : Bool)
  | releaseFormat
  | releaseTakeover
  /-- Any other closure on the data loop, such as the one of `port_use_buffers`. -/
  | stream (flags : StreamFlags)
  /-- `fired` tells that this wake consumed the timer's shot. -/
  | wake (fired : Bool) (read : WakeRead) (servo : Servo)
  | readyReturned
  | process (pass : PortsPass)

namespace DataState

variable (k : Kernel) (s : DataState)

def setStream (flags : StreamFlags) : DataState :=
  { s with port := { s.port with
    running := flags.running
    setupPeriod := flags.setupPeriod
    rebuildPending := flags.rebuildPending
    rebuildRequired := flags.rebuildRequired } }

/-- `port.generation.wrapping_add(1)`, with the port's pending claim set to `pending`. -/
def bumpGeneration (pending : Bool) : DataState :=
  { s with port := { s.port with
    identity := { s.port.identity with generation := s.port.identity.generation + 1 }
    rebuildPending := pending } }

/-- `reset_stream_epoch`. -/
def resetStreamEpoch : DataState :=
  { s with port := { s.port with streamWake := none, rebuildRequired := false } }

def setRunning (running : Bool) : DataState := { s with port := { s.port with running := running } }

/-- `if state.started { update_driver_wake(state) }`. -/
def updateIfStarted : DataState := if s.started then s.updateDriverWake k else s

/-! ## Commands -/

/-- Start, up to the update of the timer. -/
def startLoop (flags : StreamFlags) : DataState :=
  let s : DataState :=
    { s with clock := s.clock.map fun c => { c with delay := 0, rateDiff := 1 } }
  let s := { s.setStream flags with started := true }
  { s with following := s.nodeIsFollower }

def pause (flags : StreamFlags) : DataState :=
  let wasStarted := s.started
  let s := { s with started := false }
  let s := if wasStarted then s.setStream flags else s
  (s.updateDriverWake k).bumpGeneration true

def suspend : DataState :=
  let s := { s with started := false }
  let s := (s.invalidateDeviceWake k).updateDriverWake k
  let s := (s.setRunning false).resetStreamEpoch
  { s with port := { s.port with setupPeriod := 0 } }.bumpGeneration true

def setArea : IoArea → DataState
  | .position area => { s with position := area }
  | .clock area => { s with clock := area }

/-- The presence that `set_io` compares. -/
def ioArmed : Bool := s.clock.isSome && s.position.isSome

/-- The areas and the role that `set_io` leaves. -/
def ioSet (area : IoArea) : DataState :=
  let s := s.setArea area
  if s.started then { s with following := s.nodeIsFollower } else s

/-- `set_io` updates the timer: the role flips, or the areas become present or absent. -/
def ioMoves (area : IoArea) : Bool :=
  s.started && (s.following != (s.setArea area).nodeIsFollower ||
    s.ioArmed != (s.setArea area).ioArmed)

def setIo (area : IoArea) : DataState :=
  if s.ioMoves area then (s.ioSet area).updateDriverWake k else s.ioSet area

def hostWrites (position : Position) (clock : Clock) : DataState :=
  { s with
    position := s.position.map fun _ => position
    clock := s.clock.map fun _ => clock }

/-! ## Device swaps -/

/-- The device is swapped; `Direction::on_device_swapped` begins a new epoch. -/
def swapDevice (running : Bool) : DataState :=
  (((s.invalidateDeviceWake k).setRunning running).bumpGeneration false).resetStreamEpoch

/-- `release_format`, up to the update of the timer. -/
def dropDevice : DataState :=
  (((s.invalidateDeviceWake k).setRunning false).resetStreamEpoch).bumpGeneration true

def pollRebuildCompletion : Swap → DataState
  | .installed running => (s.swapDevice k running).updateIfStarted k
  | .failed => (s.swapDevice k false).updateIfStarted k
  | .retireAndRetry => (s.resetStreamEpoch.setRunning false).updateIfStarted k
  | .aborted => { s with port := { s.port with rebuildPending := false } }
  | .stale => s

/-! ## Cycles -/

def processPorts (pass : PortsPass) : DataState :=
  let s :=
    match pass.swap with
    | some swap => s.pollRebuildCompletion k swap
    | none => s
  s.setStream pass.flags

def processDataCycle (pass : PortsPass) : DataState :=
  if s.started = false ∨ s.position.isNone then s.discardDeviceSnapshots
  else
    let s := (s.queueRequiredRebuilds k).processPorts k pass
    let s := (s.queueRequiredRebuilds k).discardDeviceSnapshots
    if s.readyDispatching then s else s.selectNextWake k

/-- `on_wake` once `wake_cycle` has returned, to the call of the `ready` hook. -/
def signal : DataState × Option (Option Hook) → DataState
  | (s, none) => s
  | (s, some (some ⟨true⟩)) =>
    { s with readyDispatching := true, readyFrames := s.readyFrames + 1 }
  | (s, some _) => s.selectNextWake k

/-- `on_wake`, to the call of the `ready` hook. -/
def onWake (read : WakeRead) (servo : Servo) : DataState := signal k (s.wakeCycle k read servo)

/-- `on_wake`, from the return of the `ready` hook. -/
def readyReturned : DataState :=
  { s with readyDispatching := false, readyFrames := s.readyFrames - 1 }.selectNextWake k

def step : Event → Option DataState
  | .start configured flags =>
    if configured then some ((s.startLoop flags).updateDriverWake k) else some s
  | .pause flags => some (s.pause k flags)
  | .suspend => some (s.suspend k)
  | .setIo area => some (s.setIo k area)
  | .setCallbacks hook => some { s with callbacks := hook }
  | .hostWrites position clock => some (s.hostWrites position clock)
  | .installFence => some ((s.bumpGeneration true).updateIfStarted k)
  | .retireBusy => some (s.setRunning false)
  | .install running => some ((s.swapDevice k running).updateIfStarted k)
  | .releaseFormat => some ((s.dropDevice k).updateIfStarted k)
  | .releaseTakeover => some { s with port := { s.port with rebuildPending := false } }
  | .stream flags => some (s.setStream flags)
  | .wake fired read servo =>
    some ({ s with timer := if fired then 0 else s.timer }.onWake k read servo)
  | .readyReturned => if s.readyFrames = 0 then none else some (s.readyReturned k)
  | .process pass => some (s.processDataCycle k pass)

/-- A node as the factory makes it, with or without a backend's wake driver. -/
def fresh (driver : Option WakeDriver) (token : Nat) : DataState :=
  { wakeDriver := driver, port := { identity := ⟨token, 0⟩ } }

end DataState

/-- The runs of a node. -/
def system (k : Kernel) : System DataState Event where
  init s := ∃ driver token, s = DataState.fresh driver token
  step := DataState.step k

end PwOss.Node.Timing
