import Mathlib.Algebra.GroupWithZero.Nat
import PwOss.Lib.Transition
import PwOss.Sys.Errno

/-
  The wakes of a driving node, from `node/timing.rs`: the device registration, the
  timer, and the cycle that a wake runs.

  `DataState.timer` is the arm outstanding: the value that the last `settime` or
  `arm_timer` was given, and 0 when it parked the timer or the shot was consumed.
  The arm calls succeed. The clock, the registrations and the rebuild queue answer
  through a `Kernel`, by the number of calls so far. The servo is floating point:
  what it gives a cycle, and the graph period as it stretches it, come with the
  wake.

  Correspondence (Rust ↔ Lean):
    `IoArea<spa_io_position>`, `IoArea<spa_io_clock>` ↔ `Option Position`, `Option Clock`
    `WakeDriver` (`unregister_stream`)                ↔ `WakeDriver`, `unregisterStream`
    `disable_device_wake`, `invalidate_device_wake`   ↔ the same names
    `refresh_device_wake_inner`                       ↔ `refreshDeviceWakeInner`
    `driver_wake_deadline`, `watchdog_grace`,
      `watchdog_deadline`, `deadline_delay`           ↔ the same names
    `wake_is_from_previous_cycle`                     ↔ `wakeIsFromPreviousCycle`
    `arm_timer`, `set_timeout`, `set_timeout_rel`     ↔ the same names
    `select_next_wake`, `update_driver_wake`          ↔ the same names
    `drain_wake`, `wake_cycle`                        ↔ the same names
-/

namespace PwOss.Node.Timing

open PwOss.Sys

/-! ## The state -/

def u64Max : Nat := 2 ^ 64 - 1

/-- `u64::saturating_add`. -/
def satAdd64 (a b : Nat) : Nat := min (a + b) u64Max

/-- `SPA_NSEC_PER_SEC`. -/
def nsecPerSec : Nat := 1000000000

structure StreamIdentity where
  token : Nat
  generation : UInt64
  deriving DecidableEq, Repr

/-- `backend::WakeTiming`. -/
inductive WakeTiming where
  | readiness
  | notificationTime
  | observedTime
  deriving DecidableEq, Repr

inductive StreamWakeState where
  | active | reconfigure | disconnected
  deriving DecidableEq, Repr

def StreamWakeState.requiresRebuild : StreamWakeState → Bool
  | .active => false
  | .reconfigure | .disconnected => true

/-- `StreamWake`: what the timer side reads of it. -/
structure StreamWake where
  stream : StreamIdentity
  timing : WakeTiming
  /-- `clock.timestamp.monotonic_ns` -/
  timestamp : Option Nat
  state : StreamWakeState
  deriving DecidableEq, Repr

inductive WakeEvent where
  | timer
  | stream (event : StreamWake)
  deriving DecidableEq, Repr

/-- `spa_io_position`: the driver's id and target. -/
structure Position where
  clockId : Nat
  targetDuration : Nat
  /-- `target_rate.denom` -/
  targetRate : Nat
  deriving DecidableEq, Repr

/-- `spa_io_clock`; a rate is its denominator, and the rate correction is opaque. -/
structure Clock where
  id : Nat
  nsec : Nat := 0
  rate : Nat := 0
  targetRate : Nat := 0
  position : Nat := 0
  duration : Nat := 0
  delay : Int := 0
  rateDiff : Int := 1
  nextNsec : Nat := 0
  deriving DecidableEq, Repr

/-- `WakeDriver`: the stream it has registered. -/
structure WakeDriver where
  registered : Option StreamIdentity := none
  deriving DecidableEq, Repr

/-- `Port`: what the timer side reads of it. -/
structure Port where
  identity : StreamIdentity
  /-- `dsp.is_running()` -/
  running : Bool := false
  setupPeriod : Nat := 0
  rebuildPending : Bool := false
  rebuildRequired : Bool := false
  streamWake : Option StreamWake := none
  deriving DecidableEq, Repr

/-- `NodeCallbacks::hook`: the table, with its `ready` slot filled or not. -/
structure Hook where
  ready : Bool
  deriving DecidableEq, Repr

/-- `DataState`: the fields of the timer side. -/
structure DataState where
  started : Bool := false
  following : Bool := false
  position : Option Position := none
  clock : Option Clock := none
  callbacks : Option Hook := none
  /-- Without a driver the portable SPA timer wakes the node. -/
  wakeDriver : Option WakeDriver := none
  wakeFailedStream : Option StreamIdentity := none
  readyDispatching : Bool := false
  nextTime : Nat := 0
  port : Port
  /-- The arm outstanding. -/
  timer : Nat := 0
  /-- The `ready` calls that have not returned. -/
  readyFrames : Nat := 0
  -- the calls made so far
  clockReads : Nat := 0
  registrations : Nat := 0
  removals : Nat := 0
  submissions : Nat := 0
  deriving DecidableEq, Repr

/-- The answers of the system to the n-th call of each kind. -/
structure Kernel where
  /-- `try_now_ns` -/
  now : Nat → Option Nat
  registers : Nat → Bool
  unregisters : Nat → Bool
  /-- `queue_rebuild` -/
  submits : Nat → Bool

namespace DataState

variable (k : Kernel) (s : DataState)

/-- The node drives the graph. -/
def Driving : Prop :=
  s.started = true ∧ s.following = false ∧ s.position.isSome = true ∧ s.clock.isSome = true

instance : Decidable s.Driving := inferInstanceAs (Decidable (_ ∧ _))

def nodeIsFollower : Bool :=
  match s.position, s.clock with
  | some p, some c => p.clockId != c.id
  | _, _ => false

/-- The position's duration and rate, 0 without a position. -/
def target : Nat × Nat :=
  match s.position with
  | some p => (p.targetDuration, p.targetRate)
  | none => (0, 0)

/-! ## The device registration -/

def unregisterStream : DataState :=
  match s.wakeDriver with
  | none => s
  | some driver =>
    { s with
      wakeDriver := some { driver with
        registered := if k.unregisters s.removals then none else driver.registered }
      removals := s.removals + 1 }

def disableDeviceWake : DataState :=
  let s := s.unregisterStream k
  { s with port := { s.port with streamWake := none } }

def invalidateDeviceWake : DataState :=
  { s.disableDeviceWake k with wakeFailedStream := none }

/-- The stream that a wake may come from. -/
def wakeCandidate : Option StreamIdentity :=
  if s.started && !s.following && s.position.isSome && s.clock.isSome then
    if s.port.running && !s.port.rebuildPending && !s.port.rebuildRequired &&
        s.port.setupPeriod != 0 then
      some s.port.identity
    else none
  else none

/-- The new state, and whether the stream is registered. -/
def refreshDeviceWakeInner (retryFailed : Bool) : DataState × Bool :=
  match s.wakeDriver with
  | none => (s, false)
  | some driver =>
    match s.wakeCandidate with
    | none => (s.disableDeviceWake k, false)
    | some stream =>
      if s.wakeFailedStream = some stream && !retryFailed then (s, false)
      else
        if k.registers s.registrations then
          ({ s with
              wakeDriver := some { driver with registered := some stream }
              wakeFailedStream := none
              registrations := s.registrations + 1 }, true)
        else
          let s := { s with registrations := s.registrations + 1 }
          ({ s.unregisterStream k with wakeFailedStream := some stream }, false)

def refreshDeviceWake : DataState × Bool := s.refreshDeviceWakeInner k false

end DataState

/-! ## Deadlines -/

def driverWakeDeadline (started following hasPosition hasClock : Bool) (nextTime : Nat) : Nat :=
  if started && !following && hasPosition && hasClock then nextTime else 0

def watchdogGrace (duration rate : Nat) : Nat :=
  if duration = 0 ∨ rate = 0 then 0
  else min (max (duration * nsecPerSec / rate / 8) 1) u64Max

def watchdogDeadline (deadline : Nat) (deviceArmed : Bool) (duration rate : Nat) : Nat :=
  if deadline = 0 ∨ deviceArmed = false then deadline
  else satAdd64 deadline (watchdogGrace duration rate)

def wakeIsFromPreviousCycle (now deadline duration rate : Nat) : Bool :=
  if deadline = 0 ∨ duration = 0 ∨ rate = 0 then false
  else satAdd64 now (watchdogGrace duration rate) < deadline

def deadlineDelay (deadline now : Nat) : Nat := max (deadline - now) 1

/-- `advance_deadline`, for the period `stretched` that the servo's correction gives. -/
def advanceDeadline (deadline stretched : Nat) : Nat := satAdd64 deadline stretched

/-! ## The timer -/

namespace DataState

variable (k : Kernel) (s : DataState)

def tryNowNs : Option Nat × DataState :=
  (k.now s.clockReads, { s with clockReads := s.clockReads + 1 })

/-- `arm_timer`; a driver takes a relative delay. -/
def armTimer (value : Nat) (absolute : Bool) : DataState :=
  match s.wakeDriver with
  | none => { s with timer := value }
  | some _ =>
    if value = 0 ∨ absolute = false then { s with timer := value }
    else
      match s.tryNowNs k with
      | (some now, s) => { s with timer := deadlineDelay value now }
      | (none, s) => { s with timer := nsecPerSec / 100 }

/-- `set_timeout`: 0 parks the timer. -/
def setTimeout (nextTime : Nat) : DataState := s.armTimer k nextTime true

def setTimeoutRel (delay : Nat) : DataState := s.armTimer k delay false

def selectNextWake : DataState :=
  let deadline := driverWakeDeadline s.started s.following s.position.isSome s.clock.isSome
    s.nextTime
  let (s, deviceArmed) := s.refreshDeviceWake k
  s.setTimeout k (watchdogDeadline deadline deviceArmed s.target.1 s.target.2)

def updateDriverWake : DataState :=
  if s.started && !s.following && s.position.isSome then
    match (s.refreshDeviceWakeInner k true).1.tryNowNs k with
    | (some now, s) => { s with nextTime := now }.setTimeout k now
    | (none, s) => s.setTimeoutRel k (nsecPerSec / 100)
  else (s.refreshDeviceWake k).1.setTimeout k 0

end DataState

/-! ## The wake -/

inductive WakeKind where
  | timer
  | stream (timing : WakeTiming)
  deriving DecidableEq, Repr

/-- What one wake reads: `next_event` of the driver, or the timer's expirations. -/
structure WakeRead where
  nextEvent : Except Errno (Option WakeEvent)
  expired : Bool

/-- What the servo gives a cycle. -/
structure Servo where
  corr : Int
  delay : Int
  /-- The graph period, divided by the correction. -/
  stretched : Nat
  deriving DecidableEq, Repr

namespace DataState

variable (k : Kernel) (s : DataState)

def depositStreamWake (event : StreamWake) : Option DataState :=
  if s.port.identity = event.stream then
    some { s with port := { s.port with
      rebuildRequired := s.port.rebuildRequired || event.state.requiresRebuild
      streamWake := some event } }
  else none

def discardDeviceSnapshots : DataState := { s with port := { s.port with streamWake := none } }

def drainWake (read : WakeRead) : DataState × Option WakeKind :=
  match s.wakeDriver with
  | some _ =>
    match read.nextEvent with
    | .ok (some .timer) => (s.discardDeviceSnapshots, some .timer)
    | .ok (some (.stream event)) =>
      match s.depositStreamWake event with
      | some s => (s, some (.stream event.timing))
      | none => (s, none)
    | .ok none => (s, none)
    | .error _ => (s, none)
  | none =>
    if read.expired then (s.discardDeviceSnapshots, some .timer) else (s, none)

def observedWakeTimestamp : Option Nat :=
  match s.port.streamWake with
  | some event => if event.stream = s.port.identity then event.timestamp else none
  | none => none

def timingObservation (now : Nat) : WakeKind → Option Nat
  | .stream .notificationTime => some now
  | .stream .observedTime => s.observedWakeTimestamp
  | .stream .readiness | .timer => none

def queueRequiredRebuilds : DataState :=
  if s.port.rebuildRequired && !s.port.rebuildPending then
    { s with
      port := { s.port with rebuildPending := k.submits s.submissions }
      submissions := s.submissions + 1 }
  else s

/-- The deadline the wake starts from: after a stall of over a second, the present. -/
def resynced (now : Nat) : Nat := if nsecPerSec < now - s.nextTime then now else s.nextTime

/-- `nsec`, the time the cycle is published at. -/
def cycleTime (now : Nat) (kind : WakeKind) : Nat :=
  (s.timingObservation now kind).getD (s.resynced now)

/-- 10 ms after the cycle's time; the sum wraps. -/
def idleDeadline (now : Nat) (kind : WakeKind) : Nat :=
  (s.cycleTime now kind + nsecPerSec / 100) % 2 ^ 64

/-- A malformed position: a tick without a cycle. -/
def idleTick (now : Nat) (kind : WakeKind) : DataState :=
  ({ s with nextTime := s.idleDeadline now kind }.disableDeviceWake k).setTimeout k
    (s.idleDeadline now kind)

/-- The next deadline, and the clock of this cycle. -/
def driveCycle (now : Nat) (kind : WakeKind) (servo : Servo) : DataState :=
  let next := advanceDeadline (s.resynced now) servo.stretched
  { s with
    nextTime := next
    clock := s.clock.map fun c =>
      { c with
        nsec := s.cycleTime now kind
        rate := c.targetRate
        position := (c.position + c.duration) % 2 ^ 64
        duration := s.target.1
        delay := servo.delay
        rateDiff := servo.corr
        nextNsec := next } }

/-- `wake_cycle` once the clock has been read: `some` carries the `ready` hook. -/
def wakeCycleAt (now : Nat) (kind : WakeKind) (servo : Servo) :
    DataState × Option (Option Hook) :=
  if wakeIsFromPreviousCycle now s.nextTime s.target.1 s.target.2 then
    (s.discardDeviceSnapshots.selectNextWake k, none)
  else if s.target.1 = 0 ∨ s.target.2 = 0 then (s.idleTick k now kind, none)
  else (s.driveCycle now kind servo, some s.callbacks)

def wakeCycle (read : WakeRead) (servo : Servo) : DataState × Option (Option Hook) :=
  match s.drainWake read with
  | (s, none) => (s.selectNextWake k, none)
  | (s, some kind) =>
    if s.started = false ∨ s.following = true then (s.selectNextWake k, none)
    else if s.position.isNone ∨ s.clock.isNone then (s.selectNextWake k, none)
    else
      match (s.queueRequiredRebuilds k).tryNowNs k with
      | (none, s) => ((s.disableDeviceWake k).setTimeoutRel k (nsecPerSec / 100), none)
      | (some now, s) => s.wakeCycleAt k now kind servo

end DataState

end PwOss.Node.Timing
