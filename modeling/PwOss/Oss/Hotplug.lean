import PwOss.Lib.Transition
import PwOss.Sys.Kqueue

/-
  The hotplug monitor of `freebsd_oss/event.rs`: a kqueue that outlives its devd
  connections, with a one-shot timer to connect again.

  `knotes` and `timer` are the kernel's side of the queue. Closing a socket removes its
  knotes, a connection is never given a descriptor that is open, and a read that returns
  the timer's event has consumed the shot. All other answers, and the batch, are arbitrary.

  What is proved:
    1. `handle_watched`: an event of a batch leaves the monitor watched, or ends it; and the
       event of the timer makes it watched.
    2. `hotplug_never_dead`: while the monitor is alive its socket is watched or the timer
       runs, and the delay lies between one and thirty seconds.

  Correspondence (Rust ↔ Lean):
    `HotplugMonitor`                          ↔ `HotplugMonitor`
    `DevdSocket::open`                        ↔ `connects`
    `open`, `install_socket`, `arm_retry`,
      `reconnect`, `handle_socket_loss`       ↔ the same names
    `take_retry_delay`                        ↔ `nextRetryDelay`, in `armRetry`
    `DevdSocket::read_event`                  ↔ `Received`
    `read_event`                              ↔ `handle`, `readBatch`, `readEvent`
    `kevent_read_error_is_fatal`              ↔ the same name
-/

namespace PwOss.Oss

open PwOss.Sys PwOss.Transition

/-! ## The monitor -/

/-- `DEVD_RETRY_TIMER_IDENT`. -/
def devdRetryTimerIdent : Nat := 2

/-- `DEVD_RETRY_MIN_MS`, `DEVD_RETRY_MAX_MS`. -/
def devdRetryMinMs : Nat := 1000
def devdRetryMaxMs : Nat := 30000

structure HotplugMonitor where
  /-- The descriptor of the devd connection. -/
  socket : Option Int := none
  socketKey : Nat := 0
  retryDelayMs : Nat := devdRetryMinMs
  /-- The read knotes in the queue: the descriptor and the key. -/
  knotes : List (Int × Nat) := []
  /-- The retry timer runs. -/
  timer : Bool := false
  deriving DecidableEq, Repr

/-- What receiving from devd gives. -/
inductive Received where
  | eof
  | line (text : String)
  /-- `WouldBlock`, `Interrupted`. -/
  | again
  | failed
  deriving DecidableEq, Repr

/-- `DevdSocket::read_event`: whether the connection is alive. -/
def Received.alive : Received → Bool
  | .line _ | .again => true
  | .eof | .failed => false

/-- What the system answers to the calls that one event leads to. -/
structure HotplugAnswers where
  /-- The descriptor of a new connection. -/
  connect : Option Int
  install : Except ErrnoCode Unit
  arm : Except ErrnoCode Unit
  received : Received

/-- `saturating_mul(2).min(DEVD_RETRY_MAX_MS)`, of a `u32`. -/
def nextRetryDelay (delay : Nat) : Nat := min (min (delay * 2) (2 ^ 32 - 1)) devdRetryMaxMs

namespace HotplugMonitor

variable (m : HotplugMonitor)

/-- The monitor drops its socket, if it has one. -/
def closeSocket : HotplugMonitor :=
  { m with
    socket := none
    knotes :=
      match m.socket with
      | some fd => m.knotes.filter fun knote => knote.1 ≠ fd
      | none => m.knotes }

/-- The descriptor of a new connection: none that is open. -/
def connects (answer : Option Int) : Option Int := answer.filter fun fd => m.socket ≠ some fd

def installSocket (fd : Int) (added : Except ErrnoCode Unit) :
    Except ErrnoCode Unit × HotplugMonitor :=
  let m := { m with socketKey := max ((m.socketKey + 1) % 2 ^ 64) 1 }
  match added with
  | .error errno => (.error errno, m)
  | .ok () =>
    (.ok (),
      { m.closeSocket with
        socket := some fd
        retryDelayMs := devdRetryMinMs
        knotes := (fd, m.socketKey) :: m.closeSocket.knotes.filter fun knote => knote.1 ≠ fd })

def armRetry (armed : Except ErrnoCode Unit) : Except ErrnoCode Unit × HotplugMonitor :=
  let m := { m with retryDelayMs := nextRetryDelay m.retryDelayMs }
  match armed with
  | .error errno => (.error errno, m)
  | .ok () => (.ok (), { m with timer := true })

/-- `reconnect`: whether it is connected again. -/
def reconnect (a : HotplugAnswers) : Except ErrnoCode Bool × HotplugMonitor :=
  match m.connects a.connect with
  | none => ((m.armRetry a.arm).1.map fun _ => false, (m.armRetry a.arm).2)
  | some fd =>
    match m.installSocket fd a.install with
    | (.ok (), m) => (.ok true, m)
    | (.error _, m) =>
      ((m.closeSocket.armRetry a.arm).1.map fun _ => false, (m.closeSocket.armRetry a.arm).2)

/-- `handle_socket_loss`: whether the timer runs. -/
def handleSocketLoss (a : HotplugAnswers) : Bool × HotplugMonitor :=
  ((m.closeSocket.armRetry a.arm).1.isOk, (m.closeSocket.armRetry a.arm).2)

/-- `open`, of a queue that is there. -/
def openMonitor (a : HotplugAnswers) : Except ErrnoCode HotplugMonitor :=
  let m : HotplugMonitor := {}
  let (installed, m) :=
    match a.connect with
    | some fd =>
      match m.installSocket fd a.install with
      | (.ok (), m) => (true, m)
      | (.error _, m) => (false, m)
    | none => (false, m)
  if installed then .ok m
  else
    match m.armRetry a.arm with
    | (.ok (), m) => .ok m
    | (.error errno, _) => .error errno

/-! ## Reads -/

def matchesSocket (event : Kevent) : Bool :=
  match m.socket with
  | some fd =>
    event.filter == evfiltRead && event.ident == toUintptr fd && event.udata == m.socketKey
  | none => false

end HotplugMonitor

def matchesRetryTimer (event : Kevent) : Bool :=
  event.filter == evfiltTimer && event.ident == devdRetryTimerIdent

/-- The loop of `read_event`: the monitor, and what it reports. -/
structure HotplugPass where
  monitor : HotplugMonitor
  reconnected : Bool := false
  /-- The lines received, the first first. -/
  lines : List String := []

namespace HotplugPass

variable (p : HotplugPass)

/-- One event: whether the queue is alive. -/
def handle (event : Kevent) (a : HotplugAnswers) : Bool × HotplugPass :=
  if event.isError then
    if p.monitor.matchesSocket event then
      ((p.monitor.handleSocketLoss a).1, { p with monitor := (p.monitor.handleSocketLoss a).2 })
    else if matchesRetryTimer event then
      ((p.monitor.armRetry a.arm).1.isOk, { p with monitor := (p.monitor.armRetry a.arm).2 })
    else (true, p)
  else if matchesRetryTimer event then
    match p.monitor.reconnect a with
    | (.ok restored, monitor) =>
      (true, { p with monitor, reconnected := p.reconnected || restored })
    | (.error _, monitor) => (false, { p with monitor })
  else if p.monitor.matchesSocket event then
    let p :=
      match a.received with
      | .line text => { p with lines := p.lines ++ [text] }
      | _ => p
    if a.received.alive then (true, p)
    else ((p.monitor.handleSocketLoss a).1, { p with monitor := (p.monitor.handleSocketLoss a).2 })
  else (true, p)

def readBatch : List (Kevent × HotplugAnswers) → HotplugPass → Bool × HotplugPass
  | [], p => (true, p)
  | (event, a) :: rest, p =>
    match p.handle event a with
    | (true, p) => readBatch rest p
    | (false, p) => (false, p)

end HotplugPass

def keventReadErrorIsFatal (errno : ErrnoCode) : Bool := errno == ebadfCode

/-- `read_event`, of what the kevent call returns: whether the queue is alive. -/
def HotplugMonitor.readEvent (m : HotplugMonitor)
    (read : Except ErrnoCode (List (Kevent × HotplugAnswers))) : Bool × HotplugPass :=
  match read with
  | .error errno => (!keventReadErrorIsFatal errno, { monitor := m })
  | .ok batch =>
    -- The kernel has consumed the timer's shot.
    let fired := batch.any fun entry => matchesRetryTimer entry.1
    HotplugPass.readBatch batch { monitor := { m with timer := m.timer && !fired } }

/-! ## Watched monitors -/

namespace HotplugMonitor

variable {m : HotplugMonitor}

/-- The socket's knote is in the queue, under the current key. -/
def Installed (m : HotplugMonitor) : Prop :=
  ∃ fd, m.socket = some fd ∧ (fd, m.socketKey) ∈ m.knotes

/-- Something will wake the monitor. -/
def Watched (m : HotplugMonitor) : Prop := m.Installed ∨ m.timer = true

def DelayWithin (m : HotplugMonitor) : Prop :=
  devdRetryMinMs ≤ m.retryDelayMs ∧ m.retryDelayMs ≤ devdRetryMaxMs

/-- A new socket is watched, and the delay starts over. -/
theorem installSocket_ok (m : HotplugMonitor) (fd : Int) (added : Except ErrnoCode Unit)
    (h : (m.installSocket fd added).1 = .ok ()) :
    (m.installSocket fd added).2.Installed ∧
      (m.installSocket fd added).2.retryDelayMs = devdRetryMinMs := by
  unfold installSocket at h ⊢
  cases added with
  | error errno => cases h
  | ok _ => exact ⟨⟨fd, rfl, List.mem_cons_self ..⟩, rfl⟩

theorem installSocket_delay (h : m.DelayWithin) (fd : Int) (added : Except ErrnoCode Unit) :
    (m.installSocket fd added).2.DelayWithin := by
  unfold installSocket
  cases added with
  | error errno => exact h
  | ok _ => exact ⟨Nat.le_refl _, (by decide : devdRetryMinMs ≤ devdRetryMaxMs)⟩

theorem armRetry_timer {armed : Except ErrnoCode Unit} (h : (m.armRetry armed).1.isOk = true) :
    (m.armRetry armed).2.timer = true := by
  unfold armRetry at h ⊢
  cases armed with
  | error errno => cases h
  | ok _ => rfl

/-- The delay doubles, up to the maximum. -/
theorem armRetry_delay (h : m.DelayWithin) (armed : Except ErrnoCode Unit) :
    (m.armRetry armed).2.DelayWithin := by
  have hnext : devdRetryMinMs ≤ nextRetryDelay m.retryDelayMs ∧
      nextRetryDelay m.retryDelayMs ≤ devdRetryMaxMs := by
    obtain ⟨hmin, -⟩ := h
    unfold nextRetryDelay
    unfold devdRetryMinMs devdRetryMaxMs at *
    omega
  unfold armRetry
  cases armed with
  | error errno => exact hnext
  | ok _ => exact hnext

theorem handleSocketLoss_timer {a : HotplugAnswers} (h : (m.handleSocketLoss a).1 = true) :
    (m.handleSocketLoss a).2.timer = true :=
  armRetry_timer h

theorem handleSocketLoss_delay (h : m.DelayWithin) (a : HotplugAnswers) :
    (m.handleSocketLoss a).2.DelayWithin :=
  armRetry_delay (m := m.closeSocket) h a.arm

theorem isOk_of_map {α β : Type} {x : Except ErrnoCode α} {f : α → β}
    (h : (x.map f).isOk = true) : x.isOk = true := by
  cases x with
  | error errno => cases h
  | ok value => rfl

/-- After a try to connect the socket is watched, or the timer runs. -/
theorem reconnect_watched {a : HotplugAnswers} (h : (m.reconnect a).1.isOk = true) :
    (m.reconnect a).2.Watched := by
  unfold reconnect at h ⊢
  cases hconnect : m.connects a.connect with
  | none =>
    rw [hconnect] at h
    exact .inr (armRetry_timer (isOk_of_map h))
  | some fd =>
    rw [hconnect] at h
    have hinstall := installSocket_ok m fd a.install
    dsimp only at h ⊢
    generalize m.installSocket fd a.install = installed at h hinstall ⊢
    obtain ⟨outcome, m'⟩ := installed
    cases outcome with
    | ok _ => exact .inl (hinstall rfl).1
    | error errno => exact .inr (armRetry_timer (isOk_of_map h))

theorem reconnect_delay (h : m.DelayWithin) (a : HotplugAnswers) :
    (m.reconnect a).2.DelayWithin := by
  unfold reconnect
  cases m.connects a.connect with
  | none => exact armRetry_delay h a.arm
  | some fd =>
    have hinstall := installSocket_delay h fd a.install
    dsimp only
    generalize m.installSocket fd a.install = installed at hinstall ⊢
    obtain ⟨outcome, m'⟩ := installed
    cases outcome with
    | ok _ => exact hinstall
    | error errno => exact armRetry_delay (m := m'.closeSocket) hinstall a.arm

/-- A monitor that opens is watched. -/
theorem openMonitor_watched {a : HotplugAnswers} (h : openMonitor a = .ok m) :
    m.Watched ∧ m.DelayWithin := by
  have hnew : ({} : HotplugMonitor).DelayWithin :=
    ⟨Nat.le_refl _, (by decide : devdRetryMinMs ≤ devdRetryMaxMs)⟩
  have harm : ∀ m' : HotplugMonitor, m'.DelayWithin →
      (match m'.armRetry a.arm with
        | (.ok (), m) => Except.ok m
        | (.error errno, _) => Except.error errno) = .ok m → m.Watched ∧ m.DelayWithin := by
    intro m' hdelay hm
    have htimer : (m'.armRetry a.arm).1.isOk = true → (m'.armRetry a.arm).2.timer = true :=
      armRetry_timer
    have hdelay := armRetry_delay hdelay a.arm
    generalize m'.armRetry a.arm = armed at hm htimer hdelay
    obtain ⟨outcome, armed⟩ := armed
    cases outcome with
    | error errno => cases hm
    | ok _ =>
      cases hm
      exact ⟨.inr (htimer rfl), hdelay⟩
  unfold openMonitor at h
  cases hconnect : a.connect with
  | none =>
    rw [hconnect] at h
    exact harm _ hnew h
  | some fd =>
    rw [hconnect] at h
    have hinstall := installSocket_ok {} fd a.install
    have hdelay := installSocket_delay hnew fd a.install
    dsimp only at h
    generalize ({} : HotplugMonitor).installSocket fd a.install = installed at h hinstall hdelay
    obtain ⟨outcome, m'⟩ := installed
    cases outcome with
    | error errno => exact harm m' hdelay h
    | ok _ =>
      cases h
      exact ⟨.inl (hinstall rfl).1, hdelay⟩

end HotplugMonitor

namespace HotplugPass

open HotplugMonitor

variable {p : HotplugPass}

/-- An event leaves the monitor watched, or ends it; the event of the timer watches it. -/
theorem handle_watched (event : Kevent) (a : HotplugAnswers)
    (hwatched : p.monitor.Watched ∨ matchesRetryTimer event = true)
    (halive : (p.handle event a).1 = true) : (p.handle event a).2.monitor.Watched := by
  unfold handle at halive ⊢
  by_cases herror : event.isError = true
  · rw [if_pos herror] at halive ⊢
    by_cases hsocket : p.monitor.matchesSocket event = true
    · rw [if_pos hsocket] at halive ⊢
      exact .inr (handleSocketLoss_timer halive)
    rw [if_neg hsocket] at halive ⊢
    by_cases htimer : matchesRetryTimer event = true
    · rw [if_pos htimer] at halive ⊢
      exact .inr (armRetry_timer halive)
    · rw [if_neg htimer]
      exact hwatched.resolve_right htimer
  rw [if_neg herror] at halive ⊢
  by_cases htimer : matchesRetryTimer event = true
  · rw [if_pos htimer] at halive ⊢
    have hreconnect := reconnect_watched (m := p.monitor) (a := a)
    generalize p.monitor.reconnect a = outcome at halive hreconnect ⊢
    obtain ⟨restored, monitor⟩ := outcome
    cases restored with
    | error errno => cases halive
    | ok restored => exact hreconnect rfl
  rw [if_neg htimer] at halive ⊢
  have hkept := hwatched.resolve_right htimer
  by_cases hsocket : p.monitor.matchesSocket event = true
  · rw [if_pos hsocket] at halive ⊢
    cases hreceived : a.received with
    | eof =>
      rw [hreceived] at halive
      exact .inr (handleSocketLoss_timer halive)
    | failed =>
      rw [hreceived] at halive
      exact .inr (handleSocketLoss_timer halive)
    | line text => exact hkept
    | again => exact hkept
  · rw [if_neg hsocket]
    exact hkept

theorem handle_delay (h : p.monitor.DelayWithin) (event : Kevent) (a : HotplugAnswers) :
    (p.handle event a).2.monitor.DelayWithin := by
  have hloss := handleSocketLoss_delay h a
  unfold handle
  split
  · split
    · exact hloss
    split
    · exact armRetry_delay h a.arm
    · exact h
  split
  · have hreconnect := reconnect_delay h a
    generalize p.monitor.reconnect a = outcome at hreconnect ⊢
    obtain ⟨restored, monitor⟩ := outcome
    cases restored with
    | error errno => exact hreconnect
    | ok restored => exact hreconnect
  split
  · cases a.received with
    | eof => exact hloss
    | failed => exact hloss
    | line text => exact h
    | again => exact h
  · exact h

/-- A batch leaves the monitor watched, or ends it, if the monitor was watched or the event
of the timer is in the batch. -/
theorem readBatch_watched (batch : List (Kevent × HotplugAnswers)) {p : HotplugPass}
    (hwatched : p.monitor.Watched ∨ batch.any (fun entry => matchesRetryTimer entry.1) = true)
    (halive : (readBatch batch p).1 = true) : (readBatch batch p).2.monitor.Watched := by
  induction batch generalizing p with
  | nil => exact hwatched.resolve_right (by rw [List.any_nil]; exact Bool.false_ne_true)
  | cons entry rest ih =>
    have hhandle := handle_watched (p := p) entry.1 entry.2
    rw [List.any_cons, Bool.or_eq_true, ← or_assoc] at hwatched
    unfold readBatch at halive ⊢
    generalize p.handle entry.1 entry.2 = outcome at halive hhandle ⊢
    obtain ⟨alive, p'⟩ := outcome
    cases alive with
    | false => cases halive
    | true =>
      rcases hwatched with hnow | hlater
      · exact ih (.inl (hhandle hnow rfl)) halive
      · exact ih (.inr hlater) halive

theorem readBatch_delay (batch : List (Kevent × HotplugAnswers)) {p : HotplugPass}
    (h : p.monitor.DelayWithin) : (readBatch batch p).2.monitor.DelayWithin := by
  induction batch generalizing p with
  | nil => exact h
  | cons entry rest ih =>
    have hhandle := handle_delay h entry.1 entry.2
    unfold readBatch
    generalize p.handle entry.1 entry.2 = outcome at hhandle ⊢
    obtain ⟨alive, p'⟩ := outcome
    cases alive with
    | true => exact ih hhandle
    | false => exact hhandle

end HotplugPass

/-- A read leaves the monitor watched, or reports its end. -/
theorem HotplugMonitor.readEvent_watched {m : HotplugMonitor} (h : m.Watched)
    (read : Except ErrnoCode (List (Kevent × HotplugAnswers)))
    (halive : (m.readEvent read).1 = true) : (m.readEvent read).2.monitor.Watched := by
  unfold HotplugMonitor.readEvent at halive ⊢
  cases read with
  | error errno => exact h
  | ok batch =>
    refine HotplugPass.readBatch_watched batch ?_ halive
    by_cases hfired : batch.any (fun entry => matchesRetryTimer entry.1) = true
    · exact .inr hfired
    · left
      rcases h with hinstalled | htimer
      · exact .inl hinstalled
      · right
        show (m.timer && !batch.any fun entry => matchesRetryTimer entry.1) = true
        rw [htimer, Bool.eq_false_iff.mpr hfired]
        rfl

theorem HotplugMonitor.readEvent_delay {m : HotplugMonitor} (h : m.DelayWithin)
    (read : Except ErrnoCode (List (Kevent × HotplugAnswers))) :
    (m.readEvent read).2.monitor.DelayWithin := by
  unfold HotplugMonitor.readEvent
  cases read with
  | error errno => exact h
  | ok batch => exact HotplugPass.readBatch_delay batch h

/-! ## Runs -/

/-- A monitor, and whether it has reported itself alive so far. -/
structure Hotplug where
  monitor : HotplugMonitor
  alive : Bool

inductive HotplugCall where
  | readEvent (read : Except ErrnoCode (List (Kevent × HotplugAnswers)))
  | reconnect (a : HotplugAnswers)
  | socketLoss (a : HotplugAnswers)

/-- The runs of a monitor from `open`; one that reports its end is not called again. -/
def hotplug : System Hotplug HotplugCall where
  init s := ∃ a, HotplugMonitor.openMonitor a = .ok s.monitor ∧ s.alive = true
  step s call :=
    if s.alive then
      match call with
      | .readEvent read =>
        some ⟨(s.monitor.readEvent read).2.monitor, (s.monitor.readEvent read).1⟩
      | .reconnect a => some ⟨(s.monitor.reconnect a).2, (s.monitor.reconnect a).1.isOk⟩
      | .socketLoss a =>
        some ⟨(s.monitor.handleSocketLoss a).2, (s.monitor.handleSocketLoss a).1⟩
    else none

/-- What holds along a run. -/
structure Hotplug.Sound (s : Hotplug) : Prop where
  watched : s.alive = true → s.monitor.Watched
  delay : s.monitor.DelayWithin

theorem hotplug_sound : Inductive hotplug (fun _ _ => True) Hotplug.Sound where
  init := by
    rintro s ⟨a, hopen, -⟩
    obtain ⟨hwatched, hdelay⟩ := HotplugMonitor.openMonitor_watched hopen
    exact ⟨fun _ => hwatched, hdelay⟩
  step := by
    rintro s call s' ⟨hwatched, hdelay⟩ - hstep
    obtain ⟨halive, hcall⟩ := Option.ite_none_right_eq_some.mp hstep
    cases call with
    | readEvent read =>
      cases hcall
      exact ⟨fun h => HotplugMonitor.readEvent_watched (hwatched halive) read h,
        HotplugMonitor.readEvent_delay hdelay read⟩
    | reconnect a =>
      cases hcall
      exact ⟨fun h => HotplugMonitor.reconnect_watched h, HotplugMonitor.reconnect_delay hdelay a⟩
    | socketLoss a =>
      cases hcall
      exact ⟨fun h => .inr (HotplugMonitor.handleSocketLoss_timer h),
        HotplugMonitor.handleSocketLoss_delay hdelay a⟩

/-- The hotplug monitor is never silently dead. In every run a monitor that reports itself
alive has a socket whose knote is in the queue under the current key, or a retry timer that
runs; the retry delay lies between one and thirty seconds; and a socket that is installed
starts the delay over. -/
theorem hotplug_never_dead :
    (∀ s, Reachable hotplug s →
      (s.alive = true →
        (∃ fd, s.monitor.socket = some fd ∧ (fd, s.monitor.socketKey) ∈ s.monitor.knotes) ∨
          s.monitor.timer = true) ∧
      1000 ≤ s.monitor.retryDelayMs ∧ s.monitor.retryDelayMs ≤ 30000) ∧
    ∀ (m : HotplugMonitor) fd added, (m.installSocket fd added).1 = .ok () →
      (m.installSocket fd added).2.retryDelayMs = 1000 := by
  refine ⟨fun s hs => ?_, fun m fd added h => (HotplugMonitor.installSocket_ok m fd added h).2⟩
  have hsound := hs.invariant hotplug_sound
  exact ⟨hsound.watched, hsound.delay⟩

/-- The retry timer's event, and a connection on descriptor 5. -/
def reconnection : List (Kevent × HotplugAnswers) :=
  [({ ident := devdRetryTimerIdent, filter := evfiltTimer },
    { connect := some 5, install := .ok (), arm := .ok (), received := .again })]

/-- A monitor that opened without devd and whose retry connects. -/
def reconnected : Hotplug :=
  ⟨{ socket := some 5, socketKey := 1, knotes := [(5, 1)] }, true⟩

/-- devd is not there at `open`, and the retry connects: the shot of the timer is consumed,
and the knote of the new socket is in the queue. -/
theorem hotplug_never_dead_reconnected :
    Reachable hotplug reconnected ∧ reconnected.monitor.timer = false ∧
      (∃ fd, reconnected.monitor.socket = some fd ∧
        (fd, reconnected.monitor.socketKey) ∈ reconnected.monitor.knotes) ∧
      reconnected.monitor.retryDelayMs ≤ 30000 ∧
      (({} : HotplugMonitor).installSocket 5 (.ok ())).2.retryDelayMs = 1000 := by
  have hopen : hotplug.init ⟨{ retryDelayMs := 2000, timer := true }, true⟩ :=
    ⟨{ connect := none, install := .ok (), arm := .ok (), received := .again }, by rfl, rfl⟩
  have hreached : Reachable hotplug reconnected :=
    .step (.init hopen) trivial
      (show hotplug.step _ (.readEvent (.ok reconnection)) = some reconnected by rfl)
  obtain ⟨halive, -, hmax⟩ := hotplug_never_dead.1 reconnected hreached
  have hinstall := hotplug_never_dead.2 {} 5 (.ok ()) rfl
  refine ⟨hreached, rfl, ?_, hmax, hinstall⟩
  rcases halive rfl with hsocket | htimer
  · exact hsocket
  · exact absurd htimer (by decide)

end PwOss.Oss
