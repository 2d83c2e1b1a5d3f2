import Mathlib.Data.List.Nodup
import PwOss.Backend.Xrun
import PwOss.Lib.Lists
import PwOss.Lib.Transition
import PwOss.Node.Timing.Deposit
import PwOss.Sys.Kqueue

/-
  The wake driver of the OSS backend, from `freebsd_oss/event.rs`: a kqueue with a knote of
  the driving stream and the deadline timer.

  A knote carries the key of its registration as `udata`. Descriptors are reused and events
  of a closed one survive in a batch, so the key alone tells the registrations apart: every
  attempt to register takes a new one, also when the kernel refuses it.

  What is proved:
    1. `decodeEvents_eq`: the fold over a batch in closed form.
    2. `wakeOf_eq`, `isTimer_eq`: what an event is, by its fields.
    3. `events_attributed`: after any calls to register and unregister, fewer than 2^64, a
       batch gives a stream wake only for the registration installed; the order of the batch
       does not decide; and just the ports of its identity store it.

  Correspondence (Rust ↔ Lean):
    `RegisteredStream`, `OssWakeDriver`       ↔ the same names
    `register_stream`, `unregister_stream`,
      `unregister_native_stream`              ↔ `registerStream`, `unregisterNativeStream`
    `arm_native_timer`, `next_native_event`   ↔ `armNativeTimer`, `nextNativeEvent`
    `decode_event`, `decode_events`           ↔ `decodeEvent`, `decodeEvents`
    `StreamWake`, `WakeEvent`                 ↔ `DeviceWake`, `WakeEvent`
-/

namespace PwOss.Oss

open PwOss.Sys PwOss.Backend PwOss.Lists PwOss.Transition
open PwOss.Node.Timing (StreamIdentity StreamWake Port Deposits depositStreamWake u64Max)

/-! ## The driver -/

structure RegisteredStream where
  fd : Int
  filter : Int
  stream : StreamIdentity
  frameStride : Nat
  key : Nat
  deriving DecidableEq, Repr

structure OssWakeDriver where
  registered : Option RegisteredStream := none
  nextRegistrationKey : Nat := 0
  timerArmed : Bool := false
  /-- Ghost: the registrations that were submitted, the last first. -/
  submitted : List RegisteredStream := []
  deriving DecidableEq, Repr

/-- `wrapping_add(1).max(1)`, of a `usize`. -/
def nextKey (key : Nat) : Nat := max ((key + 1) % 2 ^ 64) 1

namespace OssWakeDriver

variable (d : OssWakeDriver)

/-- The registration in place is the one that is asked for. -/
def isRegistered (fd : Int) (filter : Int) (stream : StreamIdentity) (frameStride : Nat) : Bool :=
  match d.registered with
  | some registered =>
    registered.fd == fd && registered.filter == filter && registered.stream == stream &&
      registered.frameStride == frameStride
  | none => false

/-- `deleted` is what the kernel answers to the removal of the knote. -/
def unregisterNativeStream (deleted : Except ErrnoCode Unit) :
    Except ErrnoCode Unit × OssWakeDriver :=
  match d.registered with
  | none => (.ok (), d)
  | some _ =>
    match deleted with
    | .ok () => (.ok (), { d with registered := none })
    | .error errno =>
      -- The descriptor was closed: its knotes are gone.
      if errno = enoent ∨ errno = ebadfCode then (.ok (), { d with registered := none })
      else (.error errno, d)

/-- `added` is what the kernel answers to the new knote. -/
def registerStream (fd : Int) (playback : Bool) (stream : StreamIdentity) (frameStride : Nat)
    (deleted added : Except ErrnoCode Unit) : Except ErrnoCode Unit × OssWakeDriver :=
  let filter := if playback then evfiltWrite else evfiltRead
  if d.isRegistered fd filter stream frameStride then (.ok (), d)
  else
    match d.unregisterNativeStream deleted with
    | (.error errno, d) => (.error errno, d)
    | (.ok (), d) =>
      let key := nextKey d.nextRegistrationKey
      let registered : RegisteredStream := ⟨fd, filter, stream, max frameStride 1, key⟩
      let d := { d with nextRegistrationKey := key, submitted := registered :: d.submitted }
      match added with
      | .error errno => (.error errno, d)
      | .ok () => (.ok (), { d with registered := some registered })

def armNativeTimer (delayNs : Nat) (answer : Except ErrnoCode Unit) :
    Except ErrnoCode Unit × OssWakeDriver :=
  if delayNs = 0 then
    if d.timerArmed = false then (.ok (), d)
    else
      match answer with
      | .ok () => (.ok (), { d with timerArmed := false })
      | .error errno =>
        if errno = enoent then (.ok (), { d with timerArmed := false }) else (.error errno, d)
  else
    match answer with
    | .ok () => (.ok (), { d with timerArmed := true })
    | .error errno => (.error errno, d)

end OssWakeDriver

/-! ## Events -/

/-- `backend::StreamWake`: the wake, with the device state that it carries. -/
structure DeviceWake extends StreamWake where
  readyBytes : Option Nat
  /-- An exact observation of the queue. -/
  fillBytes : Option Nat
  xruns : Option XrunObservation
  deriving DecidableEq, Repr

inductive WakeEvent where
  | timer
  | stream (event : DeviceWake)
  deriving DecidableEq, Repr

/-- The event is of the knote of the registration. -/
def Kevent.isOf (event : Kevent) (registered : RegisteredStream) : Bool :=
  event.ident == toUintptr registered.fd && event.filter == registered.filter &&
    event.udata == registered.key

def decodeStream (event : Kevent) (registered : RegisteredStream) : DeviceWake where
  stream := registered.stream
  timing := .notificationTime
  timestamp := none
  state := if event.isEof then .disconnected else .active
  readyBytes := some (min event.data.toNat u32Max)
  fillBytes := some
    (if registered.filter = evfiltRead then min event.data.toNat u32Max
    else min (event.ext0 * registered.frameStride) u64Max)
  xruns := some (.wrappingEventsU32 (min event.ext1 u32Max))

def decodeEvent (event : Kevent) (registered : Option RegisteredStream) :
    Except ErrnoCode (Option WakeEvent) :=
  if event.isError then
    .error (if toCInt event.data = 0 then eioCode else toCInt event.data)
  else if event.filter = evfiltTimer then .ok (some .timer)
  else if event.filter ≠ evfiltRead ∧ event.filter ≠ evfiltWrite then .ok none
  else
    match registered with
    | none => .ok none
    | some registered =>
      if Kevent.isOf event registered then .ok (some (.stream (decodeStream event registered)))
      else .ok none

/-- The variables of the loop in `decode_events`. -/
structure Batch where
  selected : Option WakeEvent := none
  firstError : Option ErrnoCode := none
  timerSeen : Bool := false
  deriving DecidableEq, Repr

def Batch.step (registered : Option RegisteredStream) (b : Batch) (event : Kevent) : Batch :=
  match decodeEvent event registered with
  | .ok (some .timer) =>
    { b with timerSeen := true, selected := some (b.selected.getD .timer) }
  | .ok (some (.stream wake)) => { b with selected := some (.stream wake) }
  | .ok none => b
  | .error errno => { b with firstError := some (b.firstError.getD errno) }

def Batch.result (b : Batch) : Except ErrnoCode (Option WakeEvent × Bool) :=
  match b.selected with
  | some event => .ok (some event, b.timerSeen)
  | none =>
    match b.firstError with
    | some errno => .error errno
    | none => .ok (none, b.timerSeen)

def decodeEvents (events : List Kevent) (registered : Option RegisteredStream) :
    Except ErrnoCode (Option WakeEvent × Bool) :=
  (events.foldl (Batch.step registered) {}).result

/-- `next_native_event`, of what the kevent call returns. -/
def OssWakeDriver.nextNativeEvent (d : OssWakeDriver) (read : Except ErrnoCode (List Kevent)) :
    Except ErrnoCode (Option WakeEvent) × OssWakeDriver :=
  match read with
  | .error errno => (.error errno, d)
  | .ok events =>
    match decodeEvents events d.registered with
    | .error errno => (.error errno, d)
    | .ok (selected, timerSeen) =>
      (.ok selected, if timerSeen then { d with timerArmed := false } else d)

/-! ## Stream events and timer events -/

/-- An event of the knote of a registration, by its fields. -/
structure StreamEvent (r : RegisteredStream) (event : Kevent) : Prop where
  sound : event.isError = false
  ident : event.ident = toUintptr r.fd
  filter : event.filter = r.filter
  udata : event.udata = r.key

instance (r : RegisteredStream) (event : Kevent) : Decidable (StreamEvent r event) :=
  decidable_of_iff (event.isError = false ∧ event.ident = toUintptr r.fd ∧
      event.filter = r.filter ∧ event.udata = r.key)
    ⟨fun h => ⟨h.1, h.2.1, h.2.2.1, h.2.2.2⟩, fun h => ⟨h.sound, h.ident, h.filter, h.udata⟩⟩

/-- An event of the timer, by its fields. -/
def TimerEvent (event : Kevent) : Prop := event.isError = false ∧ event.filter = evfiltTimer

instance (event : Kevent) : Decidable (TimerEvent event) := inferInstanceAs (Decidable (_ ∧ _))

/-- The filters of the stream knotes. -/
def RegisteredStream.IsIo (r : RegisteredStream) : Prop :=
  r.filter = evfiltRead ∨ r.filter = evfiltWrite

/-! ## What a batch gives -/

section Decode
variable (registered : Option RegisteredStream)

/-- The stream wake of an event. -/
def wakeOf (event : Kevent) : Option DeviceWake :=
  match decodeEvent event registered with
  | .ok (some (.stream wake)) => some wake
  | _ => none

def isTimer (event : Kevent) : Bool := decodeEvent event registered == .ok (some .timer)

def errorOf (event : Kevent) : Option ErrnoCode :=
  match decodeEvent event registered with
  | .error errno => some errno
  | .ok _ => none

/-- The last stream wake; else the timer; else the first error. -/
def chosen (wakes : List DeviceWake) (timer : Bool) (errors : List ErrnoCode) :
    Except ErrnoCode (Option WakeEvent × Bool) :=
  match wakes.getLast? with
  | some wake => .ok (some (.stream wake), timer)
  | none =>
    if timer then .ok (some .timer, true)
    else
      match errors.head? with
      | some errno => .error errno
      | none => .ok (none, false)

/-- What the loop has, after the events that gave these. -/
structure Batch.Holds (b : Batch) (wakes : List DeviceWake) (timer : Bool)
    (errors : List ErrnoCode) : Prop where
  selected : b.selected = (wakes.getLast?.map .stream).or (if timer then some .timer else none)
  firstError : b.firstError = errors.head?
  timerSeen : b.timerSeen = timer

theorem Batch.Holds.result {b : Batch} {wakes : List DeviceWake} {timer : Bool}
    {errors : List ErrnoCode} (h : b.Holds wakes timer errors) :
    b.result = chosen wakes timer errors := by
  unfold Batch.result chosen
  rw [h.selected, h.firstError, h.timerSeen]
  cases wakes.getLast? with
  | some wake => rfl
  | none =>
    cases timer with
    | true => rfl
    | false => rfl

theorem Batch.Holds.step {b : Batch} {wakes : List DeviceWake} {timer : Bool}
    {errors : List ErrnoCode} (h : b.Holds wakes timer errors) (event : Kevent) :
    (b.step registered event).Holds (wakes ++ (wakeOf registered event).toList)
      (timer || isTimer registered event) (errors ++ (errorOf registered event).toList) := by
  obtain ⟨hselected, herror, htimer⟩ := h
  unfold Batch.step wakeOf isTimer errorOf
  rcases decodeEvent event registered with errno | _ | _ | wake
  · rw [Option.toList_none, List.append_nil]
    refine ⟨hselected.trans (by rw [show (_ == _) = false from rfl, Bool.or_false]), ?_,
      htimer.trans (Bool.or_false _).symm⟩
    rw [herror, List.head?_append]
    cases errors.head? with
    | none => rfl
    | some first => rfl
  · rw [Option.toList_none, Option.toList_none, List.append_nil, List.append_nil]
    exact ⟨hselected.trans (by rw [show (_ == _) = false from rfl, Bool.or_false]), herror,
      htimer.trans (Bool.or_false _).symm⟩
  · rw [Option.toList_none, Option.toList_none, List.append_nil, List.append_nil]
    refine ⟨?_, herror, (Bool.or_true _).symm⟩
    rw [hselected, show (_ == _) = true from rfl, Bool.or_true, if_pos rfl]
    cases wakes.getLast? with
    | some wake => rfl
    | none =>
      cases timer with
      | true => rfl
      | false => rfl
  · rw [Option.toList_none, List.append_nil]
    refine ⟨?_, herror, htimer.trans (Bool.or_false _).symm⟩
    rw [Option.toList_some, List.getLast?_concat]
    rfl

theorem Batch.Holds.foldl (events : List Kevent) {b : Batch} {wakes : List DeviceWake}
    {timer : Bool} {errors : List ErrnoCode} (h : b.Holds wakes timer errors) :
    (events.foldl (Batch.step registered) b).Holds
      (wakes ++ events.filterMap (wakeOf registered))
      (timer || events.any (isTimer registered))
      (errors ++ events.filterMap (errorOf registered)) := by
  induction events generalizing b wakes timer errors with
  | nil =>
    rw [List.filterMap_nil, List.filterMap_nil, List.any_nil, List.append_nil, List.append_nil,
      Bool.or_false]
    exact h
  | cons event events ih =>
    have hnext := ih (h.step registered event)
    rw [List.append_assoc, List.append_assoc, Bool.or_assoc] at hnext
    rw [filterMap_cons_toList, filterMap_cons_toList]
    exact hnext

theorem decodeEvents_eq (events : List Kevent) :
    decodeEvents events registered =
      chosen (events.filterMap (wakeOf registered)) (events.any (isTimer registered))
        (events.filterMap (errorOf registered)) := by
  have hstart : (Batch.mk none none false).Holds [] false [] := ⟨rfl, rfl, rfl⟩
  exact (hstart.foldl registered events).result

theorem isOf_iff {event : Kevent} {r : RegisteredStream} (hsound : event.isError = false) :
    Kevent.isOf event r = true ↔ StreamEvent r event := by
  unfold Kevent.isOf
  simp only [Bool.and_eq_true, beq_iff_eq]
  constructor
  · rintro ⟨⟨hident, hfilter⟩, hudata⟩
    exact ⟨hsound, hident, hfilter, hudata⟩
  · intro h
    exact ⟨⟨h.ident, h.filter⟩, h.udata⟩

/-- An event decodes to a stream wake just when its fields are those of the knote. -/
theorem wakeOf_eq {r : RegisteredStream} (hio : r.IsIo) (event : Kevent) :
    wakeOf (some r) event = if StreamEvent r event then some (decodeStream event r) else none := by
  have hdecode : decodeEvent event (some r) =
      if event.isError then .error (if toCInt event.data = 0 then eioCode else toCInt event.data)
      else if event.filter = evfiltTimer then .ok (some .timer)
      else if event.filter ≠ evfiltRead ∧ event.filter ≠ evfiltWrite then .ok none
      else if Kevent.isOf event r then .ok (some (.stream (decodeStream event r)))
      else .ok none := rfl
  unfold wakeOf
  rw [hdecode]
  by_cases herror : event.isError = true
  · have hno : ¬ StreamEvent r event := fun h => by rw [h.sound] at herror; cases herror
    rw [if_pos herror, if_neg hno]
  have hsound : event.isError = false := Bool.eq_false_iff.mpr herror
  rw [if_neg herror]
  by_cases htimer : event.filter = evfiltTimer
  · have hno : ¬ StreamEvent r event := by
      intro h
      rcases hio with hr | hr
      · exact absurd (hr.symm.trans (h.filter.symm.trans htimer)) (by decide)
      · exact absurd (hr.symm.trans (h.filter.symm.trans htimer)) (by decide)
    rw [if_pos htimer, if_neg hno]
  rw [if_neg htimer]
  by_cases hother : event.filter ≠ evfiltRead ∧ event.filter ≠ evfiltWrite
  · have hno : ¬ StreamEvent r event := by
      intro h
      rcases hio with hr | hr
      · exact hother.1 (h.filter.trans hr)
      · exact hother.2 (h.filter.trans hr)
    rw [if_pos hother, if_neg hno]
  rw [if_neg hother]
  by_cases hof : Kevent.isOf event r = true
  · rw [if_pos hof, if_pos ((isOf_iff hsound).mp hof)]
  · rw [if_neg hof, if_neg fun h => hof ((isOf_iff hsound).mpr h)]

/-- Without a registration there is no stream wake. -/
theorem wakeOf_none (event : Kevent) : wakeOf none event = none := by
  unfold wakeOf decodeEvent
  split_ifs <;> rfl

theorem isTimer_eq (event : Kevent) : isTimer registered event = decide (TimerEvent event) := by
  unfold isTimer TimerEvent decodeEvent
  by_cases herror : event.isError = true
  · simp [herror]
  by_cases htimer : event.filter = evfiltTimer
  · simp [herror, htimer]
  simp only [herror, htimer]
  by_cases hother : event.filter ≠ evfiltRead ∧ event.filter ≠ evfiltWrite
  · simp [hother]
  rw [if_neg Bool.false_ne_true, if_neg not_false, if_neg hother]
  cases registered with
  | none => simp
  | some r =>
    dsimp only
    split <;> simp

/-- The stream wakes of a batch are those of its stream events. -/
theorem filterMap_wakeOf {r : RegisteredStream} (hio : r.IsIo) (events : List Kevent) :
    events.filterMap (wakeOf (some r)) =
      (events.filter (StreamEvent r ·)).map (decodeStream · r) := by
  induction events with
  | nil => rfl
  | cons event events ih =>
    rw [List.filterMap_cons, wakeOf_eq hio, List.filter_cons]
    by_cases h : StreamEvent r event
    · rw [if_pos h, if_pos (decide_eq_true h), List.map_cons, ih]
    · rw [if_neg h, if_neg (by simpa using h), ih]

/-- A batch that gives a stream wake has it from one of its events. -/
theorem chosen_stream {wakes : List DeviceWake} {timer seen : Bool} {errors : List ErrnoCode}
    {wake : DeviceWake} (h : chosen wakes timer errors = .ok (some (.stream wake), seen)) :
    wake ∈ wakes := by
  unfold chosen at h
  split at h
  · next hlast =>
    cases h
    exact List.mem_of_getLast? hlast
  split at h
  · cases h
  split at h
  · cases h
  · cases h

/-- A batch that gives a stream wake has it from an event of the registration. -/
theorem decodeEvents_stream (hio : ∀ r, registered = some r → r.IsIo) {events : List Kevent}
    {wake : DeviceWake} {seen : Bool}
    (h : decodeEvents events registered = .ok (some (.stream wake), seen)) :
    ∃ event ∈ events, ∃ r, registered = some r ∧ StreamEvent r event ∧
      wake = decodeStream event r := by
  rw [decodeEvents_eq] at h
  obtain ⟨event, hmem, hwake⟩ := List.mem_filterMap.mp (chosen_stream h)
  cases registered with
  | none =>
    rw [wakeOf_none] at hwake
    cases hwake
  | some r =>
    rw [wakeOf_eq (hio r rfl)] at hwake
    split at hwake
    · next hevent =>
      cases hwake
      exact ⟨event, hmem, r, rfl, hevent, rfl⟩
    · cases hwake

/-- The last stream event wins, wherever it stands. -/
theorem decodeEvents_wins {r : RegisteredStream} (hio : r.IsIo) {events : List Kevent}
    {event : Kevent} (hmem : event ∈ events) (h : StreamEvent r event) :
    ∃ last, (events.filter (StreamEvent r ·)).getLast? = some last ∧
      decodeEvents events (some r) =
        .ok (some (.stream (decodeStream last r)), events.any (TimerEvent ·)) := by
  have hin : event ∈ events.filter (StreamEvent r ·) :=
    List.mem_filter.mpr ⟨hmem, decide_eq_true h⟩
  have htimers : events.any (isTimer (some r)) = events.any (TimerEvent ·) :=
    congrArg events.any (funext (isTimer_eq (some r)))
  obtain ⟨last, hlast⟩ : ∃ last, (events.filter (StreamEvent r ·)).getLast? = some last :=
    ⟨_, List.getLast?_eq_some_getLast (List.ne_nil_of_mem hin)⟩
  refine ⟨last, hlast, ?_⟩
  rw [decodeEvents_eq, filterMap_wakeOf hio, htimers]
  unfold chosen
  rw [List.getLast?_map, hlast]
  rfl

/-- Lists that differ in their order alone, of one entry at most, are the same. -/
theorem perm_eq_of_length_le_one {α : Type} {l l' : List α} (h : l.Perm l')
    (hone : l.length ≤ 1) : l = l' := by
  match l, hone with
  | [], _ => exact h.nil_eq
  | [a], _ => exact h.singleton_eq

theorem chosen_perm {wakes : List DeviceWake} {timer : Bool} {errors errors' : List ErrnoCode}
    (h : errors.Perm errors') {outcome : Option WakeEvent × Bool}
    (hok : chosen wakes timer errors = .ok outcome) : chosen wakes timer errors' = .ok outcome := by
  unfold chosen at hok ⊢
  generalize wakes.getLast? = last at hok ⊢
  cases last with
  | some wake => exact hok
  | none =>
    cases timer with
    | true => exact hok
    | false =>
      -- Without an event there is no error, in either order.
      cases errors with
      | nil =>
        rw [← h.nil_eq]
        exact hok
      | cons errno errors => cases hok

/-- With one stream event at most, the order of the batch does not decide. -/
theorem decodeEvents_perm (hio : ∀ r, registered = some r → r.IsIo) {events events' : List Kevent}
    (h : events.Perm events')
    (hone : ∀ r, registered = some r → (events.filter (StreamEvent r ·)).length ≤ 1)
    {outcome : Option WakeEvent × Bool} (hok : decodeEvents events registered = .ok outcome) :
    decodeEvents events' registered = .ok outcome := by
  have hwakes : (events.filterMap (wakeOf registered)).length ≤ 1 := by
    cases registered with
    | none =>
      rw [List.filterMap_eq_nil_iff.mpr fun event _ => wakeOf_none event]
      exact Nat.zero_le _
    | some r =>
      rw [filterMap_wakeOf (hio r rfl), List.length_map]
      exact hone r rfl
  rw [decodeEvents_eq] at hok ⊢
  rw [← perm_eq_of_length_le_one (h.filterMap _) hwakes, ← h.any_eq]
  exact chosen_perm (h.filterMap _) hok

end Decode

/-! ## The registrations of a run -/

/-- A call, with what the kernel answers. -/
inductive WakeCall where
  | register (fd : Int) (playback : Bool) (stream : StreamIdentity) (frameStride : Nat)
      (deleted added : Except ErrnoCode Unit)
  | unregister (deleted : Except ErrnoCode Unit)
  | armTimer (delayNs : Nat) (answer : Except ErrnoCode Unit)
  | next (read : Except ErrnoCode (List Kevent))

/-- The runs of a driver from `new`. -/
def wakeDriver : System OssWakeDriver WakeCall where
  init d := d = {}
  step d call := some
    (match call with
    | .register fd playback stream frameStride deleted added =>
      (d.registerStream fd playback stream frameStride deleted added).2
    | .unregister deleted => (d.unregisterNativeStream deleted).2
    | .armTimer delayNs answer => (d.armNativeTimer delayNs answer).2
    | .next read => (d.nextNativeEvent read).2)

/-- Fewer than 2^64 registrations, the one of this call included. -/
def Few (d : OssWakeDriver) : WakeCall → Prop
  | .register .. => d.submitted.length + 1 < 2 ^ 64
  | _ => True

/-- The key counts the registrations, so that each has its own. -/
structure Keyed (d : OssWakeDriver) : Prop where
  next : d.nextRegistrationKey = d.submitted.length
  within : ∀ r ∈ d.submitted, r.key ≤ d.submitted.length
  distinct : (d.submitted.map (·.key)).Nodup
  io : ∀ r ∈ d.submitted, r.IsIo
  installed : ∀ r, d.registered = some r → r ∈ d.submitted

/-- No registration is submitted, and at most the one installed is gone. -/
structure Narrows (d d' : OssWakeDriver) : Prop where
  next : d'.nextRegistrationKey = d.nextRegistrationKey
  submitted : d'.submitted = d.submitted
  registered : ∀ r, d'.registered = some r → d.registered = some r

theorem Narrows.refl (d : OssWakeDriver) : Narrows d d := ⟨rfl, rfl, fun _ h => h⟩

theorem Keyed.narrow {d d' : OssWakeDriver} (h : Keyed d) (hd : Narrows d d') : Keyed d' where
  next := by rw [hd.next, hd.submitted]; exact h.next
  within := by rw [hd.submitted]; exact h.within
  distinct := by rw [hd.submitted]; exact h.distinct
  io := by rw [hd.submitted]; exact h.io
  installed r hr := by rw [hd.submitted]; exact h.installed r (hd.registered r hr)

/-- Two registrations of a driver with the same key are one. -/
theorem Keyed.unique {d : OssWakeDriver} (h : Keyed d) {r r' : RegisteredStream}
    (hr : r ∈ d.submitted) (hr' : r' ∈ d.submitted) (hkey : r.key = r'.key) : r = r' :=
  List.inj_on_of_nodup_map h.distinct hr hr' hkey

/-- A new registration takes the next key. -/
theorem Keyed.submit {d : OssWakeDriver} (h : Keyed d) (hfew : d.submitted.length + 1 < 2 ^ 64)
    {r : RegisteredStream} (hkey : r.key = nextKey d.nextRegistrationKey) (hio : r.IsIo)
    (registered : Option RegisteredStream) (hregistered : registered = none ∨ registered = some r) :
    Keyed { d with
      registered, nextRegistrationKey := r.key, submitted := r :: d.submitted } := by
  have hr : r.key = d.submitted.length + 1 := by
    rw [hkey, h.next]
    unfold nextKey
    omega
  refine ⟨hr.trans (List.length_cons ..).symm, ?_, ?_, List.forall_mem_cons.mpr ⟨hio, h.io⟩, ?_⟩
  · intro r' hr'
    rw [List.length_cons]
    rcases List.mem_cons.mp hr' with rfl | hr'
    · exact Nat.le_of_eq hr
    · exact Nat.le_succ_of_le (h.within r' hr')
  · rw [List.map_cons, List.nodup_cons]
    refine ⟨fun hmem => ?_, h.distinct⟩
    obtain ⟨r', hr', hkey'⟩ := List.mem_map.mp hmem
    have hwithin := h.within r' hr'
    omega
  · intro r' hr'
    rcases hregistered with rfl | rfl
    · cases hr'
    · cases hr'
      exact List.mem_cons_self ..

section Calls
variable (d : OssWakeDriver)

theorem unregisterNativeStream_narrows (deleted : Except ErrnoCode Unit) :
    Narrows d (d.unregisterNativeStream deleted).2 := by
  unfold OssWakeDriver.unregisterNativeStream
  split
  · exact .refl d
  split
  · exact ⟨rfl, rfl, nofun⟩
  split
  · exact ⟨rfl, rfl, nofun⟩
  · exact .refl d

theorem armNativeTimer_narrows (delayNs : Nat) (answer : Except ErrnoCode Unit) :
    Narrows d (d.armNativeTimer delayNs answer).2 := by
  unfold OssWakeDriver.armNativeTimer
  split
  · split
    · exact .refl d
    split
    · exact ⟨rfl, rfl, fun _ h => h⟩
    split
    · exact ⟨rfl, rfl, fun _ h => h⟩
    · exact .refl d
  · split
    · exact ⟨rfl, rfl, fun _ h => h⟩
    · exact .refl d

theorem nextNativeEvent_narrows (read : Except ErrnoCode (List Kevent)) :
    Narrows d (d.nextNativeEvent read).2 := by
  unfold OssWakeDriver.nextNativeEvent
  split
  · exact .refl d
  split
  · exact .refl d
  dsimp only
  split
  · exact ⟨rfl, rfl, fun _ h => h⟩
  · exact .refl d

/-- A removal that succeeds leaves nothing installed. -/
theorem unregisterNativeStream_ok (deleted : Except ErrnoCode Unit)
    (h : (d.unregisterNativeStream deleted).1 = .ok ()) :
    (d.unregisterNativeStream deleted).2.registered = none := by
  unfold OssWakeDriver.unregisterNativeStream at h ⊢
  split at h
  · next hnone => exact hnone
  split at h
  · rfl
  split at h
  · next herrno => rw [if_pos herrno]
  · cases h

theorem registerStream_keyed {d : OssWakeDriver} (h : Keyed d)
    (hfew : d.submitted.length + 1 < 2 ^ 64) (fd : Int) (playback : Bool)
    (stream : StreamIdentity) (frameStride : Nat) (deleted added : Except ErrnoCode Unit) :
    Keyed (d.registerStream fd playback stream frameStride deleted added).2 := by
  have hnarrow := unregisterNativeStream_narrows d deleted
  have hremoved := unregisterNativeStream_ok d deleted
  have hfilter : (if playback = true then evfiltWrite else evfiltRead) = evfiltRead ∨
      (if playback = true then evfiltWrite else evfiltRead) = evfiltWrite := by
    cases playback with
    | false => exact .inl rfl
    | true => exact .inr rfl
  unfold OssWakeDriver.registerStream
  dsimp only
  generalize (if playback = true then evfiltWrite else evfiltRead) = filter at hfilter ⊢
  split
  · exact h
  generalize d.unregisterNativeStream deleted = unregistered at hnarrow hremoved ⊢
  obtain ⟨outcome, t⟩ := unregistered
  have ht : Keyed t := h.narrow hnarrow
  have hfew' : t.submitted.length + 1 < 2 ^ 64 := by rw [hnarrow.submitted]; exact hfew
  cases outcome with
  | error errno => exact ht
  | ok _ =>
    have hsubmit := ht.submit hfew'
      (r := ⟨fd, filter, stream, max frameStride 1, nextKey t.nextRegistrationKey⟩) rfl hfilter
    cases added with
    | error errno => exact hsubmit _ (.inl (hremoved rfl))
    | ok _ => exact hsubmit _ (.inr rfl)

end Calls

theorem wakeDriver_keyed : Inductive wakeDriver Few Keyed where
  init := by
    rintro _ rfl
    exact ⟨rfl, nofun, .nil, nofun, nofun⟩
  step := by
    intro d call d' h hfew hstep
    cases hstep
    cases call with
    | register fd playback stream frameStride deleted added =>
      exact registerStream_keyed h hfew fd playback stream frameStride deleted added
    | unregister deleted => exact h.narrow (unregisterNativeStream_narrows d deleted)
    | armTimer delayNs answer => exact h.narrow (armNativeTimer_narrows d delayNs answer)
    | next read => exact h.narrow (nextNativeEvent_narrows d read)

/-- Kernel events are attributed to the right stream. After any calls, of which fewer than
2^64 register, a batch gives a stream wake only where one of its events, which is no error,
has the descriptor, the filter and the key of the registration installed, which no other
registration ever had, and with its identity. A stream event wins over timers and errors
wherever it stands, the last of several; and with at most one, the order of the batch does
not decide. Only ports of the wake's identity store it, and one does if there is one. -/
theorem events_attributed :
    (∀ d, Via wakeDriver Few d → ∀ events,
      (∀ wake seen, decodeEvents events d.registered = .ok (some (.stream wake), seen) →
        ∃ event ∈ events, ∃ r, d.registered = some r ∧ StreamEvent r event ∧
          wake = decodeStream event r ∧ wake.stream = r.stream ∧
          ∀ r' ∈ d.submitted, event.udata = r'.key → r' = r) ∧
      (∀ r, d.registered = some r → ∀ event ∈ events, StreamEvent r event →
        ∃ last, (events.filter (StreamEvent r ·)).getLast? = some last ∧
          decodeEvents events d.registered =
            .ok (some (.stream (decodeStream last r)), events.any (TimerEvent ·))) ∧
      ∀ events', events.Perm events' →
        (∀ r, d.registered = some r → (events.filter (StreamEvent r ·)).length ≤ 1) →
        ∀ outcome, decodeEvents events d.registered = .ok outcome →
          decodeEvents events' d.registered = .ok outcome) ∧
    ∀ (event : StreamWake) (ports : List Port),
      List.Forall₂ (Deposits event) ports (depositStreamWake event ports).2 ∧
      ((depositStreamWake event ports).1 = true ↔
        ∃ port ∈ ports, port.identity = event.stream) ∧
      ((∃ port ∈ ports, port.identity = event.stream) →
        ∃ port ∈ (depositStreamWake event ports).2,
          port.identity = event.stream ∧ port.streamWake = some event) := by
  refine ⟨fun d hd events => ?_, fun event ports => ?_⟩
  · have hkeyed := hd.invariant wakeDriver_keyed
    have hio : ∀ r, d.registered = some r → r.IsIo :=
      fun r hr => hkeyed.io r (hkeyed.installed r hr)
    refine ⟨fun wake seen h => ?_, fun r hr event hmem hevent => ?_,
      fun events' hperm hone outcome hok => ?_⟩
    · obtain ⟨event, hmem, r, hr, hevent, rfl⟩ := decodeEvents_stream d.registered hio h
      refine ⟨event, hmem, r, hr, hevent, rfl, rfl, fun r' hr' hkey' => ?_⟩
      exact hkeyed.unique hr' (hkeyed.installed r hr) (hkey'.symm.trans hevent.udata)
    · rw [hr]
      exact decodeEvents_wins (hio r hr) hmem hevent
    · exact decodeEvents_perm d.registered hio hperm hone hok
  · exact ⟨Node.Timing.depositStreamWake_deposits event ports,
      Node.Timing.depositStreamWake_taken event ports, Node.Timing.depositStreamWake_stores⟩

/-- A capture stream on the descriptor 3. -/
def firstCapture : RegisteredStream := ⟨3, evfiltRead, ⟨0, 7⟩, 4, 1⟩

/-- The next one, on the same descriptor. -/
def secondCapture : RegisteredStream := ⟨3, evfiltRead, ⟨0, 8⟩, 4, 2⟩

/-- The first stream is closed, and the second one takes its descriptor. -/
def reopened : OssWakeDriver where
  registered := some secondCapture
  nextRegistrationKey := 2
  submitted := [secondCapture, firstCapture]

theorem reopened_reached : Via wakeDriver Few reopened := by
  have hfirst : Via wakeDriver Few ⟨some firstCapture, 1, false, [firstCapture]⟩ :=
    .step (e := .register 3 false ⟨0, 7⟩ 4 (.ok ()) (.ok ())) (.init rfl)
      (by unfold Few; decide) rfl
  exact .step (e := .register 3 false ⟨0, 8⟩ 4 (.error ebadfCode) (.ok ())) hfirst
    (by unfold Few; decide) rfl

/-- An event of the knote in place. -/
def secondEvent : Kevent := { ident := 3, filter := evfiltRead, data := 16, udata := 2 }

/-- An event of the knote that is gone, a timer's, one of the knote in place, and an error. -/
def reopenedBatch : List Kevent :=
  [{ ident := 3, filter := evfiltRead, data := 8, udata := 1 },
    { ident := 0, filter := evfiltTimer }, secondEvent,
    { ident := 0, filter := evfiltTimer, flags := evError, data := 5 }]

/-- The ports of the two streams. -/
def reopenedPorts : List Port := [{ identity := ⟨0, 7⟩ }, { identity := ⟨0, 8⟩ }]

/-- The batch wakes the second stream in either order, and its port stores the wake. -/
theorem events_attributed_reopened :
    ∃ wake, wake.stream = secondCapture.stream ∧ wake.readyBytes = some 16 ∧
      decodeEvents reopenedBatch reopened.registered = .ok (some (.stream wake), true) ∧
      decodeEvents reopenedBatch.reverse reopened.registered = .ok (some (.stream wake), true) ∧
      ∃ port ∈ (depositStreamWake wake.toStreamWake reopenedPorts).2,
        port.identity = ⟨0, 8⟩ ∧ port.streamWake = some wake.toStreamWake := by
  obtain ⟨hdriver, hports⟩ := events_attributed
  obtain ⟨-, hwins, hperm⟩ := hdriver reopened reopened_reached reopenedBatch
  obtain ⟨last, hlast, hdecoded⟩ := hwins secondCapture rfl secondEvent (by decide) (by decide)
  have hsecond :
      (reopenedBatch.filter (StreamEvent secondCapture ·)).getLast? = some secondEvent := by
    decide
  obtain rfl : secondEvent = last := Option.some.inj (hsecond.symm.trans hlast)
  have hreversed : decodeEvents reopenedBatch.reverse reopened.registered =
      .ok (some (.stream (decodeStream secondEvent secondCapture)), true) := by
    refine hperm _ (List.reverse_perm _).symm (fun r hr => ?_) _ hdecoded
    cases hr
    decide
  obtain ⟨-, -, hstored⟩ :=
    hports (decodeStream secondEvent secondCapture).toStreamWake reopenedPorts
  refine ⟨_, rfl, by decide, hdecoded, hreversed, hstored ?_⟩
  exact ⟨_, List.mem_cons_of_mem _ List.mem_cons_self, rfl⟩

end PwOss.Oss
