import PwOss.Node.Timing.Drive

/-
  A running driver is not parked.

  What is proved:
    1. `selectNextWake_armed`, `updateDriverWake_armed`: each of the two places
       that choose an arm leaves one outstanding, for a driving node, exactly if
       the deadline it has, or the clock reading it takes, is not 0.
    2. `step_armed`: from a state with an arm outstanding, a step ends in one
       exactly if it is `Anchored`.
    3. `driver_armed`: no driving node is parked at the end of a run of anchored
       steps.
    4. `driver_parked`: the steps that are not anchored exist. `next_time` is 0
       until a clock read succeeds; a wake or a `process` before that takes the arm
       from it and parks the node, although Start had armed a retry.
-/

namespace PwOss.Node.Timing

open PwOss.Transition

namespace DataState

variable {k : Kernel} {s t u : DataState}

/-! ## What a step keeps -/

/-- The role of the node is kept, and whether the host is in its `ready`. -/
structure Kept (s t : DataState) : Prop where
  started : t.started = s.started
  following : t.following = s.following
  position : t.position = s.position
  clock : t.clock = s.clock
  callbacks : t.callbacks = s.callbacks
  readyDispatching : t.readyDispatching = s.readyDispatching

/-- Beyond the role, the timer and the clock are left alone. -/
structure Quiet (s t : DataState) : Prop extends Kept s t where
  nextTime : t.nextTime = s.nextTime
  timer : t.timer = s.timer
  clockReads : t.clockReads = s.clockReads

theorem Kept.trans (h : Kept s t) (h' : Kept t u) : Kept s u :=
  ⟨h'.started.trans h.started, h'.following.trans h.following, h'.position.trans h.position,
    h'.clock.trans h.clock, h'.callbacks.trans h.callbacks,
    h'.readyDispatching.trans h.readyDispatching⟩

theorem Quiet.trans (h : Quiet s t) (h' : Quiet t u) : Quiet s u :=
  ⟨h.toKept.trans h'.toKept, h'.nextTime.trans h.nextTime, h'.timer.trans h.timer,
    h'.clockReads.trans h.clockReads⟩

theorem Quiet.refl (s : DataState) : Quiet s s := ⟨⟨rfl, rfl, rfl, rfl, rfl, rfl⟩, rfl, rfl, rfl⟩

theorem Kept.driving (h : Kept s t) : t.Driving ↔ s.Driving := by
  unfold Driving
  rw [h.started, h.following, h.position, h.clock]

theorem Kept.target (h : Kept s t) : t.target = s.target := by
  unfold DataState.target
  rw [h.position]

theorem unregisterStream_quiet (k : Kernel) (s : DataState) : Quiet s (s.unregisterStream k) := by
  unfold unregisterStream
  split
  · exact .refl s
  · exact ⟨⟨rfl, rfl, rfl, rfl, rfl, rfl⟩, rfl, rfl, rfl⟩

/-- A change of the port alone is quiet. -/
theorem setPort_quiet (s : DataState) (p : Port) : Quiet s { s with port := p } :=
  ⟨⟨rfl, rfl, rfl, rfl, rfl, rfl⟩, rfl, rfl, rfl⟩

theorem disableDeviceWake_quiet (k : Kernel) (s : DataState) :
    Quiet s (s.disableDeviceWake k) :=
  (unregisterStream_quiet k s).trans (setPort_quiet _ _)

theorem invalidateDeviceWake_quiet (k : Kernel) (s : DataState) :
    Quiet s (s.invalidateDeviceWake k) := by
  have h := disableDeviceWake_quiet k s
  exact ⟨⟨h.started, h.following, h.position, h.clock, h.callbacks, h.readyDispatching⟩,
    h.nextTime, h.timer, h.clockReads⟩

theorem refreshDeviceWakeInner_quiet (k : Kernel) (s : DataState) (retry : Bool) :
    Quiet s (s.refreshDeviceWakeInner k retry).1 := by
  unfold refreshDeviceWakeInner
  split
  · exact .refl s
  · split
    · exact disableDeviceWake_quiet k s
    · split
      · exact .refl s
      · split
        · exact ⟨⟨rfl, rfl, rfl, rfl, rfl, rfl⟩, rfl, rfl, rfl⟩
        · have h := unregisterStream_quiet k { s with registrations := s.registrations + 1 }
          exact ⟨⟨h.started, h.following, h.position, h.clock, h.callbacks, h.readyDispatching⟩,
            h.nextTime, h.timer, h.clockReads⟩

theorem queueRequiredRebuilds_quiet (k : Kernel) (s : DataState) :
    Quiet s (s.queueRequiredRebuilds k) := by
  unfold queueRequiredRebuilds
  split
  · exact ⟨⟨rfl, rfl, rfl, rfl, rfl, rfl⟩, rfl, rfl, rfl⟩
  · exact .refl s

theorem depositStreamWake_quiet {event : StreamWake} (h : s.depositStreamWake event = some t) :
    Quiet s t := by
  unfold depositStreamWake at h
  split at h
  · cases h
    exact setPort_quiet s _
  · cases h

theorem drainWake_quiet (s : DataState) (read : WakeRead) : Quiet s (s.drainWake read).1 := by
  unfold drainWake
  split
  · split
    · exact setPort_quiet s _
    · split
      · next h => exact depositStreamWake_quiet h
      · exact .refl s
    · exact .refl s
    · exact .refl s
  · split
    · exact setPort_quiet s _
    · exact .refl s

theorem swapDevice_quiet (k : Kernel) (s : DataState) (running : Bool) :
    Quiet s (s.swapDevice k running) :=
  (((invalidateDeviceWake_quiet k s).trans (setPort_quiet _ _)).trans (setPort_quiet _ _)).trans
    (setPort_quiet _ _)

theorem dropDevice_quiet (k : Kernel) (s : DataState) : Quiet s (s.dropDevice k) :=
  (((invalidateDeviceWake_quiet k s).trans (setPort_quiet _ _)).trans (setPort_quiet _ _)).trans
    (setPort_quiet _ _)

/-! ## Arms -/

/-- A driving node has a non-zero arm outstanding, unless the host is in the `ready`
of a wake, which arms the timer when `ready` returns. -/
def Armed (s : DataState) : Prop := s.readyDispatching = false → s.Driving → s.timer ≠ 0

/-- The deadline the node has can be armed. -/
def Anchored (s : DataState) : Prop := s.readyDispatching = false → s.Driving → s.nextTime ≠ 0

/-- The clock reading that the node would be anchored at can be armed. -/
def ReadsAnchor (k : Kernel) (s : DataState) : Prop :=
  s.readyDispatching = false → s.Driving → k.now s.clockReads ≠ some 0

theorem Quiet.armed (h : Quiet s t) : t.Armed ↔ s.Armed := by
  unfold Armed
  rw [h.readyDispatching, h.driving, h.timer]

theorem Quiet.anchored (h : Quiet s t) : t.Anchored ↔ s.Anchored := by
  unfold Anchored
  rw [h.readyDispatching, h.driving, h.nextTime]

theorem Quiet.readsAnchor (h : Quiet s t) : t.ReadsAnchor k ↔ s.ReadsAnchor k := by
  unfold ReadsAnchor
  rw [h.readyDispatching, h.driving, h.clockReads]

theorem deadlineDelay_ne (deadline now : Nat) : deadlineDelay deadline now ≠ 0 := by
  unfold deadlineDelay
  omega

/-- A value of 0 parks the timer, and no other value does. -/
theorem armTimer_timer (k : Kernel) (s : DataState) (value : Nat) (absolute : Bool) :
    (s.armTimer k value absolute).timer = 0 ↔ value = 0 := by
  unfold armTimer
  split
  · exact Iff.rfl
  · split
    · exact Iff.rfl
    · next hv =>
      have hne : value ≠ 0 := fun h => hv (.inl h)
      split
      · exact iff_of_false (deadlineDelay_ne _ _) hne
      · exact iff_of_false (by decide : nsecPerSec / 100 ≠ 0) hne

theorem armTimer_kept (k : Kernel) (s : DataState) (value : Nat) (absolute : Bool) :
    Kept s (s.armTimer k value absolute) ∧
      (s.armTimer k value absolute).nextTime = s.nextTime := by
  unfold armTimer tryNowNs
  split
  · exact ⟨⟨rfl, rfl, rfl, rfl, rfl, rfl⟩, rfl⟩
  · split
    · exact ⟨⟨rfl, rfl, rfl, rfl, rfl, rfl⟩, rfl⟩
    · split
      · next h =>
        obtain ⟨-, rfl⟩ := Prod.mk.inj h
        exact ⟨⟨rfl, rfl, rfl, rfl, rfl, rfl⟩, rfl⟩
      · next h =>
        obtain ⟨-, rfl⟩ := Prod.mk.inj h
        exact ⟨⟨rfl, rfl, rfl, rfl, rfl, rfl⟩, rfl⟩

/-- What a driving node is armed with decides. -/
theorem armTimer_armed (k : Kernel) (s : DataState) (value : Nat) (absolute : Bool) :
    (s.armTimer k value absolute).Armed ↔
      (s.readyDispatching = false → s.Driving → value ≠ 0) := by
  have h := (armTimer_kept k s value absolute).1
  unfold Armed
  rw [h.readyDispatching, h.driving]
  exact forall_congr' fun _ => forall_congr' fun _ => not_congr (armTimer_timer k s value absolute)

theorem watchdogDeadline_eq_zero (deadline : Nat) (armed : Bool) (duration rate : Nat) :
    watchdogDeadline deadline armed duration rate = 0 ↔ deadline = 0 := by
  unfold watchdogDeadline satAdd64 u64Max
  split <;> omega

theorem driverWakeDeadline_driving (h : s.Driving) :
    driverWakeDeadline s.started s.following s.position.isSome s.clock.isSome s.nextTime =
      s.nextTime := by
  obtain ⟨h1, h2, h3, h4⟩ := h
  simp only [driverWakeDeadline, h1, h2, h3, h4, Bool.not_false, Bool.and_self, if_true]

theorem selectNextWake_armed (k : Kernel) (s : DataState) :
    (s.selectNextWake k).Armed ↔ s.Anchored := by
  have hq := refreshDeviceWakeInner_quiet k s false
  refine (armTimer_armed k (s.refreshDeviceWakeInner k false).1 _ true).trans ?_
  rw [hq.readyDispatching, hq.driving]
  refine forall_congr' fun _ => forall_congr' fun hd => not_congr ?_
  rw [watchdogDeadline_eq_zero, driverWakeDeadline_driving hd]

/-- The clock reading comes after the registration, which does not read the clock. -/
theorem updateDriverWake_of_driver (k : Kernel)
    (h : (s.started && !s.following && s.position.isSome) = true) :
    ∃ t : DataState, Kept s t ∧ t.nextTime = s.nextTime ∧
      s.updateDriverWake k = match k.now s.clockReads with
        | some now => { t with nextTime := now }.setTimeout k now
        | none => t.setTimeoutRel k (nsecPerSec / 100) := by
  have hq := refreshDeviceWakeInner_quiet k s true
  refine ⟨((s.refreshDeviceWakeInner k true).1.tryNowNs k).2, ?_, hq.nextTime, ?_⟩
  · exact ⟨hq.started, hq.following, hq.position, hq.clock, hq.callbacks, hq.readyDispatching⟩
  · rw [← hq.clockReads]
    unfold updateDriverWake tryNowNs
    rw [if_pos h]
    cases k.now (s.refreshDeviceWakeInner k true).1.clockReads <;> rfl

theorem updateDriverWake_kept (k : Kernel) (s : DataState) : Kept s (s.updateDriverWake k) := by
  by_cases h : (s.started && !s.following && s.position.isSome) = true
  · obtain ⟨t, hk, -, heq⟩ := updateDriverWake_of_driver k h
    rw [heq]
    cases k.now s.clockReads with
    | none => exact hk.trans (armTimer_kept k _ _ _).1
    | some now =>
      refine Kept.trans ?_ (armTimer_kept k _ _ _).1
      exact ⟨hk.started, hk.following, hk.position, hk.clock, hk.callbacks, hk.readyDispatching⟩
  · unfold updateDriverWake
    rw [if_neg h]
    exact (refreshDeviceWakeInner_quiet k s false).toKept.trans (armTimer_kept k _ _ _).1

theorem Driving.updates (h : s.Driving) :
    (s.started && !s.following && s.position.isSome) = true := by
  obtain ⟨h1, h2, h3, -⟩ := h
  simp only [h1, h2, h3, Bool.not_false, Bool.and_self]

theorem updateDriverWake_armed (k : Kernel) (s : DataState) :
    (s.updateDriverWake k).Armed ↔ s.ReadsAnchor k := by
  have hk := updateDriverWake_kept k s
  unfold Armed ReadsAnchor
  rw [hk.readyDispatching, hk.driving]
  refine forall_congr' fun _ => forall_congr' fun hd => not_congr ?_
  obtain ⟨t, -, -, heq⟩ := updateDriverWake_of_driver k hd.updates
  rw [heq]
  cases k.now s.clockReads with
  | none => exact (armTimer_timer k _ _ _).trans (iff_of_false (by decide) nofun)
  | some now => exact (armTimer_timer k _ _ _).trans (Option.some_inj).symm

/-- A driving node is anchored at the clock reading that its update takes. -/
theorem updateDriverWake_nextTime (k : Kernel) (hd : s.Driving) :
    (s.updateDriverWake k).nextTime = (k.now s.clockReads).getD s.nextTime := by
  obtain ⟨t, -, hn, heq⟩ := updateDriverWake_of_driver k hd.updates
  rw [heq]
  cases k.now s.clockReads with
  | none => exact (armTimer_kept k _ _ _).2.trans hn
  | some now => exact (armTimer_kept k _ _ _).2

/-- A node that does not drive needs no arm. -/
theorem not_driving_iff (h : ¬ s.Driving) : s.Armed ↔ s.ReadsAnchor k :=
  iff_of_true (fun _ hd => absurd hd h) (fun _ hd => absurd hd h)

theorem updateIfStarted_armed (k : Kernel) (h : Quiet s t) :
    (t.updateIfStarted k).Armed ↔ s.ReadsAnchor k := by
  refine Iff.trans ?_ h.readsAnchor
  unfold updateIfStarted
  split
  · exact updateDriverWake_armed k t
  · next hstarted => exact not_driving_iff fun hd => hstarted hd.1

theorem updateIfStarted_kept (k : Kernel) (s : DataState) : Kept s (s.updateIfStarted k) := by
  unfold updateIfStarted
  split
  · exact updateDriverWake_kept k s
  · exact (Quiet.refl s).toKept

theorem updateIfStarted_nextTime (k : Kernel) (hd : s.Driving) :
    (s.updateIfStarted k).nextTime = (k.now s.clockReads).getD s.nextTime := by
  unfold updateIfStarted
  rw [if_pos hd.1]
  exact updateDriverWake_nextTime k hd

/-! ## Commands -/

theorem Kept.armed_of_stopped (h : Kept s t) (hs : s.started = false) : t.Armed := by
  intro _ hd
  have hstarted := hd.1
  rw [h.started, hs] at hstarted
  cases hstarted

theorem pause_armed (k : Kernel) (s : DataState) (flags : StreamFlags) :
    (s.pause k flags).Armed := by
  refine ((setPort_quiet _ _).armed).mpr ?_
  refine (updateDriverWake_kept k _).armed_of_stopped ?_
  split <;> rfl

theorem suspend_armed (k : Kernel) (s : DataState) : (s.suspend k).Armed := by
  refine ((setPort_quiet _ _).armed).mpr ?_
  refine ((setPort_quiet _ _).armed).mpr ?_
  refine ((setPort_quiet _ _).armed).mpr ?_
  refine ((setPort_quiet _ _).armed).mpr ?_
  exact ((invalidateDeviceWake_quiet k { s with started := false }).toKept.trans
    (updateDriverWake_kept k _)).armed_of_stopped rfl

theorem ioSet_of_started (hs : s.started = true) (area : IoArea) :
    s.ioSet area =
      { s.setArea area with following := (s.setArea area).nodeIsFollower } := by
  cases area <;> exact if_pos hs

theorem ioSet_of_stopped (hs : ¬ s.started = true) (area : IoArea) :
    s.ioSet area = s.setArea area := by
  cases area <;> exact if_neg hs

theorem ioSet_timer (s : DataState) (area : IoArea) :
    (s.ioSet area).timer = s.timer ∧ (s.ioSet area).readyDispatching = s.readyDispatching := by
  by_cases hs : s.started = true
  · rw [ioSet_of_started hs]
    cases area <;> exact ⟨rfl, rfl⟩
  · rw [ioSet_of_stopped hs]
    cases area <;> exact ⟨rfl, rfl⟩

/-- Where `set_io` does not move the timer, the node drives only if it did. -/
theorem ioSet_driving {area : IoArea} (h : s.ioMoves area = false) (hd : (s.ioSet area).Driving) :
    s.Driving := by
  by_cases hs : s.started = true
  · rw [ioSet_of_started hs] at hd
    obtain ⟨-, hfollowing, hposition, hclock⟩ := hd
    rw [ioMoves, hs, Bool.true_and, Bool.or_eq_false_iff] at h
    obtain ⟨hrole, hareas⟩ := h
    simp only [bne_eq_false_iff_eq] at hrole hareas
    have harmed : s.ioArmed = true := by
      rw [hareas, ioArmed, Bool.and_eq_true]
      exact ⟨hclock, hposition⟩
    rw [ioArmed, Bool.and_eq_true] at harmed
    exact ⟨hs, hrole.trans hfollowing, harmed.2, harmed.1⟩
  · rw [ioSet_of_stopped hs] at hd
    refine absurd ?_ hs
    have hstarted := hd.1
    cases area <;> exact hstarted

theorem setIo_armed (k : Kernel) (h : s.Armed) (area : IoArea) :
    (s.setIo k area).Armed ↔ (s.ioMoves area = true → (s.ioSet area).ReadsAnchor k) := by
  unfold setIo
  by_cases hm : s.ioMoves area = true
  · rw [if_pos hm]
    exact (updateDriverWake_armed k _).trans ⟨fun h _ => h, fun h => h hm⟩
  · rw [if_neg hm]
    refine iff_of_true ?_ (fun h => absurd h hm)
    intro hr hd
    obtain ⟨htimer, hready⟩ := ioSet_timer s area
    rw [htimer]
    exact h (hready ▸ hr) (ioSet_driving (Bool.eq_false_iff.mpr hm) hd)

theorem hostWrites_armed (h : s.Armed) (position : Position) (clock : Clock) :
    (s.hostWrites position clock).Armed := by
  intro hr hd
  obtain ⟨h1, h2, h3, h4⟩ := hd
  have hdriving : s.Driving := by
    refine ⟨h1, h2, ?_, ?_⟩
    · rw [← h3, hostWrites, Option.isSome_map]
    · rw [← h4, hostWrites, Option.isSome_map]
  exact h hr hdriving

/-! ## Cycles -/

/-- The deadline that a cycle selects from: its completion may anchor it anew. -/
def passAnchor (k : Kernel) (s : DataState) (pass : PortsPass) : Nat :=
  match pass.swap with
  | some (.installed _) | some .failed | some .retireAndRetry =>
    (k.now s.clockReads).getD s.nextTime
  | some .aborted | some .stale | none => s.nextTime

theorem pollRebuildCompletion_kept (k : Kernel) (s : DataState) (swap : Swap) :
    Kept s (s.pollRebuildCompletion k swap) := by
  cases swap with
  | installed running =>
    exact (swapDevice_quiet k s running).toKept.trans (updateIfStarted_kept k _)
  | failed => exact (swapDevice_quiet k s false).toKept.trans (updateIfStarted_kept k _)
  | retireAndRetry =>
    exact ((setPort_quiet s _).trans (setPort_quiet _ _)).toKept.trans (updateIfStarted_kept k _)
  | aborted => exact (setPort_quiet s _).toKept
  | stale => exact (Quiet.refl s).toKept

theorem Quiet.updateIfStarted_nextTime (h : Quiet s t) (hd : s.Driving) :
    (t.updateIfStarted k).nextTime = (k.now s.clockReads).getD s.nextTime := by
  rw [← h.clockReads, ← h.nextTime]
  exact DataState.updateIfStarted_nextTime k (h.driving.mpr hd)

theorem processPorts_kept (k : Kernel) (s : DataState) (pass : PortsPass) :
    Kept s (s.processPorts k pass) := by
  refine Kept.trans ?_ (setPort_quiet _ _).toKept
  split
  · exact pollRebuildCompletion_kept k s _
  · exact (Quiet.refl s).toKept

theorem processPorts_nextTime (k : Kernel) (hd : s.Driving) (pass : PortsPass) :
    (s.processPorts k pass).nextTime = passAnchor k s pass := by
  obtain ⟨swap, flags⟩ := pass
  cases swap with
  | none => rfl
  | some swap =>
    cases swap with
    | installed running => exact (swapDevice_quiet k s running).updateIfStarted_nextTime hd
    | failed => exact (swapDevice_quiet k s false).updateIfStarted_nextTime hd
    | retireAndRetry =>
      exact ((setPort_quiet s _).trans (setPort_quiet _ _)).updateIfStarted_nextTime hd
    | aborted => rfl
    | stale => rfl

theorem Quiet.passAnchor (h : Quiet s t) (pass : PortsPass) :
    t.passAnchor k pass = s.passAnchor k pass := by
  unfold DataState.passAnchor
  rw [h.clockReads, h.nextTime]

/-- A deferred `process` arms the timer itself. -/
theorem processDataCycle_armed (k : Kernel) (h : s.Armed) (pass : PortsPass) :
    (s.processDataCycle k pass).Armed ↔
      (s.readyDispatching = false → s.Driving → s.passAnchor k pass ≠ 0) := by
  unfold processDataCycle
  split
  · next hidle =>
    refine iff_of_true ((setPort_quiet s _).armed.mpr h) fun _ hd => ?_
    obtain ⟨h1, -, h3, -⟩ := hd
    rcases hidle with hs | hp
    · rw [hs] at h1
      cases h1
    · rw [Option.isNone_iff_eq_none.mp hp] at h3
      cases h3
  · have hqueue := queueRequiredRebuilds_quiet k s
    let t := (s.queueRequiredRebuilds k).processPorts k pass
    have hports : Kept s t := hqueue.toKept.trans (processPorts_kept k _ pass)
    have hafter : Quiet t (t.queueRequiredRebuilds k).discardDeviceSnapshots :=
      (queueRequiredRebuilds_quiet k t).trans (setPort_quiet _ _)
    have hkept := hports.trans hafter.toKept
    dsimp only
    split
    · next hready =>
      refine iff_of_true (fun hr => ?_) (fun hr => ?_)
      · rw [hready] at hr
        cases hr
      · rw [← hkept.readyDispatching, hready] at hr
        cases hr
    · refine (selectNextWake_armed k _).trans (hafter.anchored.trans ?_)
      unfold Anchored
      rw [hports.readyDispatching, hports.driving]
      refine forall_congr' fun _ => forall_congr' fun hd => not_congr ?_
      rw [processPorts_nextTime k (hqueue.driving.mpr hd) pass, hqueue.passAnchor]

/-- Whether a wake whose clock read gave `now` can arm the deadline it ends with. -/
def CycleAnchored (s : DataState) (now : Nat) (kind : WakeKind) (servo : Servo) : Prop :=
  wakeIsFromPreviousCycle now s.nextTime s.target.1 s.target.2 = false →
    if s.target.1 = 0 ∨ s.target.2 = 0 then
      s.idleDeadline now kind ≠ 0
    else s.callbacks = some ⟨true⟩ ∨ s.resynced now ≠ 0 ∨ servo.stretched ≠ 0

/-- Whether a wake can arm the deadline it ends with; a failed clock read arms a retry. -/
def WakeAnchored (k : Kernel) (s : DataState) (read : WakeRead) (servo : Servo) : Prop :=
  match s.drainWake read with
  | (_, none) => s.nextTime ≠ 0
  | (t, some kind) => ∀ now, k.now s.clockReads = some now → t.CycleAnchored now kind servo

theorem nextTime_ne_of_previous {now deadline duration rate : Nat}
    (h : wakeIsFromPreviousCycle now deadline duration rate = true) : deadline ≠ 0 := by
  intro h0
  rw [wakeIsFromPreviousCycle, if_pos (.inl h0)] at h
  cases h

theorem advanceDeadline_eq_zero (deadline stretched : Nat) :
    advanceDeadline deadline stretched = 0 ↔ deadline = 0 ∧ stretched = 0 := by
  unfold advanceDeadline satAdd64 u64Max
  omega

theorem signal_hook_armed (k : Kernel) (s : DataState) :
    (signal k (s, some s.callbacks)).Armed ↔
      (s.readyDispatching = false → s.Driving → s.callbacks = some ⟨true⟩ ∨ s.nextTime ≠ 0) := by
  by_cases hc : s.callbacks = some ⟨true⟩
  · rw [hc]
    exact iff_of_true nofun (fun _ _ => .inl rfl)
  · have hsignal : signal k (s, some s.callbacks) = s.selectNextWake k := by
      unfold signal
      split
      · next h => cases h
      · next h =>
        obtain ⟨rfl, hsome⟩ := Prod.mk.inj h
        exact absurd (Option.some.inj hsome) hc
      · next h => rw [(Prod.mk.inj h).1]
    rw [hsignal, selectNextWake_armed]
    refine forall_congr' fun _ => forall_congr' fun _ => ?_
    exact ⟨.inr, fun h => h.resolve_left hc⟩

theorem idleTick_armed (k : Kernel) (s : DataState) (now : Nat) (kind : WakeKind) :
    (s.idleTick k now kind).Armed ↔
      (s.readyDispatching = false → s.Driving → s.idleDeadline now kind ≠ 0) := by
  have hq := disableDeviceWake_quiet k { s with nextTime := s.idleDeadline now kind }
  refine (armTimer_armed k _ _ true).trans ?_
  rw [hq.readyDispatching, hq.driving]
  unfold Driving
  exact Iff.rfl

theorem driveCycle_driving (s : DataState) (now : Nat) (kind : WakeKind) (servo : Servo) :
    (s.driveCycle now kind servo).Driving ↔ s.Driving := by
  unfold Driving driveCycle
  rw [Option.isSome_map]

theorem wakeCycleAt_armed (k : Kernel) (s : DataState) (now : Nat) (kind : WakeKind)
    (servo : Servo) :
    (signal k (s.wakeCycleAt k now kind servo)).Armed ↔
      (s.readyDispatching = false → s.Driving → s.CycleAnchored now kind servo) := by
  unfold wakeCycleAt CycleAnchored
  by_cases hprev : wakeIsFromPreviousCycle now s.nextTime s.target.1 s.target.2 = true
  · rw [if_pos hprev]
    refine (selectNextWake_armed k _).trans ((setPort_quiet s _).anchored.trans ?_)
    refine iff_of_true (fun _ _ => nextTime_ne_of_previous hprev) (fun _ _ hnot => ?_)
    rw [hprev] at hnot
    cases hnot
  · rw [if_neg hprev]
    simp only [Bool.eq_false_iff.mpr hprev, true_imp_iff]
    by_cases hmal : s.target.1 = 0 ∨ s.target.2 = 0
    · simp only [if_pos hmal]
      exact idleTick_armed k s now kind
    · simp only [if_neg hmal]
      refine (signal_hook_armed k (s.driveCycle now kind servo)).trans ?_
      rw [driveCycle_driving]
      refine forall_congr' fun _ => forall_congr' fun _ => or_congr_right ?_
      refine (not_congr (advanceDeadline_eq_zero _ _)).trans ?_
      omega

/-- The registrations of a cycle, its rebuilds and its clock read leave its timing alone. -/
theorem Kept.cycleAnchored (h : Kept s t) (hnext : t.nextTime = s.nextTime)
    (hwake : t.port.streamWake = s.port.streamWake) (hport : t.port.identity = s.port.identity)
    (now : Nat) (kind : WakeKind) (servo : Servo) :
    (t.readyDispatching = false → t.Driving → t.CycleAnchored now kind servo) ↔
      (s.readyDispatching = false → s.Driving → s.CycleAnchored now kind servo) := by
  have hresync : t.resynced now = s.resynced now := by
    unfold resynced
    rw [hnext]
  have hobserved : t.timingObservation now kind = s.timingObservation now kind := by
    unfold timingObservation observedWakeTimestamp
    rw [hwake, hport]
  have hidle : t.idleDeadline now kind = s.idleDeadline now kind := by
    unfold idleDeadline cycleTime
    rw [hobserved, hresync]
  unfold CycleAnchored
  rw [hnext, h.target, hidle, h.callbacks, hresync, h.readyDispatching, h.driving]

theorem queueRequiredRebuilds_port (k : Kernel) (s : DataState) :
    (s.queueRequiredRebuilds k).port.streamWake = s.port.streamWake ∧
      (s.queueRequiredRebuilds k).port.identity = s.port.identity := by
  unfold queueRequiredRebuilds
  split <;> exact ⟨rfl, rfl⟩

theorem onWake_armed (k : Kernel) (s : DataState) (read : WakeRead) (servo : Servo) :
    (s.onWake k read servo).Armed ↔
      (s.readyDispatching = false → s.Driving → s.WakeAnchored k read servo) := by
  have hdrain := drainWake_quiet s read
  unfold onWake wakeCycle WakeAnchored
  generalize s.drainWake read = drained at hdrain ⊢
  obtain ⟨t, kind⟩ := drained
  cases kind with
  | none => exact (selectNextWake_armed k t).trans hdrain.anchored
  | some kind =>
    dsimp only at hdrain ⊢
    by_cases hidle : t.started = false ∨ t.following = true
    · rw [if_pos hidle]
      refine (selectNextWake_armed k t).trans ?_
      have hnot : ¬ t.Driving := by
        rintro ⟨h1, h2, -, -⟩
        rw [h1, h2] at hidle
        rcases hidle with h | h <;> cases h
      exact iff_of_true (fun _ hd => absurd hd hnot)
        (fun _ hd => absurd (hdrain.driving.mpr hd) hnot)
    · rw [if_neg hidle]
      by_cases hio : t.position.isNone = true ∨ t.clock.isNone = true
      · rw [if_pos hio]
        refine (selectNextWake_armed k t).trans ?_
        have hnot : ¬ t.Driving := by
          rintro ⟨-, -, h3, h4⟩
          rw [Option.isNone_eq_false_iff.mpr h3, Option.isNone_eq_false_iff.mpr h4] at hio
          rcases hio with h | h <;> cases h
        exact iff_of_true (fun _ hd => absurd hd hnot)
          (fun _ hd => absurd (hdrain.driving.mpr hd) hnot)
      · rw [if_neg hio]
        have hqueue := queueRequiredRebuilds_quiet k t
        unfold tryNowNs
        rw [hqueue.clockReads, hdrain.clockReads]
        cases k.now s.clockReads with
        | none =>
          refine (armTimer_armed k _ _ false).trans ?_
          exact iff_of_true (fun _ _ => (by decide : nsecPerSec / 100 ≠ 0)) (fun _ _ _ => nofun)
        | some now =>
          refine (wakeCycleAt_armed k _ now kind servo).trans ?_
          have hport := queueRequiredRebuilds_port k t
          have hkept : Kept t (t.queueRequiredRebuilds k) := hqueue.toKept
          refine (Kept.cycleAnchored (s := t) ⟨hkept.started, hkept.following, hkept.position,
            hkept.clock, hkept.callbacks, hkept.readyDispatching⟩ hqueue.nextTime hport.1 hport.2
            now kind servo).trans ?_
          rw [hdrain.readyDispatching, hdrain.driving]
          simp only [Option.some.injEq, forall_eq']

/-- What a wake has read does not depend on the timer. -/
theorem wakeAnchored_timer (k : Kernel) (s : DataState) (timer : Nat) (read : WakeRead)
    (servo : Servo) :
    { s with timer := timer }.WakeAnchored k read servo ↔ s.WakeAnchored k read servo := by
  unfold WakeAnchored drainWake
  cases s.wakeDriver with
  | none =>
    cases read.expired with
    | true => exact Iff.rfl
    | false => exact Iff.rfl
  | some driver =>
    match read.nextEvent with
    | .ok none => exact Iff.rfl
    | .ok (some .timer) => exact Iff.rfl
    | .error _ => exact Iff.rfl
    | .ok (some (.stream event)) =>
      dsimp only [depositStreamWake]
      by_cases hid : s.port.identity = event.stream
      · simp only [if_pos hid]
        exact Iff.rfl
      · simp only [if_neg hid]

/-- With a deadline, a running clock and a well-formed position, no wake parks. -/
theorem wakeAnchored_of_deadline (hnext : s.nextTime ≠ 0) (hduration : s.target.1 ≠ 0)
    (hrate : s.target.2 ≠ 0) (hnow : ∀ now, k.now s.clockReads = some now → now ≠ 0)
    (read : WakeRead) (servo : Servo) : s.WakeAnchored k read servo := by
  have hdrain := drainWake_quiet s read
  unfold WakeAnchored
  generalize s.drainWake read = drained at hdrain ⊢
  obtain ⟨t, kind⟩ := drained
  cases kind with
  | none => exact hnext
  | some kind =>
    intro now hread _
    have hwell : ¬ (t.target.1 = 0 ∨ t.target.2 = 0) := by
      rw [hdrain.target]
      exact not_or.mpr ⟨hduration, hrate⟩
    rw [if_neg hwell]
    refine .inr (.inl ?_)
    unfold resynced
    split
    · exact hnow now hread
    · rw [hdrain.nextTime]
      exact hnext

/-! ## Runs -/

/-- The steps that leave an arm outstanding. A step that updates the timer must not
read the clock as 0, and one that takes the next arm from the deadline must not find
0 there. -/
def StepAnchored (k : Kernel) (s : DataState) : Event → Prop
  | .start configured flags => configured = true → (s.startLoop flags).ReadsAnchor k
  | .setIo area => s.ioMoves area = true → (s.ioSet area).ReadsAnchor k
  | .installFence | .install _ | .releaseFormat => s.ReadsAnchor k
  | .wake _ read servo => s.readyDispatching = false → s.Driving → s.WakeAnchored k read servo
  | .readyReturned => s.Driving → s.nextTime ≠ 0
  | .process pass => s.readyDispatching = false → s.Driving → s.passAnchor k pass ≠ 0
  | .pause _ | .suspend | .setCallbacks _ | .hostWrites _ _ | .retireBusy | .releaseTakeover
  | .stream _ => True

theorem step_armed {e : Event} (h : s.Armed) (hs : s.step k e = some t) :
    t.Armed ↔ s.StepAnchored k e := by
  cases e with
  | start configured flags =>
    simp only [step, StepAnchored] at hs ⊢
    split at hs
    · next hc =>
      cases hs
      exact (updateDriverWake_armed k _).trans ⟨fun h _ => h, fun h => h hc⟩
    · next hc =>
      cases hs
      exact iff_of_true h (fun h => absurd h hc)
  | pause flags =>
    cases hs
    exact iff_of_true (pause_armed k s flags) trivial
  | suspend =>
    cases hs
    exact iff_of_true (suspend_armed k s) trivial
  | setIo area =>
    cases hs
    exact setIo_armed k h area
  | setCallbacks hook =>
    cases hs
    exact iff_of_true h trivial
  | hostWrites position clock =>
    cases hs
    exact iff_of_true (hostWrites_armed h position clock) trivial
  | installFence =>
    cases hs
    exact updateIfStarted_armed k (setPort_quiet s _)
  | retireBusy =>
    cases hs
    exact iff_of_true ((setPort_quiet s _).armed.mpr h) trivial
  | install running =>
    cases hs
    exact updateIfStarted_armed k (swapDevice_quiet k s running)
  | releaseFormat =>
    cases hs
    exact updateIfStarted_armed k (dropDevice_quiet k s)
  | releaseTakeover =>
    cases hs
    exact iff_of_true ((setPort_quiet s _).armed.mpr h) trivial
  | stream flags =>
    cases hs
    exact iff_of_true ((setPort_quiet s _).armed.mpr h) trivial
  | wake fired read servo =>
    cases hs
    refine (onWake_armed k _ read servo).trans ?_
    refine forall_congr' fun _ => forall_congr' fun _ => ?_
    exact wakeAnchored_timer k s _ read servo
  | readyReturned =>
    simp only [step] at hs
    split at hs
    · cases hs
    · cases hs
      exact (selectNextWake_armed k _).trans ⟨fun h => h rfl, fun h _ => h⟩
  | process pass =>
    cases hs
    exact processDataCycle_armed k h pass

end DataState

open DataState in
/-- A running driver is not parked, in every run whose steps are anchored: each clock
reading that the timer is updated from, and each deadline that the next arm is taken
from, is not 0. The steps are Start, Pause, Suspend, `set_io`, device swaps, wakes and
inline or deferred `process` calls. Whenever no `ready` call of a wake is under way
and the node is started, not following, and both areas are set, the arm outstanding is
not 0. -/
theorem driver_armed {k : Kernel} {s : DataState}
    (h : Via (system k) (DataState.StepAnchored k) s) (hready : s.readyDispatching = false)
    (hstarted : s.started = true) (hfollowing : s.following = false)
    (hposition : s.position.isSome = true) (hclock : s.clock.isSome = true) : s.timer ≠ 0 := by
  have hI : Inductive (system k) (DataState.StepAnchored k) DataState.Armed :=
    { init := by
        rintro s ⟨driver, token, rfl⟩ - hd
        cases hd.1
      step := fun _ _ _ h he hs => (step_armed h hs).mpr he }
  exact h.invariant hI hready ⟨hstarted, hfollowing, hposition, hclock⟩

/-- A stream that runs at the period of the graph. -/
def runningStream : StreamFlags := ⟨true, 1920, false, false⟩

/-- Both areas are set and the node starts as the driver. -/
def startDriver : List Event :=
  [.setIo (.position (some ⟨7, 480, 48000⟩)), .setIo (.clock (some { id := 7 })),
    .start true runningStream]

/-- A clock that works, and ticks once between two reads. -/
def tickingKernel : Kernel where
  now reads := some (reads + 1)
  registers _ := true
  unregisters _ := true
  submits _ := true

/-- The steps that take the next arm from a deadline have one. -/
def hasDeadline (s : DataState) : Event → Bool
  | .wake .. | .readyReturned | .process _ =>
    s.nextTime != 0 && s.target.1 != 0 && s.target.2 != 0
  | _ => true

theorem hasDeadline_anchored {s : DataState} {e : Event} (h : hasDeadline s e = true) :
    s.StepAnchored tickingKernel e := by
  have hreads : ∀ reads now, tickingKernel.now reads = some now → now ≠ 0 := by
    intro reads now hnow
    cases hnow
    exact Nat.succ_ne_zero reads
  have hanchor : ∀ t : DataState, t.ReadsAnchor tickingKernel :=
    fun t _ _ h0 => hreads _ _ h0 rfl
  cases e with
  | start configured flags => exact fun _ => hanchor _
  | setIo area => exact fun _ => hanchor _
  | installFence => exact hanchor s
  | install running => exact hanchor s
  | releaseFormat => exact hanchor s
  | wake fired read servo =>
    simp only [hasDeadline, Bool.and_eq_true, bne_iff_ne] at h
    exact fun _ _ =>
      DataState.wakeAnchored_of_deadline h.1.1 h.1.2 h.2 (hreads _) read servo
  | readyReturned =>
    simp only [hasDeadline, Bool.and_eq_true, bne_iff_ne] at h
    exact fun _ => h.1.1
  | process pass =>
    simp only [hasDeadline, Bool.and_eq_true, bne_iff_ne] at h
    intro _ _
    unfold DataState.passAnchor
    split
    · exact Nat.succ_ne_zero s.clockReads
    · exact Nat.succ_ne_zero s.clockReads
    · exact Nat.succ_ne_zero s.clockReads
    · exact h.1.1
    · exact h.1.1
    · exact h.1.1
  | _ => exact trivial

/-- A cycle with an inline `process`, then a spurious wake. -/
def spuriousWake : List Event :=
  .setCallbacks (some ⟨true⟩) :: startDriver ++
    [.wake true ⟨.ok none, true⟩ ⟨1, 0, 10000000⟩, .process ⟨none, runningStream⟩,
      .readyReturned, .wake false ⟨.ok none, false⟩ ⟨1, 0, 10000000⟩]

theorem driver_armed_spurious :
    ∃ s, (system tickingKernel).runTested hasDeadline (DataState.fresh none 3)
        spuriousWake = some s ∧
      s.timer ≠ 0 := by
  have hrun : ((system tickingKernel).runTested hasDeadline (DataState.fresh none 3)
      spuriousWake).map
      (fun s => (s.readyDispatching, s.started, s.following, s.position.isSome, s.clock.isSome)) =
        some (false, true, false, true, true) := by
    decide +kernel
  obtain ⟨s, hs, hview⟩ := Option.map_eq_some_iff.mp hrun
  simp only [Prod.mk.injEq] at hview
  obtain ⟨h1, h2, h3, h4, h5⟩ := hview
  have hinit : (system tickingKernel).init (DataState.fresh none 3) := ⟨none, 3, rfl⟩
  have h : Via (system tickingKernel) (DataState.StepAnchored tickingKernel) s :=
    (via_of_runTested _ (.init hinit) hs).mono fun _ _ => hasDeadline_anchored
  exact ⟨s, hs, driver_armed h h1 h2 h3 h4 h5⟩

/-- The clock cannot be read. -/
def stoppedKernel : Kernel := { tickingKernel with now := fun _ => none }

/-- Start arms its retry, as the clock cannot be read; the first `process` of the host
then takes the next arm from a deadline of 0. -/
theorem driver_parked :
    ∃ s, (system stoppedKernel).run (DataState.fresh none 3)
        (startDriver ++ [.process ⟨none, runningStream⟩]) = some s ∧
      Reachable (system stoppedKernel) s ∧ s.readyDispatching = false ∧ s.started = true ∧
      s.following = false ∧ s.position.isSome = true ∧ s.clock.isSome = true ∧ s.timer = 0 := by
  have hrun : ((system stoppedKernel).run (DataState.fresh none 3)
      (startDriver ++ [.process ⟨none, runningStream⟩])).map
      (fun s => (s.readyDispatching, s.started, s.following, s.position.isSome, s.clock.isSome,
        s.timer)) = some (false, true, false, true, true, 0) := by
    decide +kernel
  obtain ⟨s, hs, hview⟩ := Option.map_eq_some_iff.mp hrun
  simp only [Prod.mk.injEq] at hview
  have hinit : (system stoppedKernel).init (DataState.fresh none 3) := ⟨none, 3, rfl⟩
  exact ⟨s, hs, via_of_run _ (.init hinit) (fun _ _ _ => trivial) hs, hview⟩

end PwOss.Node.Timing
