import Mathlib.Algebra.Order.Floor.Semiring
import Mathlib.Data.Nat.Cast.Order.Field
import Mathlib.Data.Rat.Floor
import Mathlib.Tactic.NormNum
import PwOss.Lib.Pace
import PwOss.Node.Timing.Liveness

/-
  The rate of graph cycles.

  Device readiness, the timer and its watchdog all wake the same node, and one graph
  period must not be driven twice. Each cycle moves the deadline on by the period as the
  servo stretches it, and a wake ahead of the deadline by more than the watchdog's grace
  is not taken for a cycle.

  What is proved:
    1. `wakeCycle_paces`: a wake leaves the deadline, or is a cycle, which it was not too
       early for and which moves the deadline on.
    2. `cycles_rate_bounded`: so in every run without an external transition the cycles up
       to a time are at most one for each half period since the first deadline, and one
       more.
-/

namespace PwOss.Node.Timing

open PwOss.Transition PwOss.Pace

/-! ## The period of a cycle -/

/-- The nanoseconds of `advance_deadline`, with exact division. -/
def stretchedPeriod (duration rate : Nat) (corr : ℚ) : Nat :=
  ⌊((duration * nsecPerSec : Nat) : ℚ) / (rate * corr)⌋₊

/-- Half of a graph period, in nanoseconds. -/
def halfPeriod (duration rate : Nat) : Nat := duration * nsecPerSec / (2 * rate)

theorem halfPeriod_pos {duration rate : Nat} (hrate : 0 < rate)
    (hperiod : 2 * rate ≤ duration * nsecPerSec) : 0 < halfPeriod duration rate :=
  Nat.div_pos hperiod (Nat.mul_pos Nat.two_pos hrate)

/-- A correction of at most 2 takes no more than half of the period away. -/
theorem halfPeriod_le {duration rate : Nat} {corr : ℚ} (hrate : 0 < rate) (hpos : 0 < corr)
    (hle : corr ≤ 2) : halfPeriod duration rate ≤ stretchedPeriod duration rate corr := by
  have hrate' : (0 : ℚ) < rate := Nat.cast_pos.mpr hrate
  refine Nat.le_floor ?_
  calc ((duration * nsecPerSec / (2 * rate) : Nat) : ℚ)
      ≤ ((duration * nsecPerSec : Nat) : ℚ) / ((2 * rate : Nat) : ℚ) := Nat.cast_div_le
    _ = ((duration * nsecPerSec : Nat) : ℚ) / (rate * 2) := by
        rw [Nat.cast_mul 2 rate, Nat.cast_two, mul_comm (2 : ℚ)]
    _ ≤ ((duration * nsecPerSec : Nat) : ℚ) / (rate * corr) :=
        div_le_div_of_nonneg_left (Nat.cast_nonneg _) (mul_pos hrate' hpos)
          (mul_le_mul_of_nonneg_left hle (le_of_lt hrate'))

namespace DataState

variable {k : Kernel} {s t u : DataState}

/-! ## What a wake does to the deadline -/

/-- The node drives a graph of this period. -/
structure Drives (duration rate : Nat) (s : DataState) : Prop where
  driving : s.Driving
  target : s.target = (duration, rate)

/-- The role of the node and its deadline stay. -/
structure Still (s t : DataState) : Prop where
  driving : t.Driving ↔ s.Driving
  target : t.target = s.target
  nextTime : t.nextTime = s.nextTime

theorem Still.refl (s : DataState) : Still s s := ⟨Iff.rfl, rfl, rfl⟩

theorem Still.trans (h : Still s t) (h' : Still t u) : Still s u :=
  ⟨h'.driving.trans h.driving, h'.target.trans h.target, h'.nextTime.trans h.nextTime⟩

theorem Kept.still (h : Kept s t) (hnext : t.nextTime = s.nextTime) : Still s t :=
  ⟨h.driving, h.target, hnext⟩

theorem Quiet.still (h : Quiet s t) : Still s t := h.toKept.still h.nextTime

theorem Drives.of_still {duration rate : Nat} (h : Drives duration rate s) (hst : Still s t) :
    Drives duration rate t :=
  ⟨hst.driving.mpr h.driving, hst.target.trans h.target⟩

theorem armTimer_still (k : Kernel) (s : DataState) (value : Nat) (absolute : Bool) :
    Still s (s.armTimer k value absolute) :=
  have h := armTimer_kept k s value absolute
  h.1.still h.2

theorem selectNextWake_still (k : Kernel) (s : DataState) : Still s (s.selectNextWake k) :=
  (refreshDeviceWakeInner_quiet k s false).still.trans (armTimer_still k _ _ _)

/-- A cycle of a run: not too early, and the deadline moves on from where it was re-anchored. -/
structure Accepts (k : Kernel) (duration rate half : Nat) (s : DataState) (now : Nat)
    (t : DataState) : Prop where
  time : k.now s.clockReads = some now
  due : s.nextTime ≤ now + watchdogGrace duration rate
  /-- A stall re-anchors the deadline forward. -/
  forward : s.nextTime ≤ s.resynced now
  advance : s.resynced now + half ≤ t.nextTime

theorem le_resynced (s : DataState) (now : Nat) : s.nextTime ≤ s.resynced now := by
  unfold resynced
  split
  · omega
  · exact Nat.le_refl _

section Wake
variable {duration rate : Nat}

theorem driveCycle_drives (h : Drives duration rate s) (now : Nat) (kind : WakeKind)
    (servo : Servo) : Drives duration rate (s.driveCycle now kind servo) :=
  ⟨(driveCycle_driving s now kind servo).mpr h.driving, h.target⟩

theorem not_early {now deadline : Nat} (hdeadline : deadline ≠ 0) (hfits : deadline ≤ u64Max)
    (hduration : duration ≠ 0) (hrate : rate ≠ 0)
    (h : wakeIsFromPreviousCycle now deadline duration rate = false) :
    deadline ≤ now + watchdogGrace duration rate := by
  unfold wakeIsFromPreviousCycle satAdd64 at h
  rw [if_neg (by rintro (h | h | h) <;> contradiction), decide_eq_false_iff_not] at h
  omega

/-- A driving node after the clock read: the wake is a late half, or a cycle. -/
theorem wakeCycleAt_paces (k : Kernel) (h : Drives duration rate s) (hduration : duration ≠ 0)
    (hrate : rate ≠ 0) (now : Nat) (kind : WakeKind) (servo : Servo) :
    ((s.wakeCycleAt k now kind servo).2 = none ∧ Still s (s.wakeCycleAt k now kind servo).1) ∨
      (wakeIsFromPreviousCycle now s.nextTime duration rate = false ∧
        s.wakeCycleAt k now kind servo = (s.driveCycle now kind servo, some s.callbacks)) := by
  unfold wakeCycleAt
  rw [h.target]
  dsimp only
  split
  · exact .inl ⟨rfl, (setPort_quiet s _).still.trans (selectNextWake_still k _)⟩
  · next hprev =>
    rw [if_neg (by rintro (h | h) <;> contradiction)]
    exact .inr ⟨Bool.eq_false_iff.mpr hprev, rfl⟩

/-- A wake of a driving node leaves the deadline, or is a cycle. -/
theorem wakeCycle_paces (k : Kernel) (h : Drives duration rate s) (hduration : duration ≠ 0)
    (hrate : rate ≠ 0) (read : WakeRead) (servo : Servo) :
    ((s.wakeCycle k read servo).2 = none ∧ Still s (s.wakeCycle k read servo).1) ∨
      ∃ now kind t, k.now s.clockReads = some now ∧ Still s t ∧
        wakeIsFromPreviousCycle now s.nextTime duration rate = false ∧
        s.wakeCycle k read servo = (t.driveCycle now kind servo, some t.callbacks) := by
  have hdrain := drainWake_quiet s read
  unfold wakeCycle
  generalize s.drainWake read = drained at hdrain ⊢
  obtain ⟨t, kind⟩ := drained
  have ht := h.of_still hdrain.still
  cases kind with
  | none => exact .inl ⟨rfl, hdrain.still.trans (selectNextWake_still k t)⟩
  | some kind =>
    dsimp only at hdrain ht ⊢
    obtain ⟨hstarted, hfollowing, hposition, hclock⟩ := ht.driving
    rw [if_neg (by rw [hstarted, hfollowing]; decide),
      if_neg (by rw [Option.isNone_eq_false_iff.mpr hposition,
        Option.isNone_eq_false_iff.mpr hclock]; decide)]
    have hqueue := queueRequiredRebuilds_quiet k t
    unfold tryNowNs
    rw [hqueue.clockReads, hdrain.clockReads]
    generalize t.queueRequiredRebuilds k = u at hqueue ⊢
    have hread : Still s { u with clockReads := s.clockReads + 1 } :=
      (hdrain.still.trans hqueue.still).trans ⟨Iff.rfl, rfl, rfl⟩
    cases hnow : k.now s.clockReads with
    | none =>
      dsimp only
      refine .inl ⟨rfl, hread.trans ?_⟩
      exact (disableDeviceWake_quiet k _).still.trans (armTimer_still k _ _ _)
    | some now =>
      dsimp only
      rcases wakeCycleAt_paces k (h.of_still hread) hduration hrate now kind servo with
        ⟨hnone, hstill⟩ | ⟨hprev, hcycle⟩
      · exact .inl ⟨hnone, hread.trans hstill⟩
      · rw [hread.nextTime] at hprev
        exact .inr ⟨now, kind, _, rfl, hread, hprev, hcycle⟩

/-- After a cycle the host is called, or the next wake is chosen. -/
theorem signal_still (k : Kernel) (s : DataState) (hook : Option (Option Hook)) :
    Still s (signal k (s, hook)) := by
  unfold signal
  split
  · next h => rw [← (Prod.mk.inj h).1]; exact .refl s
  · next h => rw [← (Prod.mk.inj h).1]; exact ⟨Iff.rfl, rfl, rfl⟩
  · next h => rw [← (Prod.mk.inj h).1]; exact selectNextWake_still k s

end Wake

end DataState

/-! ## Runs -/

/-- A node, and the times at which its cycles were accepted, the last first. -/
structure Paced where
  node : DataState
  cycles : List Nat

/-- The time of the cycle that an event drives. -/
def acceptedAt (k : Kernel) (s : DataState) : Event → Option Nat
  | .wake fired read servo =>
    if ({ s with timer := if fired then 0 else s.timer }.wakeCycle k read servo).2.isSome then
      k.now s.clockReads
    else none
  | _ => none

/-- The runs of a node that drives a graph of this period, from the deadline `first`. -/
def pacing (k : Kernel) (duration rate first : Nat) : System Paced Event where
  init p := p.node.Drives duration rate ∧ p.node.nextTime = first ∧ p.cycles = []
  step p e := (p.node.step k e).map fun s => ⟨s, (acceptedAt k p.node e).toList ++ p.cycles⟩

/-- No external transition: wakes, the graph's `process` and what the host does in between.
The servo corrects by at most a factor of two, and the deadline does not saturate. -/
def Steady (k : Kernel) (duration rate : Nat) (p : Paced) : Event → Prop
  | .wake _ _ servo =>
    (∃ corr : ℚ, 1 / 2 ≤ corr ∧ corr ≤ 2 ∧
      servo.stretched = stretchedPeriod duration rate corr) ∧
    ∀ now, k.now p.node.clockReads = some now →
      p.node.resynced now + servo.stretched ≤ u64Max
  | .process pass => pass.swap = none
  | .hostWrites position _ => position.targetDuration = duration ∧ position.targetRate = rate
  | .readyReturned | .stream _ | .setCallbacks _ => True
  | _ => False

/-- A step leaves the deadline, or is a cycle that moves it on. -/
def Paces (k : Kernel) (duration rate : Nat) (p p' : Paced) : Prop :=
  (p'.cycles = p.cycles ∧ p'.node.nextTime = p.node.nextTime) ∨
    ∃ now, p'.cycles = now :: p.cycles ∧
      p.node.Accepts k duration rate (halfPeriod duration rate) now p'.node

section Step
variable {k : Kernel} {duration rate : Nat} {s : DataState}

open DataState

theorem hostWrites_still (h : s.Drives duration rate) {position : Position}
    (hduration : position.targetDuration = duration) (hrate : position.targetRate = rate)
    (clock : Clock) : Still s (s.hostWrites position clock) := by
  obtain ⟨⟨-, -, hposition, -⟩, htarget⟩ := h
  obtain ⟨area, harea⟩ := Option.isSome_iff_exists.mp hposition
  refine ⟨?_, ?_, rfl⟩
  · unfold Driving hostWrites
    rw [Option.isSome_map, Option.isSome_map]
  · rw [htarget]
    unfold target hostWrites
    rw [harea, Option.map_some, ← hduration, ← hrate]

/-- A cycle of the graph that takes no completion leaves the deadline. -/
theorem processDataCycle_still (k : Kernel) (s : DataState) {pass : PortsPass}
    (hswap : pass.swap = none) : Still s (s.processDataCycle k pass) := by
  unfold processDataCycle processPorts
  rw [hswap]
  split
  · exact (setPort_quiet s _).still
  · have hports : Still s ((s.queueRequiredRebuilds k).setStream pass.flags) :=
      (queueRequiredRebuilds_quiet k s).still.trans (setPort_quiet _ _).still
    have hpass : Still s
        (((s.queueRequiredRebuilds k).setStream pass.flags).queueRequiredRebuilds
          k).discardDeviceSnapshots :=
      hports.trans ((queueRequiredRebuilds_quiet k _).still.trans (setPort_quiet _ _).still)
    dsimp only
    split
    · exact hpass
    · exact hpass.trans (selectNextWake_still k _)

/-- A wake of a run: what it does to the deadline. -/
theorem onWake_paces (h : s.Drives duration rate) (hduration : duration ≠ 0) (hrate : 0 < rate)
    (hdeadline : s.nextTime ≠ 0) (hfits : s.nextTime ≤ u64Max) {read : WakeRead} {servo : Servo}
    (hservo : halfPeriod duration rate ≤ servo.stretched)
    (hroom : ∀ now, k.now s.clockReads = some now → s.resynced now + servo.stretched ≤ u64Max) :
    ((s.wakeCycle k read servo).2 = none ∧ Still s (s.onWake k read servo)) ∨
      ∃ now, (s.wakeCycle k read servo).2.isSome = true ∧
        (s.onWake k read servo).Drives duration rate ∧
        s.Accepts k duration rate (halfPeriod duration rate) now (s.onWake k read servo) ∧
        (s.onWake k read servo).nextTime ≤ u64Max := by
  unfold onWake
  rcases wakeCycle_paces k h hduration hrate.ne' read servo with
    ⟨hnone, hstill⟩ | ⟨now, kind, t, hnow, hstill, hprev, hcycle⟩
  · left
    generalize s.wakeCycle k read servo = outcome at hnone hstill ⊢
    obtain ⟨u, hook⟩ := outcome
    obtain rfl : hook = none := hnone
    exact ⟨rfl, hstill⟩
  · right
    rw [hcycle]
    have hsignal := signal_still k (t.driveCycle now kind servo) (some t.callbacks)
    have hnext : (signal k (t.driveCycle now kind servo, some t.callbacks)).nextTime =
        s.resynced now + servo.stretched := by
      rw [hsignal.nextTime]
      show min (t.resynced now + servo.stretched) u64Max = _
      have hresynced : t.resynced now = s.resynced now := by
        unfold resynced
        rw [hstill.nextTime]
      rw [hresynced, Nat.min_eq_left (hroom now hnow)]
    refine ⟨now, rfl, (driveCycle_drives (h.of_still hstill) now kind servo).of_still hsignal,
      ⟨hnow, not_early hdeadline hfits hduration hrate.ne' hprev, le_resynced s now, ?_⟩, ?_⟩
    · rw [hnext]
      omega
    · rw [hnext]
      exact hroom now hnow

/-- What holds along a run. -/
structure Paced.Sound (duration rate first : Nat) (p : Paced) : Prop where
  drives : p.node.Drives duration rate
  positive : p.node.nextTime ≠ 0
  fits : p.node.nextTime ≤ u64Max
  spaced : Spaced (watchdogGrace duration rate) (halfPeriod duration rate) first p.node.nextTime
    p.cycles

/-- A step that leaves the deadline and drives no cycle. -/
theorem Paced.Sound.still {first : Nat} {p : Paced} (h : p.Sound duration rate first)
    (hstill : Still p.node s) : (Paced.mk s p.cycles).Sound duration rate first where
  drives := h.drives.of_still hstill
  positive := hstill.nextTime ▸ h.positive
  fits := hstill.nextTime ▸ h.fits
  spaced := hstill.nextTime ▸ h.spaced

/-- One step of a run. -/
theorem step_paces {first : Nat} (hduration : duration ≠ 0) (hrate : 0 < rate) {p p' : Paced}
    {e : Event} (h : p.Sound duration rate first) (he : Steady k duration rate p e)
    (hstep : (pacing k duration rate first).step p e = some p') :
    Paces k duration rate p p' ∧ p'.Sound duration rate first := by
  obtain ⟨t, ht, rfl⟩ := Option.map_eq_some_iff.mp hstep
  have hquiet : acceptedAt k p.node e = none → Still p.node t →
      Paces k duration rate p ⟨t, (acceptedAt k p.node e).toList ++ p.cycles⟩ ∧
        (Paced.mk t ((acceptedAt k p.node e).toList ++ p.cycles)).Sound duration rate first := by
    intro hnone hstill
    rw [hnone]
    exact ⟨.inl ⟨rfl, hstill.nextTime⟩, h.still hstill⟩
  cases e with
  | wake fired read servo =>
    obtain ⟨⟨corr, hlow, hhigh, hservo⟩, hroom⟩ := he
    have hpos : 0 < corr := lt_of_lt_of_le (by norm_num) hlow
    have hhalf : halfPeriod duration rate ≤ servo.stretched :=
      hservo ▸ halfPeriod_le hrate hpos hhigh
    have htimer : Still p.node { p.node with timer := if fired then 0 else p.node.timer } :=
      ⟨Iff.rfl, rfl, rfl⟩
    cases ht
    have hdrives := h.drives.of_still htimer
    rcases onWake_paces hdrives hduration hrate h.positive h.fits hhalf hroom with
      ⟨hnone, hstill⟩ | ⟨now, hsome, hdrives, haccepts, hfits⟩
    · exact hquiet (if_neg (by rw [hnone]; exact Bool.false_ne_true)) (htimer.trans hstill)
    · have hat : acceptedAt k p.node (.wake fired read servo) = some now :=
        (if_pos hsome).trans haccepts.time
      rw [hat]
      have hmoves := Nat.le_trans (Nat.add_le_add_right haccepts.forward _) haccepts.advance
      have hpositive := Nat.lt_of_lt_of_le (Nat.add_pos_left (Nat.pos_of_ne_zero h.positive) _)
        hmoves
      exact ⟨.inr ⟨now, rfl, haccepts.time, haccepts.due, haccepts.forward, haccepts.advance⟩,
        hdrives, hpositive.ne', hfits, h.spaced.admit haccepts.due hmoves⟩
  | readyReturned =>
    refine hquiet rfl ?_
    obtain ⟨-, hreturned⟩ := Option.ite_none_left_eq_some.mp ht
    cases hreturned
    have hreturn : Still p.node
        { p.node with readyDispatching := false, readyFrames := p.node.readyFrames - 1 } :=
      ⟨Iff.rfl, rfl, rfl⟩
    exact hreturn.trans (selectNextWake_still k _)
  | process pass =>
    cases ht
    exact hquiet rfl (processDataCycle_still k p.node he)
  | hostWrites position clock =>
    cases ht
    exact hquiet rfl (hostWrites_still h.drives he.1 he.2 clock)
  | stream flags =>
    cases ht
    exact hquiet rfl (setPort_quiet _ _).still
  | setCallbacks hook =>
    cases ht
    exact hquiet rfl ⟨Iff.rfl, rfl, rfl⟩
  | _ => exact absurd he id

end Step

theorem paced_inductive (k : Kernel) {duration rate first : Nat} (hduration : duration ≠ 0)
    (hrate : 0 < rate) (hfirst : first ≠ 0) (hfits : first ≤ u64Max) :
    Inductive (pacing k duration rate first) (Steady k duration rate)
      (Paced.Sound duration rate first) where
  init := by
    rintro ⟨s, _⟩ ⟨hdrives, hnext, rfl⟩
    obtain rfl : s.nextTime = first := hnext
    exact ⟨hdrives, hfirst, hfits, .start ..⟩
  step _ _ _ h he hstep := (step_paces hduration hrate h he hstep).2

/-- Graph cycles are rate bounded. In every run from a deadline `first`, at a period of at
least 2 ns, each step leaves the deadline or is a cycle that was due within the grace and
moves the deadline on by at least half a period from where a stall left it; so the cycles
up to a time are none before the grace of the first deadline, and at most one for each half
period from there, and one more. -/
theorem cycles_rate_bounded (k : Kernel) {duration rate first : Nat} (hrate : 0 < rate)
    (hperiod : 2 * rate ≤ duration * nsecPerSec) (hfirst : first ≠ 0) (hfits : first ≤ u64Max) :
    (∀ p e p', Via (pacing k duration rate first) (Steady k duration rate) p →
      Steady k duration rate p e → (pacing k duration rate first).step p e = some p' →
      Paces k duration rate p p') ∧
    ∀ p, Via (pacing k duration rate first) (Steady k duration rate) p → ∀ t,
      (t + watchdogGrace duration rate < first → upTo p.cycles t = 0) ∧
      upTo p.cycles t ≤
        (t + watchdogGrace duration rate - first) / halfPeriod duration rate + 1 := by
  have hduration : duration ≠ 0 := by
    rintro rfl
    omega
  have hinv := paced_inductive k hduration hrate hfirst hfits
  refine ⟨fun p e p' hp he hstep => ?_, fun p hp t => ?_⟩
  · exact (step_paces hduration hrate (hp.invariant hinv) he hstep).1
  · have hspaced := (hp.invariant hinv).spaced
    exact ⟨hspaced.none_before, hspaced.upTo_le (halfPeriod_pos hrate hperiod) t⟩

/-- A clock that goes on by half a millisecond for each reading. -/
def halfMillis : Kernel where
  now reads := some (1000000 + reads * 500000)
  registers _ := true
  unregisters _ := true
  submits _ := true

/-- A node on the portable timer, at a millisecond a cycle. -/
def millisNode : DataState :=
  { started := true, position := some ⟨0, 48, 48000⟩, clock := some { id := 0 }, nextTime := 1000000
    port := { identity := ⟨0, 0⟩ } }

/-- The timer expired, and the servo leaves the period. -/
def timerWake : Event := .wake true ⟨.ok none, true⟩ ⟨1, 0, 1000000⟩

theorem timerWake_steady {p : Paced} {now : Nat}
    (hnow : halfMillis.now p.node.clockReads = some now)
    (hroom : p.node.resynced now + 1000000 ≤ u64Max) : Steady halfMillis 48 48000 p timerWake := by
  refine ⟨⟨1, by norm_num, by norm_num, ?_⟩, fun now' hnow' => ?_⟩
  · unfold stretchedPeriod nsecPerSec
    norm_num
  · cases hnow.symm.trans hnow'
    exact hroom

/-- Three wakes, of which the second comes half a period after the first. -/
theorem cycles_rate_bounded_millis :
    ∃ p, Via (pacing halfMillis 48 48000 1000000) (Steady halfMillis 48 48000) p ∧
      p.cycles = [2000000, 1000000] ∧
      upTo p.cycles 2000000 ≤
        (2000000 + watchdogGrace 48 48000 - 1000000) / halfPeriod 48 48000 + 1 := by
  have hinit : (pacing halfMillis 48 48000 1000000).init ⟨millisNode, []⟩ :=
    ⟨⟨by decide, rfl⟩, rfl, rfl⟩
  have hfirst := Via.step (.init hinit) (timerWake_steady rfl (by decide)) rfl
  have hearly := Via.step hfirst (timerWake_steady rfl (by decide)) rfl
  have hsecond := Via.step hearly (timerWake_steady rfl (by decide)) rfl
  obtain ⟨-, hbound⟩ := cycles_rate_bounded halfMillis (by decide : 0 < 48000)
    (by decide : 2 * 48000 ≤ 48 * nsecPerSec) (by decide : 1000000 ≠ 0)
    (by decide : 1000000 ≤ u64Max)
  exact ⟨_, hsecond, rfl, (hbound _ hsecond 2000000).2⟩

end PwOss.Node.Timing
