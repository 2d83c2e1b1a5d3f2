import PwOss.Node.Sink.Shadow
import PwOss.Oss.Headroom
import PwOss.Oss.SilencePhase

/-
  The fill target of a sink port.

  Seven operations write the target, each from a measurement of its own. A prime and a
  retune take it from the geometry of the ring, a resume from what survived the pause;
  the four others only ever raise it, and never above the goal.

  What is proved:
    * the goal that a geometry gives lies inside the ring it was granted
    * every operation keeps the target below the goal, and the goal inside the ring
    * settling, the servo, the level correction and the recovery lower no target, nor does
      a prime, a retune or a resume that seeds nothing
-/

namespace PwOss.Node

open PwOss.Backend PwOss.Sys PwOss.Oss PwOss.Proc PwOss.Transition

/-- The fill target of a grant lies inside the grant. -/
theorem playbackTargetDelay_le {period : Nat} (hp : period ≤ u32Max)
    (granted blocksize writeMax desired : Nat) :
    (playbackTargetDelay granted period blocksize writeMax desired).1 ≤ granted := by
  unfold playbackTargetDelay
  split
  · next htwice =>
    have hperiod : period ≤ granted := by
      unfold satMul at htwice
      omega
    dsimp only
    omega
  · exact Nat.div_le_self _ _

/-- A geometry whose target lies below its goal, and whose goal lies inside its ring. -/
structure Inside (geometry : PlaybackBufferGeometry) : Prop where
  target_le : geometry.targetFillBytes ≤ geometry.targetGoalBytes
  goal_le : geometry.targetGoalBytes ≤ geometry.capacityBytes

theorem inside_applied {request : PlaybackBufferRequest} (hp : request.periodBytes ≤ u32Max)
    (capacity quantum quantumNs delayEighths : Nat) :
    Inside (playbackAppliedGeometry request capacity quantum quantumNs delayEighths) where
  target_le := Nat.le_refl _
  goal_le := playbackTargetDelay_le hp _ _ _ _

theorem inside_retuned {request : PlaybackBufferRequest} (hp : request.periodBytes ≤ u32Max)
    (capacity quantum quantumNs fill delayEighths : Nat) :
    Inside (playbackRetunedGeometry request capacity quantum quantumNs fill delayEighths) where
  target_le := Nat.min_le_left _ _
  goal_le := playbackTargetDelay_le hp _ _ _ _

namespace Sink

/-- The target lies below the goal, and the goal inside the ring that the last prime was
granted. -/
structure Aimed (s : Sink) : Prop where
  target_le : s.ext.targetDelay ≤ s.ext.targetGoal
  goal_le : s.ext.targetGoal ≤ s.ext.bufferSize
  granted : s.dsp.buffer.periodBytes ≠ 0 → s.ext.bufferSize = s.dsp.buffer.capacityBytes

variable {s s' : Sink}

/-- Nothing that bears on the target changed. -/
structure Unmoved (s s' : Sink) : Prop where
  target : s'.ext.targetDelay = s.ext.targetDelay
  goal : s'.ext.targetGoal = s.ext.targetGoal
  size : s'.ext.bufferSize = s.ext.bufferSize
  buffer : s'.dsp.buffer = s.dsp.buffer

theorem Unmoved.aimed (hu : Unmoved s s') (h : s.Aimed) : s'.Aimed where
  target_le := by rw [hu.target, hu.goal]; exact h.target_le
  goal_le := by rw [hu.goal, hu.size]; exact h.goal_le
  granted := by rw [hu.buffer, hu.size]; exact h.granted

/-- An aimed port stays aimed. -/
def Keeps (s s' : Sink) : Prop := s.Aimed → s'.Aimed

theorem Keeps.chain : Chain Keeps where
  refl := fun _ h => h
  trans := fun h h' ha => h' (h ha)

/-- An aimed port stays aimed, and its target does not sink. -/
def Lifts (s s' : Sink) : Prop := s.Aimed → s'.Aimed ∧ s.ext.targetDelay ≤ s'.ext.targetDelay

theorem Lifts.chain : Chain Lifts where
  refl := fun _ h => ⟨h, Nat.le_refl _⟩
  trans := fun h h' ha => ⟨(h' (h ha).1).1, Nat.le_trans (h ha).2 (h' (h ha).1).2⟩

theorem Lifts.keeps (h : Lifts s s') : Keeps s s' := fun ha => (h ha).1

theorem Unmoved.lifts (hu : Unmoved s s') : Lifts s s' :=
  fun h => ⟨hu.aimed h, Nat.le_of_eq hu.target.symm⟩

/-- A target that rises, to the goal at most. -/
theorem Lifts.raise {target : Nat} {ext : SinkPortExt} (hle : s.ext.targetDelay ≤ target)
    (hgoal : s.Aimed → target ≤ s.ext.targetGoal) (ht : ext.targetDelay = target)
    (hg : ext.targetGoal = s.ext.targetGoal) (hb : ext.bufferSize = s.ext.bufferSize) :
    Lifts s { s with ext } := fun h =>
  ⟨{ target_le := by show ext.targetDelay ≤ ext.targetGoal; rw [ht, hg]; exact hgoal h
     goal_le := by show ext.targetGoal ≤ ext.bufferSize; rw [hg, hb]; exact h.goal_le
     granted := fun hp => by show ext.bufferSize = _; rw [hb]; exact h.granted hp },
    by show s.ext.targetDelay ≤ ext.targetDelay; rw [ht]; exact hle⟩

/-! ## The device -/

section Device
variable {α : Type}

/-- A device call that leaves the ring's geometry as it is. -/
theorem device_lifts {x : Native → Proc DspWriter α} (h : ∀ n, Moves DspWriter.Sized (x n)) :
    Moves Lifts (device x) := by
  intro s a t ht
  obtain ⟨⟨b, d⟩, hd, heq⟩ := Option.map_eq_some_iff.mp ht
  cases heq
  exact Unmoved.lifts ⟨rfl, rfl, rfl, (h s.kernel s.dsp b d hd).buffer⟩

theorem silence_lifts (count : Nat) :
    Moves Lifts (device fun n => DspWriter.writeSilence n count) :=
  device_lifts fun n => (DspWriter.writeSilence_moves n count).mono fun _ _ hf => hf.toSized

theorem write_lifts (data : List Cell) : Moves Lifts (device fun n => DspWriter.write n data) :=
  device_lifts fun n => (DspWriter.write_moves n data).mono fun _ _ hf => hf.toSized

theorem lifts_pure (a : α) : Moves Lifts (pure a) := .pure Lifts.chain a

theorem lifts_bind {β : Type} {x : Proc Sink β} {f : β → Proc Sink α} (hx : Moves Lifts x)
    (hf : ∀ b, Moves Lifts (f b)) : Moves Lifts (x >>= f) := .bind Lifts.chain hx hf

end Device

/-! ## Operations that seed no target -/

theorem settleTarget_lifts (fill stride : Nat) : Moves Lifts (settleTarget fill stride) := by
  unfold settleTarget
  refine .get fun s => .ite (fun _ => .update fun s => ?_) fun _ => lifts_pure _
  refine Lifts.raise (Nat.le_max_left _ _) (fun h => ?_) rfl rfl rfl
  exact Nat.max_le.mpr ⟨h.target_le, Nat.min_le_right _ _⟩

theorem followerServo_lifts (odelay stride : Nat) : Moves Lifts (followerServo odelay stride) := by
  unfold followerServo
  refine lifts_bind (settleTarget_lifts odelay stride) fun _ => .get fun s => ?_
  refine .ite (fun _ => .ite (fun _ => ?_) fun _ => lifts_pure _) fun _ => lifts_pure _
  exact lifts_bind (silence_lifts _) fun _ => lifts_pure _

theorem levelCorrect_lifts (odelay : Nat) : Moves Lifts (levelCorrect odelay) := by
  unfold levelCorrect
  exact .get fun s => .ite (fun _ => lifts_bind (silence_lifts _) fun _ => lifts_pure _)
    fun _ => lifts_pure _

/-- The recovery raises the target to the safe floor, and leaves a higher one alone. -/
theorem recoverOrHold_lifts (p : Position) (fill : Nat) (data : List Cell) :
    Moves Lifts (recoverOrHold p fill data) := by
  have hraise : Moves Lifts (modifyExt fun ext =>
      { ext with
        xrunTimestamp := 0
        targetDelay :=
          min (max ext.targetDelay (min ext.minimumFill ext.targetGoal)) ext.targetGoal }) := by
    refine .update fun s h => ?_
    have hle : s.ext.targetDelay ≤
        min (max s.ext.targetDelay (min s.ext.minimumFill s.ext.targetGoal)) s.ext.targetGoal :=
      Nat.le_min.mpr ⟨Nat.le_max_left _ _, h.target_le⟩
    exact Lifts.raise hle (fun _ => Nat.min_le_right _ _) rfl rfl rfl h
  unfold recoverOrHold
  refine .get fun s => .ite (fun _ => ?_) fun _ => lifts_pure _
  refine lifts_bind hraise fun _ => .get fun s => ?_
  exact lifts_bind (silence_lifts _) fun _ => lifts_bind (write_lifts data) fun _ => lifts_pure _

/-! ## Operations that seed the target -/

/-- The port takes the geometry of the ring its device keeps. -/
theorem commitGeometry_aims {period : Nat} {geometry : PlaybackBufferGeometry}
    (hi : Inside geometry) (hs : s.dsp.buffer.capacityBytes = geometry.capacityBytes)
    (hz : period = 0 → s.Aimed) : Ends (commitGeometry period geometry) s fun _ t => t.Aimed := by
  unfold commitGeometry
  refine .ite (fun h => .pure (hz h)) fun _ => ?_
  intro a t ht
  cases ht
  exact ⟨hi.target_le, hi.goal_le, fun _ => hs.symm⟩

/-- How a retune leaves the ring, and the geometry it applies. -/
structure Granted (w : DspWriter) (answer : PlaybackRetune) (w' : DspWriter) : Prop where
  primed : w'.buffer.periodBytes ≠ 0 → w.buffer.periodBytes ≠ 0
  capacity : w'.buffer.capacityBytes = w.buffer.capacityBytes
  inside : ∀ geometry, answer = .applied geometry →
    Inside geometry ∧ geometry.capacityBytes = w.buffer.capacityBytes

theorem retuneBuffer_grants (n : Native) (w : DspWriter) {request : PlaybackBufferRequest}
    (hp : request.periodBytes ≤ u32Max) (fill : Nat) :
    Ends (DspWriter.retuneBuffer n request fill) w (Granted w) := by
  unfold DspWriter.retuneBuffer
  refine .get (.ite (fun _ => .modify (.pure ⟨id, rfl, nofun⟩)) fun hnew => .modify ?_)
  refine .ite (fun _ => .pure ⟨id, rfl, nofun⟩) fun _ => .ite (fun _ => ?_) fun _ => ?_
  · refine .modify (.pure ⟨fun _ hz => hnew (.inr (.inl hz)), rfl, fun geometry heq => ?_⟩)
    cases heq
    exact ⟨inside_retuned hp _ _ _ _ _, rfl⟩
  · refine .bind (DspWriter.suspend_moves n _) fun ok w₁ hs => ?_
    have hbuffer := hs.toSized.buffer
    have hprimed : w₁.buffer.periodBytes ≠ 0 → w.buffer.periodBytes ≠ 0 := by
      rw [hbuffer]
      exact id
    have hcapacity : w₁.buffer.capacityBytes = w.buffer.capacityBytes := by rw [hbuffer]
    exact .ite (fun _ => .modify (.pure ⟨hprimed, hcapacity, nofun⟩))
      fun _ => .pure ⟨hprimed, hcapacity, nofun⟩

/-- A prime takes its geometry from the grant. -/
theorem primeBuffer_grants (n : Native) (w : DspWriter) {request : PlaybackBufferRequest}
    (hp : request.periodBytes ≤ u32Max) (granted : Nat × Nat) (delayEighths : Nat) :
    Ends (DspWriter.primeBuffer n request granted delayEighths) w fun geometry w' =>
      Inside geometry ∧ w'.buffer.capacityBytes = geometry.capacityBytes := by
  unfold DspWriter.primeBuffer
  refine .get (.require fun _ => .modify (.bind (DspWriter.writeSilence_moves n _ _) ?_))
  intro _ w₁ hf
  refine .pure ⟨inside_applied hp _ _ _ _, ?_⟩
  rw [hf.toSized.buffer]

theorem retunePeriod_keeps (c : Cycle) {period : Nat} (hp : period ≤ u32Max)
    (stride writeNow : Nat) : Moves Keeps (retunePeriod c period stride writeNow) := by
  intro s a t ht ha
  revert a t
  show Ends (retunePeriod c period stride writeNow) s fun _ t => t.Aimed
  unfold retunePeriod
  refine .get (.bind (R := fun answer t => t.ext = s.ext ∧ Granted s.dsp answer t.dsp) ?_ ?_)
  · intro answer t h
    obtain ⟨⟨b, d⟩, hd, heq⟩ := Option.map_eq_some_iff.mp h
    cases heq
    exact ⟨rfl, retuneBuffer_grants s.kernel s.dsp hp _ b d hd⟩
  rintro answer t ⟨hext, hg⟩
  have hkept : ∀ u : Sink, u.ext.targetDelay = t.ext.targetDelay →
      u.ext.targetGoal = t.ext.targetGoal → u.ext.bufferSize = t.ext.bufferSize →
      u.dsp = t.dsp → u.Aimed := by
    intro u h1 h2 h3 h4
    rw [hext] at h1 h2 h3
    refine ⟨?_, ?_, fun hu => ?_⟩
    · rw [h1, h2]
      exact ha.target_le
    · rw [h2, h3]
      exact ha.goal_le
    · rw [h4] at hu ⊢
      rw [h3, hg.capacity]
      exact ha.granted (hg.primed hu)
  cases answer with
  | unchanged | pending | rebuild => exact .modify (.pure (hkept _ rfl rfl rfl rfl))
  | applied geometry =>
    obtain ⟨hi, hcap⟩ := hg.inside geometry rfl
    refine .bind (commitGeometry_aims hi (hg.capacity.trans hcap.symm) fun _ =>
      hkept t rfl rfl rfl rfl) fun _ u hu => .modify (.pure ?_)
    exact ⟨hu.target_le, hu.goal_le, hu.granted⟩
  | reprime => exact .modify (.modify (.pure (hkept _ rfl rfl rfl rfl)))

theorem primePlayback_keeps (c : Cycle) {period : Nat} (hp : period ≤ u32Max) :
    Moves Keeps (primePlayback c period) := by
  intro s a t ht ha
  revert a t
  show Ends (primePlayback c period) s fun _ t => t.Aimed
  unfold primePlayback
  refine .get ?_
  cases s.config with
  | none => exact .pure ha
  | some config =>
    refine .ite (fun _ => .pure ha) fun hperiod => ?_
    refine .bind (R := fun geometry t => Inside geometry ∧
      t.dsp.buffer.capacityBytes = geometry.capacityBytes) ?_ ?_
    · intro geometry t h
      obtain ⟨⟨b, d⟩, hd, heq⟩ := Option.map_eq_some_iff.mp h
      cases heq
      exact primeBuffer_grants s.kernel s.dsp hp _ _ b d hd
    · rintro geometry t ⟨hi, hcap⟩
      exact commitGeometry_aims hi hcap fun h => absurd h hperiod

theorem resumePlayback_keeps (queued pausedUnderruns : Nat) (data : List Cell) :
    Moves Keeps (resumePlayback queued pausedUnderruns data) := by
  have hkeeps {α : Type} {x : Proc Sink α} (h : Moves Lifts x) : Moves Keeps x :=
    h.mono fun _ _ => Lifts.keeps
  have hpure {α : Type} (a : α) : Moves Keeps (pure a) := .pure Keeps.chain a
  have hresuming : Moves Keeps (modifyExt fun ext => { ext with resuming := false }) :=
    .update fun _ h => ⟨h.target_le, h.goal_le, h.granted⟩
  have hlast (o : WriteOutcome) : Moves Keeps (do
      if o.wouldBlock = false then
        modifyExt fun ext => { ext with resuming := false }
      return o) :=
    .ite (fun _ => .bind Keeps.chain hresuming fun _ => hpure o) fun _ => hpure o
  have hwrite (drained : Prop) [Decidable drained] : Moves Keeps (do
      let o ← device fun n => DspWriter.write n data
      if ¬ drained ∧ 0 < o.bytes then
        modify fun s =>
          { s with
            ext :=
              { s.ext with
                targetDelay :=
                  min s.ext.targetGoal (predictedNextFill queued o.bytes s.setupPeriod) } }
      if o.wouldBlock = false then
        modifyExt fun ext => { ext with resuming := false }
      return o) := by
    refine .bind Keeps.chain (hkeeps (write_lifts data)) fun o => ?_
    dsimp only
    refine .ite (fun _ => .bind Keeps.chain (.update fun s h => ?_) fun _ => hlast o)
      fun _ => hlast o
    -- the seed from the fill that survived
    exact ⟨Nat.min_le_left _ _, h.goal_le, h.granted⟩
  unfold resumePlayback
  dsimp only
  refine .ite (fun _ => .bind Keeps.chain (.update fun s h => ?_) fun _ => .get fun s => ?_)
    fun _ => hwrite _
  · exact ⟨Nat.le_refl _, h.goal_le, h.granted⟩
  · exact .bind Keeps.chain (hkeeps (silence_lifts _)) fun _ => hwrite _

/-! ## Where they seed nothing -/

/-- The target stays as it was. -/
def SameTarget (s t : Sink) : Prop := t.ext.targetDelay = s.ext.targetDelay

theorem SameTarget.chain : Chain SameTarget where
  refl := fun _ => rfl
  trans := fun h h' => h'.trans h

/-- A device call leaves the target alone. -/
theorem device_sameTarget {α : Type} (x : Native → Proc DspWriter α) :
    Moves SameTarget (device x) := by
  intro s a t ht
  obtain ⟨⟨b, d⟩, -, heq⟩ := Option.map_eq_some_iff.mp ht
  cases heq
  exact Eq.refl _

theorem primePlayback_unseeded {c : Cycle} {period : Nat} (h : s.config = none ∨ period = 0) :
    Ends (primePlayback c period) s fun _ t => t = s := by
  unfold primePlayback
  refine .get ?_
  cases hconfig : s.config with
  | none => exact .pure rfl
  | some config =>
    rw [hconfig] at h
    exact .ite (fun _ => .pure rfl) fun hperiod => absurd (h.resolve_left nofun) hperiod

/-- A retune that was not applied keeps the target. -/
theorem retunePeriod_unseeded (c : Cycle) (period stride writeNow : Nat) (s : Sink) :
    Ends (retunePeriod c period stride writeNow) s fun outcome t =>
      outcome ≠ .retuned → SameTarget s t := by
  unfold retunePeriod
  refine .get (.bind (device_sameTarget _ s) fun answer t ht => ?_)
  cases answer with
  | unchanged | pending | rebuild => exact .modify (.pure fun _ => ht)
  | applied geometry =>
    refine .bind (R := fun _ _ => True) (fun _ _ _ => trivial) fun _ u _ => .modify (.pure ?_)
    exact fun h => absurd rfl h
  | reprime => exact .modify (.modify (.pure fun h => absurd rfl h))

/-- A resume that found a queue and wrote nothing keeps the target. -/
theorem resumePlayback_unseeded {queued pausedUnderruns : Nat}
    (h : ¬ (queued = 0 ∧ 0 < pausedUnderruns)) (data : List Cell) (s : Sink) :
    Ends (resumePlayback queued pausedUnderruns data) s fun o t =>
      o.bytes = 0 → SameTarget s t := by
  have hlast (o : WriteOutcome) (t : Sink) (ht : o.bytes = 0 → SameTarget s t) : Ends (do
      if o.wouldBlock = false then
        modifyExt fun ext => { ext with resuming := false }
      return o) t fun o t => o.bytes = 0 → SameTarget s t :=
    .ite (fun _ => .modify (.pure ht)) fun _ => .pure ht
  unfold resumePlayback
  dsimp only
  refine .ite (fun hdrained => absurd hdrained h) fun _ => ?_
  refine .bind (device_sameTarget _ s) fun o t ht => ?_
  refine .ite (fun hwrote => ?_) fun _ => hlast o t fun _ => ht
  exact .modify (hlast o _ fun hz => absurd hz (Nat.pos_iff_ne_zero.mp hwrote.2))

/-! ## Runs -/

/-- An operation on the target. -/
inductive TargetOp where
  | prime (c : Cycle) (period : UInt32)
  | retune (c : Cycle) (period : UInt32) (stride writeNow : Nat)
  | settle (fill stride : Nat)
  | follow (odelay stride : Nat)
  | level (odelay : Nat)
  | recover (p : Position) (fill : Nat) (data : List Cell)
  | resume (queued pausedUnderruns : Nat) (data : List Cell)

namespace TargetOp

/-- The operations that may seed the target anew. -/
def seeds : TargetOp → Bool
  | .prime .. | .retune .. | .resume .. => true
  | _ => false

/-- The operation seeds the target anew: a prime of a period, a retune that the device
applied or answered with a reprime, a resume that found the queue drained or wrote. -/
def Reseeds (s : Sink) : TargetOp → Prop
  | .prime _ period => s.config ≠ none ∧ period ≠ 0
  | .retune c period stride writeNow =>
    ∃ t, retunePeriod c period.toNat stride writeNow s = some (.retuned, t)
  | .resume queued pausedUnderruns data =>
    (queued = 0 ∧ 0 < pausedUnderruns) ∨
      ∃ o t, resumePlayback queued pausedUnderruns data s = some (o, t) ∧ 0 < o.bytes
  | _ => False

def perform : TargetOp → Proc Sink Unit
  | .prime c period => primePlayback c period.toNat
  | .retune c period stride writeNow => do let _ ← retunePeriod c period.toNat stride writeNow
  | .settle fill stride => settleTarget fill stride
  | .follow odelay stride => do let _ ← followerServo odelay stride
  | .level odelay => do let _ ← levelCorrect odelay
  | .recover p fill data => do let _ ← recoverOrHold p fill data
  | .resume queued pausedUnderruns data => do let _ ← resumePlayback queued pausedUnderruns data

theorem perform_lifts {op : TargetOp} (h : op.seeds = false) : Moves Lifts op.perform := by
  have hdone {α : Type} {x : Proc Sink α} (hx : Moves Lifts x) :
      Moves Lifts (x >>= fun _ => pure ()) := lifts_bind hx fun _ => lifts_pure _
  cases op with
  | settle fill stride => exact settleTarget_lifts fill stride
  | follow odelay stride => exact hdone (followerServo_lifts odelay stride)
  | level odelay => exact hdone (levelCorrect_lifts odelay)
  | recover p fill data => exact hdone (recoverOrHold_lifts p fill data)
  | prime | retune | resume => cases h

theorem perform_keeps (op : TargetOp) : Moves Keeps op.perform := by
  have hperiod (period : UInt32) : period.toNat ≤ u32Max := Nat.le_of_lt_succ period.toNat_lt
  have hdone {α : Type} {x : Proc Sink α} (hx : Moves Keeps x) :
      Moves Keeps (x >>= fun _ => pure ()) :=
    .bind Keeps.chain hx fun _ => .pure Keeps.chain _
  have hlifts (h : op.seeds = false) : Moves Keeps op.perform :=
    (perform_lifts h).mono fun _ _ => Lifts.keeps
  cases op with
  | prime c period => exact primePlayback_keeps c (hperiod period)
  | retune c period stride writeNow =>
    exact hdone (retunePeriod_keeps c (hperiod period) stride writeNow)
  | resume queued pausedUnderruns data =>
    exact hdone (resumePlayback_keeps queued pausedUnderruns data)
  | settle | follow | level | recover => exact hlifts rfl

/-- An operation that seeds nothing lowers no target. -/
theorem perform_unseeded {s : Sink} (ha : s.Aimed) {op : TargetOp} (h : ¬ op.Reseeds s) :
    Ends op.perform s fun _ t => s.ext.targetDelay ≤ t.ext.targetDelay := by
  have hlifts (h : op.seeds = false) :
      Ends op.perform s fun _ t => s.ext.targetDelay ≤ t.ext.targetDelay :=
    (perform_lifts h s).mono fun _ _ hl => (hl ha).2
  cases op with
  | settle | follow | level | recover => exact hlifts rfl
  | prime c period =>
    refine (primePlayback_unseeded ?_).mono fun _ t ht => Nat.le_of_eq (ht ▸ rfl)
    by_cases hconfig : s.config = none
    · exact .inl hconfig
    · refine .inr (Decidable.byContradiction fun hperiod => ?_)
      exact h ⟨hconfig, fun hz => hperiod (hz ▸ rfl)⟩
  | retune c period stride writeNow =>
    refine .bind (R := fun outcome t => retunePeriod c period.toNat stride writeNow s =
      some (outcome, t)) (fun _ _ ht => ht) fun outcome t ht => .pure ?_
    refine Nat.le_of_eq (Eq.symm ?_)
    refine retunePeriod_unseeded c period.toNat stride writeNow s outcome t ht ?_
    rintro rfl
    exact h ⟨t, ht⟩
  | resume queued pausedUnderruns data =>
    have hdrained : ¬ (queued = 0 ∧ 0 < pausedUnderruns) := fun hd => h (.inl hd)
    refine .bind (R := fun o t => resumePlayback queued pausedUnderruns data s = some (o, t))
      (fun _ _ ht => ht) fun o t ht => .pure ?_
    have hwrote : ¬ 0 < o.bytes := fun hwrote => h (.inr ⟨o, t, ht, hwrote⟩)
    exact Nat.le_of_eq (resumePlayback_unseeded hdrained data s o t ht (by omega)).symm

end TargetOp

/-- A port that was not primed yet. -/
def Unprimed (s : Sink) : Prop := s.ext = {} ∧ s.dsp.buffer.periodBytes = 0

/-- The runs of the target's operations. -/
def aiming : System Sink TargetOp where
  init := Unprimed
  step s op := (op.perform s).map (·.2)

theorem aimed_inductive : Inductive aiming (fun _ _ => True) Aimed where
  init := by
    rintro s ⟨hext, hbuffer⟩
    exact ⟨hext ▸ Nat.le_refl 0, hext ▸ Nat.le_refl 0, fun h => absurd hbuffer h⟩
  step := by
    intro s op s' h _ hstep
    obtain ⟨⟨a, t⟩, ht, rfl⟩ := Option.map_eq_some_iff.mp hstep
    exact op.perform_keeps s a t ht h

theorem aimed (h : Reachable aiming s) : s.Aimed := h.invariant aimed_inductive

/-- A fill of whole frames from the target down to the level of the queue. -/
theorem refill_within (h : s.Aimed) {fill : Nat} (hfill : fill ≤ s.ext.bufferSize)
    (ho : s.dsp.state ≠ .closed) (hstride : s.dsp.stride ≤ 4096)
    (hframe : s.dsp.silencePattern.frameMultiple = s.dsp.stride) :
    Runs (DspWriter.writeSilence s.kernel (s.ext.targetDelay - fill)) s.dsp fun _ d =>
      fill + (d.ring.length - s.dsp.ring.length) ≤ s.ext.bufferSize + s.dsp.frameTail := by
  have htarget := h.target_le
  have hgoal := h.goal_le
  refine (DspWriter.writeSilence_inPhase s.kernel _ ho hstride hframe).mono ?_
  intro _ d ⟨cells, _, hw, hle, _⟩
  rw [hw.ring, List.length_append]
  omega

end Sink

/-- The fill target stays inside the ring. In every run of the operations that write it, from
a port that was not primed yet, the target lies below the goal and the goal inside the ring
that the device was granted. Hence a refill of the difference between the target and the
queue fills the ring at most; the device closes a frame that was left open besides. Only a
prime, a retune or a resume that seeds the target anew lowers it: no prime without a period,
no retune that the device answers by no change, a delay or a rebuild, and no resume that
finds a queue and writes nothing. -/
theorem target_inside_ring {s : Sink} (h : Reachable Sink.aiming s) :
    (s.ext.targetDelay ≤ s.ext.targetGoal ∧ s.ext.targetGoal ≤ s.ext.bufferSize ∧
      (s.dsp.buffer.periodBytes ≠ 0 → s.ext.bufferSize = s.dsp.buffer.capacityBytes)) ∧
    (∀ fill, fill ≤ s.ext.bufferSize →
      fill + (s.ext.targetDelay - fill) ≤ s.ext.bufferSize ∧
      (s.dsp.state ≠ .closed → s.dsp.stride ≤ 4096 →
        s.dsp.silencePattern.frameMultiple = s.dsp.stride →
        Runs (DspWriter.writeSilence s.kernel (s.ext.targetDelay - fill)) s.dsp fun _ d =>
          fill + (d.ring.length - s.dsp.ring.length) ≤
            s.ext.bufferSize + s.dsp.frameTail)) ∧
    ∀ op t, Sink.aiming.step s op = some t → ¬ op.Reseeds s →
      s.ext.targetDelay ≤ t.ext.targetDelay := by
  have ha := Sink.aimed h
  refine ⟨⟨ha.target_le, ha.goal_le, ha.granted⟩, fun fill hfill => ⟨?_, ?_⟩, ?_⟩
  · have htarget := Nat.le_trans ha.target_le ha.goal_le
    omega
  · exact fun ho hstride hframe => Sink.refill_within ha hfill ho hstride hframe
  · intro op t hstep hop
    obtain ⟨⟨a, u⟩, hu, rfl⟩ := Option.map_eq_some_iff.mp hstep
    exact Sink.TargetOp.perform_unseeded ha hop a u hu

/-- A stereo port that is set up and not primed yet. -/
def setUpSink : Sink :=
  { idleSink with
    kernel := willing
    config := some ⟨1, 48000, 2, [], 0, 8⟩
    dsp := { DspWriter.new 0 with state := .setup } }

/-- A prime for 512 frames, a longer period that the ring admits, and an empty queue. -/
def primeRetuneSettle : List Sink.TargetOp :=
  [.prime { shortCycle with granted := (65536, 1024) } 4096, .settle 0 8,
    .retune shortCycle 16384 8 0, .retune shortCycle 16384 8 0, .follow 0 8,
    .resume 100 0 []]

theorem target_inside_ring_retuned :
    ∃ s, Sink.aiming.run setUpSink primeRetuneSettle = some s ∧ s.setupPeriod = 16384 ∧
      (s.ext.targetDelay ≤ s.ext.targetGoal ∧ s.ext.targetGoal ≤ s.ext.bufferSize ∧
        (s.dsp.buffer.periodBytes ≠ 0 → s.ext.bufferSize = s.dsp.buffer.capacityBytes)) ∧
      (∀ fill, fill ≤ s.ext.bufferSize →
        fill + (s.ext.targetDelay - fill) ≤ s.ext.bufferSize ∧
        (s.dsp.state ≠ .closed → s.dsp.stride ≤ 4096 →
          s.dsp.silencePattern.frameMultiple = s.dsp.stride →
          Runs (DspWriter.writeSilence s.kernel (s.ext.targetDelay - fill)) s.dsp fun _ d =>
            fill + (d.ring.length - s.dsp.ring.length) ≤
              s.ext.bufferSize + s.dsp.frameTail)) ∧
      ∀ op t, Sink.aiming.step s op = some t → ¬ op.Reseeds s →
        s.ext.targetDelay ≤ t.ext.targetDelay := by
  have hrun : (Sink.aiming.run setUpSink primeRetuneSettle).map
      (fun s => s.setupPeriod) = some 16384 := by
    decide +kernel
  obtain ⟨s, hs, hperiod⟩ := Option.map_eq_some_iff.mp hrun
  have h : Reachable Sink.aiming s :=
    via_of_run primeRetuneSettle (.init ⟨rfl, rfl⟩) (fun _ _ _ => trivial) hs
  exact ⟨s, hs, hperiod, target_inside_ring h⟩

end PwOss.Node
