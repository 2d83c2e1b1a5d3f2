import PwOss.Oss.Silence

/-
  The headroom of a playback ring.

  Admission (`playback_buffer_required`), the floor and the target of the fill are
  three formulas of their own, each with its clamps. A grant that admits a period
  keeps them apart: the target lies at or above the floor, and a full write plus a
  hardware quantum still fits above the target.

  What is proved:
    * below `u32::MAX` an admitted grant holds the floor, a write and a quantum
    * the target of an admitted grant lies between the floor and that headroom
    * `retune_buffer` applies in place exactly what the granted ring admits
-/

namespace PwOss.Oss

open PwOss.Backend PwOss.Sys PwOss.Proc

/-! ## Admission -/

/-- More of anything needs no less room. -/
theorem playbackBufferRequired_mono {period period' desired desired' blocksize blocksize'
    writeMax writeMax' : Nat} (hp : period ≤ period') (hd : desired ≤ desired')
    (hb : blocksize ≤ blocksize') (hw : writeMax ≤ writeMax') :
    playbackBufferRequired period desired blocksize writeMax ≤
      playbackBufferRequired period' desired' blocksize' writeMax' := by
  have hfloor : playbackFillFloor period blocksize ≤ playbackFillFloor period' blocksize' :=
    satAdd_mono hp (by omega)
  have hdouble := satAdd_mono (satMul_mono hp 2) hd
  have hwrite := satAdd_mono (satAdd_mono hfloor hw) hb
  unfold playbackBufferRequired
  omega

section Target
variable {period desired blocksize writeMax granted : Nat}

/-- What an admitted grant holds, when no sum along the way saturated. -/
theorem admitted (hlt : granted < u32Max)
    (h : playbackBufferRequired period desired blocksize writeMax ≤ granted) :
    period * 2 + desired ≤ granted ∧
      playbackFillFloor period blocksize + writeMax + blocksize ≤ granted := by
  unfold playbackBufferRequired at h
  have hdouble : satAdd (satMul period 2) desired ≤ granted := by omega
  have hwrite : satAdd (satAdd (playbackFillFloor period blocksize) writeMax) blocksize ≤
      granted := by omega
  have hsum := satAdd_exact (Nat.lt_of_le_of_lt hwrite hlt)
  have hinner := satAdd_exact (a := playbackFillFloor period blocksize) (b := writeMax) (by omega)
  have hperiods := satAdd_exact (Nat.lt_of_le_of_lt hdouble hlt)
  have hmul := satMul_exact (a := period) (b := 2) (by omega)
  omega

theorem le_playbackFillFloor (hlt : playbackFillFloor period blocksize < u32Max) :
    period ≤ playbackFillFloor period blocksize := by
  have hexact := satAdd_exact (a := period) (b := max (period / 4) blocksize) hlt
  unfold playbackFillFloor at *
  omega

/-- The target of an admitted grant keeps the floor below and the headroom above. -/
theorem playbackTargetDelay_room (hlt : granted < u32Max)
    (h : playbackBufferRequired period desired blocksize writeMax ≤ granted) :
    playbackFillFloor period blocksize ≤
        (playbackTargetDelay granted period blocksize writeMax desired).1 ∧
      (playbackTargetDelay granted period blocksize writeMax desired).1 + writeMax + blocksize ≤
        granted := by
  obtain ⟨hdouble, hroom⟩ := admitted hlt h
  have hfloor : period ≤ playbackFillFloor period blocksize := le_playbackFillFloor (by omega)
  have htwice : satMul period 2 ≤ granted := Nat.le_trans (satMul_le period 2) (by omega)
  have hheadroom : satAdd writeMax blocksize = writeMax + blocksize := by
    unfold satAdd
    omega
  unfold playbackTargetDelay
  rw [if_pos htwice, hheadroom]
  dsimp only
  omega

end Target

/-! ## Retunes -/

namespace DspWriter
variable {n : Native} {w : DspWriter}

/-- The geometry that a request gives on the ring as it is. -/
def retuned (w : DspWriter) (request : PlaybackBufferRequest) (fill : Nat) :
    PlaybackBufferGeometry :=
  playbackRetunedGeometry request w.buffer.capacityBytes w.buffer.quantumBytes
    w.deliveryQuantumNs fill w.playbackDelayEighths

/-- Nothing to retune: no primed ring runs, or the period is its own. -/
def Settled (w : DspWriter) (request : PlaybackBufferRequest) : Prop :=
  w.state ≠ .running ∨ w.buffer.periodBytes = 0 ∨ request.periodBytes = 0 ∨
    request.periodBytes = w.buffer.periodBytes

/-- How `retune_buffer` answers: a new period waits for a second cycle, and is then applied
when the ring admits it. -/
inductive Retuned (request : PlaybackBufferRequest) (fill : Nat) (w : DspWriter) :
    PlaybackRetune → Prop where
  | unchanged (h : w.Settled request) : Retuned request fill w .unchanged
  | pending (hnew : ¬ w.Settled request) (h : w.buffer.mismatchCycles = 0) :
      Retuned request fill w .pending
  | applied (hnew : ¬ w.Settled request)
      (h : (w.retuned request fill).requiredCapacityBytes ≤
        (w.retuned request fill).capacityBytes) :
      Retuned request fill w (.applied (w.retuned request fill))
  | refused {answer : PlaybackRetune} (hnew : ¬ w.Settled request)
      (ha : answer = .reprime ∨ answer = .rebuild)
      (h : (w.retuned request fill).capacityBytes <
        (w.retuned request fill).requiredCapacityBytes) : Retuned request fill w answer

theorem retuneBuffer_answers (n : Native) (w : DspWriter) (request : PlaybackBufferRequest)
    (fill : Nat) : Runs (retuneBuffer n request fill) w fun answer _ =>
      Retuned request fill w answer := by
  unfold retuneBuffer
  refine .get (.ite (fun hidle => .modify (.pure (.unchanged hidle))) fun hnew => .modify ?_)
  refine .ite (fun hfew => .pure (.pending hnew ?_)) fun _ => .ite (fun hfits => ?_) fun hno => ?_
  · unfold satAdd u32Max at hfew
    omega
  · exact .modify (.pure (.applied hnew hfits))
  · have hshort := Nat.lt_of_not_le hno
    refine .bind ((suspend_ends n _).mono fun ok w₁ _ => .ite (fun _ => .modify ?_) fun _ => ?_)
    · exact .pure (.refused hnew (.inl rfl) hshort)
    · exact .pure (.refused hnew (.inr rfl) hshort)

end DspWriter

/-- The playback target leaves headroom: a grant below `u32::MAX` that covers what the
period, the delay, the quantum and the largest write require gets a target at or above the
fill floor, with room above it for that write and one quantum. Hence the goal of every
retune that is applied in place lies inside the ring with the same room. -/
theorem target_leaves_headroom (n : Native) (request : PlaybackBufferRequest) (fill : Nat)
    {w w' : DspWriter} {geometry : PlaybackBufferGeometry}
    (hcapacity : w.buffer.capacityBytes < u32Max)
    (happlied : DspWriter.retuneBuffer n request fill w = some (.applied geometry, w')) :
    (∀ period quantum writeMax delayEighths granted : Nat, 0 < period → period ≤ writeMax →
      granted < u32Max →
      playbackBufferRequired period (playbackDesiredDelay period delayEighths) quantum writeMax ≤
        granted →
      ∀ target capped, playbackTargetDelay granted period quantum writeMax
          (playbackDesiredDelay period delayEighths) = (target, capped) →
        playbackFillFloor period quantum ≤ target ∧ target + writeMax + quantum ≤ granted) ∧
    geometry.capacityBytes = w.buffer.capacityBytes ∧
    geometry.minimumFillBytes ≤ geometry.targetGoalBytes ∧
    geometry.targetGoalBytes + max request.periodBytes request.maximumWriteBytes +
      geometry.quantumBytes ≤ geometry.capacityBytes := by
  refine ⟨fun period quantum writeMax delayEighths granted _ _ hlt h target capped ht => ?_, ?_⟩
  · have hroom := playbackTargetDelay_room hlt h
    rw [ht] at hroom
    exact hroom
  cases (DspWriter.retuneBuffer_answers n w request fill).elim happlied with
  | applied _ hfits =>
    have hroom := playbackTargetDelay_room hcapacity hfits
    exact ⟨rfl, hroom.1, hroom.2⟩
  | refused _ ha _ =>
    rcases ha with h | h
    · cases h
    · cases h

/-- A running stereo device that asks for a longer period the second time. -/
def tunedDevice : DspWriter :=
  { DspWriter.new 0 with
    state := .running
    buffer := { periodBytes := 4096, quantumBytes := 2048, capacityBytes := 131072,
                mismatchCycles := 1 } }

/-- A graph cycle of 2048 frames of 8 bytes. -/
def longerPeriod : PlaybackBufferRequest := ⟨16384, 0, 8, 48000, 16384, 16384⟩

/-- A kernel that refuses nothing. -/
def willing : Native where
  open_ _ := .ok ()
  write _ := .ok 0
  trigger _ := true
  silence _ := .ok ()
  skip _ := .ok ()
  odelay _ := .ok 0

theorem target_leaves_headroom_tunedDevice :
    (∀ period quantum writeMax delayEighths granted : Nat, 0 < period → period ≤ writeMax →
      granted < u32Max →
      playbackBufferRequired period (playbackDesiredDelay period delayEighths) quantum writeMax ≤
        granted →
      ∀ target capped, playbackTargetDelay granted period quantum writeMax
          (playbackDesiredDelay period delayEighths) = (target, capped) →
        playbackFillFloor period quantum ≤ target ∧ target + writeMax + quantum ≤ granted) ∧
    (131072 = 131072 ∧ 20480 ≤ 20480 ∧ 20480 + max 16384 16384 + 2048 ≤ 131072) := by
  have hrun : (DspWriter.retuneBuffer willing longerPeriod 16384 tunedDevice).map (·.1) =
      some (.applied ⟨131072, 2048, 16384, 20480, 20480, 53248, false⟩) := by
    decide +kernel
  obtain ⟨⟨answer, w'⟩, hw, rfl⟩ := Option.map_eq_some_iff.mp hrun
  exact target_leaves_headroom willing longerPeriod 16384 (by decide) hw

end PwOss.Oss
