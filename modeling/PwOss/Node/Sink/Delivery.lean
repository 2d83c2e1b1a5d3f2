import PwOss.Node.Sink.Refinement
import PwOss.Oss.Boundary

/-
  The sink consumes each host buffer once.

  Between two steps the port remembers of its buffer exactly what the ring took
  (`Sink.Sound`). A cycle keeps the buffer with its new offset, or lets it go when
  the ring took all of it or for one of the reasons of `Release.Excuses`; an xrun
  hold or an overfill skip lets go of buffers only that the ring knows nothing of.
-/

namespace PwOss.Node

open PwOss.Backend PwOss.Sys PwOss.Oss PwOss.Proc PwOss.Transition

namespace Sink

/-- A retained prefix belongs to the offered buffer, and is not all of it. -/
def Retained (s : Sink) : Prop :=
  s.ext.pendingOffset ≠ 0 → ∃ b, s.offer = some b ∧ s.ext.pendingBuffer = some b.id ∧
    s.ext.pendingOffset < b.data.length

structure Sound (s : Sink) : Prop where
  session : s.At s.taken
  retained : s.Retained

theorem taken_of_clear {s : Sink} (hz : s.ext.pendingOffset = 0) : s.taken = 0 := by
  unfold taken
  split
  · exact hz
  · rfl

theorem taken_of_running {s : Sink} (hr : s.dsp.state = .running) :
    s.taken = s.ext.pendingOffset := if_pos hr

/-- A port that remembers nothing of a buffer. -/
theorem Sound.of_clear {s : Sink} (h : s.At 0) (hz : s.ext.pendingOffset = 0) : s.Sound where
  session := by rwa [taken_of_clear hz]
  retained := fun hne => absurd hz hne

/-- A device that is not running has nothing of the buffer. -/
theorem Sound.of_stopped {s : Sink} (h : s.At 0) (hn : s.dsp.state ≠ .running)
    (hr : s.Retained) : s.Sound where
  session := by
    unfold taken
    rwa [if_neg hn]
  retained := hr

/-- The device, the buffer and what the port remembers of it are as before. -/
structure Same (s s' : Sink) : Prop where
  kernel : s'.kernel = s.kernel
  dsp : s'.dsp = s.dsp
  offer : s'.offer = s.offer
  presented : s'.presented = s.presented
  pendingBuffer : s'.ext.pendingBuffer = s.ext.pendingBuffer
  pendingOffset : s'.ext.pendingOffset = s.ext.pendingOffset
  config : s'.config = s.config

namespace Same
variable {s s' s'' : Sink}

theorem refl (s : Sink) : Same s s := ⟨rfl, rfl, rfl, rfl, rfl, rfl, rfl⟩

theorem trans (h : Same s s') (h' : Same s' s'') : Same s s'' where
  kernel := h'.kernel.trans h.kernel
  dsp := h'.dsp.trans h.dsp
  offer := h'.offer.trans h.offer
  presented := h'.presented.trans h.presented
  pendingBuffer := h'.pendingBuffer.trans h.pendingBuffer
  pendingOffset := h'.pendingOffset.trans h.pendingOffset
  config := h'.config.trans h.config

theorem at_ {k : Nat} (h : Same s s') (hat : s.At k) : s'.At k :=
  hat.congr h.kernel h.dsp h.offer h.presented

theorem taken (h : Same s s') : s'.taken = s.taken := by
  unfold Sink.taken
  rw [h.dsp, h.pendingOffset]

end Same

theorem Sound.same {s s' : Sink} (hs : s.Sound) (h : Same s s') : s'.Sound where
  session := by
    rw [h.taken]
    exact h.at_ hs.session
  retained := by
    unfold Retained
    rw [h.offer, h.pendingBuffer, h.pendingOffset]
    exact hs.retained

/-- A call that may have reset the ring keeps the port's memory right. -/
theorem Sound.settled {s s' : Sink} (h : s.Sound) (hs : Settled s s.taken s') : s'.Sound := by
  obtain ⟨d, rfl, -, hstop, hat⟩ := hs
  refine ⟨?_, h.retained⟩
  unfold taken
  by_cases hr : d.state = .running
  · rw [if_pos hr] at hat ⊢
    have hrun : s.dsp.state = .running := by
      cases hs : s.dsp.state with
      | running => rfl
      | closed => exact absurd hr (hstop (by simp [hs]))
      | setup => exact absurd hr (hstop (by simp [hs]))
    rwa [taken_of_running hrun] at hat
  · rwa [if_neg hr] at hat ⊢

/-! ## Letting a buffer go -/

section Release
variable {s : Sink} {k : Nat}

theorem endInputSequence_runs (h : s.At k) :
    Runs endInputSequence s fun _ s' =>
      At { s' with offer := none } 0 ∧ s'.ext.pendingOffset = 0 := by
  unfold endInputSequence
  refine .bind_of (endBufferSequence_runs h) ?_
  rintro reset _ ⟨d, rfl, hat⟩
  unfold finishInputSequence
  refine .get ?_
  cases reset with
  | true => exact .modify (.modify (.of_eq rfl ⟨hat.congr rfl rfl rfl rfl, rfl⟩))
  | false => exact .modify (.of_eq rfl ⟨hat.congr rfl rfl rfl rfl, rfl⟩)

/-- NEED_DATA: the host has its buffer back. -/
theorem releaseInput_runs (h : s.At k) :
    Runs releaseInput s fun _ s' => s'.Sound ∧ s'.offer = none := by
  unfold releaseInput
  refine .bind_of (endInputSequence_runs h) ?_
  rintro _ s₁ ⟨hat, hz⟩
  exact .of_eq rfl ⟨.of_clear hat hz, rfl⟩

end Release

/-! ## Rebuilds -/

section Rebuild
variable {s : Sink}

theorem queueRebuild_runs (flushed : Bool) :
    Runs (queueRebuild flushed) s fun queued s' =>
      (s' = s ∨ s' = { s with rebuildPending := true }) ∧
        (queued = true → s'.rebuildPending = true) := by
  unfold queueRebuild
  refine .get (.ite (fun _ => .pure ⟨.inl rfl, nofun⟩) (fun _ => .modify (.pure ⟨.inr rfl, ?_⟩)))
  exact fun _ => rfl

theorem queueRequiredRebuilds_runs (flushed : Bool) :
    Runs (queueRequiredRebuilds flushed) s fun _ s' =>
      s' = s ∨ s' = { s with rebuildPending := true } := by
  unfold queueRequiredRebuilds
  refine .get (.ite (fun _ => ?_) (fun _ => .pure (.inl rfl)))
  exact .bind_of (queueRebuild_runs flushed) fun _ _ h => .pure h.1

theorem Sound.pending {s' : Sink} (h : s.Sound)
    (hs : s' = s ∨ s' = { s with rebuildPending := true }) : s'.Sound := by
  rcases hs with rfl | rfl
  · exact h
  · exact h.same ⟨rfl, rfl, rfl, rfl, rfl, rfl, rfl⟩

/-- Another device: the port owes nothing of the buffer to its ring. -/
theorem At.swapped {k : Nat} (h : s.At k) {kernel : Native} {dsp : DspWriter}
    (hf : Session.Fresh dsp) {s' : Sink} (hk : s'.kernel = kernel) (hd : s'.dsp = dsp)
    (ho : s'.offer = s.offer) (hp : s'.presented = s.presented) : s'.At 0 :=
  (h.swap hf).congr hk hd ho hp

/-- The rebuild worker or the main loop has the port's device in exchange. -/
def Exchanging (c : Cycle) (s : Sink) : Prop :=
  s.takeover = true ∨ s.rebuildPending = true ∨ c.flushed = false ∨ c.completion ≠ none

theorem pollRebuild_runs (c : Cycle) (h : s.Sound) (hf : Completion.Fresh c.completion) :
    Runs (pollRebuild c) s fun skip s' =>
      s'.Sound ∧ s'.offer = s.offer ∧ (skip = true → Exchanging c s) := by
  unfold pollRebuild
  refine .get (.ite (fun hc => .pure ⟨h, rfl, fun _ => ?_⟩) (fun _ => ?_))
  · rcases hc with ht | hd
    · exact .inl ht
    · exact .inr (.inr (.inl hd))
  cases hcomp : c.completion with
  | none => exact .pure ⟨h, rfl, fun hp => .inr (.inl hp)⟩
  | some completion =>
    have hex : Exchanging c s := .inr (.inr (.inr (by simp [hcomp])))
    rw [hcomp] at hf
    show Runs (pollRebuildCompletion completion) s _
    cases completion with
    | superseded => exact .get (.pure ⟨h, rfl, fun _ => hex⟩)
    | installed kernel dsp config quantumBytes =>
      exact .of_eq rfl ⟨.of_clear (h.session.swapped hf rfl rfl rfl rfl) rfl, rfl, nofun⟩
    | aborted =>
      exact .modify (.pure ⟨h.same ⟨rfl, rfl, rfl, rfl, rfl, rfl, rfl⟩, rfl, fun _ => hex⟩)
    | retireAndRetry kernel placeholder =>
      exact .of_eq rfl ⟨.of_stopped (h.session.swapped hf rfl rfl rfl rfl) hf.stopped h.retained,
        rfl, fun _ => hex⟩
    | failed kernel placeholder =>
      exact .of_eq rfl ⟨.of_clear (h.session.swapped hf rfl rfl rfl rfl) rfl, rfl, fun _ => hex⟩

end Rebuild

/-! ## A cycle with a buffer -/

/-- The port works on its offered buffer `b`. -/
structure Holding (b : HostBuffer) (s : Sink) : Prop where
  offer : s.offer = some b
  buffer : s.ext.pendingBuffer = some b.id
  session : s.At s.taken
  within : s.ext.pendingOffset ≠ 0 → s.ext.pendingOffset < b.data.length

namespace Holding
variable {b : HostBuffer} {s s' : Sink}

theorem same (h : Holding b s) (hs : Same s s') : Holding b s' where
  offer := hs.offer.trans h.offer
  buffer := hs.pendingBuffer.trans h.buffer
  session := by
    rw [hs.taken]
    exact hs.at_ h.session
  within := by
    rw [hs.pendingOffset]
    exact h.within

theorem sound (h : Holding b s) : s.Sound where
  session := h.session
  retained := fun hne => ⟨b, h.offer, h.buffer, h.within hne⟩

theorem settled (h : Holding b s) (hs : Settled s s.taken s') : Holding b s' where
  offer := by
    obtain ⟨d, rfl, -⟩ := hs
    exact h.offer
  buffer := by
    obtain ⟨d, rfl, -⟩ := hs
    exact h.buffer
  session := (h.sound.settled hs).session
  within := by
    obtain ⟨d, rfl, -⟩ := hs
    exact h.within

end Holding

section Pieces
variable {b : HostBuffer} {s : Sink} {k : Nat}

/-- A buffer that the host keeps unchanged is taken up where it was left. -/
theorem preparePendingWrite_runs (h : s.Sound) (hb : s.offer = some b) :
    Runs (preparePendingWrite b.id b.data.length) s fun offset s' =>
      offset = s.ext.pendingOffset ∧ Holding b s' ∧ s'.ext.pendingOffset = s.ext.pendingOffset ∧
        s'.dsp = s.dsp ∧ s'.config = s.config := by
  have hkept : s.ext.pendingOffset ≠ 0 →
      s.ext.pendingBuffer = some b.id ∧ s.ext.pendingOffset < b.data.length := by
    intro hne
    obtain ⟨b', hb', hid, hlt⟩ := h.retained hne
    rw [hb] at hb'
    cases hb'
    exact ⟨hid, hlt⟩
  unfold preparePendingWrite
  refine .get ?_
  dsimp only
  refine .ite (fun hc => ?_) (fun _ => ?_)
  · obtain ⟨hid, hlt⟩ := hkept hc.1
    rcases hc.2 with hne | hover
    · exact absurd hid hne
    · omega
  unfold pendingWriteOffset
  refine .get (.ite (fun hc => .modify (.pure ?_)) (fun hc => .pure ?_))
  · have hzero : s.ext.pendingOffset = 0 := by
      by_cases hz : s.ext.pendingOffset = 0
      · exact hz
      · obtain ⟨hid, hlt⟩ := hkept hz
        rcases hc with hne | hover
        · exact absurd hid hne
        · omega
    have hat : s.At 0 := by
      have hs := h.session
      rwa [taken_of_clear hzero] at hs
    refine ⟨hzero.symm, ⟨hb, rfl, ?_, fun hne => absurd rfl hne⟩, hzero.symm, rfl, rfl⟩
    rw [taken_of_clear rfl]
    exact hat.congr rfl rfl rfl rfl
  · have hid : s.ext.pendingBuffer = some b.id := by
      by_cases hid : s.ext.pendingBuffer = some b.id
      · exact hid
      · exact absurd (.inl hid) hc
    exact ⟨rfl, ⟨hb, hid, h.session, fun hne => (hkept hne).2⟩, rfl, rfl, rfl⟩

theorem commitGeometry_runs (period : Nat) (geometry : PlaybackBufferGeometry) :
    Runs (commitGeometry period geometry) s fun _ s' => Same s s' := by
  unfold commitGeometry
  exact .ite (fun _ => .pure (.refl s)) (fun _ => .of_eq rfl ⟨rfl, rfl, rfl, rfl, rfl, rfl, rfl⟩)

theorem modifyExt_runs {f : SinkPortExt → SinkPortExt}
    (hb : (f s.ext).pendingBuffer = s.ext.pendingBuffer)
    (ho : (f s.ext).pendingOffset = s.ext.pendingOffset) :
    Runs (modifyExt f) s fun _ s' => Same s s' :=
  .of_eq rfl ⟨rfl, rfl, rfl, rfl, hb, ho, rfl⟩

theorem settleTarget_runs (fill stride : Nat) :
    Runs (settleTarget fill stride) s fun _ s' => Same s s' := by
  unfold settleTarget
  exact .get (.ite (fun _ => modifyExt_runs rfl rfl) (fun _ => .pure (.refl s)))

theorem detectUnderrun_runs (period : Nat) (c : Cycle) (nsec : Nat) :
    Runs (detectUnderrun period c nsec) s fun _ s' => Same s s' := by
  unfold detectUnderrun
  refine .get ?_
  split
  · exact .pure (.refl s)
  · exact .ite (fun _ => modifyExt_runs rfl rfl) (fun _ => .pure (.refl s))

/-- A retune may reset the ring, and changes nothing else about the buffer. -/
theorem retunePeriod_runs (h : Holding b s) (c : Cycle) (period stride writeNow : Nat) :
    Runs (retunePeriod c period stride writeNow) s fun _ s' =>
      Holding b s' ∧ (s.dsp.state ≠ .closed → s'.dsp.state ≠ .closed) ∧
        (s'.dsp.state = .running → s.dsp.state = .running) ∧
        s'.ext.pendingOffset = s.ext.pendingOffset ∧ s'.config = s.config := by
  unfold retunePeriod
  refine .get (.bind_of (retuneBuffer_runs h.session _ _) ?_)
  intro r s₁ hs
  have hhold := h.settled hs
  obtain ⟨d, rfl, hopen, hstop, -⟩ := hs
  have hrunning : d.state = .running → s.dsp.state = .running := by
    intro hr
    cases hst : s.dsp.state with
    | running => rfl
    | closed => exact absurd hr (hstop (by simp [hst]))
    | setup => exact absurd hr (hstop (by simp [hst]))
  have hend : ∀ {s' : Sink}, Same { s with dsp := d } s' →
      Holding b s' ∧ (s.dsp.state ≠ .closed → s'.dsp.state ≠ .closed) ∧
        (s'.dsp.state = .running → s.dsp.state = .running) ∧
        s'.ext.pendingOffset = s.ext.pendingOffset ∧ s'.config = s.config := by
    intro s' hs'
    exact ⟨hhold.same hs', fun hc => by rw [hs'.dsp]; exact hopen hc,
      fun hr => hrunning (by rwa [hs'.dsp] at hr), hs'.pendingOffset, hs'.config⟩
  cases r with
  | unchanged | pending | rebuild =>
    exact .bind_of (modifyExt_runs rfl rfl) fun _ _ hs' => .pure (hend hs')
  | applied geometry =>
    refine .bind_of (commitGeometry_runs period geometry) fun _ s₂ hs₂ => ?_
    exact .bind_of (modifyExt_runs rfl rfl) fun _ _ hs' => .pure (hend (hs₂.trans hs'))
  | reprime =>
    exact .of_eq rfl (hend ⟨rfl, rfl, rfl, rfl, rfl, rfl, rfl⟩)

end Pieces

/-! ## The write of a cycle -/

/-- How far the ring is in the buffer after the cycle's write: an xrun hold and an
overfill skip leave a buffer that the ring has nothing of. -/
def Reached (b : HostBuffer) (c : Cycle) (k : Nat) (s : Sink) : Delivery → Prop
  | .wrote o => k + o.bytes ≤ b.data.length ∧ s.At (k + o.bytes)
  | .held => s.At 0 ∧ s.ext.xrunTimestamp ≠ 0
  | .skipped => s.At 0 ∧ s.ext.targetDelay + s.setupPeriod < c.fill

/-- The write of a cycle that took the buffer up at `k`. -/
structure Delivered (b : HostBuffer) (c : Cycle) (k : Nat) (s : Sink) (delivery : Delivery) :
    Prop where
  offer : s.offer = some b
  buffer : s.ext.pendingBuffer = some b.id
  offset : s.ext.pendingOffset = k
  running : s.dsp.state = .running
  reached : Reached b c k s delivery

section Write
variable {b : HostBuffer} {s : Sink}

/-- Silence before a buffer that the ring has nothing of. -/
theorem silence_runs (h : Holding b s) (hz : s.ext.pendingOffset = 0)
    (ho : s.dsp.state ≠ .closed) (count : Nat) :
    Runs (device fun n => DspWriter.writeSilence n count) s fun _ s' =>
      ∃ d, s' = { s with dsp := d } ∧ d.state = .running ∧ Holding b s' := by
  have hat := h.session
  rw [taken_of_clear hz] at hat
  refine (writeSilence_runs hat ho count).mono ?_
  rintro _ _ ⟨d, rfl, hrun, hat'⟩
  refine ⟨d, rfl, hrun, h.offer, h.buffer, ?_, h.within⟩
  rw [taken_of_clear (s := { s with dsp := d }) hz]
  exact hat'

/-- The write of what the ring has not taken of the buffer. -/
theorem deliver_runs (h : Holding b s) (hrun : s.dsp.state = .running) (c : Cycle) :
    Runs (device fun n => DspWriter.write n (b.cells.drop s.ext.pendingOffset)) s fun o s' =>
      Delivered b c s.ext.pendingOffset s' (.wrote o) := by
  have hat := h.session
  rw [taken_of_running hrun] at hat
  refine (write_runs hat h.offer (by simp [hrun])).mono ?_
  rintro o _ ⟨d, rfl, hrun', hle, hat'⟩
  exact ⟨h.offer, h.buffer, rfl, hrun', hle, hat'⟩

theorem deliver_new_runs (h : Holding b s) (hrun : s.dsp.state = .running)
    (hz : s.ext.pendingOffset = 0) (c : Cycle) :
    Runs (device fun n => DspWriter.write n b.cells) s fun o s' =>
      Delivered b c 0 s' (.wrote o) := by
  have h := deliver_runs h hrun c
  rwa [hz, List.drop_zero] at h

theorem recoverOrHold_runs (h : Holding b s) (hrun : s.dsp.state = .running)
    (hz : s.ext.pendingOffset = 0) (hx : s.ext.xrunTimestamp ≠ 0) (c : Cycle) (p : Position)
    (fill : Nat) :
    Runs (recoverOrHold p fill b.cells) s fun δ s' => Delivered b c 0 s' δ := by
  unfold recoverOrHold
  refine .get (.ite (fun _ => ?_) (fun _ => .pure ?_))
  · refine .bind_of (modifyExt_runs rfl rfl) fun _ s₁ hs₁ => .get ?_
    have h₁ := h.same hs₁
    have hz₁ := hs₁.pendingOffset.trans hz
    refine .bind_of (silence_runs h₁ hz₁ (by rw [hs₁.dsp, hrun]; decide) _) ?_
    rintro _ s₂ ⟨d, rfl, hrun₂, h₂⟩
    refine .bind_of (deliver_new_runs h₂ hrun₂ hz₁ c) ?_
    intro o s₃ hd
    exact .pure hd
  · have hat := h.session
    rw [taken_of_clear hz] at hat
    exact ⟨h.offer, h.buffer, hz, hrun, hat, hx⟩

theorem resumePlayback_runs (h : Holding b s) (hrun : s.dsp.state = .running)
    (hz : s.ext.pendingOffset = 0) (c : Cycle) (queued pausedUnderruns : Nat) :
    Runs (resumePlayback queued pausedUnderruns b.cells) s fun o s' =>
      Delivered b c 0 s' (.wrote o) := by
  have hwritten : ∀ {s₁ : Sink} {o : WriteOutcome} (ext : SinkPortExt),
      Delivered b c 0 s₁ (.wrote o) → ext.pendingBuffer = s₁.ext.pendingBuffer →
      ext.pendingOffset = s₁.ext.pendingOffset →
      Delivered b c 0 { s₁ with ext } (.wrote o) := by
    intro s₁ o ext hd hb ho
    exact ⟨hd.offer, hb.trans hd.buffer, ho.trans hd.offset, hd.running, hd.reached.1,
      hd.reached.2.congr rfl rfl rfl rfl⟩
  -- the write and what follows it
  have hrest : ∀ {s₁ : Sink}, Holding b s₁ → s₁.dsp.state = .running →
      s₁.ext.pendingOffset = 0 → ∀ drained : Prop, [Decidable drained] →
      Runs (do
        let o ← device fun n => DspWriter.write n b.cells
        if ¬ drained ∧ 0 < o.bytes then
          modify fun s =>
            { s with
              ext :=
                { s.ext with
                  targetDelay :=
                    min s.ext.targetGoal (predictedNextFill queued o.bytes s.setupPeriod) } }
        if o.wouldBlock = false then
          modifyExt fun ext => { ext with resuming := false }
        return o) s₁ fun o s' => Delivered b c 0 s' (.wrote o) := by
    intro s₁ h₁ hrun₁ hz₁ drained _
    refine .bind_of (deliver_new_runs h₁ hrun₁ hz₁ c) ?_
    intro o s₂ hd
    dsimp only
    refine .ite (fun _ => .modify ?_) (fun _ => ?_)
    · have hd' := hwritten
        { s₂.ext with
          targetDelay := min s₂.ext.targetGoal (predictedNextFill queued o.bytes s₂.setupPeriod) }
        hd rfl rfl
      exact .ite (fun _ => .modify (.pure (hwritten _ hd' rfl rfl))) (fun _ => .pure hd')
    · exact .ite (fun _ => .modify (.pure (hwritten _ hd rfl rfl))) (fun _ => .pure hd)
  unfold resumePlayback
  dsimp only
  refine .ite (fun _ => ?_) (fun _ => hrest h hrun hz _)
  refine .bind_of (modifyExt_runs rfl rfl) fun _ s₁ hs₁ => .get ?_
  refine .bind_of (silence_runs (h.same hs₁) (hs₁.pendingOffset.trans hz)
    (by rw [hs₁.dsp, hrun]; decide) _) ?_
  rintro _ s₂ ⟨d, rfl, hrun₂, h₂⟩
  exact hrest h₂ hrun₂ (hs₁.pendingOffset.trans hz) _

theorem followerServo_runs (h : Holding b s) (hrun : s.dsp.state = .running)
    (hz : s.ext.pendingOffset = 0) (c : Cycle) (stride : Nat) :
    Runs (followerServo c.fill stride) s fun skip s' =>
      Holding b s' ∧ s'.dsp.state = .running ∧ s'.ext.pendingOffset = 0 ∧
        (skip = true → s'.ext.targetDelay + s'.setupPeriod < c.fill) := by
  unfold followerServo
  refine .bind_of (settleTarget_runs c.fill stride) fun _ s₁ hs₁ => .get ?_
  have h₁ := h.same hs₁
  have hrun₁ : s₁.dsp.state = .running := by rw [hs₁.dsp, hrun]
  have hz₁ := hs₁.pendingOffset.trans hz
  refine .ite (fun hfar => .ite (fun _ => ?_) (fun hover => .pure ?_)) (fun _ => .pure ?_)
  · refine .bind_of (silence_runs h₁ hz₁ (by rw [hrun₁]; decide) _) ?_
    rintro _ s₂ ⟨d, rfl, hrun₂, h₂⟩
    exact .pure ⟨h₂, hrun₂, hz₁, nofun⟩
  · refine ⟨h₁, hrun₁, hz₁, fun _ => ?_⟩
    omega
  · exact ⟨h₁, hrun₁, hz₁, nofun⟩

theorem levelCorrect_runs (h : Holding b s) (hrun : s.dsp.state = .running)
    (hz : s.ext.pendingOffset = 0) (c : Cycle) :
    Runs (levelCorrect c.fill) s fun skip s' =>
      Holding b s' ∧ s'.dsp.state = .running ∧ s'.ext.pendingOffset = 0 ∧
        (skip = true → s'.ext.targetDelay + s'.setupPeriod < c.fill) := by
  unfold levelCorrect
  refine .get (.ite (fun _ => ?_) (fun _ => .pure ⟨h, hrun, hz, fun hover => ?_⟩))
  · refine .bind_of (silence_runs h hz (by rw [hrun]; decide) _) ?_
    rintro _ s₂ ⟨d, rfl, hrun₂, h₂⟩
    exact .pure ⟨h₂, hrun₂, hz, nofun⟩
  · have hover := of_decide_eq_true hover
    omega

theorem writeNewBuffer_runs (h : Holding b s) (hrun : s.dsp.state = .running)
    (hz : s.ext.pendingOffset = 0) (c : Cycle) (retuned matching : Bool) (stride : Nat) :
    Runs (writeNewBuffer c retuned matching stride b.cells) s fun δ s' => Delivered b c 0 s' δ := by
  unfold writeNewBuffer
  refine .get ?_
  dsimp only
  have hservo : Runs
      (if (retuned = false ∧ s.setupPeriod ≠ 0 ∧ s.ext.retunePending = false) ∧ matching = true then
        followerServo c.fill stride else pure false) s fun skip s' =>
      Holding b s' ∧ s'.dsp.state = .running ∧ s'.ext.pendingOffset = 0 ∧
        (skip = true → s'.ext.targetDelay + s'.setupPeriod < c.fill) :=
    .ite (fun _ => followerServo_runs h hrun hz c stride) (fun _ => .pure ⟨h, hrun, hz, nofun⟩)
  refine .bind_of hservo ?_
  rintro skip s₁ ⟨h₁, hrun₁, hz₁, hskip₁⟩
  have hlevel : Runs
      (if (retuned = false ∧ s.setupPeriod ≠ 0 ∧ s.ext.retunePending = false) ∧
          c.following = true ∧ matching = false then
        levelCorrect c.fill else pure skip) s₁ fun skip s' =>
      Holding b s' ∧ s'.dsp.state = .running ∧ s'.ext.pendingOffset = 0 ∧
        (skip = true → s'.ext.targetDelay + s'.setupPeriod < c.fill) :=
    .ite (fun _ => levelCorrect_runs h₁ hrun₁ hz₁ c) (fun _ => .pure ⟨h₁, hrun₁, hz₁, hskip₁⟩)
  refine .bind_of hlevel ?_
  rintro skip s₂ ⟨h₂, hrun₂, hz₂, hskip₂⟩
  refine .ite (fun hs => .pure ?_) (fun _ => ?_)
  · have hat := h₂.session
    rw [taken_of_clear hz₂] at hat
    exact ⟨h₂.offer, h₂.buffer, hz₂, hrun₂, hat, hskip₂ hs⟩
  · exact .bind_of (deliver_new_runs h₂ hrun₂ hz₂ c) fun o s₃ hd => .pure hd

/-- The cycle's write. A tail is written before any correction could splice into it;
a resumed write happened before. -/
theorem writeCycle_runs (h : Holding b s) (hrun : s.dsp.state = .running) (c : Cycle) (p : Position)
    (retuned matching : Bool) (stride : Nat) :
    Runs (writeCycle c p retuned matching stride none (b.cells.drop s.ext.pendingOffset)) s
      fun δ s' => Delivered b c s.ext.pendingOffset s' δ := by
  unfold writeCycle
  refine .get (.ite (fun _ => ?_) (fun hz => ?_))
  · exact .bind_of (deliver_runs h hrun c) fun o s₁ hd => .pure hd
  · have hz : s.ext.pendingOffset = 0 := by simpa using hz
    rw [hz, List.drop_zero]
    exact .ite (fun hx => recoverOrHold_runs h hrun hz hx c p c.fill)
      (fun _ => writeNewBuffer_runs h hrun hz c retuned matching stride)

end Write

/-! ## What a verdict says -/

end Sink

/-- The ring took every byte of the buffer, in one run. -/
def Accepted (b : HostBuffer) (ring : List Cell) : Prop :=
  ∃ before, ring = before ++ b.cells ∧ Foreign b.serial before

/-- Why a cycle from `s` to `s'` may let a buffer go that the ring has not taken whole. -/
def Release.Excuses (c : Cycle) (s s' : Sink) (b : HostBuffer) : Release → Prop
  | .freewheel => ∃ p, c.position = some p ∧ p.freewheel = true
  | .rebuilding => Sink.Exchanging c s
  | .closed => s'.dsp.state = .closed
  | .replacing => s'.ext.rebuildAfterStart = true ∨ s'.rebuildPending = true
  | .noBlock => c.block = false
  | .noPosition => c.position = none
  | .retuneRebuild => s'.rebuildPending = true
  | .noPeriod => ∃ p config, c.position = some p ∧ s'.config = some config ∧
      devicePeriodBytes p.targetDuration (strideRate config).2 p.targetRateDenom
        (strideRate config).1 = 0
  | .noData | .empty => False
  -- an xrun hold, or an overfill skip, of a buffer that the ring has nothing of
  | .consumed .held => s'.ext.xrunTimestamp ≠ 0 ∧ Foreign b.serial s'.dsp.ring
  | .consumed .skipped =>
    s'.ext.targetDelay + s'.setupPeriod < c.fill ∧ Foreign b.serial s'.dsp.ring
  | .consumed (.wrote o) => o.retryablePartial = false

namespace Sink

/-- Where a verdict leaves the port, before `release_input` runs. -/
inductive Judged (c : Cycle) (s s' : Sink) : Verdict → Prop where
  | skip (h : s'.Sound) : Judged c s s' .skip
  | retain (h : s'.Sound) : Judged c s s' .retain
  | release {why : Release} {k : Nat} (hat : s'.At k)
      (h : ∀ b, s'.offer = some b → Accepted b s'.dsp.ring ∨ why.Excuses c s s' b) :
      Judged c s s' (.release why)

section Judge
variable {b : HostBuffer} {s₀ s : Sink} {c : Cycle}

theorem At.accepted (h : s.At b.data.length) (hb : s.offer = some b) : Accepted b s.dsp.ring := by
  obtain ⟨-, -, before, heq, hforeign⟩ := h.coherent.offered b hb
  refine ⟨before, ?_, hforeign⟩
  have hall : b.cells.take b.data.length = b.cells := by
    rw [← HostBuffer.length_cells, List.take_length]
  rw [← hall]
  exact heq

theorem At.foreign (h : s.At 0) (hb : s.offer = some b) : Foreign b.serial s.dsp.ring := by
  obtain ⟨-, -, before, heq, hforeign⟩ := h.coherent.offered b hb
  have hring : s.dsp.ring = before := by
    have heq : s.dsp.ring = before ++ b.cells.take 0 := heq
    rw [heq, List.take_zero, List.append_nil]
  rw [hring]
  exact hforeign

/-- A release with an excuse. -/
theorem Judged.excused {k : Nat} {why : Release} (hat : s.At k)
    (he : ∀ b, s.offer = some b → why.Excuses c s₀ s b) : Judged c s₀ s (.release why) :=
  .release hat fun b hb => .inr (he b hb)

theorem Delivered.latched {δ : Delivery} {k : Nat} (h : Delivered b c k s δ)
    (resuming required : Bool) :
    Delivered b c k { s with ext := { s.ext with resuming }, rebuildRequired := required } δ := by
  refine ⟨h.offer, h.buffer, h.offset, h.running, ?_⟩
  have hr := h.reached
  cases δ with
  | wrote o => exact ⟨hr.1, hr.2.congr rfl rfl rfl rfl⟩
  | held => exact ⟨hr.1.congr rfl rfl rfl rfl, hr.2⟩
  | skipped => exact ⟨hr.1.congr rfl rfl rfl rfl, hr.2⟩

/-- The buffer with its new offset, which is not its end. -/
theorem Delivered.keep {o : WriteOutcome} {k : Nat} (h : Delivered b c k s (.wrote o))
    (hlt : k + o.bytes < b.data.length) :
    Sound { s with ext := { s.ext with pendingOffset := k + o.bytes } } where
  session := by
    rw [taken_of_running (by exact h.running)]
    exact h.reached.2.congr rfl rfl rfl rfl
  retained := fun _ => ⟨b, h.offer, h.buffer, hlt⟩

theorem finishCycle_runs {δ : Delivery} {k : Nat} (h : Delivered b c k s δ) {size : Nat}
    (hsize : size = b.data.length - k) (hpos : 0 < size) :
    Runs (finishCycle size δ) s fun v s' => s'.offer = some b ∧ Judged c s₀ s' v := by
  have hrest : ∀ {s : Sink}, Delivered b c k s δ →
      Runs (do
        if (δ.outcome size).wouldBlock = true then return .retain
        else if ← retainPartialWrite size (δ.outcome size) then return .retain
        else return .release (.consumed δ)) s
        fun v s' => s'.offer = some b ∧ Judged c s₀ s' v := by
    intro s h
    have hend := h.reached
    cases δ with
    | held =>
      obtain ⟨hat, hx⟩ := hend
      refine .ite (fun hb => ?_) (fun _ => ?_)
      · simp [Delivery.outcome, WriteOutcome.consumed, WriteOutcome.wouldBlock] at hb
      · refine .bind (.ite (fun hc => absurd hc.1 (Nat.lt_irrefl _)) (fun _ => .pure (.pure ?_)))
        exact ⟨h.offer, .excused hat fun b' hb' => ⟨hx, hat.foreign hb'⟩⟩
    | skipped =>
      obtain ⟨hat, hover⟩ := hend
      refine .ite (fun hb => ?_) (fun _ => ?_)
      · simp [Delivery.outcome, WriteOutcome.consumed, WriteOutcome.wouldBlock] at hb
      · refine .bind (.ite (fun hc => absurd hc.1 (Nat.lt_irrefl _)) (fun _ => .pure (.pure ?_)))
        exact ⟨h.offer, .excused hat fun b' hb' => ⟨hover, hat.foreign hb'⟩⟩
    | wrote o =>
      obtain ⟨hle, hat⟩ := hend
      refine .ite (fun hb => .pure ⟨h.offer, .retain ?_⟩) (fun _ => ?_)
      · have hzero : o.bytes = 0 := by
          have hb : o.wouldBlock = true := hb
          simp only [WriteOutcome.wouldBlock, Bool.and_eq_true, beq_iff_eq] at hb
          exact hb.1
        have hkeep := h.keep (by omega)
        rw [hzero, Nat.add_zero, ← h.offset] at hkeep
        exact hkeep
      refine .bind (.ite (fun hpart => ?_) (fun hwhole => .pure (.pure ⟨h.offer, ?_⟩)))
      · have hlt : o.bytes < size := hpart.1
        have hfit := b.size_lt
        have hsat : satAdd s.ext.pendingOffset o.bytes = k + o.bytes := by
          rw [h.offset]
          unfold satAdd u32Max
          omega
        refine .of_eq rfl (.pure ⟨h.offer, .retain ?_⟩)
        show Sound { s with
          ext := { s.ext with pendingOffset := satAdd s.ext.pendingOffset o.bytes } }
        rw [hsat]
        exact h.keep (by omega)
      · refine .release hat fun b' hb' => ?_
        obtain rfl : b = b' := by
          rw [h.offer] at hb'
          cases hb'
          rfl
        by_cases hshort : o.bytes < size
        · right
          show o.retryablePartial = false
          cases hr : o.retryablePartial with
          | false => rfl
          | true => exact absurd ⟨hshort, hr⟩ hwhole
        · left
          have hend : k + o.bytes = b.data.length := by omega
          rw [hend] at hat
          exact hat.accepted h.offer
  unfold finishCycle
  refine .get ?_
  dsimp only
  exact .ite (fun _ => .modify (.modify (hrest (h.latched _ _))))
    (fun _ => .modify (hrest (h.latched _ _)))

end Judge

/-! ## The cycle -/

section Cycle
variable {b : HostBuffer} {s : Sink} {c : Cycle}

theorem primePlayback_runs (h : Holding b s) (hs : s.dsp.state = .setup)
    (hz : s.ext.pendingOffset = 0) {config : StreamConfig} (hc : s.config = some config)
    {period : Nat} (hp : period ≠ 0) :
    Runs (primePlayback c period) s fun _ s' =>
      Holding b s' ∧ s'.dsp.state = .running ∧ s'.ext.pendingOffset = 0 := by
  have hat := h.session
  rw [taken_of_clear hz] at hat
  unfold primePlayback
  refine .get ?_
  rw [hc]
  refine .ite (fun h0 => absurd h0 hp) (fun _ => ?_)
  refine .bind_of (primeBuffer_runs hat hs _ _ _) ?_
  rintro geometry _ ⟨d, rfl, hrun, hat'⟩
  have hhold : Holding b { s with dsp := d } := by
    refine ⟨h.offer, h.buffer, ?_, h.within⟩
    rw [taken_of_clear (s := { s with dsp := d }) hz]
    exact hat'
  refine (commitGeometry_runs period geometry).mono ?_
  intro _ s₂ hs₂
  exact ⟨hhold.same hs₂, by rw [hs₂.dsp]; exact hrun, hs₂.pendingOffset.trans hz⟩

/-- A device that is not running has nothing of the buffer: replay it whole. -/
theorem primeCycle_runs (h : Holding b s) (hs : s.dsp.state = .setup) {config : StreamConfig}
    (hc : s.config = some config) (period : Nat) :
    Runs (primeCycle c period b.cells (b.cells.drop s.ext.pendingOffset)) s fun r s' =>
      Holding b s' ∧ match r with
        | none => period = 0 ∧ s'.config = some config
        | some data => data = b.cells ∧ s'.dsp.state = .running ∧ s'.ext.pendingOffset = 0 := by
  have hrest : ∀ {s₁ : Sink} {replay : Prop} [Decidable replay] {data : List Cell}, Holding b s₁ →
      s₁.dsp.state = .setup → s₁.config = some config → s₁.ext.pendingOffset = 0 →
      (if replay then b.cells else data) = b.cells →
      Runs (do
        if period = 0 then return none
        else
          modifyExt fun ext => { ext with resuming := false }
          primePlayback c period
          return some (if replay then b.cells else data)) s₁ fun r s' =>
        Holding b s' ∧ match r with
          | none => period = 0 ∧ s'.config = some config
          | some data => data = b.cells ∧ s'.dsp.state = .running ∧ s'.ext.pendingOffset = 0 := by
    intro s₁ replay _ data h₁ hs₁ hc₁ hz₁ hdata
    refine .ite (fun h0 => .pure ⟨h₁, h0, hc₁⟩) (fun hp => ?_)
    refine .bind_of (modifyExt_runs rfl rfl) fun _ s₂ hs₂ => ?_
    refine .bind_of (primePlayback_runs (h₁.same hs₂) (by rw [hs₂.dsp, hs₁])
      (hs₂.pendingOffset.trans hz₁) (hs₂.config.trans hc₁) hp) ?_
    rintro _ s₃ ⟨h₃, hrun₃, hz₃⟩
    exact .pure ⟨h₃, hdata, hrun₃, hz₃⟩
  have hat := h.session
  have htaken : s.taken = 0 := if_neg (by rw [hs]; decide)
  unfold primeCycle
  refine .get ?_
  dsimp only
  refine .ite (fun hne => .modify (hrest ?_ hs hc rfl (if_pos hne))) (fun hz => ?_)
  · refine ⟨h.offer, h.buffer, ?_, fun hne => absurd rfl hne⟩
    rw [htaken] at hat
    rw [taken_of_clear rfl]
    exact hat.congr rfl rfl rfl rfl
  · have hz : s.ext.pendingOffset = 0 := by simpa using hz
    refine hrest h hs hc hz ?_
    rw [hz, List.drop_zero]
    split <;> rfl

/-- The first buffer after Pause is written by `resume_playback` already. -/
theorem writeCycle_resumed {o : WriteOutcome} (h : Delivered b c 0 s (.wrote o)) (p : Position)
    (retuned matching : Bool) (stride : Nat) (data : List Cell) :
    Runs (writeCycle c p retuned matching stride (some o) data) s
      fun δ s' => Delivered b c 0 s' δ := by
  unfold writeCycle
  exact .get (.ite (fun hne => absurd h.offset hne) (fun _ => .pure h))

/-- The write of a cycle on a running device. -/
theorem runningCycle_runs (h : Holding b s) (hrun : s.dsp.state = .running) (p : Position)
    (period : Nat) (retuned matching : Bool) (stride : Nat) :
    Runs (do
      let resumed ←
        (if s.ext.resuming = true then resumeCycle c (b.cells.drop s.ext.pendingOffset)
          else do
            if 0 < c.underruns then detectUnderrun period c p.nsec
            return none)
      writeCycle c p retuned matching stride resumed (b.cells.drop s.ext.pendingOffset)) s
      fun δ s' => Delivered b c s.ext.pendingOffset s' δ := by
  refine .bind (.ite (fun _ => ?_) (fun _ => ?_))
  · unfold resumeCycle
    refine .get (.ite (fun hz => ?_) (fun _ => ?_))
    · rw [hz, List.drop_zero]
      refine .bind_of (resumePlayback_runs h hrun hz c _ _) fun o s₁ hd => .pure ?_
      exact writeCycle_resumed hd p retuned matching stride b.cells
    · exact .pure (writeCycle_runs h hrun c p retuned matching stride)
  · have hnew : ∀ {s₁ : Sink}, Same s s₁ →
        Runs (writeCycle c p retuned matching stride none (b.cells.drop s.ext.pendingOffset)) s₁
          fun δ s' => Delivered b c s.ext.pendingOffset s' δ := by
      intro s₁ hs₁
      rw [← hs₁.pendingOffset]
      exact writeCycle_runs (h.same hs₁) (by rw [hs₁.dsp, hrun]) c p retuned matching stride
    refine .ite (fun _ => ?_) (fun _ => .pure (hnew (.refl s)))
    exact .bind_of (detectUnderrun_runs period c p.nsec) fun _ s₁ hs₁ => .pure (hnew hs₁)

theorem bufferCycle_runs (s₀ : Sink) (h : s.Sound) (hb : s.offer = some b)
    (hopen : s.dsp.state ≠ .closed) {config : StreamConfig} (hc : s.config = some config) :
    Runs (bufferCycle c config b) s fun v s' => s'.offer = some b ∧ Judged c s₀ s' v := by
  unfold bufferCycle
  refine .bind_of (preparePendingWrite_runs h hb) ?_
  rintro offset s₁ ⟨rfl, h₁, hoff₁, hdsp₁, hc₁⟩
  rw [← hoff₁]
  dsimp only
  rw [List.length_drop, HostBuffer.length_cells]
  refine .ite (fun hempty => .pure ⟨h₁.offer, ?_⟩) (fun hmore => ?_)
  · -- a retained offset is short of the end, so the buffer has no byte at all
    have hlen : b.data.length = 0 := by
      by_cases hz : s₁.ext.pendingOffset = 0
      · omega
      · have := h₁.within hz
        omega
    refine .release h₁.session fun b' hb' => .inl ?_
    obtain rfl : b = b' := by
      rw [h₁.offer] at hb'
      cases hb'
      rfl
    have hz : s₁.ext.pendingOffset = 0 := by
      by_cases hz : s₁.ext.pendingOffset = 0
      · exact hz
      · have := h₁.within hz
        omega
    have hat := h₁.session
    rw [taken_of_clear hz, ← hlen] at hat
    exact hat.accepted h₁.offer
  cases hp : c.position with
  | none => exact .pure ⟨h₁.offer, .excused h₁.session fun _ _ => hp⟩
  | some p =>
    refine .bind_of (retunePeriod_runs h₁ c _ _ _) ?_
    rintro retune s₂ ⟨h₂, hopen₂, hrunning₂, hoff₂, hc₂⟩
    have hopen₂ := hopen₂ (by rwa [hdsp₁])
    have hc₂ : s₂.config = some config := hc₂.trans (hc₁.trans hc)
    rw [← hoff₂] at hmore ⊢
    -- the order of a rebuild, if the retune asks for one
    have horder : Runs
        (if retune = .rebuild then queueRebuild (c.queueFlushed .inPorts) else pure false) s₂
        fun ordered s' => Same s₂ s' ∧ (ordered = true → s'.rebuildPending = true) := by
      refine .ite (fun _ => (queueRebuild_runs _).mono ?_) (fun _ => .pure ⟨.refl s₂, nofun⟩)
      rintro ordered s' ⟨hs' | hs', hord⟩
      · rw [hs'] at hord ⊢
        exact ⟨.refl s₂, hord⟩
      · rw [hs'] at hord ⊢
        exact ⟨⟨rfl, rfl, rfl, rfl, rfl, rfl, rfl⟩, hord⟩
    refine .bind_of horder ?_
    rintro ordered s₃ ⟨hs₃, hord⟩
    have h₃ := h₂.same hs₃
    rw [← hs₃.pendingOffset] at hmore ⊢
    refine .ite (fun ho => .pure ⟨h₃.offer, .excused h₃.session fun _ _ => hord ho⟩) (fun _ => ?_)
    refine .get (.ite (fun hstop => ?_) (fun hrun => ?_))
    · have hsetup : s₃.dsp.state = .setup := by
        cases hst : s₃.dsp.state with
        | setup => rfl
        | running => exact absurd hst hstop
        | closed => exact absurd (by rw [← hs₃.dsp, hst]) hopen₂
      refine .bind_of (primeCycle_runs h₃ hsetup (hs₃.config.trans hc₂) _) ?_
      rintro r s₄ ⟨h₄, hr⟩
      cases r with
      | none =>
        refine .pure ⟨h₄.offer, .excused h₄.session fun _ _ => ?_⟩
        exact ⟨p, config, hp, hr.2, hr.1⟩
      | some data =>
        obtain ⟨rfl, hrun₄, hz₄⟩ := hr
        have hwrite := writeCycle_runs h₄ hrun₄ c p (decide (retune = .retuned))
          (c.following && !p.sameClock) (strideRate config).1
        rw [hz₄, List.drop_zero] at hwrite
        refine .bind_of hwrite fun δ s₅ hd => ?_
        rw [HostBuffer.length_cells]
        exact finishCycle_runs hd (Nat.sub_zero _).symm (by omega)
    · have hrun : s₃.dsp.state = .running := by simpa using hrun
      have hwrite := runningCycle_runs (c := c) h₃ hrun p
        (devicePeriodBytes p.targetDuration (strideRate config).2 p.targetRateDenom
          (strideRate config).1) (decide (retune = .retuned)) (c.following && !p.sameClock)
        (strideRate config).1
      refine .assoc (.bind_of hwrite fun δ s₅ hd => ?_)
      exact finishCycle_runs hd rfl (by omega)

theorem cycleVerdict_runs (s₀ : Sink) (h : s.Sound) (hf : Completion.Fresh c.completion)
    (h₀ : Exchanging c s → Exchanging c s₀) :
    Runs (cycleVerdict c) s fun v s' => s'.offer = s.offer ∧ Judged c s₀ s' v := by
  unfold cycleVerdict
  refine .bind_of (pollRebuild_runs c h hf) ?_
  rintro skip s₁ ⟨h₁, ho₁, hex⟩
  refine .ite (fun hs => .pure ⟨ho₁, .excused h₁.session fun _ _ => h₀ (hex hs)⟩) (fun _ => .get ?_)
  cases hc : s₁.config with
  | none => exact .pure ⟨ho₁, .skip h₁⟩
  | some config =>
    have hqueue : ∀ {why : Release} {s₂ : Sink},
        (s₂ = s₁ ∨ s₂ = { s₁ with rebuildPending := true }) →
        (∀ b, s₂.offer = some b → why.Excuses c s₀ s₂ b) →
        s₂.offer = s.offer ∧ Judged c s₀ s₂ (.release why) := by
      intro why s₂ hs₂ he
      refine ⟨?_, .excused (h₁.pending hs₂).session he⟩
      rcases hs₂ with rfl | rfl
      · exact ho₁
      · exact ho₁
    refine .ite (fun _ => .pure ⟨ho₁, .skip h₁⟩) (fun _ => .ite (fun hclosed => ?_)
      (fun hopen => .ite (fun hreplace => ?_) (fun _ => ?_)))
    · refine .bind_of (queueRebuild_runs _) ?_
      rintro _ s₂ ⟨hs₂, _⟩
      refine .pure (hqueue hs₂ fun _ _ => ?_)
      rcases hs₂ with rfl | rfl
      · exact hclosed
      · exact hclosed
    · refine .bind_of (queueRebuild_runs _) ?_
      rintro queued s₂ ⟨hs₂, hord⟩
      have hat := (h₁.pending hs₂).session
      have ho₂ : s₂.offer = s.offer := by
        rcases hs₂ with rfl | rfl
        · exact ho₁
        · exact ho₁
      dsimp only
      refine .ite (fun hq => .modify (.pure ?_)) (fun _ => .pure (hqueue hs₂ fun _ _ => .inl ?_))
      · exact ⟨ho₂, .excused (hat.congr rfl rfl rfl rfl) fun _ _ => .inr (hord hq)⟩
      · rcases hs₂ with rfl | rfl
        · exact hreplace
        · exact hreplace
    · cases hb : s₁.offer with
      | none =>
        refine .pure ⟨ho₁, .release h₁.session fun b hb' => ?_⟩
        rw [hb] at hb'
        cases hb'
      | some b =>
        refine .ite (fun _ => ?_) (fun hblock => .pure ⟨ho₁, .excused h₁.session fun _ _ => ?_⟩)
        · refine (bufferCycle_runs s₀ h₁ hb hopen hc).mono ?_
          intro v s' ⟨ho', hj⟩
          exact ⟨ho'.trans (hb.symm.trans ho₁), hj⟩
        · exact (by simpa using hblock : c.block = false)

theorem portVerdict_runs (h : s.Sound) (hf : Completion.Fresh c.completion) :
    Runs (portVerdict c) s fun v s' => s'.offer = s.offer ∧ Judged c s s' v := by
  unfold portVerdict
  refine .modify (.ite (fun hfree => .pure ⟨rfl, ?_⟩) (fun _ => ?_))
  · refine .excused (h.session.congr rfl rfl rfl rfl) fun _ _ => ?_
    cases hp : c.position with
    | none =>
      rw [hp] at hfree
      cases hfree
    | some p =>
      rw [hp] at hfree
      exact ⟨p, hp, hfree⟩
  · exact cycleVerdict_runs s (h.same ⟨rfl, rfl, rfl, rfl, rfl, rfl, rfl⟩) hf id

/-- After a released buffer the port remembers nothing. -/
theorem processPorts_runs (h : s.Sound) (hf : Completion.Fresh c.completion) :
    Runs (processPorts c) s fun _ s' => s'.Sound := by
  unfold processPorts
  refine .bind_of (portVerdict_runs h hf) ?_
  rintro v s₁ ⟨-, hj⟩
  cases hj with
  | skip h₁ => exact .pure h₁
  | retain h₁ => exact .pure h₁
  | release hat _ => exact .bind_of (releaseInput_runs hat) fun _ _ h₂ => .pure h₂.1

theorem processDataCycle_runs (h : s.Sound) (hf : Completion.Fresh c.completion) :
    Runs (processDataCycle c) s fun _ s' => s'.Sound := by
  unfold processDataCycle
  refine .get (.ite (fun _ => .pure h) (fun _ => ?_))
  refine .bind_of (queueRequiredRebuilds_runs _) fun _ s₁ hs₁ => ?_
  refine .bind_of (processPorts_runs (h.pending hs₁) hf) fun v s₂ h₂ => ?_
  exact .bind_of (queueRequiredRebuilds_runs _) fun _ s₃ hs₃ => .pure (h₂.pending hs₃)

end Cycle

/-! ## The control operations -/

section Control
variable {s : Sink}

theorem Sound.swapped (h : s.Sound) {kernel : Native} {dsp : DspWriter}
    (hf : Session.Fresh dsp) : Sound { s with kernel, dsp } :=
  .of_stopped (h.session.swapped hf rfl rfl rfl rfl) hf.stopped h.retained

/-- A reset ring has nothing of the retained buffer: the port forgets it. -/
theorem resetUnpreservedPause_runs (h : s.Sound) :
    Runs resetUnpreservedPause s fun _ s' => s'.Sound := by
  unfold resetUnpreservedPause
  refine .bind_of (suspend_runs h.session) ?_
  rintro ok s₁ ⟨hs, hstop⟩
  have h₁ := h.settled hs
  refine .ite (fun hok => ?_) (fun _ => .pure h₁)
  have hat := h₁.session
  rw [show s₁.taken = 0 from if_neg (hstop hok)] at hat
  exact .of_eq rfl (.of_clear (hat.congr rfl rfl rfl rfl) rfl)

theorem Sound.ext (h : s.Sound) {ext : SinkPortExt}
    (hb : ext.pendingBuffer = s.ext.pendingBuffer)
    (ho : ext.pendingOffset = s.ext.pendingOffset) : Sound { s with ext } :=
  h.same ⟨rfl, rfl, rfl, rfl, hb, ho, rfl⟩

theorem pausePlayback_runs (h : s.Sound) : Runs pausePlayback s fun _ s' => s'.Sound := by
  have hreset : ∀ {s₁ : Sink}, s₁.Sound → Runs (do
      let reset ← resetUnpreservedPause
      if !reset then modifyExt fun ext => { ext with rebuildAfterStart := true }) s₁
      fun _ s' => s'.Sound := by
    intro s₁ h₁
    refine .bind_of (resetUnpreservedPause_runs h₁) fun reset s₂ h₂ => ?_
    exact .ite (fun _ => .of_eq rfl (h₂.ext rfl rfl)) (fun _ => .pure h₂)
  unfold pausePlayback
  refine .bind_of (pause_runs h.session) fun r s₁ hs => ?_
  have h₁ := h.settled hs
  split
  · exact .pure h₁
  · exact hreset h₁

theorem onStartLoop_runs (h : s.Sound) : Runs onStartLoop s fun _ s' => s'.Sound := by
  unfold onStartLoop
  refine .get (.bind_of (modifyExt_runs rfl rfl) fun _ s₁ hs₁ => ?_)
  have h₁ := h.same hs₁
  dsimp only
  -- the shadow is swapped back, or the ring is reset
  refine .bind_of (R := fun _ s' => s'.Sound) (.ite (fun _ => ?_) (fun _ => .pure h₁)) ?_
  · refine .bind_of (resume_runs h₁.session) fun r s₂ hs₂ => ?_
    have h₂ := h₁.settled hs₂
    split
    · exact .pure h₂
    · refine .bind_of (suspend_runs h₂.session) ?_
      rintro ok s₃ ⟨hs₃, -⟩
      have h₃ := h₂.settled hs₃
      refine .ite (fun _ => ?_) (fun _ => ?_)
      · exact .modify (.pure (h₃.same ⟨rfl, rfl, rfl, rfl, rfl, rfl, rfl⟩))
      · exact .modify (.pure (h₃.ext rfl rfl))
  · intro r s₂ h₂
    exact .of_eq rfl (h₂.same ⟨rfl, rfl, rfl, rfl, rfl, rfl, rfl⟩)

theorem onBuffersSwapped_runs (h : s.Sound) :
    Runs onBuffersSwapped s fun _ s' => At { s' with offer := none } 0 ∧
      s'.ext.pendingOffset = 0 := by
  unfold onBuffersSwapped
  refine .bind_of (endBufferSequence_runs h.session) ?_
  rintro reset _ ⟨d, rfl, hat⟩
  dsimp only
  refine .ite (fun _ => ?_) (fun _ => ?_)
  · exact .modify (.of_eq rfl ⟨hat.congr rfl rfl rfl rfl, rfl⟩)
  · exact .of_eq rfl ⟨hat.congr rfl rfl rfl rfl, rfl⟩

end Control

/-! ## Runs of the sink -/

section Run
variable {s : Sink}

theorem body_runs {e : Event} (h : s.Sound) (he : e.Enabled s) :
    Runs e.body s fun _ s' => s'.Sound := by
  cases e with
  | provide b =>
    have hoffer : s.offer = none := by simpa using he.1
    have hzero : s.ext.pendingOffset = 0 := by
      by_cases hz : s.ext.pendingOffset = 0
      · exact hz
      · obtain ⟨b', hb', -⟩ := h.retained hz
        rw [hoffer] at hb'
        cases hb'
    have hat := h.session
    rw [taken_of_clear hzero] at hat
    refine .of_eq rfl (.of_clear (hat.event (e := .present b) ?_) hzero)
    exact if_pos he
  | process c => exact .bind_of (processDataCycle_runs h he) fun _ _ h' => .pure h'
  | wake required flushed fill =>
    have h₀ : Sound { s with rebuildRequired := s.rebuildRequired || required } :=
      h.same ⟨rfl, rfl, rfl, rfl, rfl, rfl, rfl⟩
    refine .modify (.bind_of (queueRequiredRebuilds_runs flushed) fun _ s₁ hs₁ => .get ?_)
    have h₁ := h₀.pending hs₁
    cases fill with
    | none => exact .pure h₁
    | some fill => exact (settleTarget_runs fill _).mono fun _ _ hs => h₁.same hs
  | start =>
    refine .bind_of (onStartLoop_runs h) fun _ s₁ h₁ => ?_
    exact .of_eq rfl (h₁.same ⟨rfl, rfl, rfl, rfl, rfl, rfl, rfl⟩)
  | pause =>
    have h₁ : Sound { s with started := false } := h.same ⟨rfl, rfl, rfl, rfl, rfl, rfl, rfl⟩
    refine .get (.modify (.ite (fun _ => ?_) (fun _ => ?_)))
    · refine .bind_of (pausePlayback_runs h₁) fun _ s₂ h₂ => ?_
      exact .of_eq rfl (h₂.same ⟨rfl, rfl, rfl, rfl, rfl, rfl, rfl⟩)
    · exact .of_eq rfl (h₁.same ⟨rfl, rfl, rfl, rfl, rfl, rfl, rfl⟩)
  | suspend kernel placeholder =>
    exact .of_eq rfl (.of_clear (h.session.swapped he rfl rfl rfl rfl) rfl)
  | fence => exact .of_eq rfl (h.same ⟨rfl, rfl, rfl, rfl, rfl, rfl, rfl⟩)
  | retire kernel placeholder => exact .of_eq rfl (h.swapped he)
  | install kernel dsp config quantumBytes =>
    exact .of_eq rfl (.of_clear (h.session.swapped he rfl rfl rfl rfl) rfl)
  | releaseFormat kernel placeholder =>
    refine .of_eq rfl (.of_stopped (h.session.swapped he rfl rfl rfl rfl) he.stopped ?_)
    exact h.retained
  | releaseTakeover => exact .of_eq rfl (h.same ⟨rfl, rfl, rfl, rfl, rfl, rfl, rfl⟩)
  | useBuffers nonempty =>
    have h₁ : Sound { s with buffers := nonempty } := h.same ⟨rfl, rfl, rfl, rfl, rfl, rfl, rfl⟩
    refine .modify (.bind_of (onBuffersSwapped_runs h₁) ?_)
    rintro _ s₂ ⟨hat, hz⟩
    exact .of_eq rfl (.of_clear hat hz)
  | setIo set => exact .of_eq rfl (h.same ⟨rfl, rfl, rfl, rfl, rfl, rfl, rfl⟩)

theorem sound_inductive (P : Sink → Event → Prop) : Inductive system P Sound where
  init := by
    rintro s ⟨-, -, hf, -, -, -, ho, -, -, hext, hp⟩
    have hz : s.ext.pendingOffset = 0 := by rw [hext]
    exact .of_clear (.init ⟨hf, ho, rfl, hp⟩) hz
  step := by
    intro s e s' h _ hs
    have hs : (if e.Enabled s then (e.body s).map (·.2) else none) = some s' := hs
    by_cases he : e.Enabled s
    · rw [if_pos he] at hs
      obtain ⟨⟨u, t⟩, ht, heq⟩ := Option.map_eq_some_iff.mp hs
      cases heq
      exact (body_runs h he).elim ht
    · rw [if_neg he] at hs
      cases hs

/-- The sink runs a playback session. -/
theorem sound {P : Sink → Event → Prop} (h : Via system P s) : s.Sound :=
  h.invariant (sound_inductive P)

end Run

end Sink

/-- What a cycle from `s` does with the host's buffer, through `s₁` before
`release_input` to `s₂`: it keeps it, or lets it go whole or with an excuse. -/
def Verdict.Hands (c : Cycle) (s s₁ s₂ : Sink) : Verdict → Prop
  | .release why => s₂.offer = none ∧
      ∀ b, s.offer = some b → Accepted b s₁.dsp.ring ∨ why.Excuses c s s₁ b
  | _ => s₂.offer = s.offer

/-- The sink consumes each host buffer once. In every reachable state the bytes of
each host buffer in the ring, since its last reset, are one run that begins at
the buffer's first byte. Every process cycle returns. It leaves the buffer with
the host, or lets it go when the ring took all of it in one run, or with an excuse:
an xrun hold or an overfill skip of a buffer that the ring has nothing of, a
freewheel cycle, a device that is closed, in exchange or due for replacement, no
usable position or data block, or a write that cannot be retried. -/
theorem sink_consumes_once {s : Sink} (h : Reachable Sink.system s) :
    (∀ b ∈ s.presented, Contiguous b s.dsp.ring) ∧
    ∀ c : Cycle, Completion.Fresh c.completion →
      ∃ v s₁ s₂, Sink.portVerdict c s = some (v, s₁) ∧ Sink.processPorts c s = some (v, s₂) ∧
        v.Hands c s s₁ s₂ := by
  have hs := Sink.sound h
  refine ⟨hs.session.coherent.contiguous, fun c hf => ?_⟩
  obtain ⟨v, s₁, hv, ho, hj⟩ := Sink.portVerdict_runs (c := c) hs hf
  have hports : Runs (Sink.processPorts c) s fun v' s₂ => v' = v ∧ v.Hands c s s₁ s₂ := by
    unfold Sink.processPorts
    refine .bind (.of_eq hv ?_)
    cases hj with
    | skip _ => exact .pure ⟨rfl, ho⟩
    | retain _ => exact .pure ⟨rfl, ho⟩
    | release hat hb =>
      refine .bind_of (Sink.releaseInput_runs hat) fun _ s₂ h₂ => .pure ⟨rfl, h₂.2, ?_⟩
      rwa [ho] at hb
  obtain ⟨_, s₂, hp, rfl, hend⟩ := hports
  exact ⟨_, s₁, s₂, hv, hp, hend⟩

/-- A kernel whose first write(2) takes one frame. -/
def frameTaker : Native := answering (fun _ => .ok 4) true

/-- A node that was not configured yet. -/
def idleSink : Sink where
  started := false
  takeover := false
  curTimestamp := 0
  oldTimestamp := 0
  kernel := frameTaker
  dsp := DspWriter.new 0
  config := none
  buffers := false
  io := false
  offer := none
  setupPeriod := 0
  deliveryQuantumBytes := 0
  rebuildPending := false
  rebuildRequired := false
  ext := {}
  presented := []

/-- A cycle of two frames at the device's rate, on a ring of two bytes. -/
def shortCycle : Cycle where
  now := some 1
  position := some ⟨false, false, 1, 2, 48000, true⟩
  following := false
  flushed := true
  queueFlushed _ := true
  completion := none
  block := true
  rateMatchBytes := 0
  retuneFill := 0
  underrunFill := 0
  fill := 0
  underruns := 0
  granted := (2, 4)
  delayEighths := 10

/-- A buffer of two frames. -/
def twoFrames : HostBuffer := ⟨0, 0, [1, 2, 3, 4, 5, 6, 7, 8], by decide⟩

/-- The node starts on a stereo device and is offered a buffer of two frames. -/
def firstCycle : List Sink.Event :=
  [.install frameTaker stereoDevice (some ⟨1, 48000, 2, [], 0, 4⟩) 0, .useBuffers true,
    .setIo true, .start, .provide twoFrames, .process shortCycle]

/-- The ring takes half of the first buffer, which stays with the host. -/
theorem sink_consumes_once_partial :
    ∃ s, Sink.system.run idleSink firstCycle = some s ∧
      s.ext.pendingOffset = 4 ∧ s.presented.length = 1 ∧
      (∀ b ∈ s.presented, Contiguous b s.dsp.ring) ∧
      ∃ v s₁ s₂, Sink.portVerdict shortCycle s = some (v, s₁) ∧
        Sink.processPorts shortCycle s = some (v, s₂) ∧ v.Hands shortCycle s s₁ s₂ := by
  have hrun : (Sink.system.run idleSink firstCycle).map
      (fun s => (s.ext.pendingOffset, s.presented.length)) = some (4, 1) := by
    decide +kernel
  obtain ⟨s, hs, hview⟩ := Option.map_eq_some_iff.mp hrun
  simp only [Prod.mk.injEq] at hview
  have hinit : Sink.system.init idleSink :=
    ⟨rfl, rfl, by decide, rfl, rfl, rfl, rfl, rfl, rfl, rfl, rfl⟩
  have h : Reachable Sink.system s := via_of_run firstCycle (.init hinit) (fun _ _ _ => trivial) hs
  obtain ⟨hcontiguous, hcycle⟩ := sink_consumes_once h
  exact ⟨s, hs, hview.1, hview.2, hcontiguous, hcycle shortCycle trivial⟩

end PwOss.Node
