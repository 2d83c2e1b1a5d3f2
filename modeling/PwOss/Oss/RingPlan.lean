import PwOss.Oss.Headroom
import PwOss.Oss.Shadow

/-
  The capacity that playback plans at open, and every later retune.

  `RingPlan` is what stays the same from one prime of a device to the next. The
  largest negotiable period fits the kernel's budget four times, so a transfer of
  at most that period and a delay of at most two of them leave the stable request
  uncapped. A ring that was granted its plan then admits each later period.

  What is proved:
    * the plan covers what the largest period requires
    * calls on the device keep what its last prime was granted
    * in every run whose primes are granted their plan, a retune to a period within
      the plan is applied in place

  Correspondence (Rust ↔ Lean):
    `playback_buffer_plan`                   ↔ `playbackBufferPlan`
    `prime_buffer`, `retune_buffer`          ↔ `primeBuffer`, `retuneBuffer`
-/

namespace PwOss.Oss

open PwOss.Backend PwOss.Sys PwOss.Proc PwOss.Transition

/-! ## The largest period -/

/-- Four of the largest periods fit the kernel's budget. -/
theorem maxBufferPeriodBytes_le (scaled : Bool) {stride : Nat} (hs : 0 < stride)
    (deviceRate graphRate : Nat) :
    maxBufferPeriodBytes scaled stride deviceRate graphRate * 4 ≤
      bufferCapacityLimit scaled stride deviceRate := by
  unfold maxBufferPeriodBytes
  rw [Nat.max_eq_left (Nat.succ_le_of_lt hs)]
  dsimp only
  generalize bufferCapacityLimit scaled stride deviceRate = limit
  generalize graphFramesInDeviceBytes 2048 deviceRate graphRate stride = defaultMax
  have hframes : limit / stride / 4 * 4 ≤ limit / stride := Nat.div_mul_le_self ..
  calc min defaultMax (satMul (limit / stride / 4) stride) * 4
      ≤ satMul (limit / stride / 4) stride * 4 := Nat.mul_le_mul_right 4 (Nat.min_le_right ..)
    _ ≤ limit / stride / 4 * stride * 4 := Nat.mul_le_mul_right 4 (satMul_le ..)
    _ = limit / stride / 4 * 4 * stride := Nat.mul_right_comm ..
    _ ≤ limit / stride * stride := Nat.mul_le_mul_right stride hframes
    _ ≤ limit := Nat.div_mul_le_self ..

theorem playbackDesiredDelay_mono {period period' : Nat} (h : period ≤ period')
    (delayEighths : Nat) :
    playbackDesiredDelay period delayEighths ≤ playbackDesiredDelay period' delayEighths :=
  satMul_mono (Nat.div_le_div_right h) delayEighths

/-- A delay of at most two periods and a transfer of at most one need four periods. -/
theorem playbackBufferRequired_le {period transfer delayEighths : Nat} (hd : delayEighths ≤ 16)
    (ht : transfer ≤ period) :
    playbackBufferRequired period (playbackDesiredDelay period delayEighths) transfer period ≤
      period * 4 := by
  have hdesired : playbackDesiredDelay period delayEighths ≤ period * 2 := by
    calc playbackDesiredDelay period delayEighths
        ≤ period / 8 * delayEighths := satMul_le ..
      _ ≤ period / 8 * 16 := Nat.mul_le_mul_left _ hd
      _ ≤ period * 2 := by omega
  have hdouble := satMul_le period 2
  have hfloor := satAdd_le period (max (period / 4) transfer)
  have hfirst := satAdd_le (satMul period 2) (playbackDesiredDelay period delayEighths)
  have hwrite := satAdd_le (playbackFillFloor period transfer) period
  have hsecond := satAdd_le (satAdd (playbackFillFloor period transfer) period) transfer
  unfold playbackBufferRequired
  unfold playbackFillFloor at *
  omega

/-! ## The plan of a ring -/

/-- What the rings of a device are planned for. The stride is `stride_rate`'s, at least one. -/
structure RingPlan where
  scaled : Bool
  stride : Nat
  deviceRate : Nat
  graphRate : Nat
  deliveryQuantumNs : Nat
  fragmentBytes : Nat
  stride_pos : 0 < stride

namespace RingPlan
variable (r : RingPlan)

def hardwareQuantum : Nat := deliveryQuantumBytes r.deliveryQuantumNs r.deviceRate r.stride

def transfer : Nat := transferEstimate r.fragmentBytes r.hardwareQuantum

def maxPeriod : Nat := maxBufferPeriodBytes r.scaled r.stride r.deviceRate r.graphRate

/-- `playback_buffer_required` at the largest period. -/
def required (delayEighths : Nat) : Nat :=
  playbackBufferRequired r.maxPeriod (playbackDesiredDelay r.maxPeriod delayEighths) r.transfer
    r.maxPeriod

/-- A request on the planned device. -/
structure Of (request : PlaybackBufferRequest) : Prop where
  stride : request.stride = r.stride
  deviceRate : request.deviceRate = r.deviceRate

/-- A retune within the plan. -/
structure Within (request : PlaybackBufferRequest) : Prop extends r.Of request where
  period_pos : 0 < request.periodBytes
  period_le : request.periodBytes ≤ r.maxPeriod
  write_le : request.maximumWriteBytes ≤ r.maxPeriod

variable {r}

/-- The capacity planned at open covers what the largest period requires. -/
theorem required_le_plan {request : PlaybackBufferRequest} (ho : r.Of request)
    (hg : request.graphRate = r.graphRate) (ht : r.transfer ≤ r.maxPeriod) {delayEighths : Nat}
    (hd : delayEighths ≤ 16) :
    r.required delayEighths ≤ (playbackBufferPlan r.scaled request r.deliveryQuantumNs
      r.fragmentBytes delayEighths).1 := by
  have hlimit := maxBufferPeriodBytes_le r.scaled r.stride_pos r.deviceRate r.graphRate
  have hfour : r.required delayEighths ≤ r.maxPeriod * 4 := playbackBufferRequired_le hd ht
  unfold playbackBufferPlan playbackBufferRequest
  rw [ho.stride, ho.deviceRate, hg]
  show r.required delayEighths ≤ min (max (max _ (r.required delayEighths)) minBufferBytes)
    (bufferCapacityLimit r.scaled r.stride r.deviceRate)
  refine Nat.le_min.mpr ⟨?_, Nat.le_trans hfour hlimit⟩
  exact Nat.le_trans (Nat.le_max_right ..) (Nat.le_max_left ..)

end RingPlan

namespace DspWriter
variable {n : Native} {r : RingPlan} {w w' : DspWriter}

/-- The device's ring was granted its plan, unless nothing is primed. -/
structure Serves (r : RingPlan) (w : DspWriter) : Prop where
  quantum : w.deliveryQuantumNs = r.deliveryQuantumNs
  primed : w.buffer.periodBytes ≠ 0 →
    w.buffer.quantumBytes ≤ r.transfer ∧ r.required w.playbackDelayEighths ≤ w.buffer.capacityBytes

theorem Serves.sized (h : Serves r w) (hs : Sized w w') : Serves r w' where
  quantum := hs.quantum.trans h.quantum
  primed := by
    rw [hs.buffer, hs.delay]
    exact h.primed

/-- What a ring granted its plan admits: no retune within the plan is refused. -/
theorem Serves.admits (h : Serves r w) {request : PlaybackBufferRequest} (hw : r.Within request)
    (hp : w.buffer.periodBytes ≠ 0) (fill : Nat) :
    (w.retuned request fill).requiredCapacityBytes ≤ (w.retuned request fill).capacityBytes := by
  obtain ⟨hquantum, hroom⟩ := h.primed hp
  have hhardware : deliveryQuantumBytes w.deliveryQuantumNs request.deviceRate request.stride ≤
      r.transfer := by
    rw [h.quantum, hw.deviceRate, hw.stride]
    exact Nat.le_max_right ..
  have hmono := playbackBufferRequired_mono hw.period_le
    (playbackDesiredDelay_mono hw.period_le w.playbackDelayEighths)
    (Nat.max_le.mpr ⟨hquantum, hhardware⟩) (Nat.max_le.mpr ⟨hw.period_le, hw.write_le⟩)
  exact Nat.le_trans hmono hroom

/-! ## Calls -/

theorem open_sized (n : Native) : Moves Sized (open_ n) := by
  unfold open_
  refine .get fun w => .require ?_
  split
  · exact .modify Sized.chain (fun _ => ⟨rfl, rfl, rfl⟩) (.pure Sized.chain _)
  · exact .modify Sized.chain (fun _ => ⟨rfl, rfl, rfl⟩) (.pure Sized.chain _)

theorem tryOdelay_sized (n : Native) : Moves Sized (tryOdelay n) :=
  .get fun _ => .modify Sized.chain (fun _ => ⟨rfl, rfl, rfl⟩) (.pure Sized.chain _)

theorem shadowPause_sized (n : Native) : Moves Sized (shadowPause n) :=
  .get fun _ => .modify Sized.chain (fun _ => ⟨rfl, rfl, rfl⟩) (.pure Sized.chain _)

theorem pause_sized (n : Native) : Moves Sized (pause n) := by
  have hdone (a : Except Errno PauseOutcome) : Moves Sized (pure a) := .pure Sized.chain a
  unfold pause
  refine .modify Sized.chain (fun _ => ⟨rfl, rfl, rfl⟩) (.get fun w => .ite (fun _ => hdone _) ?_)
  refine fun _ => .bind Sized.chain (tryOdelay_sized n) fun r => ?_
  cases r with
  | error => exact hdone _
  | ok delay =>
    refine .ite (fun _ => hdone _) fun _ => .ite (fun _ => hdone _) fun _ => ?_
    refine .bind Sized.chain (shadowPause_sized n) fun r => ?_
    cases r with
    | error => exact hdone _
    | ok =>
      refine .bind Sized.chain (tryOdelay_sized n) fun r => ?_
      cases r with
      | error => exact hdone _
      | ok delay => exact .modify Sized.chain (fun _ => ⟨rfl, rfl, rfl⟩) (hdone _)

theorem resume_sized (n : Native) : Moves Sized (resume n) := by
  unfold resume restoreShadow
  refine .get fun w => .modify Sized.chain (fun _ => ⟨rfl, rfl, rfl⟩) (.ite (fun _ => ?_) ?_)
  · exact .get fun _ => .modify Sized.chain (fun _ => ⟨rfl, rfl, rfl⟩) (.pure Sized.chain _)
  · exact fun _ => .pure Sized.chain _

/-- A prime that is granted its plan. -/
def Call.Planned (r : RingPlan) : Call → Prop
  | .prime request granted delayEighths =>
    r.Of request ∧ request.graphRate = r.graphRate ∧ delayEighths ≤ 16 ∧
      (playbackBufferPlan r.scaled request r.deliveryQuantumNs r.fragmentBytes
        delayEighths).1 ≤ granted.1 ∧ granted.2 ≤ r.transfer
  | _ => True

theorem primeBuffer_serves (h : Serves r w) (ht : r.transfer ≤ r.maxPeriod)
    {request : PlaybackBufferRequest} {granted : Nat × Nat} {delayEighths : Nat}
    (hc : (Call.prime request granted delayEighths).Planned r) :
    Ends (primeBuffer n request granted delayEighths) w fun _ w' => Serves r w' := by
  obtain ⟨ho, hg, hd, hgranted, hquantum⟩ := hc
  unfold primeBuffer
  refine .get (.require fun _ => .modify (.bind (writeSilence_moves n _ _) fun _ w₁ hf => ?_))
  refine .pure (Serves.sized ?_ hf.toSized)
  refine ⟨h.quantum, fun _ => ⟨Nat.max_le.mpr ⟨hquantum, ?_⟩, ?_⟩⟩
  · rw [h.quantum, ho.deviceRate, ho.stride]
    exact Nat.le_max_right ..
  · exact Nat.le_trans (RingPlan.required_le_plan ho hg ht hd) hgranted

theorem retuneBuffer_serves (h : Serves r w) (request : PlaybackBufferRequest) (fill : Nat) :
    Ends (retuneBuffer n request fill) w fun _ w' => Serves r w' := by
  have hcycles {w : DspWriter} (h : Serves r w) (cycles : Nat) :
      Serves r { w with buffer := { w.buffer with mismatchCycles := cycles } } :=
    ⟨h.quantum, h.primed⟩
  unfold retuneBuffer
  refine .get (.ite (fun _ => .modify (.pure (hcycles h _))) fun hnew => .modify ?_)
  refine .ite (fun _ => .pure (hcycles h _)) fun _ => .ite (fun _ => .modify (.pure ?_)) fun _ => ?_
  · exact ⟨h.quantum, fun _ => h.primed fun hz => hnew (.inr (.inl hz))⟩
  · refine .bind (suspend_moves n _) fun ok w₁ hs => ?_
    have h₁ := (hcycles h (satAdd w.buffer.mismatchCycles 1)).sized hs.toSized
    exact .ite (fun _ => .modify (.pure (hcycles h₁ 0))) fun _ => .pure h₁

/-- A call that leaves the ring's geometry alone. -/
def Call.keepsRing : Call → Bool
  | .close | .prime .. | .retune .. => false
  | _ => true

theorem perform_sized (n : Native) {call : Call} (h : call.keepsRing = true) :
    Moves Sized (perform n call) := by
  have hdone {α : Type} {x : Proc DspWriter α} (hx : Moves Sized x) :
      Moves Sized (x >>= fun _ => pure ()) :=
    .bind Sized.chain hx fun _ => .pure Sized.chain _
  cases call with
  | open_ => exact hdone (open_sized n)
  | close => cases h
  | write buf => exact hdone ((write_moves n buf).mono fun _ _ => Fed.toSized)
  | writeSilence count => exact (writeSilence_moves n count).mono fun _ _ => Fed.toSized
  | pause => exact hdone (pause_sized n)
  | resume => exact hdone (resume_sized n)
  | suspend => exact hdone ((suspend_moves n).mono fun _ _ => Spared.toSized)
  | endBufferSequence => exact hdone ((endBufferSequence_moves n).mono fun _ _ => Spared.toSized)
  | prime request granted delayEighths => cases h
  | retune request fill => cases h

/-- Every call keeps a ring's plan served. -/
theorem perform_serves (h : Serves r w) (ht : r.transfer ≤ r.maxPeriod) {call : Call}
    (hc : call.Planned r) : Ends (perform n call) w fun _ w' => Serves r w' := by
  cases hkeeps : call.keepsRing with
  | true => exact (perform_sized n hkeeps w).mono fun _ _ hs => h.sized hs
  | false =>
    cases call with
    | close =>
      show Ends close w _
      unfold close
      refine .get (.require fun _ => .modify (.pure ?_))
      exact ⟨h.quantum, fun hp => absurd rfl hp⟩
    | prime request granted delayEighths =>
      exact .bind (primeBuffer_serves h ht hc) fun _ _ h₁ => .pure h₁
    | retune request fill =>
      exact .bind (retuneBuffer_serves h request fill) fun _ _ h₁ => .pure h₁
    | _ => cases hkeeps

end DspWriter

/-- A playback ring sized at open serves every later period in place. With a delay of at
most two periods and a transfer of at most the largest period, the capacity planned at open
covers what the largest period requires. In every run of a device whose primes are granted
their plan, with a quantum of at most that transfer, a retune to a period and a write within
the largest period is never answered by a reset or a rebuild: it is applied on the second
cycle that asks for it. -/
theorem open_plan_serves_retunes (n : Native) (r : RingPlan) (ht : r.transfer ≤ r.maxPeriod)
    {w₀ w : DspWriter} (hclosed : w₀.buffer.periodBytes = 0)
    (hquantum : w₀.deliveryQuantumNs = r.deliveryQuantumNs) (calls : List DspWriter.Call)
    (hcalls : ∀ call ∈ calls, call.Planned r)
    (hrun : (DspWriter.playback n).run w₀ calls = some w) :
    (∀ request delayEighths, r.Of request → request.graphRate = r.graphRate →
      delayEighths ≤ 16 → r.required delayEighths ≤
        (playbackBufferPlan r.scaled request r.deliveryQuantumNs r.fragmentBytes
          delayEighths).1) ∧
    ∀ request fill, r.Within request → Runs (DspWriter.retuneBuffer n request fill) w
      fun answer _ => answer ≠ .reprime ∧ answer ≠ .rebuild ∧
        (¬ w.Settled request → w.buffer.mismatchCycles ≠ 0 →
          ∃ geometry, answer = .applied geometry) := by
  refine ⟨fun request delayEighths ho hg hd => RingPlan.required_le_plan ho hg ht hd, ?_⟩
  have hserves : DspWriter.Serves r w := by
    refine run_induction (P := fun _ call => call.Planned r) (DspWriter.Serves r) ?_ calls
      ⟨hquantum, fun hp => absurd hclosed hp⟩ (fun _ => hcalls) hrun
    intro w call w' hs hc hstep
    obtain ⟨⟨u, t⟩, hu, rfl⟩ := Option.map_eq_some_iff.mp hstep
    exact DspWriter.perform_serves hs ht hc u t hu
  intro request fill hw
  refine (DspWriter.retuneBuffer_answers n w request fill).mono fun answer _ h => ?_
  cases h with
  | unchanged hsettled => exact ⟨nofun, nofun, fun hnew => absurd hsettled hnew⟩
  | pending _ hz => exact ⟨nofun, nofun, fun _ hne => absurd hz hne⟩
  | applied => exact ⟨nofun, nofun, fun _ _ => ⟨_, rfl⟩⟩
  | refused hnew _ hshort =>
    have hadmits := hserves.admits hw (fun hz => hnew (.inr (.inl hz))) fill
    omega

/-- Frames of 8 bytes at the graph's rate, on a kernel with the fixed budget. -/
def stereo32 : RingPlan where
  scaled := false
  stride := 8
  deviceRate := 48000
  graphRate := 48000
  deliveryQuantumNs := 0
  fragmentBytes := 0
  stride_pos := by decide

theorem muLaw_ne_nil : [(0xff : UInt8)] ≠ [] := by simp

/-- A closed device whose silence is that of µ-law samples. -/
def muLawDevice : DspWriter :=
  { DspWriter.new 0 with silencePattern := ⟨[0xff], 1, muLaw_ne_nil⟩ }

/-- The device is opened, primed for 512 frames, and asked for 2048. -/
def primedThenLonger : List DspWriter.Call :=
  [.open_, .prime ⟨4096, 48000, 8, 48000, 4096, 4096⟩ (65536, 1024) 10, .retune longerPeriod 0]

theorem open_plan_serves_retunes_stereo32 :
    ∃ w, (DspWriter.playback willing).run muLawDevice primedThenLonger = some w ∧
      (∀ request delayEighths, stereo32.Of request → request.graphRate = 48000 →
        delayEighths ≤ 16 → stereo32.required delayEighths ≤
          (playbackBufferPlan false request 0 0 delayEighths).1) ∧
      ∀ request fill, stereo32.Within request →
        Runs (DspWriter.retuneBuffer willing request fill) w
          fun answer _ => answer ≠ .reprime ∧ answer ≠ .rebuild ∧
            (¬ w.Settled request → w.buffer.mismatchCycles ≠ 0 →
              ∃ geometry, answer = .applied geometry) := by
  have hrun : ((DspWriter.playback willing).run muLawDevice primedThenLonger).map
      (fun w => w.buffer.mismatchCycles) = some 1 := by
    decide +kernel
  obtain ⟨w, hw, -⟩ := Option.map_eq_some_iff.mp hrun
  refine ⟨w, hw, open_plan_serves_retunes willing stereo32 (by decide +kernel) rfl rfl
    primedThenLonger ?_ hw⟩
  intro call hc
  rcases List.mem_cons.mp hc with rfl | hc
  · trivial
  rcases List.mem_cons.mp hc with rfl | hc
  · exact ⟨⟨rfl, rfl⟩, rfl, by decide, by decide +kernel, by decide +kernel⟩
  · rw [List.mem_singleton.mp hc]
    trivial

end PwOss.Oss
