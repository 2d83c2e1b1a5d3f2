import PwOss.Lib.Debounce
import PwOss.Oss.CaptureStream
import PwOss.Oss.RingPlan

/-
  The retune counter of a playback and of a capture device.

  Both devices count the requests for a period other than the committed one in
  `mismatch_cycles`, and act on the second. A run of a device keeps, besides the
  device, the turn that each retune was: what it asked for, the committed period and
  the counter before and after it, and whether it acted. Every other call leaves the
  counter alone or clears it with the ring.

  Correspondence (Rust ↔ Lean):
    `retune_buffer`                          ↔ `retuneBuffer`, one `Turn` of the log
    `mismatch_cycles`                        ↔ `counted`, `counted'`
    Applied, Reprime, Rebuild                ↔ `acts`
-/

namespace PwOss.Backend

/-- The answers that commit the period or order its commit. -/
def PlaybackRetune.acts : PlaybackRetune → Bool
  | .applied _ | .reprime | .rebuild => true
  | .unchanged | .pending => false

def CaptureRetune.acts : CaptureRetune → Bool
  | .applied _ | .reprime | .rebuild => true
  | .unchanged | .pending => false

end PwOss.Backend

namespace PwOss.Oss

open PwOss.Backend PwOss.Sys PwOss.Proc PwOss.Transition PwOss.Debounce

/-- The first request that differs waits. -/
theorem satAdd_one_lt_two {cycles : Nat} : satAdd cycles 1 < 2 ↔ cycles = 0 := by
  unfold satAdd u32Max
  omega

/-! ## Playback -/

namespace DspWriter
variable {n : Native}

/-- A retune as a turn: its request, the device before and after it, and its answer. -/
def retuneTurn (w : DspWriter) (request : PlaybackBufferRequest) (answer : PlaybackRetune)
    (w' : DspWriter) : Turn Nat where
  asked := request.periodBytes
  live := decide (w.state = .running ∧ w.buffer.periodBytes ≠ 0 ∧ request.periodBytes ≠ 0)
  held := w.buffer.periodBytes
  held' := w'.buffer.periodBytes
  counted := w.buffer.mismatchCycles
  counted' := w'.buffer.mismatchCycles
  acted := answer.acts

theorem retuneTurn_differs {w w' : DspWriter} {request : PlaybackBufferRequest}
    {answer : PlaybackRetune} :
    (w.retuneTurn request answer w').Differs ↔ ¬ w.Settled request := by
  simp [Turn.Differs, retuneTurn, Settled, and_assoc]

/-- A retune counts, whatever the kernel answers. -/
theorem retuneBuffer_counts (n : Native) (w : DspWriter) (request : PlaybackBufferRequest)
    (fill : Nat) : Ends (retuneBuffer n request fill) w fun answer w' =>
      (w.retuneTurn request answer w').Counts := by
  unfold retuneBuffer
  refine .get (.ite (fun hidle => .modify (.pure ?_)) fun hnew => .modify ?_)
  · exact .of_calm (fun hd => retuneTurn_differs.mp hd hidle) rfl rfl rfl
  refine .ite (fun hfew => .pure ?_) fun hmany => ?_
  · exact .of_first (retuneTurn_differs.mpr hnew) (satAdd_one_lt_two.mp hfew) rfl rfl
  have hcounted : w.buffer.mismatchCycles ≠ 0 := fun hz => hmany (satAdd_one_lt_two.mpr hz)
  refine .ite (fun _ => .modify (.pure ?_)) fun _ => ?_
  · exact .of_again (retuneTurn_differs.mpr hnew) hcounted rfl (.inr rfl)
  refine .bind (suspend_moves n _) fun ok w₁ hs => ?_
  have hheld : w₁.buffer.periodBytes = w.buffer.periodBytes := by rw [hs.toSized.buffer]
  refine .ite (fun _ => .modify (.pure ?_)) fun _ => .pure ?_
  · exact .of_again (retuneTurn_differs.mpr hnew) hcounted rfl (.inl hheld)
  · exact .of_again (retuneTurn_differs.mpr hnew) hcounted rfl (.inl hheld)

/-- An applied retune committed the period it was asked for. -/
theorem retuneBuffer_commits (n : Native) (w : DspWriter) (request : PlaybackBufferRequest)
    (fill : Nat) : Ends (retuneBuffer n request fill) w fun answer w' =>
      ∀ geometry, answer = .applied geometry →
        w'.buffer.periodBytes = request.periodBytes ∧ request.periodBytes ≠ 0 := by
  unfold retuneBuffer
  refine .get (.ite (fun _ => .modify (.pure nofun)) fun hnew => .modify ?_)
  refine .ite (fun _ => .pure nofun) fun _ => .ite (fun _ => .modify (.pure ?_)) fun _ => ?_
  · exact fun _ _ => ⟨rfl, fun hz => hnew (.inr (.inr (.inl hz)))⟩
  · refine .bind (suspend_moves n _) fun ok w₁ _ => ?_
    exact .ite (fun _ => .modify (.pure nofun)) fun _ => .pure nofun

/-- Every other call leaves the counter alone or clears it. -/
theorem perform_cycles (w : DspWriter) {call : Call}
    (hcall : ∀ request fill, call ≠ .retune request fill) :
    Ends (perform n call) w fun _ w' =>
      w'.buffer.mismatchCycles = w.buffer.mismatchCycles ∨ w'.buffer.mismatchCycles = 0 := by
  cases hkeeps : call.keepsRing with
  | true =>
    refine (perform_sized n hkeeps w).mono fun _ w' hs => .inl ?_
    rw [hs.buffer]
  | false =>
    cases call with
    | close =>
      show Ends close w _
      unfold close
      exact .get (.require fun _ => .modify (.pure (.inr rfl)))
    | prime request granted delayEighths =>
      show Ends (primeBuffer n request granted delayEighths >>= _) w _
      unfold primeBuffer
      refine .bind (R := fun _ w' => w'.buffer.mismatchCycles = 0) ?_ fun _ _ hz => .pure (.inr hz)
      refine .get (.require fun _ => .modify (.bind (writeSilence_moves n _ _) fun _ w₁ hf => ?_))
      refine .pure ?_
      rw [hf.toSized.buffer]
    | retune request fill => exact absurd rfl (hcall request fill)
    | _ => cases hkeeps

/-- A playback device with the turns of its retunes, under calls in any order. -/
def retunes (n : Native) : System (DspWriter × List (Turn Nat)) Call where
  init s := s.1.buffer.mismatchCycles = 0 ∧ s.2 = []
  step s
    | .retune request fill =>
      (retuneBuffer n request fill s.1).map fun r =>
        (r.2, s.1.retuneTurn request r.1 r.2 :: s.2)
    | call => (perform n call s.1).map fun r => (r.2, s.2)

/-- In every run the device's counter counted the turns. -/
theorem retunes_tallied {s : DspWriter × List (Turn Nat)} (h : Reachable (retunes n) s) :
    Tallied s.1.buffer.mismatchCycles s.2 := by
  apply Tallied.of_reachable (fun w : DspWriter => w.buffer.mismatchCycles) (fun _ hs => hs) _ h
  intro s call s' hs
  have hother (hcall : ∀ request fill, call ≠ .retune request fill)
      (h : (perform n call s.1).map (fun r => (r.2, s.2)) = some s') :
      s'.2 = s.2 ∧ (s'.1.buffer.mismatchCycles = s.1.buffer.mismatchCycles ∨
        s'.1.buffer.mismatchCycles = 0) := by
    obtain ⟨⟨u, w'⟩, hr, rfl⟩ := Option.map_eq_some_iff.mp h
    exact ⟨rfl, perform_cycles s.1 hcall u w' hr⟩
  cases call with
  | retune request fill =>
    obtain ⟨⟨answer, w'⟩, hr, rfl⟩ := Option.map_eq_some_iff.mp hs
    exact .inl ⟨_, rfl, retuneBuffer_counts n s.1 request fill answer w' hr, rfl, rfl⟩
  | _ => exact .inr (hother (fun _ _ heq => by cases heq) hs)

end DspWriter

/-! ## Capture -/

namespace Dsp
variable {n : CaptureNative}

/-- The ring geometry stays as it is. -/
def Unsized (d d' : Dsp) : Prop := d'.buffer = d.buffer

theorem Unsized.chain : Chain Unsized where
  refl := fun _ => rfl
  trans := fun h h' => h'.trans h

theorem nativeRead_unsized (n : CaptureNative) (len : Nat) : Moves Unsized (nativeRead n len) := by
  unfold nativeRead
  refine .get fun d => ?_
  split
  · exact .modify Unsized.chain (fun _ => rfl) (.pure Unsized.chain _)
  · exact .modify Unsized.chain (fun _ => rfl) (.pure Unsized.chain _)

theorem start_unsized (d : Dsp) : Unsized d d.start := by
  unfold start
  split
  · exact rfl
  · exact rfl

theorem setTrigger_unsized (n : CaptureNative) (enable : Bool) :
    Moves Unsized (setTrigger n enable) := by
  unfold setTrigger
  refine .get fun d => .modify Unsized.chain (fun d' => ?_) (.pure Unsized.chain _)
  show Unsized d' (if _ then _ else _)
  split
  · exact rfl
  · exact rfl

theorem discardSkip_unsized (n : CaptureNative) (fuel : Nat) :
    Moves Unsized (discardSkip n fuel) := by
  induction fuel with
  | zero => exact .get fun _ => .require (.pure Unsized.chain _)
  | succ fuel ih =>
    refine .get fun d => .ite (fun _ => .pure Unsized.chain _) fun _ => ?_
    refine .bind Unsized.chain (nativeRead_unsized n _) fun r => ?_
    cases r with
    | error => exact .pure Unsized.chain _
    | ok bytes =>
      refine .ite (fun _ => .pure Unsized.chain _) fun _ => ?_
      exact .modify Unsized.chain (fun _ => rfl) ih

theorem tear_unsized (rem : Nat) (bytes : List UInt8) (d : Dsp) :
    Unsized d ((d.tear rem).handOut bytes) := by
  unfold tear
  split
  · exact rfl
  · exact rfl

theorem read_unsized (n : CaptureNative) (len : Nat) : Moves Unsized (read n len) := by
  unfold read readFrames
  refine .modify Unsized.chain start_unsized (.get fun d => .require ?_)
  refine .bind Unsized.chain (discardSkip_unsized n _) fun status => ?_
  cases status with
  | some => exact .pure Unsized.chain _
  | none =>
    refine .bind Unsized.chain (nativeRead_unsized n len) fun r => ?_
    cases r with
    | error => exact .pure Unsized.chain _
    | ok bytes =>
      refine .ite (fun _ => .pure Unsized.chain _) fun _ => .get fun d => ?_
      exact .modify Unsized.chain (tear_unsized _ _) (.pure Unsized.chain _)

theorem suspend_unsized (n : CaptureNative) : Moves Unsized (suspend n) := by
  unfold suspend
  refine .get fun d => .ite (fun _ => .pure Unsized.chain _) fun _ => ?_
  refine .bind Unsized.chain (setTrigger_unsized n false) fun ok => ?_
  refine .ite (fun _ => ?_) fun _ => .pure Unsized.chain _
  exact .modify Unsized.chain (fun _ => rfl) (.pure Unsized.chain _)

/-- A retune as a turn: its request, the device before and after it, and its answer. -/
def retuneTurn (d : Dsp) (request : CaptureBufferRequest) (primed : Bool) (answer : CaptureRetune)
    (d' : Dsp) : Turn Nat where
  asked := request.periodBytes
  live := decide (primed = true ∧ d.buffer.periodBytes ≠ 0 ∧ request.periodBytes ≠ 0)
  held := d.buffer.periodBytes
  held' := d'.buffer.periodBytes
  counted := d.buffer.mismatchCycles
  counted' := d'.buffer.mismatchCycles
  acted := answer.acts

theorem retuneTurn_differs {d d' : Dsp} {request : CaptureBufferRequest} {primed : Bool}
    {answer : CaptureRetune} :
    (d.retuneTurn request primed answer d').Differs ↔
      ¬ (primed = false ∨ d.buffer.periodBytes = 0 ∨ request.periodBytes = 0 ∨
        request.periodBytes = d.buffer.periodBytes) := by
  simp [Turn.Differs, retuneTurn, and_assoc]

/-- A retune counts, whatever the kernel answers. -/
theorem retuneBuffer_counts (n : CaptureNative) (d : Dsp) (request : CaptureBufferRequest)
    (primed : Bool) : Ends (retuneBuffer n request primed) d fun answer d' =>
      (d.retuneTurn request primed answer d').Counts := by
  unfold retuneBuffer
  refine .get (.ite (fun hidle => .modify (.pure ?_)) fun hnew => .modify ?_)
  · exact .of_calm (fun hd => retuneTurn_differs.mp hd hidle) rfl rfl rfl
  refine .ite (fun hfew => .pure ?_) fun hmany => ?_
  · exact .of_first (retuneTurn_differs.mpr hnew) (satAdd_one_lt_two.mp hfew) rfl rfl
  have hcounted : d.buffer.mismatchCycles ≠ 0 := fun hz => hmany (satAdd_one_lt_two.mpr hz)
  refine .ite (fun _ => .modify (.pure ?_)) fun _ => ?_
  · exact .of_again (retuneTurn_differs.mpr hnew) hcounted rfl (.inr rfl)
  refine .bind (suspend_unsized n _) fun ok d₁ hs => ?_
  have hheld : d₁.buffer.periodBytes = d.buffer.periodBytes := by rw [hs]
  refine .ite (fun _ => .modify (.pure ?_)) fun _ => .pure ?_
  · exact .of_again (retuneTurn_differs.mpr hnew) hcounted rfl (.inl hheld)
  · exact .of_again (retuneTurn_differs.mpr hnew) hcounted rfl (.inl hheld)

/-- The recovery from an overrun has a counter of its own. -/
theorem recoverOverrun_cycles (n : CaptureNative) (fill : Option Nat) :
    Moves (fun d d' => d'.buffer.mismatchCycles = d.buffer.mismatchCycles)
      (recoverOverrun n fill) := by
  have hchain : Chain fun d d' : Dsp => d'.buffer.mismatchCycles = d.buffer.mismatchCycles :=
    ⟨fun _ => rfl, fun h h' => h'.trans h⟩
  unfold recoverOverrun
  refine .get fun d => .modify hchain (fun _ => rfl) (.ite (fun _ => .pure hchain _) fun _ => ?_)
  refine .modify hchain (fun _ => rfl) (.bind hchain ?_ fun _ => .pure hchain _)
  refine (suspend_unsized n).mono fun d d' hs => ?_
  rw [hs]

/-- Every other call leaves the counter alone or clears it. -/
theorem perform_cycles (d : Dsp) {call : Call}
    (hcall : ∀ request primed, call ≠ .retune request primed) :
    Ends (perform n call) d fun _ d' =>
      d'.buffer.mismatchCycles = d.buffer.mismatchCycles ∨ d'.buffer.mismatchCycles = 0 := by
  have hdone {α : Type} {x : Proc Dsp α} {a : Option (List UInt8)} (hx : Moves Unsized x) :
      Ends (x >>= fun _ => pure a) d fun _ d' =>
        d'.buffer.mismatchCycles = d.buffer.mismatchCycles ∨ d'.buffer.mismatchCycles = 0 := by
    refine .bind (hx d) fun _ d' hs => .pure (.inl ?_)
    rw [hs]
  cases call with
  | read len =>
    refine .bind (read_unsized n len d) fun _ d' hs => .pure (.inl ?_)
    rw [hs]
  | suspend => exact hdone (suspend_unsized n)
  | prime request scratch =>
    show Ends (primeBuffer n request scratch >>= _) d _
    unfold primeBuffer
    refine .bind (R := fun _ d' => d'.buffer.mismatchCycles = 0) ?_ fun _ _ hz => .pure (.inr hz)
    refine .bind (R := fun _ _ => True) (fun _ _ _ => trivial) fun ready d₁ _ => ?_
    refine .get (.require fun _ => .modify ?_)
    refine .bind (R := fun _ _ => True) (fun _ _ _ => trivial) fun lost d₂ _ => ?_
    exact .modify (.pure rfl)
  | retune request primed => exact absurd rfl (hcall request primed)
  | recover fill =>
    exact .bind (recoverOverrun_cycles n fill d) fun _ _ hs => .pure (.inl hs)

/-- A capture device with the turns of its retunes, under calls in any order. -/
def retunes (n : CaptureNative) : System (Dsp × List (Turn Nat)) Call where
  init s := s.1.buffer.mismatchCycles = 0 ∧ s.2 = []
  step s
    | .retune request primed =>
      (retuneBuffer n request primed s.1).map fun r =>
        (r.2, s.1.retuneTurn request primed r.1 r.2 :: s.2)
    | call => (perform n call s.1).map fun r => (r.2, s.2)

/-- In every run the device's counter counted the turns. -/
theorem retunes_tallied {s : Dsp × List (Turn Nat)} (h : Reachable (retunes n) s) :
    Tallied s.1.buffer.mismatchCycles s.2 := by
  apply Tallied.of_reachable (fun d : Dsp => d.buffer.mismatchCycles) (fun _ hs => hs) _ h
  intro s call s' hs
  have hother (hcall : ∀ request primed, call ≠ .retune request primed)
      (h : (perform n call s.1).map (fun r => (r.2, s.2)) = some s') :
      s'.2 = s.2 ∧ (s'.1.buffer.mismatchCycles = s.1.buffer.mismatchCycles ∨
        s'.1.buffer.mismatchCycles = 0) := by
    obtain ⟨⟨u, d'⟩, hr, rfl⟩ := Option.map_eq_some_iff.mp h
    exact ⟨rfl, perform_cycles s.1 hcall u d' hr⟩
  cases call with
  | retune request primed =>
    obtain ⟨⟨answer, d'⟩, hr, rfl⟩ := Option.map_eq_some_iff.mp hs
    exact .inl ⟨_, rfl, retuneBuffer_counts n s.1 request primed answer d' hr, rfl, rfl⟩
  | _ => exact .inr (hother (fun _ _ heq => by cases heq) hs)

end Dsp

end PwOss.Oss
