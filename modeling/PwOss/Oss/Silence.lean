import PwOss.Oss.Stream

/-
  Synthetic audio: what the silence fills, the frame repair and the ring resets
  do to the device.

  A silence fill appends bytes without an origin (`Silent`) and nothing else.
  `end_buffer_sequence` either appends silence or leaves an empty ring behind.
  The stride and the silence pattern's frame lie within `SILENCE_CHUNK_BYTES`,
  the buffer that `realign_with_silence` fills.
-/

namespace PwOss.Oss

open PwOss.Backend PwOss.Sys PwOss.Proc

/-- Bytes that no host buffer supplied. -/
def Silent (cells : List Cell) : Prop := ∀ c ∈ cells, c.origin = none

theorem Silent.append {cells cells' : List Cell} (h : Silent cells) (h' : Silent cells') :
    Silent (cells ++ cells') := by
  intro c hc
  rcases List.mem_append.mp hc with hc | hc
  · exact h c hc
  · exact h' c hc

theorem Silent.of_bytes (bytes : List UInt8) (k : Nat) :
    Silent ((bytes.map Cell.silence).take k) := by
  intro c hc
  obtain ⟨b, -, rfl⟩ := List.mem_map.mp (List.mem_of_mem_take hc)
  rfl

/-- A device whose frames fit the repair buffer. -/
structure DspWriter.Framed (w : DspWriter) : Prop where
  stride : w.stride ≤ DspWriter.silenceChunkBytes
  pattern : w.silencePattern.frameMultiple ≤ DspWriter.silenceChunkBytes

theorem DspWriter.Framed.congr {w w' : DspWriter} (h : w.Framed) (hs : w'.stride = w.stride)
    (hp : w'.silencePattern = w.silencePattern) : w'.Framed :=
  ⟨by rw [hs]; exact h.stride, by rw [hp]; exact h.pattern⟩

/-- The device took silence only. -/
def Filled (w w' : DspWriter) : Prop := ∃ cells a, Silent cells ∧ Wrote cells a w w'

namespace Filled
variable {w w' w'' : DspWriter}

theorem idle (h : w.state = .running) : Filled w w :=
  ⟨[], 0, nofun, Wrote.idle h⟩

theorem trans (h : Filled w w') (h' : Filled w' w'') : Filled w w'' := by
  obtain ⟨cells, a, hs, hw⟩ := h
  obtain ⟨cells', a', hs', hw'⟩ := h'
  exact ⟨cells ++ cells', a + a', hs.append hs', hw.trans hw'⟩

theorem start (w : DspWriter) : Filled w w.start := ⟨[], 0, nofun, Wrote.refl w⟩

end Filled

/-! ## What a call does to the ring -/

/-- The ring, the frame phase and the state are as before. -/
structure Kept (w w' : DspWriter) : Prop where
  ring : w'.ring = w.ring
  phase : w'.frameOff = w.frameOff
  stride : w'.stride = w.stride
  pattern : w'.silencePattern = w.silencePattern
  state : w'.state = w.state

theorem Kept.refl (w : DspWriter) : Kept w w := ⟨rfl, rfl, rfl, rfl, rfl⟩

theorem Kept.trans {w w' w'' : DspWriter} (h : Kept w w') (h' : Kept w' w'') : Kept w w'' :=
  ⟨h'.ring.trans h.ring, h'.phase.trans h.phase, h'.stride.trans h.stride,
    h'.pattern.trans h.pattern, h'.state.trans h.state⟩

/-- The ring took silence at most. -/
structure Quiet (w w' : DspWriter) : Prop where
  ring : ∃ cells, Silent cells ∧ w'.ring = w.ring ++ cells ∧
    w'.frameOff = (w.frameOff + cells.length) % w.stride
  stride : w'.stride = w.stride
  pattern : w'.silencePattern = w.silencePattern
  stopped : w'.state ≠ .running → w'.state = w.state ∧ w'.ring = w.ring
  running : w.state = .running → w'.state = .running

theorem Kept.quiet {w w' : DspWriter} (h : Kept w w') : Quiet w w' where
  ring := by
    refine ⟨[], nofun, ?_, ?_⟩
    · rw [h.ring, List.append_nil]
    · rw [h.phase, List.length_nil, Nat.add_zero, Nat.mod_eq_of_lt w.frame_lt]
  stride := h.stride
  pattern := h.pattern
  stopped := fun _ => ⟨h.state, h.ring⟩
  running := fun hr => h.state.trans hr

theorem Filled.quiet {w w' : DspWriter} (h : Filled w w') (ho : w.state ≠ .closed) :
    Quiet w w' := by
  obtain ⟨cells, a, hs, hw⟩ := h
  have hrun := hw.running ho
  exact ⟨⟨cells, hs, hw.ring, hw.phase⟩, hw.stride, hw.pattern, fun hn => absurd hrun hn,
    fun _ => hrun⟩

/-- The ring was reset, and the frame phase with it. -/
structure Emptied (w w' : DspWriter) : Prop where
  ring : w'.ring = []
  phase : w'.frameOff = 0
  stride : w'.stride = w.stride
  pattern : w'.silencePattern = w.silencePattern
  stopped : w'.state ≠ .running
  isOpen : w.state ≠ .closed → w'.state ≠ .closed

theorem Quiet.isOpen {w w' : DspWriter} (h : Quiet w w') (ho : w.state ≠ .closed) :
    w'.state ≠ .closed := by
  intro hc
  have hsame := (h.stopped (by rw [hc]; decide)).1
  exact ho (by rw [← hsame, hc])

theorem Emptied.after {w w' w'' : DspWriter} (h : Emptied w' w'') (hq : Quiet w w') :
    Emptied w w'' :=
  { h with
    stride := h.stride.trans hq.stride
    pattern := h.pattern.trans hq.pattern
    isOpen := fun ho => h.isOpen (hq.isOpen ho) }

namespace DspWriter
variable {n : Native} {w : DspWriter}

/-! ## Ring resets -/

/-- How `suspend` ends. -/
inductive Suspended (n : Native) (w : DspWriter) : Bool → DspWriter → Prop where
  | idle (h : w.state ≠ .running) : Suspended n w true w
  | reset {w' : DspWriter} (h : w.state = .running) (ht : n.trigger w.triggers = true)
      (he : Emptied w w') : Suspended n w true w'
  | refused {w' : DspWriter} (h : w.state = .running) (ht : n.trigger w.triggers = false)
      (hk : Kept w w') : Suspended n w false w'

/-- `suspend` resets a running ring, or the driver refuses and nothing changes. -/
theorem suspend_ends (n : Native) (w : DspWriter) : Runs (suspend n) w (Suspended n w) := by
  unfold suspend
  refine .get (.ite (fun hstop => .pure (.idle hstop)) (fun hrun => ?_))
  have hrun : w.state = .running := by
    cases h : w.state <;> simp_all
  unfold setTrigger
  refine .bind (.get (.ite (fun h => nomatch h) (fun _ => .ite (fun hok => ?_) (fun hno => ?_))))
  · refine .modify (.pure (.ite (fun _ => .modify (.pure ?_)) (fun h => absurd rfl h)))
    exact .reset hrun hok ⟨rfl, rfl, rfl, rfl, nofun, fun _ => nofun⟩
  · refine .modify (.pure (.ite (fun h => nomatch h) (fun _ => .pure ?_)))
    exact .refused hrun (by simpa using hno) ⟨rfl, rfl, rfl, rfl, rfl⟩

/-- `pause` leaves the ring to `suspend`. -/
theorem pause_kept (n : Native) (w : DspWriter) :
    Runs (pause n) w fun _ w' => Kept w w' := by
  have hodelay : ∀ {w₁ : DspWriter}, Kept w w₁ →
      Runs (tryOdelay n) w₁ fun _ w' => Kept w w' := by
    intro w₁ hk
    exact .get (.modify (.pure (hk.trans ⟨rfl, rfl, rfl, rfl, rfl⟩)))
  have hshadow : ∀ {w₁ : DspWriter}, Kept w w₁ →
      Runs (shadowPause n) w₁ fun _ w' => Kept w w' := by
    intro w₁ hk
    exact .get (.modify (.pure (hk.trans ⟨rfl, rfl, rfl, rfl, rfl⟩)))
  unfold pause
  refine .modify (.get (.ite (fun _ => .pure ⟨rfl, rfl, rfl, rfl, rfl⟩) (fun _ => ?_)))
  refine .bind_of (hodelay ⟨rfl, rfl, rfl, rfl, rfl⟩) ?_
  intro r w₁ h₁
  split
  · exact .pure h₁
  refine .ite (fun _ => .pure h₁) (fun _ => .ite (fun _ => .pure h₁) (fun _ => ?_))
  refine .bind_of (hshadow h₁) ?_
  intro r w₂ h₂
  split
  · exact .pure h₂
  refine .bind_of (hodelay h₂) ?_
  intro r w₃ h₃
  split
  · exact .pure h₃
  · exact .modify (.pure (h₃.trans ⟨rfl, rfl, rfl, rfl, rfl⟩))

/-- `resume` swaps the shadow back within the ring. -/
theorem resume_kept (n : Native) (w : DspWriter) :
    Runs (resume n) w fun _ w' => Kept w w' := by
  unfold resume
  refine .get (.modify (.ite (fun _ => ?_) (fun _ => .pure ⟨rfl, rfl, rfl, rfl, rfl⟩)))
  exact .get (.modify (.pure ⟨rfl, rfl, rfl, rfl, rfl⟩))

/-! ## Silence fills -/

/-- `realign_with_silence` completes the open frame or leaves it open. -/
theorem realignWithSilence_runs (n : Native) (hrun : w.state = .running) (hf : w.Framed) :
    Runs (realignWithSilence n) w fun r w' => Filled w w' ∧ (r.isOk = true ↔ w'.frameOff = 0) := by
  have hframe := w.frame_lt
  have hstride := hf.stride
  unfold realignWithSilence
  refine .get (.ite (fun hopen => .require (by omega) ?_)
    (fun hclosed => .pure ⟨Filled.idle hrun, ?_⟩))
  · refine .bind_of (writeExact_runs hrun (by simp; omega)) ?_
    intro r w₁ ⟨k, _, _, hw⟩
    have hfill : Filled w w₁ := ⟨_, _, Silent.of_bytes _ k, hw⟩
    exact .get (.ite (fun hne => .pure ⟨hfill, by simp [Except.isOk, Except.toBool, hne]⟩)
      (fun he => .pure ⟨hfill, by simpa [Except.isOk, Except.toBool] using he⟩))
  · simpa [Except.isOk, Except.toBool] using hclosed

theorem alignedSilenceChunk_runs {count len : Nat} (hlen : count ≤ len ∨ w.stride ≤ len) :
    Runs (alignedSilenceChunk count len) w fun chunk w' =>
      w' = w ∧ chunk ≤ count ∧ chunk ≤ len := by
  unfold alignedSilenceChunk
  refine .get (.ite (fun hlt => ?_) (fun _ => .pure ⟨rfl, by omega, by omega⟩))
  have hsplit : (w.frameOff + min count len) % max w.stride 1 < w.stride := by
    rw [Nat.max_eq_left w.stride_pos]
    exact Nat.mod_lt _ w.stride_pos
  refine .require (by omega) (.pure ⟨rfl, by omega, by omega⟩)

/-- The fill loop makes chunk writes until the count or the device's patience ends: what
holds of no write, and of one followed by others, holds of the loop. -/
theorem writeSilenceLoop_induct (n : Native) {available : Nat → List UInt8} {stride : Nat}
    (limit : Nat) (hlimit : limit + stride ≤ 2 ^ 32)
    (hlong : ∀ off, off < stride → stride ≤ (available off).length ∧
      (available off).length < limit)
    {R : Nat → DspWriter → DspWriter → Prop}
    (hidle : ∀ {count : Nat} {w : DspWriter}, w.state = .running → R count w w)
    (hchunk : ∀ {count k a : Nat} {w w' w'' : DspWriter}, k ≤ count →
      Wrote (((available w.frameOff).take k).map Cell.silence) a w w' → w.stride = stride →
      R (count - k) w' w'' → R count w w'') :
    ∀ (fuel count : Nat) {w : DspWriter}, w.state = .running → w.stride = stride →
      count ≤ fuel → Runs (writeSilenceLoop n available fuel count) w fun _ w' => R count w w'
  | fuel, 0, w, hrun, _, _ => by
    have hdone : writeSilenceLoop n available fuel 0 = pure () := by
      cases fuel <;> rfl
    rw [hdone]
    exact .pure (hidle hrun)
  | 0, count + 1, _, _, _, hle => absurd hle (by omega)
  | fuel + 1, count + 1, w, hrun, hs, hle => by
    obtain ⟨hshort, hlt⟩ := hlong w.frameOff (hs ▸ w.frame_lt)
    have hframe := w.frame_lt
    unfold writeSilenceLoop
    refine .get (.bind_of (alignedSilenceChunk_runs (.inr (by omega))) ?_)
    rintro chunk w₁ ⟨rfl, hcount, hlen⟩
    refine .ite (fun _ => .pure (hidle hrun)) (fun _ => .require hlen ?_)
    have htake : (((available w₁.frameOff).take chunk).map Cell.silence).length = chunk := by
      rw [List.length_map, List.length_take]
      omega
    unfold writeSilenceChunk
    refine .bind (.bind_of (writeBuffered_runs (by simp [hrun]) ?_) ?_)
    · rw [htake, Nat.mod_eq_of_lt (by omega)]
      omega
    intro r w₂ ⟨k, hk, hw, hr⟩
    rw [htake, Nat.mod_eq_of_lt (by omega)] at hk
    rw [← List.map_take, List.take_take, Nat.min_eq_left hk] at hw
    have hkcount : k ≤ count + 1 := Nat.le_trans hk hcount
    have hrun₂ := hw.running (by simp [hrun])
    refine .ite (fun _ => .pure (.pure (hchunk hkcount hw hs (hidle hrun₂)))) (fun hpos => .pure ?_)
    have hwritten : r.bytes.toNat = k ∧ 0 < k := by
      rcases hr with rfl | ⟨-, e, rfl⟩
      · have hne : ¬ k = 0 := by simpa using hpos
        exact ⟨rfl, by omega⟩
      · simp at hpos
    rw [hwritten.1]
    refine .require hkcount ?_
    have hrest := writeSilenceLoop_induct (R := R) n limit hlimit hlong hidle hchunk fuel
      (count + 1 - k) hrun₂ (hw.stride.trans hs) (by omega)
    exact hrest.mono fun _ _ hrest => hchunk hkcount hw hs hrest

/-- The fill loop appends silence. -/
theorem writeSilenceLoop_runs (n : Native) {available : Nat → List UInt8} {stride : Nat}
    (limit : Nat) (hlimit : limit + stride ≤ 2 ^ 32)
    (hlong : ∀ off, off < stride → stride ≤ (available off).length ∧
      (available off).length < limit) (fuel count : Nat) {w : DspWriter}
    (hrun : w.state = .running) (hs : w.stride = stride) (hle : count ≤ fuel) :
    Runs (writeSilenceLoop n available fuel count) w fun _ w' => Filled w w' := by
  have hsilent (bytes : List UInt8) (k : Nat) : Silent ((bytes.take k).map Cell.silence) := by
    rw [List.map_take]
    exact Silent.of_bytes bytes k
  refine writeSilenceLoop_induct n (R := fun _ w w' => Filled w w') limit hlimit hlong
    Filled.idle ?_ fuel count hrun hs hle
  intro count k a w w' w'' _ hw _ hrest
  exact Filled.trans ⟨_, a, hsilent _ k, hw⟩ hrest

/-- `write_silence` appends silence. -/
theorem writeSilence_runs (n : Native) (count : Nat) (ho : w.state ≠ .closed) (hf : w.Framed) :
    Runs (writeSilence n count) w fun _ w' => Filled w w' := by
  have hstart := Filled.start w
  have hrun := (Wrote.refl w).running ho
  have hf₀ := hf.congr (Wrote.refl w).stride (Wrote.refl w).pattern
  have hbulk : bulkSilenceBytes = 131072 := rfl
  have hchunk : silenceChunkBytes = 4096 := rfl
  unfold writeSilence
  refine .modify (.bind_of (realignWithSilence_runs n hrun hf₀) ?_)
  rintro r w₁ ⟨hfill, _⟩
  have hfill₁ := hstart.trans hfill
  have ⟨_, _, _, hw⟩ := hfill₁
  have hrun₁ := hw.running ho
  have hf₁ := hf.congr hw.stride hw.pattern
  have hstride₁ := hf₁.stride
  have huniform : ∀ c len b, w₁.stride ≤ len → len < 2 ^ 31 →
      Runs (writeUniformSilence n c len b) w₁ fun _ w' => Filled w w' := by
    intro c len b hle hlt
    exact (writeSilenceLoop_runs n (2 ^ 31) (by omega) (fun _ _ => by simp; omega) c c hrun₁ rfl
      (Nat.le_refl _)).mono (fun _ _ => hfill₁.trans)
  split
  · exact .pure hfill₁
  · refine .get ?_
    split
    · exact huniform _ _ _ (by omega) (by omega)
    · exact huniform _ _ _ (by omega) (by omega)
    · exact huniform _ _ _ (by omega) (by omega)
    · exact huniform _ _ _ (by omega) (by omega)
    · unfold writePatternSilence
      have hpattern := hf₁.pattern
      refine .get ((writeSilenceLoop_runs n (2 ^ 31) (by omega) (fun off hoff => ?_) _ _ hrun₁ rfl
        (Nat.le_refl _)).mono (fun _ _ => hfill₁.trans))
      rw [List.length_drop, SilencePattern.length_fillAt]
      omega

/-! ## The end of a buffer -/

/-- `end_buffer_sequence` closes the open frame with silence or empties the ring,
or the device refuses both and the frame stays open. -/
theorem endBufferSequence_turns (n : Native) (hf : w.Framed)
    (hstop : w.state ≠ .running → w.ring = []) :
    Runs (endBufferSequence n) w fun _ w' => Quiet w w' ∨ Emptied w w' := by
  have hsuspend : ∀ {w₁ : DspWriter}, Quiet w w₁ →
      Runs (suspend n) w₁ fun _ w' => Quiet w w' ∨ Emptied w w' := by
    intro w₁ hq
    refine (suspend_ends n w₁).mono ?_
    intro ok w' h
    cases h with
    | idle => exact .inl hq
    | reset _ _ he => exact .inr (he.after hq)
    | refused _ _ hk =>
      have hk' := hk.quiet
      refine .inl ⟨?_, hk.stride.trans hq.stride, hk.pattern.trans hq.pattern, fun hn => ?_,
        fun hr => hk'.running (hq.running hr)⟩
      · rw [hk.ring, hk.phase]
        exact hq.ring
      · have hn₁ : w₁.state ≠ .running := by rwa [← hk.state]
        exact ⟨hk.state.trans (hq.stopped hn₁).1, hk.ring.trans (hq.stopped hn₁).2⟩
  unfold endBufferSequence
  refine .get (.ite (fun _ => .pure (.inl (Kept.refl w).quiet)) (fun _ => ?_))
  refine .ite (fun hn => .modify (.pure (.inr ?_))) (fun hr => .ite (fun _ => ?_) (fun _ => ?_))
  · exact ⟨hstop hn, rfl, rfl, rfl, hn, id⟩
  · exact hsuspend (Kept.refl w).quiet
  · have hrun : w.state = .running := by simpa using hr
    refine .bind_of (realignWithSilence_runs n hrun hf) ?_
    rintro r w₁ ⟨hfill, _⟩
    have hq := hfill.quiet (by simp [hrun])
    split
    · exact .pure (.inl hq)
    · exact hsuspend hq

end DspWriter

end PwOss.Oss
