import PwOss.Oss.Silence
import PwOss.Backend.Capture

/-
  The phase of silence within a frame.

  `realign_with_silence` completes an open frame, and the uniform and the cached
  path of `write_silence` continue from where the device stopped. A multi-byte
  midpoint (`SilencePattern`) is silent only when each of its bytes lands on its
  own place in the frame.

  What is proved:
    * every byte of a silence fill is the pattern's byte at the phase it lands on
    * the fill ends, and stays within the frame tail and the whole frames asked for
    * every uniform encoding has a block of its own, so the pattern path has its cache

  Correspondence (Rust ↔ Lean):
    `realign_with_silence`, `write_silence`    ↔ `realignWithSilence`, `writeSilence`
    `SilencePattern::fill_at`                  ↔ `SilencePattern.fillAt`
-/

namespace PwOss.Backend.SilencePattern

/-- A silent sample that repeats one byte repeats the byte of a shared block. -/
theorem silentSample_uniform {format : UInt32} {sample : { bytes : List UInt8 // bytes ≠ [] }}
    (hs : (silentSample format).getD ⟨[0], by simp⟩ = sample) (frameMultiple : Nat) {byte : UInt8}
    (h : uniformByte ⟨sample.1, frameMultiple, sample.2⟩ = some byte) :
    byte = 0 ∨ byte = 0x80 ∨ byte = 0xff ∨ byte = 0x55 := by
  unfold silentSample at hs
  split at hs
  all_goals subst hs
  all_goals simp [uniformByte] at h
  all_goals simp [← h]

/-- The uniform encodings of `for_config` have a block each, and the others a cache. -/
theorem forConfig_uniform (config : StreamConfig) {byte : UInt8}
    (h : (forConfig config).uniformByte = some byte) :
    byte = 0 ∨ byte = 0x80 ∨ byte = 0xff ∨ byte = 0x55 :=
  silentSample_uniform rfl _ h

end PwOss.Backend.SilencePattern

namespace PwOss.Oss

open PwOss.Backend PwOss.Sys PwOss.Proc

/-- The device took at most `count` bytes, each of them silent at its phase. -/
def InPhase (count : Nat) (w w' : DspWriter) : Prop :=
  ∃ cells a, Wrote cells a w w' ∧ cells.length ≤ count ∧
    cells.map (·.byte) = w.silencePattern.fillAt w.frameOff cells.length

namespace InPhase
variable {count count' : Nat} {w w' w'' : DspWriter}

theorem idle (h : w.state = .running) : InPhase count w w :=
  ⟨[], 0, Wrote.idle h, Nat.zero_le _, rfl⟩

theorem start (w : DspWriter) : InPhase count w w.start :=
  ⟨[], 0, Wrote.refl w, Nat.zero_le _, rfl⟩

/-- A fill continues at the phase where the one before stopped. -/
theorem trans (hframe : w.silencePattern.frameMultiple = w.stride)
    (h : InPhase count w w') (h' : InPhase count' w' w'') : InPhase (count + count') w w'' := by
  obtain ⟨cells, a, hw, hle, hb⟩ := h
  obtain ⟨cells', a', hw', hle', hb'⟩ := h'
  have hpos : 0 < w.silencePattern.frameMultiple := hframe ▸ w.stride_pos
  refine ⟨cells ++ cells', a + a', hw.trans hw', ?_, ?_⟩
  · rw [List.length_append]
    omega
  · rw [List.map_append, hb, hb', hw.phase, hw.pattern, ← hframe,
      SilencePattern.fillAt_mod _ hpos, List.length_append, SilencePattern.fillAt_append]

/-- A write of the first bytes of a silent stretch. -/
theorem of_take {len k a : Nat} (hcount : k ≤ count)
    (h : Wrote (((w.silencePattern.fillAt w.frameOff len).take k).map Cell.silence) a w w') :
    InPhase count w w' := by
  rw [SilencePattern.take_fillAt] at h
  refine ⟨_, a, h, ?_, ?_⟩
  · rw [List.length_map, SilencePattern.length_fillAt]
    omega
  · rw [List.map_map, List.length_map, SilencePattern.length_fillAt]
    exact List.map_id _

theorem mono (h : InPhase count w w') (hle : count ≤ count') : InPhase count' w w' := by
  obtain ⟨cells, a, hw, hlen, hb⟩ := h
  exact ⟨cells, a, hw, Nat.le_trans hlen hle, hb⟩

end InPhase

namespace DspWriter
variable {w : DspWriter}

/-- What `realign_with_silence` has to add to the open frame. -/
def frameTail (w : DspWriter) : Nat := if w.frameOff = 0 then 0 else w.stride - w.frameOff

/-- `realign_with_silence` completes the frame in phase, or a part of it. -/
theorem realignWithSilence_inPhase (n : Native) (hrun : w.state = .running)
    (hstride : w.stride ≤ silenceChunkBytes) :
    Runs (realignWithSilence n) w fun r w' =>
      InPhase w.frameTail w w' ∧ (r.isOk = true → w'.frameOff = 0) := by
  have hframe := w.frame_lt
  unfold realignWithSilence
  refine .get (.ite (fun hopen => .require (by omega) ?_) (fun hclosed => .pure ⟨.idle hrun, ?_⟩))
  · refine .bind_of (writeExact_runs hrun (by simp; omega)) ?_
    intro r w₁ ⟨k, hk, _, hw⟩
    rw [← List.map_take] at hw
    rw [List.length_map, SilencePattern.length_fillAt] at hk
    have hfill : InPhase w.frameTail w w₁ := by
      refine .of_take ?_ hw
      rwa [frameTail, if_neg hopen]
    exact .get (.ite (fun _ => .pure ⟨hfill, nofun⟩)
      (fun he => .pure ⟨hfill, fun _ => Decidable.not_not.mp he⟩))
  · exact fun _ => Decidable.not_not.mp hclosed

/-- A fill from silence that is in phase at every offset is in phase. -/
theorem writeSilenceLoop_inPhase (n : Native) {available : Nat → List UInt8}
    (len : Nat → Nat) (limit : Nat) (hlimit : limit + w.stride ≤ 2 ^ 32)
    (hphase : ∀ off, off < w.stride → available off = w.silencePattern.fillAt off (len off))
    (hlong : ∀ off, off < w.stride → w.stride ≤ len off ∧ len off < limit)
    (hframe : w.silencePattern.frameMultiple = w.stride) (hrun : w.state = .running)
    (count : Nat) :
    Runs (writeSilenceLoop n available count count) w fun _ w' => InPhase count w w' := by
  have hlen (off : Nat) (hoff : off < w.stride) :
      w.stride ≤ (available off).length ∧ (available off).length < limit := by
    rw [hphase off hoff, SilencePattern.length_fillAt]
    exact hlong off hoff
  -- the loop never changes the pattern that its silence was cut from
  refine (writeSilenceLoop_induct n limit hlimit hlen
    (R := fun count w₁ w' => w₁.stride = w.stride → w₁.silencePattern = w.silencePattern →
      InPhase count w₁ w') (fun hr _ _ => .idle hr) ?_ count count hrun rfl
      (Nat.le_refl _)).mono fun _ _ h => h rfl rfl
  intro count k a w₁ w' w'' hk hw hs hrest hs₁ hp₁
  have hoff : w₁.frameOff < w.stride := hs ▸ w₁.frame_lt
  have hfirst : InPhase k w₁ w' := by
    rw [hphase _ hoff, ← hp₁] at hw
    exact .of_take (Nat.le_refl k) hw
  have ⟨_, _, hw', _⟩ := hfirst
  have hnext := hrest (hw'.stride.trans hs₁) (hw'.pattern.trans hp₁)
  refine (hfirst.trans ?_ hnext).mono (by omega)
  rw [hp₁, hs₁, hframe]

/-- Each of the blocks and the cache hold the pattern at every phase. -/
theorem writeSilence_inPhase (n : Native) (count : Nat) (ho : w.state ≠ .closed)
    (hstride : w.stride ≤ silenceChunkBytes)
    (hframe : w.silencePattern.frameMultiple = w.stride) :
    Runs (writeSilence n count) w fun _ w' =>
      InPhase (w.frameTail + (count - count % w.stride)) w w' := by
  have hstart := Wrote.refl w
  have hrun := hstart.running ho
  have hchunk : silenceChunkBytes = 4096 := rfl
  have hbulk : bulkSilenceBytes = 131072 := rfl
  have hframe₀ : w.start.silencePattern.frameMultiple = w.start.stride := by
    rw [hstart.pattern, hstart.stride, hframe]
  have htail : w.start.frameTail = w.frameTail := by
    unfold frameTail
    rw [hstart.phase, hstart.stride, List.length_nil, Nat.add_zero, Nat.mod_eq_of_lt w.frame_lt]
  unfold writeSilence
  refine .modify (.bind_of (realignWithSilence_inPhase n hrun (by rwa [hstart.stride])) ?_)
  intro r w₁ ⟨hfill, _⟩
  rw [htail] at hfill
  have hfill₁ : InPhase w.frameTail w w₁ := by
    have hnone : InPhase 0 w w.start := .start w
    have h := hnone.trans hframe hfill
    rwa [Nat.zero_add] at h
  have ⟨_, _, hw, _⟩ := hfill₁
  have hrun₁ := hw.running ho
  have hframe₁ : w₁.silencePattern.frameMultiple = w₁.stride := by
    rw [hw.pattern, hw.stride, hframe]
  have hstride₁ : w₁.stride ≤ silenceChunkBytes := hw.stride ▸ hstride
  have hwhole : count - count % max w₁.stride 1 = count - count % w.stride := by
    rw [Nat.max_eq_left w₁.stride_pos, hw.stride]
  have huniform (c len : Nat) (b : UInt8) (hb : w₁.silencePattern.uniformByte = some b)
      (hle : silenceChunkBytes ≤ len) (hlt : len < 2 ^ 31) :
      Runs (writeUniformSilence n c len b) w₁ fun _ w' => InPhase (w.frameTail + c) w w' := by
    refine (writeSilenceLoop_inPhase n (fun _ => len) (2 ^ 31) (by omega)
      (fun off _ => ?_) (fun _ _ => ⟨by omega, hlt⟩) hframe₁ hrun₁ c).mono
      fun _ _ h => hfill₁.trans hframe h
    exact (SilencePattern.fillAt_uniform _ hb off len).symm
  split
  · exact .pure (hfill₁.mono (Nat.le_add_right ..))
  · refine .get ?_
    rw [hwhole]
    split
    · next hb => exact huniform _ _ _ hb (by omega) (by omega)
    · next hb => exact huniform _ _ _ hb (by omega) (by omega)
    · next hb => exact huniform _ _ _ hb (by omega) (by omega)
    · next hb => exact huniform _ _ _ hb (by omega) (by omega)
    · unfold writePatternSilence
      have hmax : max bulkSilenceBytes w₁.silencePattern.frameMultiple = bulkSilenceBytes := by
        omega
      refine .get ((writeSilenceLoop_inPhase n (fun off => bulkSilenceBytes - off) (2 ^ 31)
        (by omega) (fun off hoff => ?_) (fun off hoff => ⟨by omega, by omega⟩) hframe₁ hrun₁
        _).mono fun _ _ h => hfill₁.trans hframe h)
      rw [hmax, SilencePattern.drop_fillAt _ (by omega), Nat.zero_add]

end DspWriter

/-- Silence keeps the frame phase: whatever the device accepts of each write, the byte that
lands at a phase of the frame is the pattern's byte for that phase, and `write_silence` ends
within the open frame's tail and the whole frames asked for. -/
theorem silence_keeps_phase (n : Native) (count : Nat) {w : DspWriter} (ho : w.state ≠ .closed)
    (hstride : w.stride ≤ 4096) (hframe : w.silencePattern.frameMultiple = w.stride) :
    Runs (DspWriter.writeSilence n count) w fun _ w' => ∃ cells : List Cell,
      w'.ring = w.ring ++ cells ∧ w'.frameOff = (w.frameOff + cells.length) % w.stride ∧
      (∀ j (h : j < cells.length),
        cells[j].byte = w.silencePattern.byteAt ((w.frameOff + j) % w.stride)) ∧
      cells.length ≤ w.frameTail + (count - count % w.stride) := by
  refine (DspWriter.writeSilence_inPhase n count ho hstride hframe).mono ?_
  intro _ w' ⟨cells, _, hw, hle, hbytes⟩
  refine ⟨cells, hw.ring, hw.phase, fun j hj => ?_, hle⟩
  have hpos : 0 < w.silencePattern.frameMultiple := hframe ▸ w.stride_pos
  have hget : (cells.map (·.byte))[j]? = (w.silencePattern.fillAt w.frameOff cells.length)[j]? := by
    rw [hbytes]
  rw [SilencePattern.fillAt, List.getElem?_map, List.getElem?_map, List.getElem?_range hj,
    List.getElem?_eq_getElem hj, Option.map_some, Option.map_some, Option.some.injEq] at hget
  rw [hget, ← hframe, SilencePattern.byteAt_mod _ hpos]

theorem unsigned16_ne_nil : [(0x00 : UInt8), 0x80] ≠ [] := by simp

/-- A device that stopped one byte into a frame of unsigned 16-bit samples. -/
def openFrame : DspWriter :=
  { DspWriter.new 0 with
    state := .running
    stride := 4
    frameOff := 1
    silencePattern := ⟨[0x00, 0x80], 4, unsigned16_ne_nil⟩
    stride_pos := DspWriter.stereo_pos
    stride_lt := DspWriter.stereo_lt
    frame_lt := by decide }

/-- A device that takes three bytes at a time and now and then nothing. -/
def trickle : Native where
  open_ _ := .ok ()
  write i := if i % 4 = 3 then .error .eagain else .ok 3
  trigger _ := true
  silence _ := .ok ()
  skip _ := .ok ()
  odelay _ := .ok 0

theorem silence_keeps_phase_openFrame :
    Runs (DspWriter.writeSilence trickle 10) openFrame fun _ w' => ∃ cells : List Cell,
      w'.ring = [] ++ cells ∧ w'.frameOff = (1 + cells.length) % 4 ∧
      (∀ j (h : j < cells.length),
        cells[j].byte = openFrame.silencePattern.byteAt ((1 + j) % 4)) ∧
      cells.length ≤ 3 + (10 - 10 % 4) :=
  silence_keeps_phase trickle 10 (by decide) (by decide) rfl

end PwOss.Oss
