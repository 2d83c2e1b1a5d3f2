import PwOss.Oss.Session

/-
  Where a buffer begins in the frame.

  `end_buffer_sequence` leaves the frame phase at 0 in exactly the cases of
  `SequenceEnds`: the frame was closed, the channel is not running, the device
  takes the silent tail (`TailAccepted`) or the driver resets the ring. Otherwise
  it returns with an open frame, and the next buffer continues it. A silence fill
  that the device cuts inside a frame does the same (`FillWhole`). Along every
  session without these, each buffer begins on a frame boundary.
-/

namespace PwOss.Oss

open PwOss.Backend PwOss.Sys PwOss.Proc PwOss.Transition

/-- An answer that accepts nothing now: no room, or EAGAIN. -/
def Blocks (answer : Except Errno Nat) : Prop := answer = .ok 0 ∨ answer = .error .eagain

/-- From the `calls`-th native call on, the device takes the `need` bytes that
close the frame. It may block 100 times, and not at all on a channel whose
trigger is off. -/
inductive TailAccepted (n : Native) (triggerOff : Bool) : Nat → Nat → Nat → Prop where
  | whole {calls tries : Nat} : TailAccepted n triggerOff calls 0 tries
  | part {calls need tries accepted : Nat} (hneed : 0 < need)
      (ha : n.write calls = .ok accepted) (hpos : 0 < accepted)
      (hrest : TailAccepted n triggerOff (calls + 1) (need - accepted) tries) :
      TailAccepted n triggerOff calls need tries
  | blocked {calls need tries : Nat} (hneed : 0 < need) (hoff : triggerOff = false)
      (htries : tries < 100) (hb : Blocks (n.write calls))
      (hrest : TailAccepted n triggerOff (calls + 1) need (tries + 1)) :
      TailAccepted n triggerOff calls need tries

namespace TailAccepted
variable {n : Native} {triggerOff : Bool} {calls need tries : Nat}

theorem of_part {accepted : Nat} (hneed : 0 < need) (ha : n.write calls = .ok accepted)
    (hpos : 0 < accepted) : TailAccepted n triggerOff calls need tries ↔
      TailAccepted n triggerOff (calls + 1) (need - accepted) tries := by
  constructor
  · intro h
    cases h with
    | whole => exact absurd hneed (Nat.lt_irrefl 0)
    | part _ ha' _ hrest =>
      rw [ha] at ha'
      cases ha'
      exact hrest
    | blocked _ _ _ hb _ =>
      rcases hb with hb | hb
      · rw [ha] at hb
        cases hb
        exact absurd hpos (Nat.lt_irrefl 0)
      · rw [ha] at hb
        cases hb
  · exact .part hneed ha hpos

theorem of_blocks (hneed : 0 < need) (hb : Blocks (n.write calls)) :
    TailAccepted n triggerOff calls need tries ↔
      triggerOff = false ∧ tries < 100 ∧
        TailAccepted n triggerOff (calls + 1) need (tries + 1) := by
  constructor
  · intro h
    cases h with
    | whole => exact absurd hneed (Nat.lt_irrefl 0)
    | part _ ha hpos _ =>
      rcases hb with hb | hb
      · rw [hb] at ha
        cases ha
        exact absurd hpos (Nat.lt_irrefl 0)
      · rw [hb] at ha
        cases ha
    | blocked _ hoff htries _ hrest => exact ⟨hoff, htries, hrest⟩
  · rintro ⟨hoff, htries, hrest⟩
    exact .blocked hneed hoff htries hb hrest

theorem not_of_error {error : Errno} (hneed : 0 < need) (he : n.write calls = .error error)
    (hne : error ≠ .eagain) : ¬ TailAccepted n triggerOff calls need tries := by
  intro h
  cases h with
  | whole => exact absurd hneed (Nat.lt_irrefl 0)
  | part _ ha _ _ =>
    rw [he] at ha
    cases ha
  | blocked _ _ _ hb _ =>
    rcases hb with hb | hb
    · rw [he] at hb
      cases hb
    · rw [he] at hb
      cases hb
      exact hne rfl

end TailAccepted

/-- The device ends the buffer on a frame boundary. -/
def SequenceEnds (n : Native) (w : DspWriter) : Prop :=
  w.frameOff = 0 ∨ w.state ≠ .running ∨
    (w.pauseShadowed = false ∧
      TailAccepted n w.needsTrigger w.ops.length (w.stride - w.frameOff) 0) ∨
    n.trigger w.triggers = true

/-- What the device takes of a silence fill ends a frame. -/
def FillWhole (n : Native) (count : Nat) (w : DspWriter) : Prop :=
  ∀ u w', DspWriter.writeSilence n count w = some (u, w') →
    (w.frameOff + (w'.ring.length - w.ring.length)) % w.stride = 0

namespace DspWriter
variable {n : Native} {w : DspWriter} {buf : List Cell}

/-! ## One native write -/

@[simp] theorem triggers_accept (cells : List Cell) (w : DspWriter) :
    (w.accept cells).triggers = w.triggers := by
  simp [triggers, accept, NativeOp.isTrigger]

@[simp] theorem triggers_called_write (cells : List Cell) (w : DspWriter) :
    (w.called (.write cells)).triggers = w.triggers := by
  simp [triggers, called, NativeOp.isTrigger]

theorem start_of_running (hrun : w.state = .running) : w.start = w := by
  rw [start, if_neg (by simp [hrun])]

theorem writeBuffered_ok {accepted : Nat} (hrun : w.state = .running)
    (hlen : buf.length < 2 ^ 32) (hfit : w.frameOff + buf.length < 2 ^ 32)
    (ha : n.write w.ops.length = .ok accepted) :
    writeBuffered n buf w =
      some (⟨(min accepted buf.length : Nat), none⟩,
        w.accept (buf.take (min accepted buf.length))) := by
  have hmin : min accepted buf.length ≤ buf.length := Nat.min_le_right ..
  have h : Runs (writeBuffered n buf) w fun r w' =>
      r = ⟨(min accepted buf.length : Nat), none⟩ ∧
        w' = w.accept (buf.take (min accepted buf.length)) := by
    unfold writeBuffered
    rw [Nat.mod_eq_of_lt hlen]
    refine .modify (.get (.require (by rw [start_of_running hrun]; exact hrun) ?_))
    rw [start_of_running hrun, ha]
    exact .require (by omega) (.modify (.pure ⟨rfl, rfl⟩))
  obtain ⟨r, w', heq, rfl, rfl⟩ := h
  exact heq

theorem writeBuffered_error {error : Errno} (hrun : w.state = .running)
    (he : n.write w.ops.length = .error error) :
    writeBuffered n buf w = some (⟨-1, some error⟩, w.called (.write [])) := by
  have h : Runs (writeBuffered n buf) w fun r w' =>
      r = ⟨-1, some error⟩ ∧ w' = w.called (.write []) := by
    unfold writeBuffered
    refine .modify (.get (.require (by rw [start_of_running hrun]; exact hrun) ?_))
    rw [start_of_running hrun, he]
    exact .modify (.pure ⟨rfl, rfl⟩)
  obtain ⟨r, w', heq, rfl, rfl⟩ := h
  exact heq

/-! ## The repair of an open frame -/

/-- The frame is open, and `need` bytes close it. -/
def Open (need : Nat) (w : DspWriter) : Prop :=
  0 < w.frameOff ∧ w.frameOff + need = w.stride

/-- The result of the repair: the frame is closed if and only if the device took
the rest of it. No SETTRIGGER call is made. -/
def Repaired (n : Native) (w : DspWriter) (need tries : Nat) (w' : DspWriter) : Prop :=
  w'.triggers = w.triggers ∧
    (w'.frameOff = 0 ↔ TailAccepted n w.needsTrigger w.ops.length need tries)

theorem Repaired.open {need tries : Nat} {w' : DspWriter} (ht : w'.triggers = w.triggers)
    (hoff : 0 < w'.frameOff)
    (hn : ¬ TailAccepted n w.needsTrigger w.ops.length need tries) :
    Repaired n w need tries w' :=
  ⟨ht, fun h => absurd h (Nat.pos_iff_ne_zero.mp hoff), fun h => absurd h hn⟩

/-- An attempt that the device took nothing of. -/
structure Spent (w w' : DspWriter) : Prop where
  phase : w'.frameOff = w.frameOff
  stride : w'.stride = w.stride
  state : w'.state = w.state
  trigger : w'.needsTrigger = w.needsTrigger
  triggers : w'.triggers = w.triggers
  calls : w'.ops.length = w.ops.length + 1

theorem spent_called (w : DspWriter) : Spent w (w.called (.write [])) :=
  ⟨rfl, rfl, rfl, rfl, triggers_called_write [] w, List.length_append⟩

theorem spent_accept (w : DspWriter) : Spent w (w.accept []) := by
  refine ⟨?_, rfl, rfl, rfl, triggers_accept [] w, List.length_append⟩
  show (w.frameOff + 0) % max w.stride 1 = w.frameOff
  rw [Nat.max_eq_left w.stride_pos, Nat.add_zero, Nat.mod_eq_of_lt w.frame_lt]

theorem Spent.isOpen {need : Nat} {w' : DspWriter} (h : Spent w w') (ho : w.Open need) :
    w'.Open need := by
  rw [Open, h.phase, h.stride]
  exact ho

/-- A blocked attempt that was the last one leaves the frame open. -/
theorem Repaired.blocked {need tries : Nat} {w₁ : DspWriter} (hw : Spent w w₁) (hopen : w.Open need)
    (hneed : 0 < need) (hb : Blocks (n.write w.ops.length))
    (hlast : w.needsTrigger = false → 100 ≤ tries) : Repaired n w need tries w₁ := by
  refine .open hw.triggers (hw.isOpen hopen).1 ?_
  rw [TailAccepted.of_blocks hneed hb]
  rintro ⟨hoff, htries, -⟩
  exact absurd (hlast hoff) (Nat.not_le_of_lt htries)

/-- After a blocked attempt the repair goes on from where it was. -/
theorem Repaired.spent {need tries : Nat} {w₁ w' : DspWriter} (hw : Spent w w₁) (hneed : 0 < need)
    (hoff : w.needsTrigger = false) (htries : tries < 100) (hb : Blocks (n.write w.ops.length))
    (h : Repaired n w₁ need (tries + 1) w') : Repaired n w need tries w' := by
  obtain ⟨htriggers, hiff⟩ := h
  refine ⟨htriggers.trans hw.triggers, hiff.trans ?_⟩
  rw [TailAccepted.of_blocks hneed hb, hw.trigger, hw.calls]
  exact ⟨fun h => ⟨hoff, htries, h⟩, fun h => h.2.2⟩

/-- After a part of the frame was taken the repair goes on with the rest. -/
theorem Repaired.part {need tries accepted : Nat} {cells : List Cell} {w' : DspWriter}
    (hneed : 0 < need) (ha : n.write w.ops.length = .ok accepted) (hpos : 0 < accepted)
    (h : Repaired n (w.accept cells) (need - accepted) tries w') :
    Repaired n w need tries w' := by
  obtain ⟨htriggers, hiff⟩ := h
  refine ⟨htriggers.trans (triggers_accept _ w), hiff.trans ?_⟩
  have hops : (w.accept cells).ops.length = w.ops.length + 1 := List.length_append
  rw [TailAccepted.of_part hneed ha hpos, hops]
  rfl

theorem Open.accept {need : Nat} (cells : List Cell) (hopen : w.Open need)
    (hlt : cells.length < need) : (w.accept cells).Open (need - cells.length) := by
  obtain ⟨hpos, hclose⟩ := hopen
  have hphase : (w.accept cells).frameOff = w.frameOff + cells.length := by
    show (w.frameOff + cells.length) % max w.stride 1 = _
    rw [Nat.max_eq_left w.stride_pos, Nat.mod_eq_of_lt (by omega)]
  have hstride : (w.accept cells).stride = w.stride := rfl
  rw [Open, hphase, hstride]
  omega

theorem Open.closed {need : Nat} {cells : List Cell} (hopen : w.Open need)
    (hlen : cells.length = need) : (w.accept cells).frameOff = 0 := by
  show (w.frameOff + cells.length) % max w.stride 1 = 0
  rw [hlen, hopen.2, Nat.max_eq_left w.stride_pos, Nat.mod_self]

/-- The loop on the silent tail of an open frame. -/
theorem writeExactLoop_repairs (_ : buf.length < 2 ^ 32) :
    ∀ (fuel done tries : Nat) (error : Option Errno) {w : DspWriter}, w.state = .running →
      done < buf.length → tries ≤ 100 → w.Open (buf.length - done) →
      (buf.length - done) + (101 - tries) < fuel →
      Runs (writeExactLoop n buf buf.length fuel done tries error) w fun _ w' =>
        Repaired n w (buf.length - done) tries w' := by
  intro fuel
  induction fuel with
  | zero => intro done tries error w _ _ _ _ hfuel; omega
  | succ fuel ih =>
    intro done tries error w hrun hdone htries hopen hfuel
    have hclose := hopen.2
    have hstride := w.stride_lt
    have hneed : 0 < buf.length - done := by omega
    have hdrop : (buf.drop done).length = buf.length - done := List.length_drop
    -- a blocked attempt: the loop gives up or tries again
    have hblocked : ∀ (r : NativeWrite) (w₁ : DspWriter), ¬ 0 < r.bytes →
        ¬ (r.bytes < 0 ∧ r.error ≠ some .eagain) → Spent w w₁ → Blocks (n.write w.ops.length) →
        Runs (do
          if 0 < r.bytes then
            writeExactLoop n buf buf.length fuel (done + r.bytes.toNat) tries none
          else
            let v ← get
            if (r.bytes < 0 ∧ r.error ≠ some .eagain) ∨ v.needsTrigger = true then
              return exactResult buf.length done r.error
            else if 100 < tries + 1 then return exactResult buf.length done r.error
            else writeExactLoop n buf buf.length fuel done (tries + 1) r.error) w₁
          fun _ w' => Repaired n w (buf.length - done) tries w' := by
      intro r w₁ hnone hsoft hw hb
      refine .ite (fun h => absurd h hnone) (fun _ => .get (.ite (fun ht => .pure ?_)
        (fun ht => .ite (fun hlast => .pure ?_) (fun hmore => ?_))))
      · refine .blocked hw hopen hneed hb fun hoff => ?_
        rw [← hw.trigger, ht.resolve_left hsoft] at hoff
        cases hoff
      · exact .blocked hw hopen hneed hb fun _ => by omega
      · have hoff : w.needsTrigger = false := by
          rw [← hw.trigger]
          simpa using (not_or.mp ht).2
        have hagain := ih done (tries + 1) r.error (hw.state.trans hrun) hdone (by omega)
          (hw.isOpen hopen) (by omega)
        exact hagain.mono fun _ _ h => h.spent hw hneed hoff (by omega) hb
    unfold writeExactLoop
    refine .ite (fun hge => absurd hge (by omega)) (fun _ => ?_)
    cases ha : n.write w.ops.length with
    | error error =>
      refine .bind (.of_eq (writeBuffered_error hrun ha) ?_)
      by_cases hagain : error = .eagain
      · subst hagain
        exact hblocked ⟨-1, some .eagain⟩ _ (by simp) (by simp) (spent_called w) (.inr ha)
      · refine .ite (fun h => absurd h (by simp)) (fun _ => .get (.ite (fun _ => .pure ?_)
          (fun h => absurd (.inl ⟨by simp, by simpa using hagain⟩) h)))
        exact .open (triggers_called_write [] w) hopen.1
          (TailAccepted.not_of_error hneed ha hagain)
    | ok accepted =>
      refine .bind (.of_eq (writeBuffered_ok hrun (by omega) (by omega) ha) ?_)
      rw [hdrop]
      rcases Nat.eq_zero_or_pos accepted with rfl | haccepted
      · simp only [Nat.zero_min, List.take_zero]
        exact hblocked ⟨0, none⟩ _ (by simp) (by simp) (spent_accept w) (.inl ha)
      · have hk : ((buf.drop done).take (min accepted (buf.length - done))).length =
            min accepted (buf.length - done) := by
          rw [List.length_take, hdrop]
          omega
        refine .ite (fun _ => ?_) (fun h => absurd (by simp; omega) h)
        simp only [Int.toNat_natCast]
        by_cases hall : buf.length - done ≤ accepted
        · -- the frame is closed
          rw [Nat.min_eq_right hall] at hk ⊢
          obtain ⟨fuel, rfl⟩ : ∃ k, fuel = k + 1 := ⟨fuel - 1, by omega⟩
          unfold writeExactLoop
          refine .ite (fun _ => .pure (.part hneed ha haccepted ⟨rfl, fun _ => ?_, fun _ => ?_⟩))
            (fun h => absurd (by omega) h)
          · rw [Nat.sub_eq_zero_of_le hall]
            exact .whole
          · exact hopen.closed hk
        · rw [Nat.min_eq_left (by omega)] at hk ⊢
          have hopen₁ := hopen.accept ((buf.drop done).take accepted) (by omega)
          rw [hk, Nat.sub_sub] at hopen₁
          have hrest := ih (done + accepted) tries none (w := w.accept _) hrun (by omega) htries
            hopen₁ (by omega)
          refine hrest.mono fun _ w' h => ?_
          rw [← Nat.sub_sub] at h
          exact .part hneed ha haccepted h

/-- `realign_with_silence` on an open frame. -/
theorem realignWithSilence_repairs (n : Native) (hrun : w.state = .running) (hf : w.Framed)
    (hopen : w.frameOff ≠ 0) :
    Runs (realignWithSilence n) w fun _ w' => Repaired n w (w.stride - w.frameOff) 0 w' := by
  have hframe := w.frame_lt
  have hstride := hf.stride
  have hstride' : w.stride ≤ 4096 := hstride
  have hlen : ((w.silencePattern.fillAt w.frameOff (w.stride - w.frameOff)).map
      Cell.silence).length = w.stride - w.frameOff := by
    rw [List.length_map, SilencePattern.length_fillAt]
  unfold realignWithSilence
  refine .get (.ite (fun _ => .require (by omega) ?_) (fun h => absurd hopen h))
  unfold writeExact
  rw [hlen, Nat.mod_eq_of_lt (by omega)]
  have hloop := writeExactLoop_repairs (n := n) (w := w) (by rw [hlen]; omega)
    (w.stride - w.frameOff + 102) 0 0 none hrun (by rw [hlen]; omega) (Nat.zero_le _)
    ⟨by omega, by rw [hlen]; omega⟩ (by rw [hlen]; omega)
  rw [hlen] at hloop
  refine .bind_of hloop ?_
  intro r w₁ h
  exact .get (.ite (fun _ => .pure h) (fun _ => .pure h))

/-- `end_buffer_sequence` leaves the frame closed if and only if the device lets
the sequence end. -/
theorem endBufferSequence_closes (n : Native) (hf : w.Framed) :
    Runs (endBufferSequence n) w fun _ w' => w'.frameOff = 0 ↔ SequenceEnds n w := by
  unfold endBufferSequence
  refine .get (.ite (fun h => .pure ?_) (fun hopen => .ite (fun hn => .modify (.pure ?_))
    (fun hr => ?_)))
  · exact ⟨fun _ => .inl h, fun _ => h⟩
  · exact ⟨fun _ => .inr (.inl hn), fun _ => rfl⟩
  have hrun : w.state = .running := by simpa using hr
  -- what `suspend` makes of a frame that the repair left open
  have hsuspend : ∀ {w₁ : DspWriter}, w₁.triggers = w.triggers → w₁.state = .running →
      w₁.frameOff ≠ 0 → (w.pauseShadowed = false →
        ¬ TailAccepted n w.needsTrigger w.ops.length (w.stride - w.frameOff) 0) →
      Runs (suspend n) w₁ fun _ w' => w'.frameOff = 0 ↔ SequenceEnds n w := by
    intro w₁ htg hrun₁ hoff htail
    refine (suspend_ends n w₁).mono ?_
    intro ok w' h
    cases h with
    | idle hn => exact absurd hrun₁ hn
    | reset _ ht he =>
      rw [htg] at ht
      exact ⟨fun _ => .inr (.inr (.inr ht)), fun _ => he.phase⟩
    | refused _ ht hk =>
      rw [htg] at ht
      refine ⟨fun h0 => absurd (hk.phase ▸ h0) hoff, ?_⟩
      rintro (h0 | hn | ⟨hs, ha⟩ | ht')
      · exact absurd h0 hopen
      · exact absurd hrun hn
      · exact absurd ha (htail hs)
      · rw [ht] at ht'
        cases ht'
  refine .ite (fun hs => ?_) (fun hs => ?_)
  · exact hsuspend rfl hrun hopen (fun h => by rw [h] at hs; cases hs)
  · have hs : w.pauseShadowed = false := by simpa using hs
    refine .bind_of ((realignWithSilence_runs n hrun hf).and
      (realignWithSilence_repairs n hrun hf hopen)) ?_
    rintro r w₁ ⟨⟨hfill, hok⟩, htg, hiff⟩
    split
    · have hzero := hok.mp rfl
      exact .pure ⟨fun _ => .inr (.inr (.inl ⟨hs, hiff.mp hzero⟩)), fun _ => hzero⟩
    · have hoff : w₁.frameOff ≠ 0 := fun h0 => nomatch hok.mpr h0
      exact hsuspend htg ((hfill.quiet (by simp [hrun])).running hrun) hoff
        (fun _ ha => hoff (hiff.mpr ha))

end DspWriter

/-! ## Where buffers begin -/

/-- Each buffer in the ring begins on a frame boundary. -/
def StartsAligned (w : DspWriter) : Prop :=
  ∀ i c serial, w.ring[i]? = some c → c.origin = some ⟨serial, 0⟩ → i % w.stride = 0

namespace StartsAligned
variable {w w' : DspWriter}

theorem of_nil (h : w.ring = []) : StartsAligned w := by
  intro i c serial hc
  rw [h, List.getElem?_nil] at hc
  cases hc

theorem of_append {cells : List Cell} (h : StartsAligned w) (hring : w'.ring = w.ring ++ cells)
    (hstride : w'.stride = w.stride)
    (hcells : ∀ j c serial, cells[j]? = some c → c.origin = some ⟨serial, 0⟩ →
      (w.ring.length + j) % w.stride = 0) : StartsAligned w' := by
  intro i c serial hc ho
  rw [hring] at hc
  rw [hstride]
  rcases Nat.lt_or_ge i w.ring.length with hlt | hge
  · rw [List.getElem?_append_left hlt] at hc
    exact h i c serial hc ho
  · rw [List.getElem?_append_right hge] at hc
    have hi := hcells _ c serial hc ho
    rwa [Nat.add_sub_cancel' hge] at hi

theorem of_silent {cells : List Cell} (h : StartsAligned w) (hs : Silent cells)
    (hring : w'.ring = w.ring ++ cells) (hstride : w'.stride = w.stride) : StartsAligned w' := by
  refine h.of_append hring hstride ?_
  intro j c serial hc ho
  rw [hs c (List.mem_of_getElem? hc)] at ho
  cases ho

theorem of_quiet (h : StartsAligned w) (hq : Quiet w w') : StartsAligned w' := by
  obtain ⟨cells, hs, hring, -⟩ := hq.ring
  exact h.of_silent hs hring hq.stride

/-- Only the first byte of a buffer is a beginning, and it goes to the end of the ring. -/
theorem of_wrote {b : HostBuffer} {taken k a : Nat} (h : StartsAligned w) (ha : w.Aligned)
    (hfirst : taken = 0 → w.frameOff = 0)
    (hw : Wrote ((b.cells.drop taken).take k) a w w') : StartsAligned w' := by
  refine h.of_append hw.ring hw.stride ?_
  intro j c serial hc ho
  rw [List.getElem?_take] at hc
  split at hc
  · rw [List.getElem?_drop] at hc
    have hindex := ho.symm.trans (HostBuffer.origin_of_getElem? hc)
    simp only [Option.some.injEq, Origin.mk.injEq] at hindex
    have hj : taken = 0 ∧ j = 0 := by omega
    calc (w.ring.length + j) % w.stride
        = w.ring.length % w.stride := by rw [hj.2, Nat.add_zero]
      _ = w.frameOff := ha.symm
      _ = 0 := hfirst hj.1
  · cases hc

end StartsAligned

namespace Session

/-- The device closes the frame: when a buffer is let go, and when it takes silence. -/
def EndsFrames (s : Session) : Event → Prop
  | .release => SequenceEnds s.kernel s.dsp
  | .silence count => FillWhole s.kernel count s.dsp
  | _ => True

/-- No frame is open between two buffers. -/
structure Bounded (s : Session) : Prop where
  starts : StartsAligned s.dsp
  boundary : s.taken = 0 → s.dsp.frameOff = 0

namespace Bounded
variable {s s' : Session} {d : DspWriter}

theorem settle_emptied (he : Emptied s.dsp d) : (s.settle d).Bounded :=
  ⟨.of_nil he.ring, fun _ => he.phase⟩

/-- A stopped device has an empty ring, and so a frame phase of 0. -/
theorem settle_kept (h : s.Bounded) (hc : s.Coherent) (hk : Kept s.dsp d) :
    (s.settle d).Bounded := by
  refine ⟨h.starts.of_quiet hk.quiet, ?_⟩
  unfold settle
  intro ht
  have hs : s.taken = 0 := by
    by_cases hr : d.state = .running
    · rwa [if_pos hr] at ht
    · exact hc.taken_of_stopped (by rwa [← hk.state])
  exact hk.phase.trans (h.boundary hs)

theorem moved {e : Event} (h : s.Bounded) (hc : s.Coherent) (he : s.EndsFrames e)
    (hs : Moved s e s') : s'.Bounded := by
  cases hs with
  | present b => exact ⟨h.starts, h.boundary⟩
  | write hb ho hk hw =>
    refine ⟨h.starts.of_wrote hc.device.aligned h.boundary hw, ?_⟩
    intro ht
    obtain ⟨ht, rfl⟩ := Nat.eq_zero_of_add_eq_zero ht
    have hphase := hw.phase
    rw [List.take_zero, List.length_nil, Nat.add_zero, h.boundary ht, Nat.zero_mod] at hphase
    exact hphase
  | silence ht hq heq =>
    refine ⟨h.starts.of_quiet hq, fun _ => ?_⟩
    obtain ⟨cells, -, hring, hphase⟩ := hq.ring
    have hwhole := he _ _ heq
    rw [hring, List.length_append, Nat.add_sub_cancel_left, ← hphase] at hwhole
    exact hwhole
  | release hd heq =>
    have hclosed := (DspWriter.endBufferSequence_closes s.kernel hc.device.framed).elim heq
    refine ⟨?_, fun _ => hclosed.mpr he⟩
    rcases hd with hq | hemptied
    · exact h.starts.of_quiet hq
    · exact .of_nil hemptied.ring
  | kept hk => exact h.settle_kept hc hk
  | emptied hemptied => exact settle_emptied hemptied
  | adjust => exact ⟨h.starts, h.boundary⟩
  | replace _ hf => exact ⟨.of_nil hf.ring, fun _ => hf.phase⟩

end Bounded

theorem bounded {s : Session} (h : Via system EndsFrames s) : s.Bounded := by
  have hI : Inductive system EndsFrames fun s => s.Coherent ∧ s.Bounded :=
    { init := fun s h0 => ⟨(coherent_inductive EndsFrames).init s h0, .of_nil h0.1.ring,
        fun _ => h0.1.phase⟩
      step := fun _ _ _ ⟨hc, hb⟩ he hs =>
        have hm := hc.device.moved hs
        ⟨hc.moved hm, hb.moved hc he hm⟩ }
  exact (h.invariant hI).2

end Session

/-- A new buffer sequence starts on a frame boundary wherever the device lets the
old one end. From any device whose frame fits the repair buffer,
`end_buffer_sequence` returns, and it leaves the frame closed if and only if
`SequenceEnds`. Along every session in which each buffer is let go so, and each
silence fill stops on a frame boundary, the first byte of every buffer in the
ring is at frame phase 0. -/
theorem sequence_starts_aligned (n : Native) {w : DspWriter} {s : Session} (hf : w.Framed)
    (h : Via Session.system Session.EndsFrames s) :
    (∃ reset w', DspWriter.endBufferSequence n w = some (reset, w') ∧
      (w'.frameOff = 0 ↔ SequenceEnds n w)) ∧
    StartsAligned s.dsp :=
  ⟨DspWriter.endBufferSequence_closes n hf, (Session.bounded h).starts⟩

/-- A device set up for two 16-bit channels. -/
def stereoDevice : DspWriter :=
  { DspWriter.new 0 with
    state := .setup
    stride := 4
    silencePattern := .zero 4
    stride_pos := DspWriter.stereo_pos
    stride_lt := DspWriter.stereo_lt
    frame_lt := by decide }

/-- A kernel that answers write(2) by `answers`, and grants SETTRIGGER or not. -/
def answering (answers : Nat → Except Errno Nat) (trigger : Bool) : Native where
  open_ _ := .ok ()
  write := answers
  trigger _ := trigger
  silence _ := .ok ()
  skip _ := .ok ()
  odelay _ := .ok 0

/-- The `serial`-th buffer, of one frame. -/
def frameBuffer (serial : Nat) : HostBuffer := ⟨serial, 0, [1, 2, 3, 4], by decide⟩

/-- The ring is full inside the first frame, for 202 attempts. -/
def fullRing (calls : Nat) : Except Errno Nat :=
  if calls = 0 then .ok 2 else if calls ≤ 202 then .error .eagain else .ok 4

def handoverSession (trigger : Bool) : Session :=
  ⟨answering fullRing trigger, stereoDevice, none, 0, []⟩

theorem handover_init (trigger : Bool) : Session.system.init (handoverSession trigger) :=
  ⟨⟨nofun, rfl, rfl, (by decide : 4 ≤ 4096), (by decide : 4 ≤ 4096)⟩, rfl, rfl, rfl⟩

/-- A buffer is let go after one `write`, and the next one is written. -/
def handover : List Session.Event :=
  [.present (frameBuffer 0), .write, .release, .present (frameBuffer 1), .write]

/-- Every buffer is let go on a device that can reset its ring. -/
def grantsReset (s : Session) : Session.Event → Bool
  | .release => s.kernel.trigger s.dsp.triggers
  | .silence _ => false
  | _ => true

/-- The ring stays full while `end_buffer_sequence` repairs the frame, and the
driver resets it. -/
theorem sequence_starts_aligned_reset :
    ∃ s, Session.system.runTested grantsReset (handoverSession true) handover = some s ∧
      s.dsp.ring.length = 4 ∧ StartsAligned s.dsp := by
  have hf : stereoDevice.Framed := by decide
  have hrun : (Session.system.runTested grantsReset (handoverSession true) handover).map
      (fun s => s.dsp.ring.length) = some 4 := by
    decide +kernel
  obtain ⟨s, hs, hlen⟩ := Option.map_eq_some_iff.mp hrun
  have h : Via Session.system Session.EndsFrames s := by
    refine (via_of_runTested handover (.init (handover_init true)) hs).mono ?_
    intro t e he
    cases e with
    | release => exact .inr (.inr (.inr he))
    | silence count => cases he
    | _ => trivial
  exact ⟨s, hs, hlen, (sequence_starts_aligned s.kernel hf h).2⟩

/-- The ring stays full while `end_buffer_sequence` repairs the frame, and the
driver refuses the reset: the next buffer begins inside the open frame. -/
theorem sequence_starts_torn :
    ∃ s, Session.system.run (handoverSession false) handover = some s ∧
      Reachable Session.system s ∧ ¬ StartsAligned s.dsp := by
  have hrun : (Session.system.run (handoverSession false) handover).map
      (fun s => (s.dsp.ring[2]?.map Cell.origin, s.dsp.stride)) =
        some (some (some ⟨1, 0⟩), 4) := by
    decide +kernel
  obtain ⟨s, hs, hview⟩ := Option.map_eq_some_iff.mp hrun
  simp only [Prod.mk.injEq, Option.map_eq_some_iff] at hview
  obtain ⟨⟨c, hc, ho⟩, hstride⟩ := hview
  refine ⟨s, hs, via_of_run handover (.init (handover_init _)) (fun _ _ _ => trivial) hs, ?_⟩
  intro hstarts
  have hphase := hstarts 2 c 1 hc ho
  rw [hstride] at hphase
  cases hphase

end PwOss.Oss
