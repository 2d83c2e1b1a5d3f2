import PwOss.Oss.Dsp

/-
  The playback byte stream.

  `Wrote cells attempts w w'` says what every write procedure does to the device:
  it appends `cells` to the ring, moves the frame phase by as many bytes and makes
  at most `attempts` native calls. Each write procedure is shown to end so, from
  any open device and for any answers of the kernel. A caller that presents its
  buffers and keeps each unaccepted suffix (`present`) hands the device exactly
  the concatenation of its buffers.
-/

namespace PwOss.Oss

open PwOss.Backend PwOss.Sys PwOss.Proc

/-- The device took `cells`, in at most `attempts` native calls. -/
structure Wrote (cells : List Cell) (attempts : Nat) (w w' : DspWriter) : Prop where
  ring : w'.ring = w.ring ++ cells
  phase : w'.frameOff = (w.frameOff + cells.length) % w.stride
  stride : w'.stride = w.stride
  pattern : w'.silencePattern = w.silencePattern
  state : w'.state = w.start.state
  shadow : w'.pauseShadowed = w.pauseShadowed
  trigger : w'.needsTrigger = true → w.needsTrigger = true
  calls : ∃ ops, w'.ops = w.ops ++ ops ∧ ops.length ≤ attempts

namespace Wrote
variable {cells cells' : List Cell} {a b : Nat} {w w' w'' : DspWriter}

theorem refl (w : DspWriter) : Wrote [] 0 w w.start := by
  have hphase := Nat.mod_eq_of_lt w.frame_lt
  unfold DspWriter.start
  split
  · next h =>
    exact ⟨by simp, by simp [hphase], rfl, rfl, by simp [DspWriter.start, h], rfl, id, [], by simp⟩
  · next h =>
    exact ⟨by simp, by simp [hphase], rfl, rfl, by simp [DspWriter.start, h], rfl, id, [], by simp⟩

/-- A running device that nobody touches. -/
theorem idle (h : w.state = .running) : Wrote [] 0 w w := by
  have hr := refl w
  rwa [DspWriter.start, if_neg (by simp [h])] at hr

theorem mono (h : Wrote cells a w w') (hab : a ≤ b) : Wrote cells b w w' := by
  obtain ⟨ops, heq, hle⟩ := h.calls
  exact { h with calls := ⟨ops, heq, Nat.le_trans hle hab⟩ }

/-- Two writes in a row are one write. -/
theorem trans (h : Wrote cells a w w') (h' : Wrote cells' b w' w'') :
    Wrote (cells ++ cells') (a + b) w w'' := by
  obtain ⟨ops, heq, hle⟩ := h.calls
  obtain ⟨ops', heq', hle'⟩ := h'.calls
  refine ⟨?_, ?_, h'.stride.trans h.stride, h'.pattern.trans h.pattern, ?_,
    h'.shadow.trans h.shadow, fun ht => h.trigger (h'.trigger ht), ops ++ ops', ?_, ?_⟩
  · rw [h'.ring, h.ring, List.append_assoc]
  · rw [h'.phase, h.phase, h.stride, List.length_append, Nat.mod_add_mod, Nat.add_assoc]
  · rw [h'.state, DspWriter.start, h.state]
    split
    · next hs =>
      unfold DspWriter.start at hs
      split at hs
      · cases hs
      · next hne => exact absurd hs hne
    · exact h.state
  · rw [heq', heq, List.append_assoc]
  · rw [List.length_append]
    omega

/-- An open device is running once it was written. -/
theorem running (h : Wrote cells a w w') (ho : w.state ≠ .closed) : w'.state = .running := by
  rw [h.state]
  unfold DspWriter.start
  split
  · rfl
  · next hs =>
    cases hw : w.state with
    | closed => exact absurd hw ho
    | setup => exact absurd hw hs
    | running => rfl

theorem isOpen (h : Wrote cells a w w') (ho : w.state ≠ .closed) : w'.state ≠ .closed := by
  rw [h.running ho]
  decide

/-- The phase of a write that stays in the open frame. -/
theorem phase_within (h : Wrote cells a w w') (hc : w.frameOff + cells.length < w.stride) :
    w'.frameOff = w.frameOff + cells.length := by
  rw [h.phase, Nat.mod_eq_of_lt hc]

theorem phase_complete (h : Wrote cells a w w') (hc : w.frameOff + cells.length = w.stride) :
    w'.frameOff = 0 := by
  rw [h.phase, hc, Nat.mod_self]

end Wrote

namespace DspWriter
variable {n : Native} {buf : List Cell} {w : DspWriter}

/-! ## The native write -/

theorem accept_wrote (cells : List Cell) (ho : w.state ≠ .closed) :
    Wrote cells 1 w (w.start.accept cells) := by
  have h := Wrote.refl w
  have hs := h.running ho
  refine ⟨?_, ?_, h.stride, h.pattern, rfl, h.shadow, h.trigger, [.write cells], ?_, by simp⟩
  · show w.start.ring ++ cells = _
    rw [h.ring, List.append_nil]
  · show (w.start.frameOff + cells.length) % max w.start.stride 1 = _
    rw [Nat.max_eq_left w.start.stride_pos, h.stride, h.phase]
    simp
  · obtain ⟨ops, heq, hle⟩ := h.calls
    have hnil := List.eq_nil_of_length_eq_zero (Nat.le_zero.mp hle)
    show w.start.ops ++ _ = _
    rw [heq, hnil, List.append_nil]

theorem called_wrote (op : NativeOp) : Wrote [] 1 w (w.start.called op) := by
  have h := Wrote.refl w
  obtain ⟨ops, heq, hle⟩ := h.calls
  have hnil := List.eq_nil_of_length_eq_zero (Nat.le_zero.mp hle)
  refine ⟨h.ring, h.phase, h.stride, h.pattern, h.state, h.shadow, h.trigger, [op], ?_, by simp⟩
  show w.start.ops ++ _ = _
  rw [heq, hnil, List.append_nil]

/-- One write(2) accepts a prefix, or fails and accepts nothing. -/
theorem writeBuffered_runs (ho : w.state ≠ .closed)
    (hfit : w.frameOff + buf.length % 2 ^ 32 < 2 ^ 32) :
    Runs (writeBuffered n buf) w fun r w' =>
      ∃ k, k ≤ buf.length % 2 ^ 32 ∧ Wrote (buf.take k) 1 w w' ∧
        (r = ⟨k, none⟩ ∨ k = 0 ∧ ∃ e, r = ⟨-1, some e⟩) := by
  have hrun := (Wrote.refl w).running ho
  have hoff : w.start.frameOff = w.frameOff := by
    unfold start
    split <;> rfl
  unfold writeBuffered
  refine .modify (.get (.require hrun ?_))
  split
  · next accepted _ =>
    have hle : min accepted (buf.length % 2 ^ 32) ≤ buf.length % 2 ^ 32 := Nat.min_le_right ..
    refine .require (by omega) (.modify (.pure ⟨_, hle, accept_wrote _ ho, .inl rfl⟩))
  · next error _ =>
    refine .modify (.pure ⟨0, Nat.zero_le _, ?_, .inr ⟨rfl, error, rfl⟩⟩)
    simpa using called_wrote (.write [])

/-! ## Completing a frame -/

/-- From a running device, the loop ends with the bytes it was given or with the
error that stopped it, the prefix it accepted in the ring. -/
theorem writeExactLoop_runs (_ : buf.length < 2 ^ 32) :
    ∀ (fuel done tries : Nat) (error : Option Errno) {w : DspWriter}, w.state = .running →
      done ≤ buf.length → tries ≤ 100 → w.frameOff + (buf.length - done) ≤ w.stride →
      (buf.length - done) + (101 - tries) < fuel →
      Runs (writeExactLoop n buf buf.length fuel done tries error) w fun r w' =>
        ∃ k, done + k ≤ buf.length ∧ r.bytes = (done + k : Nat) ∧
          Wrote ((buf.drop done).take k) ((buf.length - done) + (101 - tries)) w w' := by
  intro fuel
  induction fuel with
  | zero => intro done tries error w _ _ _ _ hfuel; omega
  | succ fuel ih =>
    intro done tries error w hrun hdone htries hfit hfuel
    have hstride := w.stride_lt
    have hrest : (buf.drop done).length % 2 ^ 32 = buf.length - done := by
      rw [List.length_drop, Nat.mod_eq_of_lt (by omega)]
    unfold writeExactLoop
    refine .ite (fun hge => .pure ⟨0, by omega, rfl, ?_⟩) (fun hlt => ?_)
    · exact (Wrote.idle hrun).mono (Nat.zero_le _)
    refine .bind_of (writeBuffered_runs (by simp [hrun]) (by rw [hrest]; omega)) ?_
    intro r w₁ ⟨k, hk, hw, hr⟩
    rw [hrest] at hk
    have hlenk : ((buf.drop done).take k).length = k := by
      rw [List.length_take, List.length_drop]
      omega
    have hrun₁ := hw.running (by simp [hrun])
    refine .ite (fun hpos => ?_) (fun hneg => ?_)
    · obtain ⟨rfl, hbytes⟩ : r = ⟨k, none⟩ ∧ 0 < k := by
        rcases hr with rfl | ⟨-, e, rfl⟩
        · exact ⟨rfl, by simpa using hpos⟩
        · simp at hpos
      have hfit₁ : w₁.frameOff + (buf.length - (done + k)) ≤ w₁.stride := by
        rw [hw.stride]
        rcases Nat.lt_or_ge (w.frameOff + k) w.stride with hin | hout
        · rw [hw.phase_within (by rw [hlenk]; exact hin), hlenk]
          omega
        · rw [hw.phase_complete (by rw [hlenk]; omega)]
          omega
      refine (ih (done + k) tries none hrun₁ (by omega) htries hfit₁ (by omega)).mono ?_
      rintro r' w₂ ⟨k', hk', hr', hw'⟩
      refine ⟨k + k', by omega, by rw [hr', Nat.add_assoc], ?_⟩
      rw [List.take_add, List.drop_drop]
      exact (hw.trans hw').mono (by omega)
    · have hzero : k = 0 := by
        rcases hr with rfl | ⟨hz, -⟩
        · simpa using hneg
        · exact hz
      subst hzero
      have hstop : ∀ e, Runs (pure (exactResult buf.length done e)) w₁ fun r w' =>
          ∃ k, done + k ≤ buf.length ∧ r.bytes = (done + k : Nat) ∧
            Wrote ((buf.drop done).take k) ((buf.length - done) + (101 - tries)) w w' :=
        fun e => .pure ⟨0, by omega, rfl, hw.mono (by omega)⟩
      refine .get (.ite (fun _ => hstop _) (fun _ => .ite (fun _ => hstop _) (fun hmore => ?_)))
      have hfit₁ : w₁.frameOff + (buf.length - done) ≤ w₁.stride := by
        have hphase := hw.phase
        simp only [List.take_zero, List.length_nil, Nat.add_zero,
          Nat.mod_eq_of_lt w.frame_lt] at hphase
        rw [hphase, hw.stride]
        exact hfit
      refine (ih done (tries + 1) _ hrun₁ hdone (by omega) hfit₁ (by omega)).mono ?_
      rintro r' w₂ ⟨k', hk', hr', hw'⟩
      exact ⟨k', hk', hr', (hw.trans hw').mono (by omega)⟩

/-- `write_exact` on a slice that stays in the open frame. -/
theorem writeExact_runs (hrun : w.state = .running) (hfit : w.frameOff + buf.length ≤ w.stride) :
    Runs (writeExact n buf) w fun r w' =>
      ∃ k, k ≤ buf.length ∧ r.bytes = (k : Nat) ∧
        Wrote (buf.take k) (buf.length + 101) w w' := by
  have hlen : buf.length < 2 ^ 32 := by
    have := w.stride_lt
    omega
  unfold writeExact
  rw [Nat.mod_eq_of_lt hlen]
  refine (writeExactLoop_runs hlen _ 0 0 none hrun (Nat.zero_le _) (Nat.zero_le _)
    (by omega) (by omega)).mono ?_
  rintro r w' ⟨k, hk, hr, hw⟩
  exact ⟨k, by omega, by simpa using hr, by simpa using hw⟩

/-! ## The phases of a write -/

/-- The device took what `p` counts beyond `done` of `buf`. -/
def Advanced (buf : List Cell) (done attempts : Nat) (w : DspWriter) (p : Progress)
    (w' : DspWriter) : Prop :=
  ∃ k, p.done = done + k ∧ done + k ≤ buf.length % 2 ^ 32 ∧
    Wrote ((buf.drop done).take k) attempts w w'

theorem finishFrame_runs (hrun : w.state = .running) :
    Runs (finishFrame n buf (buf.length % 2 ^ 32)) w fun p w' =>
      Advanced buf 0 (w.stride + 101) w p w' ∧
        (p.frameComplete = true → p.done < buf.length % 2 ^ 32 → w'.frameOff = 0) := by
  have hmod : buf.length % 2 ^ 32 ≤ buf.length := Nat.mod_le _ _
  have hframe := w.frame_lt
  unfold finishFrame
  refine .get (.ite (fun hopen => ?_) (fun hclosed => .pure ⟨?_, fun _ hlt => ?_⟩))
  · have htake : (buf.take (min (w.stride - w.frameOff) (buf.length % 2 ^ 32))).length =
        min (w.stride - w.frameOff) (buf.length % 2 ^ 32) := by
      rw [List.length_take]
      omega
    refine .bind_of (writeExact_runs hrun (by rw [htake]; omega)) ?_
    intro r w₁ ⟨k, hk, hr, hw⟩
    rw [htake] at hk hw
    have hadv : ∀ e c, Advanced buf 0 (w.stride + 101) w ⟨r.bytes.toNat, e, c⟩ w₁ := by
      intro e c
      refine ⟨k, by simp [hr], by omega, ?_⟩
      rw [List.take_take, Nat.min_eq_left hk] at hw
      exact hw.mono (by omega)
    refine .ite (fun hshort => .pure ⟨hadv _ _, by simp⟩) (fun hfull => .pure ⟨hadv _ _, ?_⟩)
    intro _ hlt
    simp only [hr, Int.toNat_natCast] at hfull hlt
    -- the whole tail of the frame was accepted
    have hk' : k = w.stride - w.frameOff := by omega
    refine hw.phase_complete ?_
    rw [List.length_take, htake]
    omega
  · exact ⟨0, rfl, Nat.zero_le _, (Wrote.idle hrun).mono (Nat.zero_le _)⟩
  · show w.frameOff = 0
    have hlt : 0 < buf.length % 2 ^ 32 := hlt
    rcases Nat.eq_zero_or_pos w.frameOff with hzero | hpos
    · exact hzero
    · exact absurd ⟨Nat.pos_iff_ne_zero.mp hpos, Nat.pos_iff_ne_zero.mp hlt⟩ hclosed

theorem writeBulk_runs {done : Nat} (hrun : w.state = .running) (hoff : w.frameOff = 0)
    (hdone : done < buf.length % 2 ^ 32) :
    Runs (writeBulk n buf (buf.length % 2 ^ 32) done) w fun p w' =>
      Advanced buf done (w.stride + 102) w p w' := by
  have hmod : buf.length % 2 ^ 32 ≤ buf.length := Nat.mod_le _ _
  have hlt : buf.length % 2 ^ 32 < 2 ^ 32 := Nat.mod_lt _ (by decide)
  have hrest : (buf.drop done).length % 2 ^ 32 = buf.length % 2 ^ 32 - done := by
    rw [List.length_drop]
    omega
  unfold writeBulk
  refine .bind_of (writeBuffered_runs (by simp [hrun]) (by rw [hrest, hoff]; omega)) ?_
  intro r w₁ ⟨k, hk, hw, hr⟩
  rw [hrest] at hk
  have hrun₁ := hw.running (by simp [hrun])
  refine .ite (fun hnone => .pure ?_) (fun hsome => ?_)
  · have hzero : k = 0 := by
      rcases hr with rfl | ⟨hz, -⟩
      · simpa using hnone
      · exact hz
    subst hzero
    exact ⟨0, rfl, by omega, hw.mono (by omega)⟩
  obtain rfl : r = ⟨k, none⟩ := by
    rcases hr with h | ⟨-, e, rfl⟩
    · exact h
    · simp at hsome
  simp only [Int.toNat_natCast]
  refine .get (.ite (fun hopen => ?_) (fun _ => .pure ⟨k, rfl, by omega, hw.mono (by omega)⟩))
  have hframe := w₁.frame_lt
  have htake : ((buf.drop (done + k)).take
      (min (w₁.stride - w₁.frameOff) (buf.length % 2 ^ 32 - (done + k)))).length =
        min (w₁.stride - w₁.frameOff) (buf.length % 2 ^ 32 - (done + k)) := by
    rw [List.length_take, List.length_drop]
    omega
  refine .bind_of (writeExact_runs hrun₁ (by rw [htake]; omega)) ?_
  intro r' w₂ ⟨k', hk', hr', hw'⟩
  rw [htake] at hk' hw'
  have hadv : ∀ e, Advanced buf done (w.stride + 102) w
      ⟨done + k + r'.bytes.toNat, e, true⟩ w₂ := by
    intro e
    refine ⟨k + k', by simp [hr', Nat.add_assoc], by omega, ?_⟩
    rw [List.take_take, Nat.min_eq_left hk'] at hw'
    rw [List.take_add, List.drop_drop]
    have hstride := hw.stride
    exact (hw.trans hw').mono (by omega)
  exact .ite (fun _ => .pure (hadv _)) (fun _ => .pure (hadv _))

/-- A call that writes nothing. -/
theorem wrote_of_ring {w' : DspWriter} (ops : List NativeOp) (hrun : w.state = .running)
    (hring : w'.ring = w.ring) (hphase : w'.frameOff = w.frameOff) (hstride : w'.stride = w.stride)
    (hpattern : w'.silencePattern = w.silencePattern) (hstate : w'.state = .running)
    (hshadow : w'.pauseShadowed = w.pauseShadowed) (htrigger : w'.needsTrigger = false)
    (hops : w'.ops = w.ops ++ ops) : Wrote [] ops.length w w' where
  ring := by rw [hring, List.append_nil]
  phase := by rw [hphase, List.length_nil, Nat.add_zero, Nat.mod_eq_of_lt w.frame_lt]
  stride := hstride
  pattern := hpattern
  state := by rw [hstate, start, if_neg (by simp [hrun]), hrun]
  shadow := hshadow
  trigger := by simp [htrigger]
  calls := ⟨ops, hops, Nat.le_refl _⟩

theorem arm_runs (hrun : w.state = .running) :
    Runs (arm n) w fun _ w' => Wrote [] 1 w w' ∧ w'.needsTrigger = false := by
  unfold arm
  refine .get (.ite (fun _ => .modify ?_) (fun hoff => .pure ⟨?_, ?_⟩))
  · unfold setTrigger
    refine .bind (.get (.ite (fun _ => .modify (.pure (.pure ⟨?_, rfl⟩))) (fun h => absurd rfl h)))
    exact (wrote_of_ring [_] hrun rfl rfl rfl rfl hrun rfl rfl rfl)
  · exact (Wrote.idle hrun).mono (Nat.zero_le _)
  · simpa using hoff

/-- `write` takes a prefix of its slice, of the length it reports. -/
theorem write_runs (n : Native) (buf : List Cell) (ho : w.state ≠ .closed) :
    Runs (write n buf) w fun o w' =>
      o.bytes ≤ buf.length % 2 ^ 32 ∧ w'.needsTrigger = false ∧
        Wrote (buf.take o.bytes) (2 * w.stride + 204) w w' := by
  have hstart := Wrote.refl w
  have hrun := hstart.running ho
  have hstride := hstart.stride
  unfold write
  refine .modify (.bind_of (finishFrame_runs hrun) ?_)
  intro p w₁ ⟨⟨k, hp, hk, hw⟩, hboundary⟩
  simp only [Nat.zero_add, List.drop_zero] at hp hk hw
  have hw₁ := hstart.trans hw
  have hrun₁ := hw₁.running ho
  -- the bulk write goes on where the first phase stopped
  have hbulk : Runs
      (if p.frameComplete = true ∧ p.done < buf.length % 2 ^ 32 then
        writeBulk n buf (buf.length % 2 ^ 32) p.done else pure p) w₁
      fun q w₂ => q.done ≤ buf.length % 2 ^ 32 ∧
        Wrote (buf.take q.done) (2 * w.stride + 203) w w₂ := by
    refine .ite (fun hc => ?_) (fun _ => .pure ⟨by omega, ?_⟩)
    · refine (writeBulk_runs hrun₁ (hboundary hc.1 hc.2) hc.2).mono ?_
      intro q w₂ ⟨k', hq, hk', hw₂⟩
      refine ⟨by omega, ?_⟩
      have hstride₁ := hw₁.stride
      rw [hq, hp, List.take_add]
      rw [hp] at hw₂
      simpa using (hw₁.trans hw₂).mono (by omega)
    · rw [hp]
      simpa using hw₁.mono (by omega)
  refine .bind_of hbulk ?_
  intro q w₂ ⟨hq, hw₂⟩
  refine .bind_of (arm_runs (hw₂.running ho)) ?_
  intro _ w₃ ⟨hw₃, htrigger⟩
  refine .pure ⟨hq, htrigger, ?_⟩
  simpa [outcome] using hw₂.trans hw₃

/-! ## Sequences of writes -/

/-- The frame phase is the length of the ring. -/
def Aligned (w : DspWriter) : Prop := w.frameOff = w.ring.length % w.stride

theorem Aligned.wrote {cells : List Cell} {a : Nat} {w' : DspWriter} (h : w.Aligned)
    (hw : Wrote cells a w w') : w'.Aligned := by
  rw [Aligned, hw.phase, hw.ring, hw.stride, List.length_append, h, Nat.mod_add_mod]

/-- A ring reset restarts the frame phase with the ring. -/
theorem suspend_runs (n : Native) (w : DspWriter) : Runs (suspend n) w fun ok w' =>
    (ok = true → w'.state ≠ .running) ∧ (w.Aligned → w'.Aligned) := by
  unfold suspend
  refine .get (.ite (fun hstop => .pure ⟨fun _ => hstop, id⟩) (fun _ => ?_))
  unfold setTrigger
  refine .bind (.get (.ite (fun h => nomatch h) (fun _ => .ite (fun _ => ?_) (fun _ => ?_))))
  · refine .modify (.pure (.ite (fun _ => .modify (.pure ⟨fun _ => nofun, fun _ => ?_⟩))
      (fun h => absurd rfl h)))
    exact (Nat.zero_mod _).symm
  · refine .modify (.pure (.ite (fun h => nomatch h) (fun _ => .pure ⟨nofun, id⟩)))

/-- Any slices, one `write` each. -/
def writes (n : Native) : List (List Cell) → Proc DspWriter (List Cell)
  | [] => pure []
  | buf :: bufs => do
    let o ← write n buf
    let rest ← writes n bufs
    return buf.take o.bytes ++ rest

/-- The device stream is the accepted prefixes, one after the other. -/
theorem writes_runs (n : Native) : ∀ (bufs : List (List Cell)) {w : DspWriter},
    w.state ≠ .closed → w.Aligned →
    Runs (writes n bufs) w fun accepted w' =>
      w'.state ≠ .closed ∧ w'.Aligned ∧ w'.ring = w.ring ++ accepted
  | [], w, ho, ha => .pure ⟨ho, ha, (List.append_nil _).symm⟩
  | buf :: bufs, w, ho, ha => by
    unfold writes
    refine .bind_of (write_runs _ _ ho) ?_
    intro o w₁ ⟨_, _, hw⟩
    refine .bind_of (writes_runs n bufs (hw.isOpen ho) (ha.wrote hw)) ?_
    intro accepted w₂ ⟨ho₂, ha₂, hring⟩
    exact .pure ⟨ho₂, ha₂, by rw [hring, hw.ring, List.append_assoc]⟩

/-- `calls` calls of `write` by a caller that presents `pending`, then each buffer
of `rest`, and keeps every suffix that was not accepted for the next call. -/
def present (n : Native) : Nat → List Cell → List (List Cell) →
    Proc DspWriter (List Cell × List (List Cell))
  | 0, pending, rest => pure (pending, rest)
  | calls + 1, pending, rest => do
    let o ← write n pending
    match pending.drop o.bytes, rest with
    | [], buf :: rest => present n calls buf rest
    | pending, rest => present n calls pending rest

theorem present_runs (n : Native) : ∀ (calls : Nat) (pending : List Cell)
    (rest : List (List Cell)) {w : DspWriter}, w.state ≠ .closed → w.Aligned →
    Runs (present n calls pending rest) w fun left w' =>
      w'.state ≠ .closed ∧ w'.Aligned ∧
        w'.ring ++ (left.1 ++ left.2.flatten) = w.ring ++ (pending ++ rest.flatten)
  | 0, pending, rest, w, ho, ha => .pure ⟨ho, ha, rfl⟩
  | calls + 1, pending, rest, w, ho, ha => by
    unfold present
    refine .bind_of (write_runs _ _ ho) ?_
    intro o w₁ ⟨_, _, hw⟩
    have ho₁ := hw.isOpen ho
    have ha₁ := ha.wrote hw
    have hsplit := List.take_append_drop o.bytes pending
    split
    · next buf rest' hdrop =>
      refine (present_runs n calls buf rest' ho₁ ha₁).mono ?_
      intro left w' ⟨ho', ha', heq⟩
      refine ⟨ho', ha', ?_⟩
      rw [hdrop, List.append_nil] at hsplit
      rw [heq, hw.ring, hsplit, List.flatten_cons, List.append_assoc]
    · refine (present_runs n calls _ _ ho₁ ha₁).mono ?_
      intro left w' ⟨ho', ha', heq⟩
      refine ⟨ho', ha', ?_⟩
      rw [heq, hw.ring, List.append_assoc]
      congr 1
      rw [← List.append_assoc, hsplit]

end DspWriter

/-- The playback byte stream is exact. From any open device whose frame phase
counts its ring, for any slice and any answers of the kernel, a call of `write`
returns after finitely many native calls; it appends to the ring the prefix of
the slice that it reports, in order, and the frame phase still counts the ring.
So it does along every sequence of calls and ring resets. A caller that presents
its buffers one after the other and keeps each unaccepted suffix loses,
duplicates and reorders no byte: what the device took, followed by what the
caller still holds, is the concatenation of the buffers. -/
theorem playback_stream_exact (n : Native) :
    (∀ (buf : List Cell) (w : DspWriter), w.state ≠ .closed → w.Aligned →
      ∃ o w', DspWriter.write n buf w = some (o, w') ∧
        o.bytes ≤ buf.length ∧ w'.ring = w.ring ++ buf.take o.bytes ∧
        w'.state ≠ .closed ∧ w'.Aligned ∧
        ∃ ops, w'.ops = w.ops ++ ops ∧ ops.length ≤ 2 * w.stride + 204) ∧
    (∀ (bufs : List (List Cell)) (w : DspWriter), w.state ≠ .closed → w.Aligned →
      ∃ accepted w', DspWriter.writes n bufs w = some (accepted, w') ∧
        w'.ring = w.ring ++ accepted ∧ w'.Aligned) ∧
    (∀ w : DspWriter, ∃ ok w', DspWriter.suspend n w = some (ok, w') ∧
      (w.Aligned → w'.Aligned)) ∧
    (∀ (calls : Nat) (buf : List Cell) (bufs : List (List Cell)) (w : DspWriter),
      w.state ≠ .closed → w.Aligned →
      ∃ pending rest w', DspWriter.present n calls buf bufs w = some ((pending, rest), w') ∧
        w'.Aligned ∧ w'.ring ++ (pending ++ rest.flatten) = w.ring ++ (buf :: bufs).flatten) := by
  refine ⟨fun buf w ho ha => ?_, fun bufs w ho ha => ?_, fun w => ?_,
    fun calls buf bufs w ho ha => ?_⟩
  · obtain ⟨o, w', heq, hbytes, -, hw⟩ := DspWriter.write_runs n buf ho
    exact ⟨o, w', heq, Nat.le_trans hbytes (Nat.mod_le _ _), hw.ring, hw.isOpen ho,
      ha.wrote hw, hw.calls⟩
  · obtain ⟨accepted, w', heq, -, ha', hring⟩ := DspWriter.writes_runs n bufs ho ha
    exact ⟨accepted, w', heq, hring, ha'⟩
  · obtain ⟨ok, w', heq, -, ha⟩ := DspWriter.suspend_runs n w
    exact ⟨ok, w', heq, ha⟩
  · obtain ⟨⟨pending, rest⟩, w', heq, -, ha', hstream⟩ :=
      DspWriter.present_runs n calls buf bufs ho ha
    exact ⟨pending, rest, w', heq, ha', by rw [hstream, List.flatten_cons]⟩

/-- A kernel that takes six bytes of a write, and refuses every second call. -/
def sixByteKernel : Native where
  open_ _ := .ok ()
  write call := if call % 2 = 0 then .ok 6 else .error .eagain
  trigger _ := true
  silence _ := .ok ()
  skip _ := .ok ()
  odelay _ := .ok 0

/-- A device in setup, with frames of four bytes. -/
def quadWriter : DspWriter :=
  { DspWriter.new 0 with
    state := .setup, stride := 4
    stride_pos := DspWriter.stereo_pos, stride_lt := DspWriter.stereo_lt
    frame_lt := DspWriter.stereo_pos }

/-- A buffer of ten bytes. -/
def tenBytes (first : Nat) : List Cell :=
  (List.range 10).map fun i => ⟨.ofNat (first + i), none⟩

/-- Two buffers of ten bytes, each of which the kernel tears inside a frame: after four
calls twelve bytes are in the ring, and the caller holds the eight that follow them. -/
theorem playback_stream_exact_torn :
    ∃ pending rest w', DspWriter.present sixByteKernel 4 (tenBytes 0) [tenBytes 10] quadWriter =
        some ((pending, rest), w') ∧
      w'.ring.length = 12 ∧ w'.frameOff = 0 ∧ pending.length = 8 ∧ rest = [] ∧ w'.Aligned ∧
      w'.ring ++ (pending ++ rest.flatten) = tenBytes 0 ++ tenBytes 10 := by
  obtain ⟨pending, rest, w', heq, haligned, hstream⟩ :=
    (playback_stream_exact sixByteKernel).2.2.2 4 (tenBytes 0) [tenBytes 10] quadWriter
      (by decide) (by rfl)
  have hview : (DspWriter.present sixByteKernel 4 (tenBytes 0) [tenBytes 10] quadWriter).map
      (fun r => (r.2.ring.length, r.2.frameOff, r.1.1.length, r.1.2)) = some (12, 0, 8, []) := by
    decide +kernel
  rw [heq, Option.map_some, Option.some.injEq, Prod.mk.injEq, Prod.mk.injEq, Prod.mk.injEq]
    at hview
  obtain ⟨hring, hphase, hpending, hrest⟩ := hview
  refine ⟨pending, rest, w', heq, hring, hphase, hpending, hrest, haligned, ?_⟩
  rw [hstream]
  rfl

end PwOss.Oss
