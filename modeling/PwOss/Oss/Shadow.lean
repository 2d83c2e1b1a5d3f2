import PwOss.Lib.Transition
import PwOss.Oss.Dsp

/-
  Pause shadows: SNDCTL_DSP_SILENCE saves the queued playback, and
  SNDCTL_DSP_SKIP brings it back.

  The log of native calls says which SILENCE a SKIP belongs to (`Stands`). The
  field `pause_shadowed` is kept or dropped by every operation so that a later
  `resume` finds its SILENCE standing (`Shadowing`), whatever the calls in between
  and the kernel's answers to them.

  What is proved:
    * the write paths log writes and triggers only, and leave the field alone
    * `suspend`, `pause`, `resume` and `end_buffer_sequence` keep `Shadowing`
    * every SKIP of a playback device's log has its SILENCE

  Correspondence (Rust ↔ Lean):
    `pause_shadowed`                         ↔ `DspWriter.pauseShadowed`
    the methods of `DspWriter`               ↔ `DspWriter.Call`, `DspWriter.perform`
-/

namespace PwOss.Oss

open PwOss.Backend PwOss.Sys PwOss.Proc PwOss.Transition

/-! ## The log of a device -/

def NativeOp.isSkip : NativeOp → Bool
  | .skip _ => true
  | _ => false

/-- What a write path does: write(2) and SETTRIGGER(PCM_ENABLE_OUTPUT). -/
def NativeOp.feeds : NativeOp → Bool
  | .write _ | .enable _ => true
  | _ => false

/-- A call after which the shadow of an earlier SILENCE is not there to restore; where
nothing may be `quiet`ly appended to it, a write is one. -/
def NativeOp.breaks (quiet : Bool) : NativeOp → Bool
  | .silence _ | .skip _ | .reset true | .close => true
  | .write _ => quiet
  | _ => false

/-- The SILENCE at `i` stands when call `k` is made: it succeeded, a queue reading after it
was not empty, and no SILENCE, SKIP, ring reset or close came since. -/
structure Stands (n : Native) (quiet : Bool) (ops : List NativeOp) (i k : Nat) : Prop where
  saved : ops[i]? = some (.silence true)
  queued : ∃ j d, i < j ∧ j < k ∧ ops[j]? = some .odelay ∧ n.odelay j = .ok d ∧ 0 < d
  since : ∀ j op, i < j → j < k → ops[j]? = some op → op.breaks quiet = false

/-- Every SKIP finds a SILENCE standing. -/
def Paired (n : Native) (quiet : Bool) (ops : List NativeOp) : Prop :=
  ∀ k op, ops[k]? = some op → op.isSkip = true → ∃ i, Stands n quiet ops i k

section Log
variable {n : Native} {quiet : Bool} {ops ops' : List NativeOp} {i k : Nat}

/-- What is logged later changes nothing about a standing SILENCE. -/
theorem Stands.append (h : Stands n quiet ops i k) (hk : k ≤ ops.length)
    (ops' : List NativeOp) : Stands n quiet (ops ++ ops') i k := by
  obtain ⟨j, d, hij, hjk, hj, hd⟩ := h.queued
  refine ⟨?_, ⟨j, d, hij, hjk, ?_, hd⟩, fun j op hij hjk hj => h.since j op hij hjk ?_⟩
  · rw [List.getElem?_append_left (by omega)]
    exact h.saved
  · rwa [List.getElem?_append_left (by omega)]
  · rwa [List.getElem?_append_left (by omega)] at hj

/-- A SILENCE stands on while nothing breaks its shadow. -/
theorem Stands.extend (h : Stands n quiet ops i ops.length)
    (hops : ∀ op ∈ ops', op.breaks quiet = false) :
    Stands n quiet (ops ++ ops') i (ops ++ ops').length := by
  have happ := h.append (Nat.le_refl _) ops'
  obtain ⟨j, d, hij, hjk, hj, hd⟩ := happ.queued
  refine ⟨happ.saved, ⟨j, d, hij, ?_, hj, hd⟩, fun j op hij _ hj => ?_⟩
  · rw [List.length_append]
    omega
  · by_cases hlt : j < ops.length
    · exact happ.since j op hij hlt hj
    · rw [List.getElem?_append_right (by omega)] at hj
      exact hops op (List.mem_of_getElem? hj)

theorem NativeOp.breaks_of_isSkip (quiet : Bool) {op : NativeOp} (h : op.isSkip = true) :
    op.breaks quiet = true := by
  cases op with
  | skip ok => rfl
  | _ => cases h

/-- A SILENCE stands for one SKIP. -/
theorem Stands.unique {k' : Nat} {op op' : NativeOp} (h : Stands n quiet ops i k)
    (h' : Stands n quiet ops i k') (hk : ops[k]? = some op) (hs : op.isSkip = true)
    (hk' : ops[k']? = some op') (hs' : op'.isSkip = true) : k' = k := by
  obtain ⟨j, -, hij, hjk, -⟩ := h.queued
  obtain ⟨j', -, hij', hjk', -⟩ := h'.queued
  have hbreaks := NativeOp.breaks_of_isSkip quiet hs
  have hbreaks' := NativeOp.breaks_of_isSkip quiet hs'
  rcases Nat.lt_trichotomy k' k with hlt | heq | hlt
  · rw [h.since k' op' (by omega) hlt hk'] at hbreaks'
    cases hbreaks'
  · exact heq
  · rw [h'.since k op (by omega) hlt hk] at hbreaks
    cases hbreaks

theorem Paired.append (h : Paired n quiet ops) (hops : ∀ op ∈ ops', op.isSkip = false) :
    Paired n quiet (ops ++ ops') := by
  intro k op hk hs
  by_cases hlt : k < ops.length
  · rw [List.getElem?_append_left hlt] at hk
    obtain ⟨i, hi⟩ := h k op hk hs
    exact ⟨i, hi.append (Nat.le_of_lt hlt) ops'⟩
  · rw [List.getElem?_append_right (by omega)] at hk
    rw [hops op (List.mem_of_getElem? hk)] at hs
    cases hs

/-- A SKIP while a SILENCE stands. -/
theorem Paired.skip (h : Paired n quiet ops) (hi : Stands n quiet ops i ops.length) (ok : Bool) :
    Paired n quiet (ops ++ [.skip ok]) := by
  intro k op hk hs
  by_cases hlt : k < ops.length
  · rw [List.getElem?_append_left hlt] at hk
    obtain ⟨i, hi⟩ := h k op hk hs
    exact ⟨i, hi.append (Nat.le_of_lt hlt) _⟩
  · have hle : k < (ops ++ [NativeOp.skip ok]).length := (List.getElem?_eq_some_iff.mp hk).1
    rw [List.length_append, List.length_singleton] at hle
    have hlast : k = ops.length := by omega
    rw [hlast]
    exact ⟨i, hi.append (Nat.le_refl _) _⟩

end Log

namespace DspWriter
variable {n : Native} {quiet : Bool} {w w' : DspWriter}

/-! ## The pending flag -/

/-- The log pairs its calls, and a pending SKIP has its SILENCE. -/
structure Shadowing (n : Native) (quiet : Bool) (w : DspWriter) : Prop where
  paired : Paired n quiet w.ops
  stands : w.pauseShadowed = true → ∃ i, Stands n quiet w.ops i w.ops.length

/-- Nobody paused or resumed the device yet. -/
structure Unpaused (w : DspWriter) : Prop where
  clear : w.pauseShadowed = false
  log : ∀ op ∈ w.ops, op.isSkip = false

instance (w : DspWriter) : Decidable w.Unpaused :=
  decidable_of_iff (w.pauseShadowed = false ∧ ∀ op ∈ w.ops, op.isSkip = false)
    ⟨fun h => ⟨h.1, h.2⟩, fun h => ⟨h.1, h.2⟩⟩

theorem Unpaused.paired (h : w.Unpaused) : Paired n quiet w.ops := by
  intro k op hk hs
  rw [h.log op (List.mem_of_getElem? hk)] at hs
  cases hs

theorem Unpaused.shadowing (h : w.Unpaused) : Shadowing n quiet w where
  paired := h.paired
  stands := fun hp => absurd hp (by simp [h.clear])

/-- A call without a SKIP that drops the flag. -/
theorem Shadowing.dropped (ops : List NativeOp) (h : Paired n quiet w.ops)
    (ho : w'.ops = w.ops ++ ops) (hops : ∀ op ∈ ops, op.isSkip = false)
    (hf : w'.pauseShadowed = false) : Shadowing n quiet w' where
  paired := ho ▸ h.append hops
  stands := fun hp => absurd hp (by simp [hf])

/-- Calls that break no shadow and keep the flag. -/
theorem Shadowing.kept (h : Shadowing n quiet w) (ops : List NativeOp)
    (ho : w'.ops = w.ops ++ ops) (hops : ∀ op ∈ ops, op.breaks quiet = false)
    (hf : w'.pauseShadowed = w.pauseShadowed) : Shadowing n quiet w' where
  paired := by
    rw [ho]
    refine h.paired.append fun op hop => ?_
    cases hs : op.isSkip with
    | false => rfl
    | true =>
      have hbreaks := hops op hop
      rw [NativeOp.breaks_of_isSkip quiet hs] at hbreaks
      cases hbreaks
  stands := fun hp => by
    obtain ⟨i, hi⟩ := h.stands (hf ▸ hp)
    rw [ho]
    exact ⟨i, hi.extend hops⟩

/-! ## The write paths -/

/-- The log grew by calls of the kind `p`. -/
def Grown (p : NativeOp → Bool) (w w' : DspWriter) : Prop :=
  ∃ ops, w'.ops = w.ops ++ ops ∧ ∀ op ∈ ops, p op = true

namespace Grown
variable {p : NativeOp → Bool}

theorem same (ho : w'.ops = w.ops) : Grown p w w' :=
  ⟨[], by rw [ho, List.append_nil], nofun⟩

theorem one {op : NativeOp} (ho : w'.ops = w.ops ++ [op]) (hop : p op = true) :
    Grown p w w' := by
  refine ⟨[op], ho, fun op' h => ?_⟩
  rw [List.mem_singleton.mp h]
  exact hop

theorem chain : Chain (Grown p) where
  refl := fun _ => same rfl
  trans := by
    intro w w' w'' ⟨ops, ho, hops⟩ ⟨ops', ho', hops'⟩
    refine ⟨ops ++ ops', ?_, fun op hop => ?_⟩
    · rw [ho', ho, List.append_assoc]
    · rcases List.mem_append.mp hop with h | h
      · exact hops op h
      · exact hops' op h

end Grown

/-- The ring geometry that the device keeps is as before. -/
structure Sized (w w' : DspWriter) : Prop where
  buffer : w'.buffer = w.buffer
  delay : w'.playbackDelayEighths = w.playbackDelayEighths
  quantum : w'.deliveryQuantumNs = w.deliveryQuantumNs

theorem Sized.chain : Chain Sized where
  refl := fun _ => ⟨rfl, rfl, rfl⟩
  trans := fun h h' =>
    ⟨h'.buffer.trans h.buffer, h'.delay.trans h.delay, h'.quantum.trans h.quantum⟩

/-- The log grew by write-path calls, and the flag is as before. -/
structure Logged (w w' : DspWriter) : Prop where
  flag : w'.pauseShadowed = w.pauseShadowed
  log : Grown NativeOp.feeds w w'

/-- The write path worked. -/
structure Fed (w w' : DspWriter) : Prop extends Logged w w', Sized w w'

namespace Fed

theorem same (hf : w'.pauseShadowed = w.pauseShadowed) (ho : w'.ops = w.ops)
    (hs : Sized w w') : Fed w w' :=
  { flag := hf, log := .same ho, toSized := hs }

theorem one {op : NativeOp} (hf : w'.pauseShadowed = w.pauseShadowed)
    (ho : w'.ops = w.ops ++ [op]) (hop : op.feeds = true) (hs : Sized w w') : Fed w w' :=
  { flag := hf, log := .one ho hop, toSized := hs }

theorem chain : Chain Fed where
  refl := fun w => same rfl rfl (Sized.chain.refl w)
  trans := fun h h' =>
    { flag := h'.flag.trans h.flag
      log := Grown.chain.trans h.log h'.log
      toSized := Sized.chain.trans h.toSized h'.toSized }

theorem start (w : DspWriter) : Fed w w.start := by
  unfold DspWriter.start
  split
  · exact same rfl rfl ⟨rfl, rfl, rfl⟩
  · exact same rfl rfl ⟨rfl, rfl, rfl⟩

end Fed

/-- The log grew without a SKIP. -/
abbrev Unskipped : DspWriter → DspWriter → Prop := Grown fun op => !op.isSkip

theorem Unskipped.paired (h : Unskipped w w') (hp : Paired n quiet w.ops) :
    Paired n quiet w'.ops := by
  obtain ⟨ops, ho, hops⟩ := h
  rw [ho]
  exact hp.append fun op hop => by simpa using hops op hop

theorem feeds_isSkip {op : NativeOp} (h : op.feeds = true) : op.isSkip = false := by
  cases op <;> first | rfl | cases h

theorem Logged.unskipped (h : Logged w w') : Unskipped w w' := by
  obtain ⟨ops, ho, hops⟩ := h.log
  exact ⟨ops, ho, fun op hop => by simp [feeds_isSkip (hops op hop)]⟩

theorem writeBuffered_moves (n : Native) (buf : List Cell) : Moves Fed (writeBuffered n buf) := by
  unfold writeBuffered
  refine .modify Fed.chain Fed.start (.get fun w => .require ?_)
  split
  · exact .require
      (.modify Fed.chain (fun _ => .one rfl rfl rfl ⟨rfl, rfl, rfl⟩) (.pure Fed.chain _))
  · exact .modify Fed.chain (fun _ => .one rfl rfl rfl ⟨rfl, rfl, rfl⟩) (.pure Fed.chain _)

theorem writeExactLoop_moves (n : Native) (buf : List Cell) (count : Nat) :
    ∀ fuel done tries error, Moves Fed (writeExactLoop n buf count fuel done tries error) := by
  intro fuel
  induction fuel with
  | zero => exact fun _ _ _ => .failure
  | succ fuel ih =>
    intro done tries error
    unfold writeExactLoop
    refine .ite (fun _ => .pure Fed.chain _) fun _ => ?_
    refine .bind Fed.chain (writeBuffered_moves n _) fun attempt => ?_
    refine .ite (fun _ => ih _ _ _) fun _ => .get fun w => ?_
    exact .ite (fun _ => .pure Fed.chain _)
      fun _ => .ite (fun _ => .pure Fed.chain _) fun _ => ih _ _ _

theorem writeExact_moves (n : Native) (buf : List Cell) : Moves Fed (writeExact n buf) :=
  writeExactLoop_moves n buf _ _ _ _ _

theorem finishFrame_moves (n : Native) (buf : List Cell) (count : Nat) :
    Moves Fed (finishFrame n buf count) := by
  unfold finishFrame
  refine .get fun w => .ite (fun _ => ?_) fun _ => .pure Fed.chain _
  refine .bind Fed.chain (writeExact_moves n _) fun tail => ?_
  exact .ite (fun _ => .pure Fed.chain _) fun _ => .pure Fed.chain _

theorem writeBulk_moves (n : Native) (buf : List Cell) (count done : Nat) :
    Moves Fed (writeBulk n buf count done) := by
  unfold writeBulk
  refine .bind Fed.chain (writeBuffered_moves n _) fun first => ?_
  refine .ite (fun _ => .pure Fed.chain _) fun _ => .get fun w => ?_
  refine .ite (fun _ => ?_) fun _ => .pure Fed.chain _
  refine .bind Fed.chain (writeExact_moves n _) fun tail => ?_
  exact .ite (fun _ => .pure Fed.chain _) fun _ => .pure Fed.chain _

theorem arm_moves (n : Native) : Moves Fed (arm n) := by
  unfold arm
  refine .get fun w => .ite (fun _ => ?_) fun _ => .pure Fed.chain _
  refine .modify Fed.chain (fun _ => .same rfl rfl ⟨rfl, rfl, rfl⟩) ?_
  refine .bind Fed.chain ?_ fun _ => .pure Fed.chain _
  unfold setTrigger
  refine .get fun w => .ite (fun _ => ?_) fun h => absurd rfl h
  exact .modify Fed.chain (fun _ => .one rfl rfl rfl ⟨rfl, rfl, rfl⟩) (.pure Fed.chain _)

/-- `write` writes and starts the channel. -/
theorem write_moves (n : Native) (buf : List Cell) : Moves Fed (write n buf) := by
  unfold write
  refine .modify Fed.chain Fed.start (.bind Fed.chain (finishFrame_moves n _ _) fun first => ?_)
  refine .bind Fed.chain (.ite (fun _ => writeBulk_moves n _ _ _) fun _ => .pure Fed.chain _)
    fun last => ?_
  exact .bind Fed.chain (arm_moves n) fun _ => .pure Fed.chain _

theorem realignWithSilence_moves (n : Native) : Moves Fed (realignWithSilence n) := by
  unfold realignWithSilence
  refine .get fun w => .ite (fun _ => .require ?_) fun _ => .pure Fed.chain _
  refine .bind Fed.chain (writeExact_moves n _) fun result => .get fun w => ?_
  exact .ite (fun _ => .pure Fed.chain _) fun _ => .pure Fed.chain _

theorem writeSilenceLoop_moves (n : Native) (available : Nat → List UInt8) :
    ∀ fuel count, Moves Fed (writeSilenceLoop n available fuel count)
  | 0, 0 | _ + 1, 0 => .pure Fed.chain _
  | 0, _ + 1 => .failure
  | fuel + 1, count + 1 => by
    unfold writeSilenceLoop
    refine .get fun w => .bind Fed.chain ?_ fun chunk => ?_
    · unfold alignedSilenceChunk
      exact .get fun w => .ite (fun _ => .require (.pure Fed.chain _))
        fun _ => .pure Fed.chain _
    refine .ite (fun _ => .pure Fed.chain _) fun _ => .require (.bind Fed.chain ?_ ?_)
    · unfold writeSilenceChunk
      refine .bind Fed.chain (writeBuffered_moves n _) fun result => ?_
      exact .ite (fun _ => .pure Fed.chain _) fun _ => .pure Fed.chain _
    · intro written
      cases written with
      | none => exact .pure Fed.chain _
      | some written => exact .require (writeSilenceLoop_moves n available fuel _)

/-- `write_silence` writes. -/
theorem writeSilence_moves (n : Native) (count : Nat) : Moves Fed (writeSilence n count) := by
  unfold writeSilence
  refine .modify Fed.chain Fed.start (.bind Fed.chain (realignWithSilence_moves n) fun r => ?_)
  cases r with
  | error => exact .pure Fed.chain _
  | ok =>
    refine .get fun w => ?_
    have hloop (available : Nat → List UInt8) (count : Nat) :=
      writeSilenceLoop_moves n available count count
    dsimp only
    split
    · exact hloop _ _
    · exact hloop _ _
    · exact hloop _ _
    · exact hloop _ _
    · exact .get fun w => hloop _ _

/-- `prime_buffer` fills silence. -/
theorem primeBuffer_moves (n : Native) (request : PlaybackBufferRequest) (granted : Nat × Nat)
    (delayEighths : Nat) : Moves Logged (primeBuffer n request granted delayEighths) := by
  have hchain : Chain Logged :=
    ⟨fun _ => ⟨rfl, .same rfl⟩, fun h h' => ⟨h'.flag.trans h.flag, Grown.chain.trans h.log h'.log⟩⟩
  have hfill (count : Nat) : Moves Logged (writeSilence n count) :=
    (writeSilence_moves n count).mono fun _ _ => Fed.toLogged
  unfold primeBuffer
  refine .get fun w => .require (.modify hchain (fun _ => ⟨rfl, .same rfl⟩) ?_)
  exact .bind hchain (hfill _) fun _ => .pure hchain _

/-! ## Pause, resume and the ring resets -/

theorem feeds_breaks {op : NativeOp} (h : op.feeds = true) : op.breaks false = false := by
  cases op <;> first | rfl | cases h

theorem Shadowing.logged (h : Shadowing n false w) (hf : Logged w w') : Shadowing n false w' := by
  obtain ⟨hflag, ops, ho, hops⟩ := hf
  exact h.kept ops ho (fun op hop => feeds_breaks (hops op hop)) hflag

/-- Without a pending SKIP the ring may be written. -/
theorem Shadowing.logged_clear (h : Shadowing n quiet w) (hclear : w.pauseShadowed = false)
    (hf : Logged w w') : Shadowing n quiet w' := by
  obtain ⟨hflag, ops, ho, hops⟩ := hf
  exact .dropped ops h.paired ho (fun op hop => feeds_isSkip (hops op hop)) (hflag.trans hclear)

/-- A reset drops the shadow, and a refused one leaves it standing. -/
theorem suspend_shadowing (h : Shadowing n quiet w) :
    Runs (suspend n) w fun _ w' => Shadowing n quiet w' := by
  unfold suspend
  refine .get (.ite (fun _ => .pure h) (fun _ => ?_))
  unfold setTrigger
  refine .bind (.get (.ite (fun h => nomatch h) (fun _ => .ite (fun _ => ?_) (fun _ => ?_))))
  · refine .modify (.pure (.ite (fun _ => .modify (.pure ?_)) (fun h => absurd rfl h)))
    exact .dropped [.reset true] h.paired rfl (by simp [NativeOp.isSkip]) rfl
  · refine .modify (.pure (.ite (fun h => nomatch h) (fun _ => .pure ?_)))
    exact h.kept [.reset false] rfl (by simp [NativeOp.breaks]) rfl

theorem tryOdelay_runs (n : Native) (w : DspWriter) :
    Runs (tryOdelay n) w fun r w' => r = n.odelay w.ops.length ∧ w' = w.called .odelay :=
  .get (.modify (.pure ⟨rfl, rfl⟩))

theorem shadowPause_runs (n : Native) (w : DspWriter) :
    Runs (shadowPause n) w fun r w' =>
      r = n.silence w.ops.length ∧ w' = w.called (.silence r.isOk) :=
  .get (.modify (.pure ⟨rfl, rfl⟩))

/-- A SILENCE with a queue behind it stands. -/
theorem stands_of_pause {delay : Int}
    (hdelay : .ok delay = n.odelay (w.called (.silence true)).ops.length) (hpos : 0 < delay)
    (ho : w'.ops = ((w.called (.silence true)).called .odelay).ops) :
    Stands n quiet w'.ops w.ops.length w'.ops.length := by
  have hlog : w'.ops = w.ops ++ [.silence true, .odelay] := by
    rw [ho]
    exact List.append_assoc ..
  have hlen : (w.called (.silence true)).ops.length = w.ops.length + 1 := List.length_append
  rw [hlen] at hdelay
  rw [hlog, List.length_append]
  refine ⟨?_, ⟨w.ops.length + 1, delay, by omega, Nat.lt_succ_self _, ?_, hdelay.symm, hpos⟩, ?_⟩
  · rw [List.getElem?_append_right (Nat.le_refl _), Nat.sub_self]
    rfl
  · rw [List.getElem?_append_right (by omega), Nat.add_sub_cancel_left]
    rfl
  · intro j op hij hjk hj
    have hlast : j = w.ops.length + 1 := by
      simp only [List.length_cons, List.length_nil] at hjk
      omega
    rw [hlast, List.getElem?_append_right (by omega), Nat.add_sub_cancel_left] at hj
    cases hj
    rfl

/-- The flag is set only behind a SILENCE and a queue reading after it. -/
theorem pause_shadowing (h : Paired n quiet w.ops) :
    Runs (pause n) w fun _ w' => Shadowing n quiet w' := by
  unfold pause
  refine .modify ?_
  generalize hw₀ : ({ w with pauseShadowed := false } : DspWriter) = w₀
  have hops : w₀.ops = w.ops := by rw [← hw₀]
  have hclear : w₀.pauseShadowed = false := by rw [← hw₀]
  have hdrop {w' : DspWriter} (ops : List NativeOp) (ho : w'.ops = w₀.ops ++ ops)
      (hs : ∀ op ∈ ops, op.isSkip = false) (hf : w'.pauseShadowed = w₀.pauseShadowed) :
      Shadowing n quiet w' :=
    .dropped ops h (hops ▸ ho) hs (hf.trans hclear)
  refine .get (.ite (fun _ => .pure (hdrop [] (List.append_nil _).symm nofun rfl)) (fun _ => ?_))
  refine .bind_of (tryOdelay_runs n w₀) ?_
  rintro _ _ ⟨rfl, rfl⟩
  have hread : Shadowing n quiet (w₀.called .odelay) :=
    hdrop [.odelay] rfl (by simp [NativeOp.isSkip]) rfl
  split
  · exact .pure hread
  refine .ite (fun _ => .pure hread) (fun _ => .ite (fun _ => .pure hread) (fun _ => ?_))
  refine .bind_of (shadowPause_runs n _) ?_
  rintro r _ ⟨-, rfl⟩
  have hpaused : Shadowing n quiet ((w₀.called .odelay).called (.silence r.isOk)) :=
    hdrop [.odelay, .silence r.isOk] (List.append_assoc ..) (by simp [NativeOp.isSkip]) rfl
  split
  · exact .pure hpaused
  refine .bind_of (tryOdelay_runs n _) ?_
  rintro reading _ ⟨hreading, rfl⟩
  have hqueued :
      Shadowing n quiet (((w₀.called .odelay).called (.silence true)).called .odelay) :=
    hdrop [.odelay, .silence true, .odelay] (by simp [called]) (by simp [NativeOp.isSkip]) rfl
  split
  · exact .pure hqueued
  refine .modify (.pure ⟨hqueued.paired, fun hp => ⟨(w₀.called .odelay).ops.length, ?_⟩⟩)
  exact stands_of_pause hreading (of_decide_eq_true hp) rfl

/-- A SKIP takes the standing SILENCE. -/
theorem resume_shadowing (h : Shadowing n quiet w) :
    Runs (resume n) w fun _ w' => Shadowing n quiet w' := by
  unfold resume
  refine .get (.modify (.ite (fun hp => ?_) (fun hp => .pure ?_)))
  · obtain ⟨i, hi⟩ := h.stands hp
    exact .get (.modify (.pure ⟨h.paired.skip hi _, nofun⟩))
  · exact .dropped [] h.paired (List.append_nil _).symm nofun rfl

/-- A paused ring is reset, not written. -/
theorem endBufferSequence_shadowing (h : Shadowing n quiet w) :
    Ends (endBufferSequence n) w fun _ w' => Shadowing n quiet w' := by
  unfold endBufferSequence
  refine .get (.ite (fun _ => .pure h) fun _ => .ite (fun _ => ?_) fun _ => .ite (fun _ => ?_) ?_)
  · exact .modify (.pure (h.kept [] (List.append_nil _).symm nofun rfl))
  · exact (suspend_shadowing h).ends
  intro hclear
  refine .bind (realignWithSilence_moves n w) fun r w₁ hfed => ?_
  have h₁ := h.logged_clear (by simpa using hclear) hfed.toLogged
  cases r with
  | ok => exact .pure h₁
  | error => exact (suspend_shadowing h₁).ends

/-- What a retune suspends. -/
theorem retuneBuffer_shadowing (h : Shadowing n quiet w) (request : PlaybackBufferRequest)
    (fill : Nat) : Ends (retuneBuffer n request fill) w fun _ w' => Shadowing n quiet w' := by
  have hgeometry {w₁ w' : DspWriter} (h₁ : Shadowing n quiet w₁) (ho : w'.ops = w₁.ops)
      (hf : w'.pauseShadowed = w₁.pauseShadowed) : Shadowing n quiet w' :=
    h₁.kept [] (by rw [ho, List.append_nil]) nofun hf
  unfold retuneBuffer
  refine .get (.ite (fun _ => ?_) fun _ => .modify (.ite (fun _ => ?_) fun _ => .ite ?_ ?_))
  · exact .modify (.pure (hgeometry h rfl rfl))
  · exact .pure (hgeometry h rfl rfl)
  · exact fun _ => .modify (.pure (hgeometry h rfl rfl))
  intro _
  refine .bind (R := fun _ w' => Shadowing n quiet w') (suspend_shadowing ?_).ends ?_
  · exact hgeometry h rfl rfl
  · intro ok w₁ h₁
    exact .ite (fun _ => .modify (.pure (hgeometry h₁ rfl rfl))) fun _ => .pure h₁

/-- No SKIP came, and the ring geometry is as before. -/
structure Spared (w w' : DspWriter) : Prop extends Sized w w' where
  log : Unskipped w w'

theorem Spared.chain : Chain Spared where
  refl := fun w => ⟨Sized.chain.refl w, .same rfl⟩
  trans := fun h h' => ⟨Sized.chain.trans h.toSized h'.toSized, Grown.chain.trans h.log h'.log⟩

theorem suspend_moves (n : Native) : Moves Spared (suspend n) := by
  unfold suspend setTrigger
  refine .get fun w => .ite (fun _ => .pure Spared.chain _) fun _ => ?_
  refine .bind Spared.chain (.get fun w => .ite (fun h => nomatch h) fun _ => .ite ?_ ?_) ?_
  · refine fun _ => .modify Spared.chain (fun _ => ?_) (.pure Spared.chain _)
    exact ⟨⟨rfl, rfl, rfl⟩, .one rfl rfl⟩
  · refine fun _ => .modify Spared.chain (fun _ => ?_) (.pure Spared.chain _)
    exact ⟨⟨rfl, rfl, rfl⟩, .one rfl rfl⟩
  · refine fun ok => .ite (fun _ => ?_) fun _ => .pure Spared.chain _
    refine .modify Spared.chain (fun _ => ?_) (.pure Spared.chain _)
    exact ⟨⟨rfl, rfl, rfl⟩, .same rfl⟩

theorem endBufferSequence_moves (n : Native) : Moves Spared (endBufferSequence n) := by
  unfold endBufferSequence
  refine .get fun w => .ite (fun _ => .pure Spared.chain _) fun _ => .ite (fun _ => ?_) ?_
  · refine .modify Spared.chain (fun _ => ?_) (.pure Spared.chain _)
    exact ⟨⟨rfl, rfl, rfl⟩, .same rfl⟩
  intro _
  refine .ite (fun _ => suspend_moves n) fun _ => ?_
  refine .bind Spared.chain ((realignWithSilence_moves n).mono fun _ _ hf => ?_) fun r => ?_
  · exact ⟨hf.toSized, hf.unskipped⟩
  · cases r with
    | ok => exact .pure Spared.chain _
    | error => exact suspend_moves n

theorem retuneBuffer_moves (n : Native) (request : PlaybackBufferRequest) (fill : Nat) :
    Moves Unskipped (retuneBuffer n request fill) := by
  have hset (cycles : Nat) (w : DspWriter) :
      Unskipped w { w with buffer := { w.buffer with mismatchCycles := cycles } } := .same rfl
  unfold retuneBuffer
  refine .get fun w => .ite (fun _ => ?_) fun _ => ?_
  · exact .modify Grown.chain (hset _) (.pure Grown.chain _)
  refine .modify Grown.chain (hset _) (.ite (fun _ => .pure Grown.chain _) fun _ => ?_)
  refine .ite (fun _ => ?_) fun _ => ?_
  · exact .modify Grown.chain (fun _ => .same rfl) (.pure Grown.chain _)
  refine .bind Grown.chain ((suspend_moves n).mono fun _ _ => Spared.log) fun ok => ?_
  exact .ite (fun _ => .modify Grown.chain (hset _) (.pure Grown.chain _))
    fun _ => .pure Grown.chain _

/-! ## Playback devices -/

/-- An operation on a playback device. -/
inductive Call where
  | open_
  | close
  | write (buf : List Cell)
  | writeSilence (count : Nat)
  | pause
  | resume
  | suspend
  | endBufferSequence
  | prime (request : PlaybackBufferRequest) (granted : Nat × Nat) (delayEighths : Nat)
  | retune (request : PlaybackBufferRequest) (fill : Nat)

def perform (n : Native) : Call → Proc DspWriter Unit
  | .open_ => do
    let _ ← open_ n
  | .close => close
  | .write buf => do
    let _ ← write n buf
  | .writeSilence count => writeSilence n count
  | .pause => do
    let _ ← pause n
  | .resume => do
    let _ ← resume n
  | .suspend => do
    let _ ← suspend n
  | .endBufferSequence => do
    let _ ← endBufferSequence n
  | .prime request granted delayEighths => do
    let _ ← primeBuffer n request granted delayEighths
  | .retune request fill => do
    let _ ← retuneBuffer n request fill

/-- A playback device that nobody paused yet, under calls in any order. -/
def playback (n : Native) : System DspWriter Call where
  init := Unpaused
  step w call := (perform n call w).map (·.2)

/-- Every operation keeps the pending flag and the log in step. -/
theorem perform_shadowing (h : Shadowing n false w) (call : Call) :
    Ends (perform n call) w fun _ w' => Shadowing n false w' := by
  have hdone {w₁ : DspWriter} (h₁ : Shadowing n false w₁) :
      Ends (pure () : Proc DspWriter Unit) w₁ fun _ w' => Shadowing n false w' := .pure h₁
  cases call with
  | open_ =>
    refine .bind (R := fun _ w' => Shadowing n false w') ?_ fun _ _ => hdone
    unfold open_
    refine .get (.require fun _ => ?_)
    split
    · exact .modify (.pure (h.kept [.open_ false] rfl (by simp [NativeOp.breaks]) rfl))
    · exact .modify (.pure (h.kept [.open_ true] rfl (by simp [NativeOp.breaks]) rfl))
  | close =>
    show Ends close w _
    unfold close
    refine .get (.require fun _ => .modify (.pure ?_))
    exact .dropped [.close] h.paired rfl (by simp [NativeOp.isSkip]) rfl
  | write buf => exact .bind (write_moves n buf w) fun _ _ hf => hdone (h.logged hf.toLogged)
  | writeSilence count =>
    exact (writeSilence_moves n count w).mono fun _ _ hf => h.logged hf.toLogged
  | pause => exact .bind (pause_shadowing h.paired).ends fun _ _ => hdone
  | resume => exact .bind (resume_shadowing h).ends fun _ _ => hdone
  | suspend => exact .bind (suspend_shadowing h).ends fun _ _ => hdone
  | endBufferSequence => exact .bind (endBufferSequence_shadowing h) fun _ _ => hdone
  | prime request granted delayEighths =>
    exact .bind (primeBuffer_moves n request granted delayEighths w) fun _ _ hf =>
      hdone (h.logged hf)
  | retune request fill => exact .bind (retuneBuffer_shadowing h request fill) fun _ _ => hdone

/-- In every run of a device a pending SKIP has its SILENCE. -/
theorem playback_shadowing (h : Reachable (playback n) w) : Shadowing n false w := by
  refine h.invariant ⟨fun w (hu : w.Unpaused) => hu.shadowing, ?_⟩
  intro w call w' hw _ hs
  obtain ⟨⟨u, t⟩, ht, rfl⟩ := Option.map_eq_some_iff.mp hs
  exact perform_shadowing hw call u t ht

end DspWriter

end PwOss.Oss
