import PwOss.Lib.Transition
import PwOss.Oss.Silence

/-
  A playback device under a caller that owns one host buffer at a time.

  The caller presents a buffer, writes what the ring has not taken of it, and
  lets it go (`release`). It fills silence only while nothing of the buffer is in
  the ring, and it may suspend, pause, resume or replace the device at any time.
  `Session` is this contract on its own: the sink node is shown to keep to it.
  `Coherent` says what the ring then looks like in every reachable session: each
  buffer is one run of its bytes from its first byte on.
-/

namespace PwOss.Oss

open PwOss.Backend PwOss.Sys PwOss.Proc PwOss.Transition

/-- A host buffer: the slice of its chunk, with the number of buffers before it. -/
structure HostBuffer where
  serial : Nat
  id : Nat
  data : List UInt8
  size_lt : data.length < 2 ^ 32

namespace HostBuffer

/-- The bytes of the buffer, each with its place. -/
def cells (b : HostBuffer) : List Cell :=
  b.data.mapIdx fun index byte => ⟨byte, some ⟨b.serial, index⟩⟩

@[simp] theorem length_cells (b : HostBuffer) : b.cells.length = b.data.length := by
  simp [cells]

theorem origin_of_getElem? {b : HostBuffer} {i : Nat} {c : Cell} (h : b.cells[i]? = some c) :
    c.origin = some ⟨b.serial, i⟩ := by
  unfold cells at h
  rw [List.getElem?_mapIdx] at h
  cases hb : b.data[i]? with
  | none => simp [hb] at h
  | some byte =>
    simp only [hb, Option.map_some, Option.some.injEq] at h
    rw [← h]

theorem buffer_of_mem {b : HostBuffer} {c : Cell} (h : c ∈ b.cells) {o : Origin}
    (ho : c.origin = some o) : o.buffer = b.serial := by
  obtain ⟨i, hi⟩ := List.mem_iff_getElem?.mp h
  have heq := ho.symm.trans (origin_of_getElem? hi)
  cases heq
  rfl

end HostBuffer

/-! ## Sessions -/

structure Session where
  /-- The kernel's answers to this device. -/
  kernel : Native
  dsp : DspWriter
  /-- The buffer the caller owns. -/
  offer : Option HostBuffer
  /-- The bytes of it that the ring took. -/
  taken : Nat
  -- ghost state: every buffer presented so far
  presented : List HostBuffer

namespace Session

/-- What the caller does. -/
inductive Event where
  | present (b : HostBuffer)
  | write
  | silence (count : Nat)
  | release
  | suspend
  | pause
  | resume
  /-- The ring geometry the caller keeps about the device. -/
  | adjust (buffer : PlaybackBufferState) (delayEighths : Nat)
  | replace (kernel : Native) (dsp : DspWriter)

/-- A device with nothing in its ring. -/
structure Fresh (w : DspWriter) : Prop where
  stopped : w.state ≠ .running
  ring : w.ring = []
  phase : w.frameOff = 0
  framed : w.Framed

instance (w : DspWriter) : Decidable w.Framed :=
  decidable_of_iff (w.stride ≤ DspWriter.silenceChunkBytes ∧
    w.silencePattern.frameMultiple ≤ DspWriter.silenceChunkBytes)
    ⟨fun h => ⟨h.1, h.2⟩, fun h => ⟨h.1, h.2⟩⟩

instance (w : DspWriter) : Decidable (Fresh w) :=
  decidable_of_iff (w.state ≠ .running ∧ w.ring = [] ∧ w.frameOff = 0 ∧ w.Framed)
    ⟨fun h => ⟨h.1, h.2.1, h.2.2.1, h.2.2.2⟩, fun h => ⟨h.1, h.2, h.3, h.4⟩⟩

/-- The device after a call that may have reset its ring. -/
def settle (s : Session) (dsp : DspWriter) : Session :=
  { s with dsp, taken := if dsp.state = .running then s.taken else 0 }

/-- A call on the device. -/
def call {α : Type} (s : Session) (x : Proc DspWriter α) : Option Session :=
  (x s.dsp).map fun r => s.settle r.2

def step (s : Session) : Event → Option Session
  | .present b =>
    if s.offer.isNone ∧ b.serial = s.presented.length then
      some { s with offer := some b, presented := s.presented ++ [b] }
    else none
  | .write =>
    match s.offer with
    | none => none
    | some b =>
      if s.dsp.state = .closed then none
      else
        (DspWriter.write s.kernel (b.cells.drop s.taken) s.dsp).map fun r =>
          { s with dsp := r.2, taken := s.taken + r.1.bytes }
  | .silence count =>
    if s.taken = 0 ∧ s.dsp.state ≠ .closed then s.call (DspWriter.writeSilence s.kernel count)
    else none
  | .release =>
    (DspWriter.endBufferSequence s.kernel s.dsp).map fun r =>
      { s with dsp := r.2, offer := none, taken := 0 }
  | .suspend => s.call (DspWriter.suspend s.kernel)
  | .pause => s.call (DspWriter.pause s.kernel)
  | .resume => s.call (DspWriter.resume s.kernel)
  | .adjust buffer delayEighths =>
    some { s with dsp := { s.dsp with buffer, playbackDelayEighths := delayEighths } }
  | .replace kernel dsp => if Fresh dsp then some { s with kernel, dsp, taken := 0 } else none

/-- A session opens with a fresh device and no buffer. -/
def system : System Session Event where
  init s := Fresh s.dsp ∧ s.offer = none ∧ s.taken = 0 ∧ s.presented = []
  step := step

end Session

/-! ## The ring of a coherent session -/

/-- No byte of the buffer `serial`. -/
def Foreign (serial : Nat) (cells : List Cell) : Prop :=
  ∀ c ∈ cells, ∀ o, c.origin = some o → o.buffer ≠ serial

namespace Foreign
variable {k : Nat} {cells cells' : List Cell}

theorem nil : Foreign k [] := nofun

theorem append (h : Foreign k cells) (h' : Foreign k cells') : Foreign k (cells ++ cells') := by
  intro c hc
  rcases List.mem_append.mp hc with hc | hc
  · exact h c hc
  · exact h' c hc

theorem of_silent (h : Silent cells) : Foreign k cells := by
  intro c hc o ho
  rw [h c hc] at ho
  cases ho

theorem of_buffer {b : HostBuffer} (hb : b.serial ≠ k) (hc : ∀ c ∈ cells, c ∈ b.cells) :
    Foreign k cells := by
  intro c hmem o ho
  rw [HostBuffer.buffer_of_mem (hc c hmem) ho]
  exact hb

end Foreign

/-- The bytes of `b` in the ring are one run that begins at its first byte. -/
def Contiguous (b : HostBuffer) (ring : List Cell) : Prop :=
  ∃ before m after, ring = before ++ (b.cells.take m ++ after) ∧
    Foreign b.serial before ∧ Foreign b.serial after

namespace Contiguous
variable {b : HostBuffer} {ring cells : List Cell}

theorem nil : Contiguous b [] := ⟨[], 0, [], rfl, .nil, .nil⟩

theorem of_foreign (h : Foreign b.serial ring) : Contiguous b ring :=
  ⟨ring, 0, [], by simp, h, .nil⟩

theorem append (h : Contiguous b ring) (hc : Foreign b.serial cells) :
    Contiguous b (ring ++ cells) := by
  obtain ⟨before, m, after, heq, hbefore, hafter⟩ := h
  refine ⟨before, m, after ++ cells, ?_, hbefore, hafter.append hc⟩
  rw [heq, List.append_assoc, List.append_assoc]

end Contiguous

namespace Session

/-- The ring ends in the first `taken` bytes of the buffer, and has none before. -/
def Holds (b : HostBuffer) (taken : Nat) (ring : List Cell) : Prop :=
  taken ≤ b.data.length ∧ ∃ before, ring = before ++ b.cells.take taken ∧ Foreign b.serial before

theorem Holds.contiguous {b : HostBuffer} {taken : Nat} {ring : List Cell}
    (h : Holds b taken ring) : Contiguous b ring := by
  obtain ⟨-, before, heq, hbefore⟩ := h
  exact ⟨before, taken, [], by rw [heq, List.append_nil], hbefore, .nil⟩

/-- The device of a session: a stopped one has an empty ring. -/
structure Sound (w : DspWriter) : Prop where
  stopped : w.state ≠ .running → w.ring = []
  aligned : w.Aligned
  framed : w.Framed

structure Coherent (s : Session) : Prop where
  device : Sound s.dsp
  /-- The serials count the buffers. -/
  below : ∀ b ∈ s.presented, b.serial < s.presented.length
  serials : ∀ b ∈ s.presented, ∀ b' ∈ s.presented, b.serial = b'.serial → b = b'
  /-- The ring has bytes of presented buffers only. -/
  known : ∀ c ∈ s.dsp.ring, ∀ o, c.origin = some o → o.buffer < s.presented.length
  offered : ∀ b, s.offer = some b → b ∈ s.presented ∧ Holds b s.taken s.dsp.ring
  idle : s.offer = none → s.taken = 0
  contiguous : ∀ b ∈ s.presented, Contiguous b s.dsp.ring

/-! ## What a call does to a sound device -/

theorem Sound.of_wrote {cells : List Cell} {a : Nat} {w w' : DspWriter} (h : Sound w)
    (ho : w.state ≠ .closed) (hw : Wrote cells a w w') : Sound w' where
  stopped := fun hn => absurd (hw.running ho) hn
  aligned := h.aligned.wrote hw
  framed := h.framed.congr hw.stride hw.pattern

theorem Sound.of_quiet {w w' : DspWriter} (h : Sound w) (hq : Quiet w w') : Sound w' where
  stopped := by
    intro hn
    obtain ⟨hstate, hring⟩ := hq.stopped hn
    rw [hring]
    exact h.stopped (by rwa [← hstate])
  aligned := by
    obtain ⟨cells, -, hring, hphase⟩ := hq.ring
    have ha := h.aligned
    unfold DspWriter.Aligned at ha ⊢
    rw [hphase, hring, hq.stride, List.length_append, ha, Nat.mod_add_mod]
  framed := h.framed.congr hq.stride hq.pattern

theorem Sound.of_emptied {w w' : DspWriter} (h : Sound w) (he : Emptied w w') : Sound w' where
  stopped := fun _ => he.ring
  aligned := by rw [DspWriter.Aligned, he.phase, he.ring, List.length_nil, Nat.zero_mod]
  framed := h.framed.congr he.stride he.pattern

theorem Sound.of_fresh {w : DspWriter} (h : Fresh w) : Sound w where
  stopped := fun _ => h.ring
  aligned := by rw [DspWriter.Aligned, h.phase, h.ring, List.length_nil, Nat.zero_mod]
  framed := h.framed

/-! ## The ring along a session -/

namespace Coherent
variable {s : Session} {d : DspWriter}

/-- A stopped device holds nothing of the buffer. -/
theorem taken_of_stopped (h : s.Coherent) (hn : s.dsp.state ≠ .running) : s.taken = 0 := by
  cases hb : s.offer with
  | none => exact h.idle hb
  | some b =>
    obtain ⟨-, hle, before, heq, -⟩ := h.offered b hb
    rw [h.device.stopped hn] at heq
    have hlen := congrArg List.length heq
    simp only [List.length_append, List.length_take, HostBuffer.length_cells,
      List.length_nil] at hlen
    omega

/-- Another ring under the same buffers. -/
theorem of_ring {taken : Nat} (h : s.Coherent) (hd : Sound d)
    (hknown : ∀ c ∈ d.ring, ∀ o, c.origin = some o → o.buffer < s.presented.length)
    (hoffered : ∀ b, s.offer = some b → Holds b taken d.ring)
    (hidle : s.offer = none → taken = 0)
    (hcontiguous : ∀ b ∈ s.presented, Contiguous b d.ring) :
    Coherent { s with dsp := d, taken } where
  device := hd
  below := h.below
  serials := h.serials
  known := hknown
  offered := fun b hb => ⟨(h.offered b hb).1, hoffered b hb⟩
  idle := hidle
  contiguous := hcontiguous

/-- A ring reset under the same buffers. -/
theorem of_nil (h : s.Coherent) (hd : Sound d) (hring : d.ring = []) :
    Coherent { s with dsp := d, taken := 0 } := by
  refine h.of_ring hd ?_ ?_ (fun _ => rfl) ?_
  · rw [hring]
    nofun
  · intro b _
    rw [hring]
    exact ⟨Nat.zero_le _, [], by simp, .nil⟩
  · intro b _
    rw [hring]
    exact .nil

/-- Silence, while nothing of the buffer is in the ring. -/
theorem of_quiet (h : s.Coherent) (hq : Quiet s.dsp d)
    (ht : s.taken = 0 ∨ d.ring = s.dsp.ring) : Coherent { s with dsp := d } := by
  obtain ⟨cells, hsilent, hring, -⟩ := hq.ring
  refine h.of_ring (h.device.of_quiet hq) ?_ ?_ h.idle ?_
  · intro c hc o ho
    rw [hring] at hc
    rcases List.mem_append.mp hc with hc | hc
    · exact h.known c hc o ho
    · rw [hsilent c hc] at ho
      cases ho
  · intro b hb
    obtain ⟨-, hle, before, heq, hforeign⟩ := h.offered b hb
    rcases ht with hzero | hsame
    · refine ⟨hle, before ++ cells, ?_, hforeign.append (.of_silent hsilent)⟩
      rw [hring, heq, hzero]
      simp
    · exact ⟨hle, before, hsame.trans heq, hforeign⟩
  · intro b hb
    rw [hring]
    exact (h.contiguous b hb).append (.of_silent hsilent)

theorem settle_quiet (h : s.Coherent) (hq : Quiet s.dsp d)
    (ht : s.taken = 0 ∨ d.ring = s.dsp.ring) : (s.settle d).Coherent := by
  have hd := h.of_quiet hq ht
  unfold settle
  by_cases hr : d.state = .running
  · rw [if_pos hr]
    exact hd
  · rw [if_neg hr, ← hd.taken_of_stopped hr]
    exact hd

theorem settle_emptied (h : s.Coherent) (he : Emptied s.dsp d) : (s.settle d).Coherent := by
  unfold settle
  rw [if_neg he.stopped]
  exact h.of_nil (h.device.of_emptied he) he.ring

theorem present (h : s.Coherent) {b : HostBuffer} (hidle : s.offer = none)
    (hb : b.serial = s.presented.length) :
    Coherent { s with offer := some b, presented := s.presented ++ [b] } := by
  have hzero := h.idle hidle
  -- the ring knows no byte of a buffer that was not presented
  have hforeign : Foreign b.serial s.dsp.ring := by
    intro c hc o ho heq
    have := h.known c hc o ho
    omega
  have hmem : ∀ b' ∈ s.presented ++ [b], b' ∈ s.presented ∨ b' = b := by
    intro b' hb'
    simpa using hb'
  refine ⟨h.device, ?_, ?_, ?_, ?_, nofun, ?_⟩
  · intro b' hb'
    rw [List.length_append, List.length_singleton]
    rcases hmem b' hb' with hb' | rfl
    · have := h.below b' hb'
      omega
    · omega
  · intro b₁ h₁ b₂ h₂ heq
    rcases hmem b₁ h₁ with m₁ | rfl <;> rcases hmem b₂ h₂ with m₂ | rfl
    · exact h.serials b₁ m₁ b₂ m₂ heq
    · have := h.below b₁ m₁
      omega
    · have := h.below b₂ m₂
      omega
    · rfl
  · intro c hc o ho
    rw [List.length_append]
    exact Nat.lt_add_right _ (h.known c hc o ho)
  · intro b' hb'
    cases hb'
    refine ⟨List.mem_append_right _ (List.mem_singleton_self b), ?_⟩
    show Holds b s.taken s.dsp.ring
    rw [hzero]
    exact ⟨Nat.zero_le _, s.dsp.ring, by simp, hforeign⟩
  · intro b' hb'
    rcases hmem b' hb' with hb' | rfl
    · exact h.contiguous b' hb'
    · exact .of_foreign hforeign

/-- The ring takes the next bytes of the buffer. -/
theorem write (h : s.Coherent) {b : HostBuffer} (hb : s.offer = some b)
    (ho : s.dsp.state ≠ .closed) {k a : Nat} (hk : k ≤ b.data.length - s.taken)
    (hw : Wrote ((b.cells.drop s.taken).take k) a s.dsp d) :
    Coherent { s with dsp := d, taken := s.taken + k } := by
  obtain ⟨hmem, hle, before, heq, hforeign⟩ := h.offered b hb
  have hmine : ∀ c ∈ (b.cells.drop s.taken).take k, c ∈ b.cells := fun c hc =>
    List.mem_of_mem_drop (List.mem_of_mem_take hc)
  have hholds : Holds b (s.taken + k) d.ring := by
    refine ⟨by omega, before, ?_, hforeign⟩
    rw [hw.ring, heq, List.append_assoc, List.take_add]
  refine h.of_ring (h.device.of_wrote ho hw) ?_ ?_ ?_ ?_
  · intro c hc o hco
    rw [hw.ring] at hc
    rcases List.mem_append.mp hc with hc | hc
    · exact h.known c hc o hco
    · rw [HostBuffer.buffer_of_mem (hmine c hc) hco]
      exact h.below b hmem
  · intro b' hb'
    rw [hb] at hb'
    cases hb'
    exact hholds
  · intro hnone
    rw [hb] at hnone
    cases hnone
  · intro b' hb'
    by_cases hsame : b.serial = b'.serial
    · rw [← h.serials b hmem b' hb' hsame]
      exact hholds.contiguous
    · rw [hw.ring]
      exact (h.contiguous b' hb').append (.of_buffer hsame hmine)

/-- The buffer is let go. -/
theorem release (h : s.Coherent) (ht : Quiet s.dsp d ∨ Emptied s.dsp d) :
    Coherent { s with dsp := d, offer := none, taken := 0 } := by
  have hnone : Coherent { s with offer := none, taken := 0 } :=
    { h with
      offered := nofun
      idle := fun _ => rfl }
  rcases ht with hq | he
  · exact hnone.of_quiet hq (.inl rfl)
  · exact hnone.of_nil (h.device.of_emptied he) he.ring

end Coherent

/-! ## What a step does -/

/-- The steps of a session, by what they do to the ring. -/
inductive Moved (s : Session) : Event → Session → Prop where
  | present (b : HostBuffer) (hidle : s.offer = none) (hb : b.serial = s.presented.length) :
      Moved s (.present b) { s with offer := some b, presented := s.presented ++ [b] }
  | write {b : HostBuffer} {k a : Nat} {d : DspWriter} (hb : s.offer = some b)
      (ho : s.dsp.state ≠ .closed) (hk : k ≤ b.data.length - s.taken)
      (hw : Wrote ((b.cells.drop s.taken).take k) a s.dsp d) :
      Moved s .write { s with dsp := d, taken := s.taken + k }
  | silence {count : Nat} {u : Unit} {d : DspWriter} (ht : s.taken = 0) (hq : Quiet s.dsp d)
      (heq : DspWriter.writeSilence s.kernel count s.dsp = some (u, d)) :
      Moved s (.silence count) (s.settle d)
  | release {reset : Bool} {d : DspWriter} (hd : Quiet s.dsp d ∨ Emptied s.dsp d)
      (heq : DspWriter.endBufferSequence s.kernel s.dsp = some (reset, d)) :
      Moved s .release { s with dsp := d, offer := none, taken := 0 }
  | kept {e : Event} {d : DspWriter} (hk : Kept s.dsp d) : Moved s e (s.settle d)
  | emptied {e : Event} {d : DspWriter} (he : Emptied s.dsp d) : Moved s e (s.settle d)
  | adjust (buffer : PlaybackBufferState) (delayEighths : Nat) :
      Moved s (.adjust buffer delayEighths)
        { s with dsp := { s.dsp with buffer, playbackDelayEighths := delayEighths } }
  | replace (kernel : Native) {d : DspWriter} (hf : Fresh d) :
      Moved s (.replace kernel d) { s with kernel, dsp := d, taken := 0 }

theorem Moved.of_call {α : Type} {s s' : Session} {e : Event} {x : Proc DspWriter α}
    (hx : Runs x s.dsp fun _ d => Kept s.dsp d ∨ Emptied s.dsp d) (hs : s.call x = some s') :
    Moved s e s' := by
  obtain ⟨a, d, heq, hd⟩ := hx
  rw [Session.call, heq] at hs
  cases hs
  rcases hd with hk | he
  · exact .kept hk
  · exact .emptied he

theorem Sound.moved {s s' : Session} {e : Event} (h : Sound s.dsp) (hs : s.step e = some s') :
    Moved s e s' := by
  cases e with
  | present b =>
    simp only [step] at hs
    split at hs
    · next hc =>
      cases hs
      exact .present b (by simpa using hc.1) hc.2
    · cases hs
  | write =>
    simp only [step] at hs
    split at hs
    · cases hs
    · next b hb =>
      split at hs
      · cases hs
      · next ho =>
        obtain ⟨o, d, heq, hle, -, hw⟩ :=
          DspWriter.write_runs s.kernel (b.cells.drop s.taken) ho
        rw [heq] at hs
        cases hs
        have hmod := Nat.mod_le (b.cells.drop s.taken).length (2 ^ 32)
        rw [List.length_drop, HostBuffer.length_cells] at hmod hle
        have hk : o.bytes ≤ b.data.length - s.taken := by omega
        exact .write hb ho hk hw
  | silence count =>
    simp only [step] at hs
    split at hs
    · next hc =>
      obtain ⟨_, d, heq, hd⟩ := DspWriter.writeSilence_runs s.kernel count hc.2 h.framed
      rw [call, heq] at hs
      cases hs
      exact .silence hc.1 (hd.quiet hc.2) heq
    · cases hs
  | release =>
    obtain ⟨_, d, heq, hd⟩ := DspWriter.endBufferSequence_turns s.kernel h.framed h.stopped
    simp only [step, heq, Option.map_some, Option.some.injEq] at hs
    cases hs
    exact .release hd heq
  | suspend =>
    refine .of_call ((DspWriter.suspend_ends s.kernel s.dsp).mono ?_) hs
    intro _ d hd
    cases hd with
    | idle => exact .inl (.refl _)
    | reset _ _ he => exact .inr he
    | refused _ _ hk => exact .inl hk
  | pause => exact .of_call ((DspWriter.pause_kept s.kernel s.dsp).mono fun _ _ => .inl) hs
  | resume => exact .of_call ((DspWriter.resume_kept s.kernel s.dsp).mono fun _ _ => .inl) hs
  | adjust buffer delayEighths =>
    cases hs
    exact .adjust buffer delayEighths
  | replace kernel dsp =>
    simp only [step] at hs
    split at hs
    · next hf =>
      cases hs
      exact .replace kernel hf
    · cases hs

theorem Coherent.moved {s s' : Session} {e : Event} (h : s.Coherent) (hs : Moved s e s') :
    s'.Coherent := by
  cases hs with
  | present b hidle hb => exact h.present hidle hb
  | write hb ho hk hw => exact h.write hb ho hk hw
  | silence ht hq _ => exact h.settle_quiet hq (.inl ht)
  | release hd _ => exact h.release hd
  | kept hk => exact h.settle_quiet hk.quiet (.inr hk.ring)
  | emptied he => exact h.settle_emptied he
  | adjust buffer delayEighths =>
    exact h.of_quiet (Kept.quiet ⟨rfl, rfl, rfl, rfl, rfl⟩) (.inr rfl)
  | replace kernel hf =>
    have hnil := h.of_nil (.of_fresh hf) hf.ring
    exact { hnil with }

theorem coherent_inductive (P : Session → Event → Prop) : Inductive system P Coherent where
  init := by
    rintro s ⟨hf, hoffer, htaken, hpresented⟩
    refine ⟨.of_fresh hf, ?_, ?_, ?_, ?_, fun _ => htaken, ?_⟩
    · rw [hpresented]
      nofun
    · rw [hpresented]
      nofun
    · rw [hf.ring]
      nofun
    · rw [hoffer]
      nofun
    · rw [hpresented]
      nofun
  step := fun _ _ _ h _ hs => h.moved (h.device.moved hs)

/-- In every reachable session the ring is coherent. -/
theorem coherent {s : Session} {P : Session → Event → Prop} (h : Via system P s) : s.Coherent :=
  h.invariant (coherent_inductive P)

end Session

end PwOss.Oss
