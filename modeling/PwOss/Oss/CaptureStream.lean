import PwOss.Lib.Frames
import PwOss.Oss.Capture

/-
  The capture byte stream.

  `Aligned` relates what the device was read of to what `read` handed out: the frames
  in which a native read ended are gone, the others are there, in order, and `skip` is
  what is left of the frame under way. Every operation keeps it, for any answers of
  the kernel.

  What is proved:
    1. `read_runs`: a read ends, with whole frames.
    2. `capture_reads_aligned`: so does every sequence of operations.
-/

namespace PwOss.Oss

open PwOss.Backend PwOss.Proc PwOss.Frames

/-- The stream of a device is cut at frame boundaries. -/
structure Aligned (d : Dsp) : Prop where
  skip_lt : d.skip < d.stride
  phase : (d.consumed.length + d.skip) % d.stride = 0
  whole : d.returned = untorn d.stride d.cuts d.consumed
  cuts_le : ∀ cut ∈ d.cuts, cut ≤ d.consumed.length
  torn : d.skip ≠ 0 → Torn d.stride d.cuts (d.consumed.length / d.stride)

/-- A device whose ring was just reset. -/
structure Restarted (d : Dsp) : Prop where
  skip : d.skip = 0
  consumed : d.consumed = []
  cuts : d.cuts = []
  returned : d.returned = []

theorem Restarted.aligned {d : Dsp} (h : Restarted d) : Aligned d where
  skip_lt := h.skip ▸ d.stride_pos
  phase := by rw [h.skip, h.consumed, List.length_nil, Nat.zero_mod]
  whole := by
    rw [h.returned, h.consumed, untorn, List.length_nil, Nat.zero_div, List.range_zero,
      List.flatMap_nil]
  cuts_le := by
    intro cut hcut
    rw [h.cuts] at hcut
    exact absurd hcut List.not_mem_nil
  torn := fun hskip => absurd h.skip hskip

namespace Dsp

variable (n : CaptureNative)

/-- What an operation keeps of an open device. -/
structure Kept (d d' : Dsp) : Prop where
  aligned : Aligned d'
  stride : d'.stride = d.stride
  open_ : d'.state ≠ .closed

variable {d : Dsp}

/-! ## One native read -/

/-- A native read ends in an errno, or in bytes that the device was read of. -/
theorem nativeRead_runs {len : Nat}
    {Q : Except Sys.Errno { bytes : List UInt8 // bytes.length ≤ len } → Dsp → Prop}
    (herror : ∀ error, Q (.error error) d.called)
    (hok : ∀ bytes : { bytes : List UInt8 // bytes.length ≤ len },
      Q (.ok bytes) (d.consume bytes.1)) :
    Runs (nativeRead n len) d Q := by
  unfold nativeRead
  refine Runs.get ?_
  split
  · next bytes _ =>
    exact Runs.modify (Runs.pure (hok ⟨bytes.take len, List.length_take_le len bytes⟩))
  · next error _ =>
    exact Runs.modify (Runs.pure (herror error))

/-- Nothing but the call counter changes. -/
theorem aligned_called (h : Aligned d) : Aligned d.called := ⟨h.1, h.2, h.3, h.4, h.5⟩

theorem aligned_start (h : Aligned d) : Aligned d.start := by
  unfold start
  split
  · exact ⟨h.1, h.2, h.3, h.4, h.5⟩
  · exact h

/-- With bytes to discard, the frame under way ends behind them. -/
theorem consumed_add_skip (h : Aligned d) (hskip : d.skip ≠ 0) :
    d.consumed.length + d.skip = (d.consumed.length / d.stride + 1) * d.stride := by
  have hlt := h.skip_lt
  have hphase := h.phase
  have hmod := Nat.mod_lt d.consumed.length d.stride_pos
  have hdiv := Nat.div_add_mod d.consumed.length d.stride
  have hsum : d.consumed.length % d.stride + d.skip = d.stride := by
    rw [Nat.add_mod, Nat.mod_eq_of_lt hlt] at hphase
    obtain ⟨k, hk⟩ := Nat.dvd_of_mod_eq_zero hphase
    have hk1 : k = 1 := by
      rcases Nat.lt_trichotomy k 1 with hk' | hk' | hk'
      · have : k = 0 := by omega
        rw [this] at hk
        omega
      · exact hk'
      · have := Nat.mul_le_mul_left d.stride hk'
        omega
    rw [hk, hk1, Nat.mul_one]
  rw [Nat.succ_mul, Nat.mul_comm]
  omega

theorem cuts_le_consume (h : Aligned d) (bytes : List UInt8) :
    ∀ cut ∈ d.cuts ++ [d.consumed.length + bytes.length],
      cut ≤ (d.consumed ++ bytes).length := by
  intro cut hcut
  rw [List.length_append]
  rcases List.mem_append.mp hcut with hcut | hcut
  · exact Nat.le_add_right_of_le (h.cuts_le cut hcut)
  · exact Nat.le_of_eq (List.mem_singleton.mp hcut)

/-- Discarding within the torn frame. -/
theorem aligned_discard (h : Aligned d) (hskip : d.skip ≠ 0) (bytes : List UInt8)
    (hlen : bytes.length ≤ d.skip) :
    Aligned { d.consume bytes with skip := d.skip - bytes.length } := by
  have hend := consumed_add_skip h hskip
  have hlt := h.skip_lt
  have htorn := h.torn hskip
  refine ⟨by show d.skip - bytes.length < d.stride; omega, ?_, ?_, cuts_le_consume h bytes, ?_⟩
  · show ((d.consumed ++ bytes).length + (d.skip - bytes.length)) % d.stride = 0
    rw [List.length_append, Nat.add_assoc, Nat.add_sub_cancel' hlen]
    exact h.phase
  · show d.returned = untorn d.stride (d.cuts ++ [d.consumed.length + bytes.length])
      (d.consumed ++ bytes)
    rw [untorn_within d.stride_pos d.consumed bytes htorn (by omega)]
    exact h.whole
  · intro hskip'
    show Torn d.stride (d.cuts ++ [d.consumed.length + bytes.length])
      ((d.consumed ++ bytes).length / d.stride)
    have hne : d.skip - bytes.length ≠ 0 := hskip'
    have hle := Nat.div_mul_le_self d.consumed.length d.stride
    have hdiv : (d.consumed.length + bytes.length) / d.stride = d.consumed.length / d.stride := by
      apply Nat.div_eq_of_lt_le
      · omega
      · show _ < (d.consumed.length / d.stride + 1) * d.stride
        omega
    rw [List.length_append, hdiv]
    exact torn_append.mpr (.inl htorn)

theorem tear_consume (hskip : d.skip = 0) (bytes : List UInt8) (rem : Nat) :
    (d.consume bytes).tear rem =
      { d.consume bytes with skip := if rem ≠ 0 then d.stride - rem else 0 } := by
  unfold tear
  by_cases hrem : rem = 0
  · rw [if_neg (not_not_intro hrem), if_neg (not_not_intro hrem), ← hskip]
    rfl
  · rw [if_pos hrem, if_pos hrem]
    rfl

/-- Reading from a frame boundary. -/
theorem aligned_take (h : Aligned d) (hskip : d.skip = 0) (bytes : List UInt8) :
    Aligned (((d.consume bytes).tear (bytes.length % d.stride)).handOut
      (bytes.take (bytes.length - bytes.length % d.stride))) := by
  have hphase := h.phase
  rw [hskip, Nat.add_zero] at hphase
  have hdvd : d.stride ∣ d.consumed.length := Nat.dvd_of_mod_eq_zero hphase
  have hmod := Nat.mod_lt bytes.length d.stride_pos
  rw [tear_consume hskip]
  refine ⟨?_, ?_, ?_, cuts_le_consume h bytes, ?_⟩
  · show (if bytes.length % d.stride ≠ 0 then _ else 0) < d.stride
    have := d.stride_pos
    split <;> omega
  · show ((d.consumed ++ bytes).length + if _ then _ else 0) % d.stride = 0
    rw [List.length_append]
    by_cases hrem : bytes.length % d.stride = 0
    · rw [if_neg (not_not_intro hrem), Nat.add_zero, Nat.add_mod, hphase, hrem]
      rfl
    · rw [if_pos hrem]
      have hsplit := Nat.div_add_mod bytes.length d.stride
      have hsum : d.consumed.length + bytes.length + (d.stride - bytes.length % d.stride) =
          d.consumed.length + d.stride * (bytes.length / d.stride + 1) := by
        rw [Nat.mul_add, Nat.mul_one]
        omega
      rw [hsum, Nat.add_mul_mod_self_left, hphase]
  · show _ = untorn d.stride (d.cuts ++ [d.consumed.length + bytes.length]) (d.consumed ++ bytes)
    rw [untorn_append d.stride_pos d.consumed bytes hdvd h.cuts_le, ← h.whole]
    rfl
  · intro hskip'
    have hrem : bytes.length % d.stride ≠ 0 := by
      intro hzero
      exact hskip' (if_neg (not_not_intro hzero))
    show Torn d.stride (d.cuts ++ [d.consumed.length + bytes.length])
      ((d.consumed ++ bytes).length / d.stride)
    rw [List.length_append]
    exact torn_last d.stride_pos hdvd hrem

/-! ## Reads -/

/-- The loop discards the tail of the torn frame, or ends with a status before. -/
theorem discardSkip_runs : ∀ {fuel : Nat} {d : Dsp}, Aligned d → d.skip ≤ fuel →
    Runs (discardSkip n fuel) d fun status d' =>
      Aligned d' ∧ d'.stride = d.stride ∧ d'.state = d.state ∧ d'.returned = d.returned ∧
        (status = none → d'.skip = 0)
  | 0, d, h, hfuel => by
    have hskip : d.skip = 0 := Nat.le_zero.mp hfuel
    unfold discardSkip
    exact Runs.get (Runs.require hskip (Runs.pure ⟨h, rfl, rfl, rfl, fun _ => hskip⟩))
  | fuel + 1, d, h, hfuel => by
    unfold discardSkip
    refine Runs.get (Runs.ite (fun hskip => ?_) (fun hskip => ?_))
    · exact Runs.pure ⟨h, rfl, rfl, rfl, fun _ => hskip⟩
    refine Runs.bind (nativeRead_runs n ?_ ?_)
    · intro error
      exact Runs.pure ⟨aligned_called h, rfl, rfl, rfl, fun hnone => absurd hnone (by simp)⟩
    · intro bytes
      refine Runs.ite (fun hempty => ?_) (fun hempty => ?_)
      · -- End of the file: nothing was read.
        refine Runs.pure ⟨?_, rfl, rfl, rfl, fun hnone => absurd hnone (by simp)⟩
        have hkeep := aligned_discard h hskip bytes.1 (by rw [hempty]; exact Nat.zero_le _)
        rw [hempty] at hkeep ⊢
        exact hkeep
      · have hlen : bytes.1.length ≤ d.skip := Nat.le_trans bytes.2 (Nat.min_le_left _ _)
        have hpos : 0 < bytes.1.length := List.length_pos_iff.mpr hempty
        refine Runs.modify ?_
        have hnext := aligned_discard h hskip _ hlen
        refine (discardSkip_runs hnext ?_).mono ?_
        · show d.skip - bytes.1.length ≤ fuel
          omega
        · rintro status d' ⟨h1, h2, h3, h4, h5⟩
          exact ⟨h1, h2, h3, h4, h5⟩

theorem readFrames_runs {len : Nat} (h : Aligned d) (hskip : d.skip = 0) :
    Runs (readFrames n len) d fun outcome d' =>
      Aligned d' ∧ d'.stride = d.stride ∧ d'.state = d.state ∧ d.stride ∣ outcome.bytes ∧
        d'.returned = d.returned ++ outcome.stored.take outcome.bytes := by
  unfold readFrames
  refine Runs.bind (nativeRead_runs n ?_ ?_)
  · intro error
    refine Runs.pure ⟨aligned_called h, rfl, rfl, Nat.dvd_zero _, ?_⟩
    show d.returned = d.returned ++ []
    rw [List.append_nil]
  · intro bytes
    have htake := aligned_take h hskip bytes.1
    have hstride : max d.stride 1 = d.stride := Nat.max_eq_left d.stride_pos
    refine Runs.ite (fun hempty => ?_) (fun hempty => ?_)
    · refine Runs.pure ⟨?_, rfl, rfl, Nat.dvd_zero _, ?_⟩
      · have hkept : (((d.consume bytes.1).tear (bytes.1.length % d.stride)).handOut
            (bytes.1.take (bytes.1.length - bytes.1.length % d.stride))) = d.consume bytes.1 := by
          rw [hempty, List.length_nil, Nat.zero_mod, List.take_nil]
          show { d.consume [] with returned := d.returned ++ [] } = d.consume []
          rw [List.append_nil]
          rfl
        rw [hkept] at htake
        exact htake
      · show d.returned = d.returned ++ []
        rw [List.append_nil]
    · refine Runs.get (Runs.modify (Runs.pure ?_))
      have hmax : max (d.consume bytes.1).stride 1 = d.stride := hstride
      dsimp only
      rw [hmax]
      have htorn : (d.consume bytes.1).tear (bytes.1.length % d.stride) = _ :=
        tear_consume hskip bytes.1 _
      refine ⟨htake, ?_, ?_, Nat.dvd_sub_mod _, ?_⟩
      · rw [htorn]
        rfl
      · rw [htorn]
        rfl
      · rw [htorn]
        rfl

theorem start_running (hopen : d.state ≠ .closed) : d.start.state = .running := by
  unfold start
  split
  · rfl
  · next hsetup =>
    cases hstate : d.state with
    | closed => exact absurd hstate hopen
    | setup => exact absurd hstate hsetup
    | running => rfl

theorem start_keeps (d : Dsp) : d.start.stride = d.stride ∧ d.start.returned = d.returned := by
  unfold start
  split <;> exact ⟨rfl, rfl⟩

/-- A read of an open device ends: it hands out whole frames. -/
theorem read_runs {len : Nat} (h : Aligned d) (hopen : d.state ≠ .closed) :
    Runs (read n len) d fun outcome d' =>
      Aligned d' ∧ d'.stride = d.stride ∧ d'.state = .running ∧ d.stride ∣ outcome.bytes ∧
        d'.returned = d.returned ++ outcome.stored.take outcome.bytes := by
  have hrunning := start_running hopen
  have hstart := start_keeps d
  unfold read
  refine Runs.modify (Runs.get (Runs.require hrunning ?_))
  refine Runs.bind_of (discardSkip_runs n (aligned_start h) (Nat.le_refl _)) ?_
  rintro status d' ⟨h', hstride, hstate, hreturned, hdone⟩
  rw [hstart.1] at hstride
  rw [hrunning] at hstate
  rw [hstart.2] at hreturned
  cases status with
  | some status =>
    refine Runs.pure ⟨h', hstride, hstate, Nat.dvd_zero _, ?_⟩
    show d'.returned = d.returned ++ []
    rw [hreturned, List.append_nil]
  | none =>
    refine (readFrames_runs n h' (hdone rfl)).mono ?_
    rintro outcome d'' ⟨h1, h2, h3, h4, h5⟩
    rw [hstride] at h2 h4
    rw [hreturned] at h5
    exact ⟨h1, h2, h3.trans hstate, h4, h5⟩

/-! ## The other operations -/

theorem Kept.refl (h : Aligned d) (hopen : d.state ≠ .closed) : Kept d d := ⟨h, rfl, hopen⟩

theorem Kept.trans {d' d'' : Dsp} (h : Kept d d') (h' : Kept d' d'') : Kept d d'' :=
  ⟨h'.aligned, h'.stride.trans h.stride, h'.open_⟩

/-- The ring geometry says nothing about the stream. -/
theorem Kept.setBuffer {d' : Dsp} (h : Kept d d') (buffer : CaptureBufferState) :
    Kept d { d' with buffer } :=
  ⟨⟨h.aligned.1, h.aligned.2, h.aligned.3, h.aligned.4, h.aligned.5⟩, h.stride, h.open_⟩

theorem setTrigger_eq (enable : Bool) :
    setTrigger n enable d = some (n.trigger d.calls,
      if enable = false ∧ n.trigger d.calls = true then d.called.resetRing else d.called) := rfl

/-- A stop of the channel starts another stream, or the driver refused it. -/
theorem suspend_runs (h : Aligned d) (hopen : d.state ≠ .closed) :
    Runs (suspend n) d fun ok d' =>
      Kept d d' ∧ (d.state = .running → ok = true → Restarted d') := by
  unfold suspend
  refine Runs.get (Runs.ite (fun hidle => ?_) (fun hrunning => ?_))
  · exact Runs.pure ⟨Kept.refl h hopen, fun hr => absurd hr hidle⟩
  refine Runs.bind (Runs.of_eq (setTrigger_eq n false) ?_)
  cases htrigger : n.trigger d.calls with
  | true =>
    refine Runs.modify (Runs.pure ?_)
    have hnew : Restarted { d.called.resetRing with
        state := .setup, needsTrigger := true, skip := 0 } := ⟨rfl, rfl, rfl, rfl⟩
    exact ⟨⟨hnew.aligned, rfl, by simp⟩, fun _ _ => hnew⟩
  | false =>
    refine Runs.pure ⟨?_, fun _ hok => absurd hok (by decide)⟩
    exact ⟨aligned_called h, rfl, hopen⟩

/-- The poll before priming starts the channel. -/
theorem readyForReading_runs (h : Aligned d) (hopen : d.state ≠ .closed) :
    Runs (readyForReading n) d fun _ d' => Kept d d' ∧ d'.state = .running := by
  have hrunning := start_running hopen
  have hstart := aligned_start h
  have hstride := (start_keeps d).1
  unfold readyForReading
  refine Runs.modify (Runs.get (Runs.require hrunning (Runs.modify (Runs.get ?_))))
  have hcalled := aligned_called hstart
  have hopen' : d.start.called.state ≠ .closed := by
    rw [show d.start.called.state = d.start.state from rfl, hrunning]
    decide
  refine Runs.ite (fun htrigger => ?_) (fun htrigger => ?_)
  · refine Runs.modify (Runs.bind (Runs.of_eq (setTrigger_eq n true) (Runs.pure ?_)))
    rw [if_neg (by simp)]
    exact ⟨⟨⟨hcalled.1, hcalled.2, hcalled.3, hcalled.4, hcalled.5⟩, hstride, hopen'⟩, hrunning⟩
  · exact Runs.pure ⟨⟨hcalled, hstride, hopen'⟩, hrunning⟩

/-- Draining the backlog ends: each read takes a byte of it. -/
theorem drainBacklog_runs (stride scratch : Nat) : ∀ {fuel backlog : Nat} {lost : Bool} {d : Dsp},
    Aligned d → d.state ≠ .closed → backlog ≤ fuel →
    Runs (drainBacklog n stride scratch fuel backlog lost) d fun _ d' => Kept d d'
  | 0, backlog, lost, d, h, hopen, hle => by
    unfold drainBacklog
    exact Runs.require (Nat.le_zero.mp hle) (Runs.pure (Kept.refl h hopen))
  | fuel + 1, backlog, lost, d, h, hopen, hle => by
    unfold drainBacklog
    refine Runs.ite (fun _ => Runs.pure (Kept.refl h hopen)) (fun _ => ?_)
    refine Runs.ite (fun _ => Runs.pure (Kept.refl h hopen)) (fun _ => ?_)
    refine Runs.bind_of (read_runs n h hopen) ?_
    rintro outcome d' ⟨h', hstride, hstate, -, -⟩
    have hopen' : d'.state ≠ .closed := by
      rw [hstate]
      decide
    have hkept : Kept d d' := ⟨h', hstride, hopen'⟩
    refine Runs.ite (fun _ => Runs.pure hkept) (fun hread => ?_)
    refine (drainBacklog_runs stride scratch h' hopen' ?_).mono fun _ _ hrest => hkept.trans hrest
    omega

theorem primeBuffer_runs (request : CaptureBufferRequest) (scratch : Nat) (h : Aligned d)
    (hopen : d.state ≠ .closed) :
    Runs (primeBuffer n request scratch) d fun _ d' => Kept d d' := by
  unfold primeBuffer
  refine Runs.bind_of (readyForReading_runs n h hopen) ?_
  rintro ready d' ⟨hkept, hrunning⟩
  refine Runs.get (Runs.require hrunning (Runs.modify ?_))
  have hcalled : Kept d d'.called := hkept.trans ⟨aligned_called hkept.aligned, rfl, hkept.open_⟩
  have hdrain (queued : Nat) : Runs
      (if ready = true then drainBacklog n request.stride scratch queued queued false
        else Pure.pure false) d'.called fun _ d'' => Kept d d'' := by
    refine Runs.ite (fun _ => ?_) (fun _ => Runs.pure hcalled)
    refine (drainBacklog_runs n request.stride scratch hcalled.aligned hcalled.open_
      (Nat.le_refl _)).mono fun _ _ hrest => hcalled.trans hrest
  refine Runs.bind_of (hdrain _) ?_
  intro lost d'' hkept''
  exact Runs.modify (Runs.pure (hkept''.setBuffer _))

theorem retuneBuffer_runs (request : CaptureBufferRequest) (primed : Bool) (h : Aligned d)
    (hopen : d.state ≠ .closed) :
    Runs (retuneBuffer n request primed) d fun _ d' => Kept d d' := by
  have hself := Kept.refl h hopen
  unfold retuneBuffer
  refine Runs.get (Runs.ite (fun _ => ?_) (fun _ => ?_))
  · exact Runs.modify (Runs.pure (hself.setBuffer _))
  refine Runs.modify (Runs.ite (fun _ => Runs.pure (hself.setBuffer _)) (fun _ => ?_))
  refine Runs.ite (fun _ => ?_) (fun _ => ?_)
  · exact Runs.modify (Runs.pure ((hself.setBuffer _).setBuffer _))
  have hmismatch := hself.setBuffer { d.buffer with
    mismatchCycles := satAdd d.buffer.mismatchCycles 1 }
  refine Runs.bind_of (suspend_runs n hmismatch.aligned hmismatch.open_) ?_
  rintro ok d' ⟨hkept, -⟩
  refine Runs.ite (fun _ => ?_) (fun _ => Runs.pure (hmismatch.trans hkept))
  exact Runs.modify (Runs.pure ((hmismatch.trans hkept).setBuffer _))

theorem recoverOverrun_runs (preReadFill : Option Nat) (h : Aligned d) (hopen : d.state ≠ .closed) :
    Runs (recoverOverrun n preReadFill) d fun _ d' => Kept d d' := by
  have hself := Kept.refl h hopen
  unfold recoverOverrun
  refine Runs.get (Runs.modify (Runs.ite (fun _ => Runs.pure (hself.setBuffer _)) (fun _ => ?_)))
  refine Runs.modify ?_
  have hpinned := (hself.setBuffer { d.buffer with pinnedCycles := 0 })
  refine Runs.bind_of (suspend_runs n hpinned.aligned hpinned.open_) ?_
  rintro ok d' ⟨hkept, -⟩
  exact Runs.pure (hpinned.trans hkept)

/-! ## Sequences of operations -/

/-- An operation on an open device. -/
inductive Call where
  | read (len : Nat)
  | suspend
  | prime (request : CaptureBufferRequest) (scratch : Nat)
  | retune (request : CaptureBufferRequest) (primed : Bool)
  | recover (preReadFill : Option Nat)
  deriving DecidableEq

def Call.isRead : Call → Bool
  | .read _ => true
  | _ => false

/-- An operation, with the data that a read hands out. -/
def perform : Call → Proc Dsp (Option (List UInt8))
  | .read len => do
    let outcome ← read n len
    return some (outcome.stored.take outcome.bytes)
  | .suspend => do
    let _ ← suspend n
    return none
  | .prime request scratch => do
    let _ ← primeBuffer n request scratch
    return none
  | .retune request primed => do
    let _ ← retuneBuffer n request primed
    return none
  | .recover preReadFill => do
    let _ ← recoverOverrun n preReadFill
    return none

/-- The operations in turn, with the data that the reads hand out. -/
def performAll : List Call → Proc Dsp (List (List UInt8))
  | [] => return []
  | call :: calls => do
    let data ← perform n call
    let rest ← performAll calls
    return data.toList ++ rest

theorem perform_runs (call : Call) (h : Aligned d) (hopen : d.state ≠ .closed) :
    Runs (perform n call) d fun data d' =>
      Kept d d' ∧ (∀ bytes ∈ data, d.stride ∣ bytes.length) ∧
        (call.isRead = true → d'.returned = d.returned ++ data.toList.flatten) := by
  have hquiet {α : Type} {x : Proc Dsp α} (hx : Runs x d fun _ d' => Kept d d')
      (hread : call.isRead = false) :
      Runs (x >>= fun _ => Pure.pure none) d fun data d' =>
        Kept d d' ∧ (∀ bytes ∈ data, d.stride ∣ bytes.length) ∧
          (call.isRead = true → d'.returned = d.returned ++ data.toList.flatten) := by
    refine Runs.bind_of hx fun _ d' hkept => Runs.pure ⟨hkept, ?_, ?_⟩
    · intro bytes hbytes
      cases hbytes
    · intro hcall
      rw [hread] at hcall
      cases hcall
  cases call with
  | read len =>
    refine Runs.bind_of (read_runs n h hopen) ?_
    rintro outcome d' ⟨h', hstride, hstate, hdvd, hreturned⟩
    refine Runs.pure ⟨⟨h', hstride, by rw [hstate]; decide⟩, ?_, fun _ => ?_⟩
    · intro bytes hbytes
      cases hbytes
      rw [List.length_take, Nat.min_eq_left outcome.bytes_le]
      exact hdvd
    · rw [hreturned, Option.toList_some, List.flatten_singleton]
  | suspend => exact hquiet ((suspend_runs n h hopen).mono fun _ _ hs => hs.1) rfl
  | prime request scratch => exact hquiet (primeBuffer_runs n request scratch h hopen) rfl
  | retune request primed => exact hquiet (retuneBuffer_runs n request primed h hopen) rfl
  | recover preReadFill => exact hquiet (recoverOverrun_runs n preReadFill h hopen) rfl

theorem performAll_runs : ∀ (calls : List Call) {d : Dsp}, Aligned d → d.state ≠ .closed →
    Runs (performAll n calls) d fun outcomes d' =>
      Kept d d' ∧ (∀ data ∈ outcomes, d.stride ∣ data.length) ∧
        ((∀ call ∈ calls, call.isRead = true) → d'.returned = d.returned ++ outcomes.flatten)
  | [], d, h, hopen => by
    refine Runs.pure
      ⟨Kept.refl h hopen, fun data hdata => absurd hdata List.not_mem_nil, fun _ => ?_⟩
    rw [List.flatten_nil, List.append_nil]
  | call :: calls, d, h, hopen => by
    refine Runs.bind_of (perform_runs n call h hopen) ?_
    rintro data d' ⟨hkept, hwhole, hreturned⟩
    refine Runs.bind_of (performAll_runs calls hkept.aligned hkept.open_) ?_
    rintro rest d'' ⟨hkept', hwhole', hreturned'⟩
    refine Runs.pure ⟨hkept.trans hkept', ?_, ?_⟩
    · intro bytes hbytes
      rcases List.mem_append.mp hbytes with hbytes | hbytes
      · exact hwhole bytes (Option.mem_toList.mp hbytes)
      · rw [← hkept.stride]
        exact hwhole' bytes hbytes
    · intro hreads
      have hread := hreturned (hreads call (List.mem_cons_self ..))
      have hrest := hreturned' fun c hc => hreads c (List.mem_cons_of_mem _ hc)
      rw [hrest, hread, List.flatten_append, List.append_assoc]

/-- **Capture reads stay frame aligned.**  From a fresh stream, any sequence of operations
ends, for any answers of the kernel: every read hands out whole frames; what the reads
handed out of the stream are its complete frames but those in which a native read ended;
the bytes the device was read of and those to discard are whole frames, the latter less
than one; and a sequence of reads hands out exactly that. -/
theorem capture_reads_aligned (hd : Restarted d) (hopen : d.state ≠ .closed) (calls : List Call) :
    Runs (performAll n calls) d fun outcomes d' =>
      (∀ data ∈ outcomes, d.stride ∣ data.length) ∧
        d'.returned = untorn d.stride d'.cuts d'.consumed ∧
        (d'.consumed.length + d'.skip) % d.stride = 0 ∧ d'.skip < d.stride ∧
        ((∀ call ∈ calls, call.isRead = true) → outcomes.flatten = d'.returned) := by
  refine (performAll_runs n calls hd.aligned hopen).mono ?_
  rintro outcomes d' ⟨hkept, hwhole, hreturned⟩
  have haligned := hkept.aligned
  refine ⟨hwhole, ?_, ?_, ?_, ?_⟩
  · rw [← hkept.stride]
    exact haligned.whole
  · rw [← hkept.stride]
    exact haligned.phase
  · rw [← hkept.stride]
    exact haligned.skip_lt
  · intro hreads
    rw [hreturned hreads, hd.returned, List.nil_append]

/-- A kernel that stops inside a frame of four bytes, then inside its tail. -/
def stutter : CaptureNative where
  read k := .ok ([[1, 2, 3, 4, 5, 6], [7], [8], [9, 10, 11, 12]].getD k [])
  trigger _ := true
  poll _ := true
  inputSpace _ := (0, 0, 0)

def stereo16 : Dsp where
  state := .setup
  needsTrigger := false
  stride := 4
  skip := 0
  deliveryQuantumNs := 0
  buffer := {}
  calls := 0
  consumed := []
  cuts := []
  returned := []
  stride_pos := DspWriter.stereo_pos

example : (performAll stutter [.read 64, .read 64] stereo16).map (·.1) =
    some [[1, 2, 3, 4], [9, 10, 11, 12]] := by
  decide +kernel

theorem capture_reads_aligned_stutter :
    Runs (performAll stutter [.read 64, .read 64]) stereo16 fun outcomes d' =>
      (∀ data ∈ outcomes, 4 ∣ data.length) ∧
        d'.returned = untorn 4 d'.cuts d'.consumed ∧
        (d'.consumed.length + d'.skip) % 4 = 0 ∧ d'.skip < 4 ∧
        ((∀ call ∈ [Call.read 64, .read 64], call.isRead = true) →
          outcomes.flatten = d'.returned) :=
  capture_reads_aligned stutter ⟨rfl, rfl, rfl, rfl⟩ (by decide) _

end Dsp

end PwOss.Oss
