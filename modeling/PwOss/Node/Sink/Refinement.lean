import PwOss.Node.Sink.Process

/-
  The sink as a system, and the playback session it runs.

  `Sink.sessionAt` reads a session off the sink: its device, its offered buffer
  and the bytes of it that the ring took. Between two steps of the sink these are
  `pending_offset`, or none while the device is not running. Each device call of
  the sink is a step of the session, so from a reachable session (`Sink.At`) the
  sink's procedures lead to reachable sessions only.
-/

namespace PwOss.Node

open PwOss.Backend PwOss.Sys PwOss.Oss PwOss.Proc PwOss.Transition

/-! ## The sink as a system -/

/-- The device that a completion hands over has an empty ring. -/
def Completion.Fresh : Option Completion → Prop
  | some (.installed _ dsp _ _) => Session.Fresh dsp
  | some (.retireAndRetry _ placeholder) | some (.failed _ placeholder) =>
    Session.Fresh placeholder
  | _ => True

instance : (completion : Option Completion) → Decidable (Completion.Fresh completion)
  | none | some .superseded | some .aborted => .isTrue trivial
  | some (.installed _ dsp _ _) => inferInstanceAs (Decidable (Session.Fresh dsp))
  | some (.retireAndRetry _ placeholder) | some (.failed _ placeholder) =>
    inferInstanceAs (Decidable (Session.Fresh placeholder))

namespace Sink

inductive Event where
  /-- The host offers a buffer. -/
  | provide (b : HostBuffer)
  | process (c : Cycle)
  /-- A wake latches a loss and drives the servo. -/
  | wake (required flushed : Bool) (fill : Option Nat)
  | start
  | pause
  | suspend (kernel : Native) (placeholder : DspWriter)
  /-- `install_device`: the fence, the EBUSY retirement and the swap. -/
  | fence
  | retire (kernel : Native) (placeholder : DspWriter)
  | install (kernel : Native) (dsp : DspWriter) (config : Option StreamConfig) (quantumBytes : Nat)
  | releaseFormat (kernel : Native) (placeholder : DspWriter)
  | releaseTakeover
  | useBuffers (nonempty : Bool)
  | setIo (set : Bool)

/-- `take_suspended_device`. -/
def takeSuspendedDevice (kernel : Native) (placeholder : DspWriter) : Proc Sink Unit := do
  swapDevice kernel placeholder
  resetStreamEpoch
  modify fun s =>
    { s with
      buffers := false, config := none, setupPeriod := 0, deliveryQuantumBytes := 0,
      rebuildPending := true }

def lease : Proc Sink Unit := modify fun s => { s with takeover := true, rebuildPending := true }

/-- The data-loop part of each event. -/
def Event.body : Event → Proc Sink Unit
  | .provide b => modify fun s => { s with offer := some b, presented := s.presented ++ [b] }
  | .process c => do
    let _ ← processDataCycle c
  | .wake required flushed fill => do
    modify fun s => { s with rebuildRequired := s.rebuildRequired || required }
    queueRequiredRebuilds flushed
    let s ← get
    match fill with
    | none => pure ()
    | some fill => settleTarget fill ((s.config.map fun config => (strideRate config).1).getD 1)
  | .start => do
    onStartLoop
    modify fun s => { s with started := true }
  | .pause => do
    let s ← get
    modify fun s => { s with started := false }
    if s.started then pausePlayback
    lease
  | .suspend kernel placeholder => do
    modify fun s => { s with started := false }
    onSuspendLoop
    lease
    takeSuspendedDevice kernel placeholder
    onDeviceSwapped
  | .fence => lease
  | .retire kernel placeholder => swapDevice kernel placeholder
  | .install kernel dsp config quantumBytes => do
    swapDevice kernel dsp
    modify fun s =>
      { s with config, deliveryQuantumBytes := quantumBytes, rebuildPending := false }
    onDeviceSwapped
    modify fun s => { s with takeover := false }
  | .releaseFormat kernel placeholder => do
    lease
    swapDevice kernel placeholder
    resetStreamEpoch
    modify fun s => { s with buffers := false, config := none }
  | .releaseTakeover => modify fun s => { s with takeover := false, rebuildPending := false }
  | .useBuffers nonempty => do
    modify fun s => { s with buffers := nonempty }
    onBuffersSwapped
    -- the host takes its buffers back
    modify fun s => { s with offer := none }
  | .setIo set => modify fun s => { s with io := set }

/-- When the event can happen. -/
def Event.Enabled (s : Sink) : Event → Prop
  | .provide b => s.offer.isNone = true ∧ b.serial = s.presented.length
  | .process c => Completion.Fresh c.completion
  | .start => s.config.isSome = true ∧ s.buffers = true
  | .suspend _ dsp | .retire _ dsp | .install _ dsp _ _ | .releaseFormat _ dsp => Session.Fresh dsp
  | _ => True

instance (s : Sink) : (e : Event) → Decidable (e.Enabled s)
  | .provide b =>
    inferInstanceAs (Decidable (s.offer.isNone = true ∧ b.serial = s.presented.length))
  | .process c => inferInstanceAs (Decidable (Completion.Fresh c.completion))
  | .start => inferInstanceAs (Decidable (s.config.isSome = true ∧ s.buffers = true))
  | .suspend _ dsp | .retire _ dsp | .install _ dsp _ _ | .releaseFormat _ dsp =>
    inferInstanceAs (Decidable (Session.Fresh dsp))
  | .wake .. | .pause | .fence | .releaseTakeover | .useBuffers _ | .setIo _ => .isTrue trivial

def step (s : Sink) (e : Event) : Option Sink :=
  if e.Enabled s then (e.body s).map (·.2) else none

/-- A node that was not configured yet. -/
def system : System Sink Event where
  init s :=
    s.started = false ∧ s.takeover = false ∧ Session.Fresh s.dsp ∧ s.config = none ∧
      s.buffers = false ∧ s.io = false ∧ s.offer = none ∧ s.rebuildPending = false ∧
      s.rebuildRequired = false ∧ s.ext = {} ∧ s.presented = []
  step := step

/-! ## The session of a sink -/

def sessionAt (s : Sink) (taken : Nat) : Session := ⟨s.kernel, s.dsp, s.offer, taken, s.presented⟩

/-- The bytes of the offered buffer in the ring. -/
def taken (s : Sink) : Nat := if s.dsp.state = .running then s.ext.pendingOffset else 0

/-- The sink's device and buffers are those of a reachable session that took `taken` bytes. -/
def At (s : Sink) (taken : Nat) : Prop := Reachable Session.system (s.sessionAt taken)

namespace At
variable {s s' : Sink} {k : Nat}

theorem congr (h : s.At k) (hk : s'.kernel = s.kernel) (hd : s'.dsp = s.dsp)
    (ho : s'.offer = s.offer) (hp : s'.presented = s.presented) : s'.At k := by
  unfold At sessionAt
  rw [hk, hd, ho, hp]
  exact h

theorem coherent (h : s.At k) : (s.sessionAt k).Coherent := Session.coherent h

theorem event (h : s.At k) {e : Session.Event} {k' : Nat}
    (hs : (s.sessionAt k).step e = some (s'.sessionAt k')) : s'.At k' :=
  .step h trivial hs

/-- Another device. -/
theorem swap (h : s.At k) {kernel : Native} {dsp : DspWriter} (hf : Session.Fresh dsp) :
    At { s with kernel, dsp } 0 :=
  h.event (e := .replace kernel dsp) (if_pos hf)

theorem idle (h : s.At k) (ho : s.offer = none) : k = 0 := h.coherent.idle ho

theorem framed (h : s.At k) : s.dsp.Framed := h.coherent.device.framed

theorem of_stopped (h : s.At k) (hn : s.dsp.state ≠ .running) : k = 0 :=
  h.coherent.taken_of_stopped hn

/-- What the ring keeps of the buffer after a call that may have reset it. -/
theorem settled (h : s.At k) {e : Session.Event} {d : DspWriter}
    (hs : (s.sessionAt k).step e = some ((s.sessionAt k).settle d)) :
    At { s with dsp := d } (if d.state = .running then k else 0) :=
  h.event hs

end At

/-! ## Device calls -/

section Device
variable {α : Type} {s : Sink} {k : Nat}

theorem device_runs {x : Native → Proc DspWriter α} {Q : α → Sink → Prop}
    (h : Runs (x s.kernel) s.dsp fun a d => Q a { s with dsp := d }) : Runs (device x) s Q := by
  obtain ⟨a, d, hx, hQ⟩ := h
  refine ⟨a, { s with dsp := d }, ?_, hQ⟩
  unfold device
  rw [hx]
  rfl

theorem runs_device {x : Native → Proc DspWriter α} {Q : α → Sink → Prop}
    (h : Runs (device x) s Q) : Runs (x s.kernel) s.dsp fun a d => Q a { s with dsp := d } := by
  obtain ⟨a, t, hx, hQ⟩ := h
  unfold device at hx
  obtain ⟨⟨a', d⟩, hd, heq⟩ := Option.map_eq_some_iff.mp hx
  cases heq
  exact ⟨_, d, hd, hQ⟩

/-- `write` takes a prefix of what the ring has not taken yet. -/
theorem write_runs (h : s.At k) {b : HostBuffer} (hb : s.offer = some b)
    (ho : s.dsp.state ≠ .closed) :
    Runs (device fun n => DspWriter.write n (b.cells.drop k)) s fun o s' =>
      ∃ d, s' = { s with dsp := d } ∧ d.state = .running ∧ k + o.bytes ≤ b.data.length ∧
        s'.At (k + o.bytes) := by
  refine device_runs ?_
  obtain ⟨o, d, heq, hle, -, hw⟩ := DspWriter.write_runs s.kernel (b.cells.drop k) ho
  refine .of_eq heq ⟨d, rfl, hw.running ho, ?_, ?_⟩
  · have hmod := Nat.mod_le (b.cells.drop k).length (2 ^ 32)
    rw [List.length_drop, HostBuffer.length_cells] at hmod hle
    have hk := (h.coherent.offered b hb).2.1
    have hk' : k ≤ b.data.length := hk
    omega
  · refine h.event (e := .write) ?_
    simp only [Session.step, sessionAt, hb, if_neg ho, heq, Option.map_some]

/-- Silence, while the ring has nothing of the buffer. -/
theorem writeSilence_runs (h : s.At 0) (ho : s.dsp.state ≠ .closed) (count : Nat) :
    Runs (device fun n => DspWriter.writeSilence n count) s fun _ s' =>
      ∃ d, s' = { s with dsp := d } ∧ d.state = .running ∧ s'.At 0 := by
  refine device_runs ?_
  obtain ⟨u, d, heq, hfill⟩ := DspWriter.writeSilence_runs s.kernel count ho h.framed
  obtain ⟨_, _, -, hw⟩ := hfill
  have hrun := hw.running ho
  refine .of_eq heq ⟨d, rfl, hrun, ?_⟩
  have hstep : (s.sessionAt 0).step (.silence count) = some ((s.sessionAt 0).settle d) := by
    refine (if_pos ⟨rfl, ho⟩).trans ?_
    simp only [Session.call, sessionAt, heq, Option.map_some]
  have hat := h.settled hstep
  rwa [if_pos hrun] at hat

/-- How a call that may reset the ring leaves the sink. -/
def Settled (s : Sink) (k : Nat) (s' : Sink) : Prop :=
  ∃ d, s' = { s with dsp := d } ∧ (s.dsp.state ≠ .closed → d.state ≠ .closed) ∧
    (s.dsp.state ≠ .running → d.state ≠ .running) ∧
    s'.At (if d.state = .running then k else 0)

theorem suspend_runs (h : s.At k) :
    Runs (device DspWriter.suspend) s fun ok s' =>
      Settled s k s' ∧ (ok = true → s'.dsp.state ≠ .running) := by
  refine device_runs ?_
  obtain ⟨ok, d, heq, hd⟩ := DspWriter.suspend_ends s.kernel s.dsp
  have hat := h.settled (e := .suspend) (d := d) (by
    simp only [Session.step, Session.call, sessionAt, heq, Option.map_some])
  refine .of_eq heq ?_
  cases hd with
  | idle hn => exact ⟨⟨_, rfl, id, id, hat⟩, fun _ => hn⟩
  | reset hr _ he => exact ⟨⟨d, rfl, he.isOpen, fun hn => absurd hr hn, hat⟩, fun _ => he.stopped⟩
  | refused hr _ hk =>
    refine ⟨⟨d, rfl, fun hc => by rwa [hk.state], fun hn => absurd hr hn, hat⟩, fun hok => ?_⟩
    cases hok

theorem settled_of_kept {d : DspWriter} (hk : Kept s.dsp d)
    (hat : At { s with dsp := d } (if d.state = .running then k else 0)) :
    Settled s k { s with dsp := d } :=
  ⟨d, rfl, fun hc => by rwa [hk.state], fun hn => by rwa [hk.state], hat⟩

theorem pause_runs (h : s.At k) :
    Runs (device DspWriter.pause) s fun _ s' => Settled s k s' := by
  refine device_runs ?_
  obtain ⟨r, d, heq, hk⟩ := DspWriter.pause_kept s.kernel s.dsp
  exact .of_eq heq (settled_of_kept hk (h.settled (e := .pause) (by
    simp only [Session.step, Session.call, sessionAt, heq, Option.map_some])))

theorem resume_runs (h : s.At k) :
    Runs (device DspWriter.resume) s fun _ s' => Settled s k s' := by
  refine device_runs ?_
  obtain ⟨r, d, heq, hk⟩ := DspWriter.resume_kept s.kernel s.dsp
  exact .of_eq heq (settled_of_kept hk (h.settled (e := .resume) (by
    simp only [Session.step, Session.call, sessionAt, heq, Option.map_some])))

/-- The end of the buffer: the session lets it go. -/
theorem endBufferSequence_runs (h : s.At k) :
    Runs (device DspWriter.endBufferSequence) s fun _ s' =>
      ∃ d, s' = { s with dsp := d } ∧ At { s' with offer := none } 0 := by
  refine device_runs ?_
  obtain ⟨r, d, heq, -⟩ := DspWriter.endBufferSequence_turns s.kernel h.framed
    h.coherent.device.stopped
  refine .of_eq heq ⟨d, rfl, h.event (e := .release) ?_⟩
  simp only [Session.step, sessionAt, heq, Option.map_some]

/-- The ring geometry is the caller's own. -/
theorem At.adjust (h : s.At k) (buffer : PlaybackBufferState) (delayEighths : Nat) :
    At { s with dsp := { s.dsp with buffer, playbackDelayEighths := delayEighths } } k :=
  h.event (e := .adjust buffer delayEighths) rfl

theorem primeBuffer_runs (h : s.At 0) (hs : s.dsp.state = .setup)
    (request : PlaybackBufferRequest) (granted : Nat × Nat) (delayEighths : Nat) :
    Runs (device fun n => DspWriter.primeBuffer n request granted delayEighths) s fun _ s' =>
      ∃ d, s' = { s with dsp := d } ∧ d.state = .running ∧ s'.At 0 := by
  refine device_runs ?_
  unfold DspWriter.primeBuffer
  refine .get (.require hs (.modify ?_))
  have hfill := fun buffer count =>
    runs_device (writeSilence_runs (h.adjust buffer delayEighths) (by simp [hs]) count)
  refine .bind_of (hfill _ _) ?_
  rintro _ d ⟨d', heq, hrun, hat⟩
  cases heq
  exact .pure ⟨d, rfl, hrun, hat⟩

theorem Settled.refl (h : s.At k) : Settled s k s :=
  ⟨s.dsp, rfl, id, id, by
    by_cases hr : s.dsp.state = .running
    · rw [if_pos hr]
      exact h
    · rw [if_neg hr]
      rwa [h.of_stopped hr] at h⟩

theorem Settled.adjust {s' : Sink} (h : Settled s k s') (buffer : PlaybackBufferState) :
    Settled s k { s' with dsp := { s'.dsp with buffer } } := by
  obtain ⟨d, rfl, hopen, hstop, hat⟩ := h
  exact ⟨{ d with buffer }, rfl, hopen, hstop, hat.adjust buffer d.playbackDelayEighths⟩

theorem retuneBuffer_runs (h : s.At k) (request : PlaybackBufferRequest) (fill : Nat) :
    Runs (device fun n => DspWriter.retuneBuffer n request fill) s fun _ s' => Settled s k s' := by
  have hkept := fun buffer => (Settled.refl h).adjust buffer
  refine device_runs ?_
  unfold DspWriter.retuneBuffer
  refine .get (.ite (fun _ => .modify (.pure (hkept _))) (fun _ => .modify ?_))
  refine .ite (fun _ => .pure (hkept _)) (fun _ => .ite (fun _ => .modify (.pure ?_)) (fun _ => ?_))
  · exact (hkept _).adjust _
  · have hat := h.adjust
      { s.dsp.buffer with mismatchCycles := satAdd s.dsp.buffer.mismatchCycles 1 }
      s.dsp.playbackDelayEighths
    refine .bind_of (runs_device (suspend_runs hat)) ?_
    rintro ok d ⟨⟨d', heq, hopen, hstop, hat'⟩, -⟩
    cases heq
    have hsettled : Settled s k { s with dsp := d } := ⟨d, rfl, hopen, hstop, hat'⟩
    exact .ite (fun _ => .modify (.pure (hsettled.adjust _))) (fun _ => .pure hsettled)

end Device

end Sink

end PwOss.Node
