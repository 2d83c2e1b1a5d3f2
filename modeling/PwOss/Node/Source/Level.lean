import PwOss.Node.Source.Ownership
import PwOss.Oss.Buffer

/-
  The level of a capture ring that `bounded_read` drains.

  A cycle measures the bytes queued on the device and reads one period of them, and the
  backlog beyond the healthy peak. The peak lies one arrival below the ring, so that what
  arrives until the next cycle fits: at most a period and a quantum, less a frame.

  What is proved:
    * an admitted ring keeps a quantum between the target and the peak, and above the peak
    * a read leaves the level so low that the next arrivals fit
    * in every run of such cycles the level stays within the ring
-/

namespace PwOss.Node.Source

open PwOss.Backend PwOss.Oss PwOss.Transition

/-! ## The geometry -/

section Geometry
variable {period quantum ring : Nat}

/-- What an admitted ring holds, when no sum along the way saturated. -/
theorem capture_admitted (hlt : ring < u32Max) (h : captureBufferRequired period quantum ≤ ring) :
    period + quantum / 2 + quantum * 2 ≤ ring ∧ period * 2 ≤ ring := by
  unfold captureBufferRequired captureFillTargets satAdd satMul at h
  rw [if_neg (Nat.lt_irrefl 0)] at h
  dsimp only at h
  unfold u32Max at h hlt
  omega

theorem captureFillTargets_room (hlt : ring < u32Max)
    (h : captureBufferRequired period quantum ≤ ring) :
    (captureFillTargets period quantum ring).1 = period + quantum / 2 ∧
      (captureFillTargets period quantum ring).1 + quantum ≤
        (captureFillTargets period quantum ring).2 ∧
      (captureFillTargets period quantum ring).2 + quantum ≤ ring := by
  obtain ⟨htarget, hdouble⟩ := capture_admitted hlt h
  unfold captureFillTargets satAdd
  unfold u32Max at hlt ⊢
  split
  · dsimp only
    omega
  · dsimp only
    omega

end Geometry

variable {δ : Type} (ops : CaptureOperations δ)

/-! ## One read -/

section Read
variable {maxsize : Nat} (queued stride : Nat) (data : Scratch maxsize) (s : Source δ)

theorem boundedRead_state :
    (boundedRead ops queued stride data s).state =
      (readBlock ops (s.readSpace queued stride maxsize) data s).2.2 := rfl

/-- A read changes the device and what it latches, and not the geometry. -/
theorem boundedRead_geometry :
    (boundedRead ops queued stride data s).state.setupPeriod = s.setupPeriod ∧
      (boundedRead ops queued stride data s).state.ext = s.ext := by
  rw [boundedRead_state]
  unfold readBlock
  split
  · exact ⟨rfl, rfl⟩
  · exact ⟨rfl, rfl⟩

end Read

/-! ## A metered device -/

/-- A device with a meter on its reads. -/
structure Metered (δ : Type) where
  dsp : δ
  /-- The bytes queued on the device. -/
  queued : Nat
  /-- The bytes that reads asked for and did not get. -/
  short : Nat

/-- What a read reports leaves the queue. The operations that `bounded_read` does not use
leave the meter alone. -/
def meter : CaptureOperations (Metered δ) where
  isClosed m := ops.isClosed m.dsp
  isRunning m := ops.isRunning m.dsp
  queuedBytes m := m.queued
  overruns m := ((ops.overruns m.dsp).1, { m with dsp := (ops.overruns m.dsp).2 })
  primeBuffer request scratch m :=
    ((ops.primeBuffer request scratch m.dsp).1,
      { m with dsp := (ops.primeBuffer request scratch m.dsp).2 })
  retuneBuffer request primed m :=
    ((ops.retuneBuffer request primed m.dsp).1,
      { m with dsp := (ops.retuneBuffer request primed m.dsp).2 })
  read len m :=
    let read := ops.read len m.dsp
    (read.1,
      { dsp := read.2
        queued := m.queued - read.1.bytes
        short := m.short + (len - read.1.bytes) })
  recoverOverrun count fill m :=
    ((ops.recoverOverrun count fill m.dsp).1,
      { m with dsp := (ops.recoverOverrun count fill m.dsp).2 })
  clearOverrunObservation m := { m with dsp := ops.clearOverrunObservation m.dsp }

/-- A read that falls short of nothing takes what `bounded_read` asked for. -/
theorem boundedRead_full {maxsize queued stride : Nat} {data : Scratch maxsize}
    {s : Source (Metered δ)}
    (h : (boundedRead (meter ops) queued stride data s).state.dsp.short = s.dsp.short) :
    (boundedRead (meter ops) queued stride data s).state.dsp.queued =
      s.dsp.queued - s.readSpace queued stride maxsize := by
  rw [boundedRead_state] at h ⊢
  generalize s.readSpace queued stride maxsize = ispace at h ⊢
  unfold readBlock at h ⊢
  by_cases hspace : 0 < ispace
  · rw [if_pos hspace] at h ⊢
    have hgiven : s.dsp.short + (ispace - (ops.read ispace s.dsp.dsp).1.bytes) = s.dsp.short := h
    have hle : (ops.read ispace s.dsp.dsp).1.bytes ≤ ispace :=
      Nat.le_trans (ReadOutcome.bytes_le _) (ReadOutcome.stored_le _)
    have hbytes : (ops.read ispace s.dsp.dsp).1.bytes = ispace := by omega
    show s.dsp.queued - (ops.read ispace s.dsp.dsp).1.bytes = s.dsp.queued - ispace
    rw [hbytes]
  · rw [if_neg hspace]
    show s.dsp.queued = s.dsp.queued - ispace
    omega

/-- A whole number of frames out of a queue, as many as fit. -/
theorem frames_within {stride : Nat} (hstride : 0 < stride) (bytes : Nat) :
    bytes / stride * stride ≤ bytes ∧ bytes < bytes / stride * stride + stride := by
  have hdiv := Nat.div_add_mod bytes stride
  have hmod := Nat.mod_lt bytes hstride
  rw [Nat.mul_comm] at hdiv
  omega

/-- After a read of what `bounded_read` wants, the next arrivals fit into the ring. -/
theorem level_after_read {period quantum ring stride level arrivals : Nat} (hstride : 0 < stride)
    (hperiod : stride ∣ period) (hlt : ring < u32Max)
    (hring : captureBufferRequired period quantum ≤ ring) {s : Source δ}
    (hp : s.setupPeriod = period)
    (hpeak : s.ext.readPeak = (captureFillTargets period quantum ring).2)
    (hlevel : level ≤ ring) (harrive : arrivals ≤ period + quantum - stride) {maxsize : Nat}
    (hroom : s.wantBytes level ≤ maxsize) :
    level - s.readSpace level stride maxsize + arrivals ≤ ring := by
  obtain ⟨htarget, hslack, hhead⟩ := captureFillTargets_room hlt hring
  obtain ⟨hneeded, hdouble⟩ := capture_admitted hlt hring
  have hspace : s.readSpace level stride maxsize =
      min (s.wantBytes level) level / stride * stride := by
    unfold readSpace
    rw [Nat.min_eq_left (Nat.le_trans (Nat.min_le_left _ _) hroom)]
  obtain ⟨hle, hshort⟩ := frames_within hstride (min (s.wantBytes level) level)
  rw [hspace]
  rw [← hpeak] at hslack hhead
  by_cases hz : period = 0
  · -- Without a period the queue is read to the last whole frame.
    have hwant : s.wantBytes level = level := if_neg (by rw [hp, hz]; exact fun h => h rfl)
    rw [hwant, Nat.min_self] at hle hshort ⊢
    omega
  have hframe : stride ≤ period := Nat.le_of_dvd (Nat.pos_of_ne_zero hz) hperiod
  have hwant : s.wantBytes level = satAdd period (level - s.ext.readPeak) := by
    unfold wantBytes
    rw [hp, if_pos hz]
  rw [hwant] at hle hshort ⊢
  unfold satAdd at hle hshort ⊢
  rcases Nat.lt_or_ge s.ext.readPeak level with hbacklog | hhealthy
  · -- A backlog: the read brings the level to the peak less a period, up to a frame.
    omega
  rcases Nat.lt_or_ge level period with hlow | henough
  · -- Less than a period: a frame at most stays.
    omega
  · have hexact : min (min (period + (level - s.ext.readPeak)) u32Max) level = period := by omega
    rw [hexact, Nat.div_mul_cancel hperiod]
    omega

/-! ## Runs -/

/-- A cycle's block, and the bytes that arrive until the next cycle. -/
structure ReadCycle where
  maxsize : Nat
  data : Scratch maxsize
  arrivals : Nat

/-- The cycle up to the arrivals: `bounded_read` of what is queued. -/
def ReadCycle.read (c : ReadCycle) (stride : Nat) (s : Source (Metered δ)) : Source (Metered δ) :=
  (boundedRead (meter ops) s.dsp.queued stride c.data s).state

/-- The runs of `bounded_read` on a ring that was granted for a period and a quantum. -/
def metered (period quantum ring stride : Nat) : System (Source (Metered δ)) ReadCycle where
  init s := s.dsp.queued ≤ ring ∧ s.setupPeriod = period ∧
    s.ext.readPeak = (captureFillTargets period quantum ring).2
  step s c :=
    let s := c.read ops stride s
    some { s with dsp := { s.dsp with queued := s.dsp.queued + c.arrivals } }

/-- A cycle on time: the block holds what is wanted, the read is satisfied in full, and no
more arrives than the ring is made for. -/
structure OnTime (period quantum stride : Nat) (s : Source (Metered δ)) (c : ReadCycle) :
    Prop where
  room : s.wantBytes s.dsp.queued ≤ c.maxsize
  full : (c.read ops stride s).dsp.short = s.dsp.short
  arrivals : c.arrivals ≤ period + quantum - stride

instance (period quantum stride : Nat) (s : Source (Metered δ)) (c : ReadCycle) :
    Decidable (OnTime ops period quantum stride s c) :=
  decidable_of_iff (s.wantBytes s.dsp.queued ≤ c.maxsize ∧
      (c.read ops stride s).dsp.short = s.dsp.short ∧ c.arrivals ≤ period + quantum - stride)
    ⟨fun h => ⟨h.1, h.2.1, h.2.2⟩, fun h => ⟨h.room, h.full, h.arrivals⟩⟩

theorem level_inductive {period quantum ring stride : Nat} (hstride : 0 < stride)
    (hperiod : stride ∣ period) (hlt : ring < u32Max)
    (hring : captureBufferRequired period quantum ≤ ring) :
    Inductive (metered ops period quantum ring stride) (OnTime ops period quantum stride)
      (metered ops period quantum ring stride).init where
  init := fun _ h => h
  step := by
    rintro s c _ ⟨hlevel, hp, hpeak⟩ honTime hstep
    cases hstep
    obtain ⟨hsetup, hext⟩ := boundedRead_geometry (meter ops) s.dsp.queued stride c.data s
    refine ⟨?_, hsetup.trans hp, (congrArg SourcePortExt.readPeak hext).trans hpeak⟩
    have htaken : (c.read ops stride s).dsp.queued =
        s.dsp.queued - s.readSpace s.dsp.queued stride c.maxsize :=
      boundedRead_full ops honTime.full
    show (c.read ops stride s).dsp.queued + c.arrivals ≤ ring
    rw [htaken]
    exact level_after_read hstride hperiod hlt hring hp hpeak hlevel honTime.arrivals honTime.room

/-- The capture ring never overflows under bounded reads. On a ring below `u32::MAX` that
covers what a period of whole frames and a quantum require, the target plus a quantum lies
below the peak and the peak a quantum below the ring; and in every run of cycles on time,
from a level within the ring, the level stays within the ring. -/
theorem capture_ring_bounded {period quantum ring stride : Nat} (hstride : 0 < stride)
    (hperiod : stride ∣ period) (hlt : ring < u32Max)
    (hring : captureBufferRequired period quantum ≤ ring) :
    ((captureFillTargets period quantum ring).1 + quantum ≤
        (captureFillTargets period quantum ring).2 ∧
      (captureFillTargets period quantum ring).2 + quantum ≤ ring) ∧
    ∀ s, Via (metered ops period quantum ring stride) (OnTime ops period quantum stride) s →
      s.dsp.queued ≤ ring := by
  obtain ⟨-, hslack, hhead⟩ := captureFillTargets_room hlt hring
  refine ⟨⟨hslack, hhead⟩, fun s hs => ?_⟩
  exact (hs.invariant (level_inductive ops hstride hperiod hlt hring)).1

/-- Two frames a cycle, on a ring as small as it may be. -/
def pacedSource : Source (Metered Unit) :=
  { fresh ⟨(), 0, 0⟩ with setupPeriod := 8, ext := { readPeak := 16 } }

/-- Two arrivals of a period and a quantum, less a frame, and a late one. -/
def burst : List ReadCycle :=
  [⟨8, ⟨[0, 0, 0, 0, 0, 0, 0, 0], rfl⟩, 8⟩, ⟨8, ⟨[0, 0, 0, 0, 0, 0, 0, 0], rfl⟩, 8⟩,
    ⟨8, ⟨[0, 0, 0, 0, 0, 0, 0, 0], rfl⟩, 3⟩]

/-- Of the first two arrivals one is read. -/
theorem capture_ring_bounded_burst :
    ((captureFillTargets 8 4 20).1 + 4 ≤ (captureFillTargets 8 4 20).2 ∧
      (captureFillTargets 8 4 20).2 + 4 ≤ 20) ∧
    ∃ s, (metered sevens 8 4 20 4).run pacedSource burst = some s ∧ s.dsp.queued = 3 ∧
      s.dsp.queued ≤ 20 := by
  obtain ⟨hgeometry, hbound⟩ := capture_ring_bounded sevens (by decide : 0 < 4)
    (by decide : 4 ∣ 8) (by decide : 20 < u32Max) (by decide : captureBufferRequired 8 4 ≤ 20)
  obtain ⟨s, hrun, hlevel, htested⟩ : ∃ s,
      (metered sevens 8 4 20 4).run pacedSource burst = some s ∧ s.dsp.queued = 3 ∧
      ((metered sevens 8 4 20 4).runTested (fun s c => decide (OnTime sevens 8 4 4 s c))
        pacedSource burst) = some s := by
    refine ⟨_, rfl, ?_, ?_⟩
    · rfl
    · rfl
  have hinit : (metered sevens 8 4 20 4).init pacedSource := ⟨Nat.zero_le _, rfl, rfl⟩
  have hvia : Via (metered sevens 8 4 20 4) (OnTime sevens 8 4 4) s :=
    (via_of_runTested burst (.init hinit) htested).mono fun _ _ he => of_decide_eq_true he
  exact ⟨hgeometry, s, hrun, hlevel, hbound s hvia⟩

end PwOss.Node.Source
