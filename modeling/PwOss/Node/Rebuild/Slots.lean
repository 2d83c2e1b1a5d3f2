import PwOss.Node.Rebuild.Threads

/-
  The two single-slot protocols and the facts the other invariants rest on: who
  owns a BUSY cell, what the cells hold, when the worker counts as active, and
  the publication of the port's generation.

  `Sys.Slots` is the invariant; `slots` states it for every reachable state.
  `resume_rule`, `queuePortRebuild_rule`, `queueRebuild_rule`,
  `queueRequiredRebuilds_rule` and `finishPorts_rule` say once what the data
  loop's queueing functions can do to a property of the state.
-/

namespace PwOss.Node

open PwOss.Backend PwOss.Sys PwOss.Transition

/-! ## Rules for the data loop's functions -/

section Rules
variable {I : Sys → Prop} {s : Sys} {site : QueueSite}

theorem resume_rule (hidle : I { s with data := .idle }) (hports : I { s with data := .ports })
    (hqueued : I { s with data := .portQueued })
    (hnotify : ∀ event, s.pendingMainEvent = some event →
      I { s with pendingMainEvent := none, data := .notify event }) : I (s.resume site) := by
  cases site with
  | wake => exact hidle
  | beforePorts => exact hports
  | inPorts => exact hqueued
  | afterPorts =>
    simp only [Sys.resume, Sys.finishProcess]
    split
    · exact hidle
    · next event h => exact hnotify event h

/-- The order `queue_port_rebuild` submits. -/
def Sys.order (s : Sys) (config : StreamConfig) : RebuildWork :=
  .rebuild
    { generation := s.port.generation, config, retried := false, retireFirst := none,
      queuedAt := s.bumps }

theorem queuePortRebuild_rule (hresume : I (s.resume site))
    (horder : ∀ config, s.port.config = some config →
      I { s with data := .claim (s.order config) (.queued site) }) :
    I (s.queuePortRebuild site) := by
  simp only [Sys.queuePortRebuild]
  split
  · exact hresume
  · next config h => exact horder config h

theorem queueRebuild_rule (hresume : I (s.resume site))
    (horder : ∀ config, s.takeover = false → s.deferred = none → s.port.config = some config →
      I { s with data := .claim (s.order config) (.queued site) })
    (hflush : ∀ work, s.takeover = false → s.deferred = some work →
      I { s with deferred := none, data := .claim work (.flushQueue site) }) :
    I (s.queueRebuild site) := by
  simp only [Sys.queueRebuild]
  split
  · exact hresume
  · next ht =>
    simp only [Bool.not_eq_true] at ht
    split
    · next work hw => exact hflush work ht hw
    · next hd => exact queuePortRebuild_rule hresume (fun config h => horder config ht hd h)

theorem queueRequiredRebuilds_rule (hresume : I (s.resume site))
    (hqueue : s.port.rebuildPending = false → I (s.queueRebuild site)) :
    I (s.queueRequiredRebuilds site) := by
  simp only [Sys.queueRequiredRebuilds]
  split
  · next h =>
    simp only [Bool.and_eq_true, Bool.not_eq_true'] at h
    exact hqueue h.2
  · exact hresume

theorem pollRebuild_rule (hskip : s.takeover = true → I { s with data := .portIo true })
    (hready : s.takeover = false → s.deferred = none → I { s with data := .swapReady })
    (hflush : ∀ work, s.takeover = false → s.deferred = some work →
      I { s with deferred := none, data := .claim work .flushPoll }) : I s.pollRebuild := by
  simp only [Sys.pollRebuild]
  split
  · next ht => exact hskip ht
  · next ht =>
    simp only [Bool.not_eq_true] at ht
    split
    · next work hw => exact hflush work ht hw
    · next hd => exact hready ht hd

end Rules

/-! ## The data loop's private work -/

/-- Between `try_submit`'s two operations: the data loop owns the work cell. -/
def DataPc.publishing : DataPc → Bool
  | .publish .. => true
  | _ => false

/-- Between `take_swap`'s two operations: the data loop owns the mailbox cell. -/
def DataPc.takingSwap : DataPc → Bool
  | .takeBusy => true
  | _ => false

/-- The port's generation is the published one, and counts the bumps. -/
structure Sys.Fenced (s : Sys) : Prop where
  published : s.sharedGeneration = s.port.generation
  counted : s.port.generation = UInt64.ofNat s.bumps

namespace Sys.Fenced
variable {s s' : Sys}

theorem congr (h : s.Fenced) (h1 : s'.sharedGeneration = s.sharedGeneration)
    (h2 : s'.port.generation = s.port.generation) (h3 : s'.bumps = s.bumps) : s'.Fenced :=
  ⟨by rw [h1, h2]; exact h.published, by rw [h2, h3]; exact h.counted⟩

theorem bump (h : s.Fenced) : s.bump.Fenced where
  published := rfl
  counted := by
    show s.port.generation + 1 = UInt64.ofNat (s.bumps + 1)
    rw [h.counted, UInt64.ofNat_add]
    rfl

end Sys.Fenced

/-- `s'` differs from `s` in what the data loop alone reads and writes, and ends
outside both cells. -/
structure Sys.LocalWork (s s' : Sys) : Prop where
  started : s'.started = s.started
  takeover : s'.takeover = s.takeover
  alive : s'.alive = s.alive
  sharedStarted : s'.sharedStarted = s.sharedStarted
  slotState : s'.slotState = s.slotState
  slot : s'.slot = s.slot
  stopping : s'.stopping = s.stopping
  workState : s'.workState = s.workState
  workValue : s'.workValue = s.workValue
  active : s'.active = s.active
  worker : s'.worker = s.worker
  main : s'.main = s.main
  epoch : s'.epoch = s.epoch
  tasks : s'.tasks = s.tasks
  flags : s'.flags = s.flags
  openFds : s'.openFds = s.openFds
  nextFd : s'.nextFd = s.nextFd
  publications : s'.publications = s.publications
  fenced : s.Fenced → s'.Fenced
  publishing : s'.data.publishing = false
  takingSwap : s'.data.takingSwap = false

namespace Sys.LocalWork
variable {s : Sys} {site : QueueSite} {r : Reading}

theorem of_fields {port : Port} {deferred : Option RebuildWork} {event : Option FormatLost}
    {data : DataPc} (hg : port.generation = s.port.generation)
    (hp : data.publishing = false) (ht : data.takingSwap = false) :
    s.LocalWork { s with port, deferred, pendingMainEvent := event, data } := by
  constructor <;> first | rfl | exact hp | exact ht | exact fun h => h.congr rfl hg rfl

/-- Replacing the port's fields other than its generation does not count. -/
theorem of_port (port : Port) {s' : Sys} (hg : port.generation = s.port.generation)
    (h : { s with port }.LocalWork s') : s.LocalWork s' :=
  { h with fenced := fun hs => h.fenced (hs.congr rfl hg rfl) }

theorem of_deferred (deferred : Option RebuildWork) {s' : Sys}
    (h : { s with deferred }.LocalWork s') : s.LocalWork s' :=
  { h with fenced := fun hs => h.fenced (hs.congr rfl rfl rfl) }

theorem resume : s.LocalWork (s.resume site) :=
  resume_rule (of_fields rfl rfl rfl) (of_fields rfl rfl rfl) (of_fields rfl rfl rfl)
    (fun _ _ => of_fields rfl rfl rfl)

theorem queuePortRebuild : s.LocalWork (s.queuePortRebuild site) :=
  queuePortRebuild_rule resume (fun _ _ => of_fields rfl rfl rfl)

theorem queueRebuild : s.LocalWork (s.queueRebuild site) :=
  queueRebuild_rule resume (fun _ _ _ _ => of_fields rfl rfl rfl)
    (fun _ _ _ => of_fields rfl rfl rfl)

theorem queueRequiredRebuilds : s.LocalWork (s.queueRequiredRebuilds site) :=
  queueRequiredRebuilds_rule resume (fun _ => queueRebuild)

theorem pollRebuild : s.LocalWork s.pollRebuild :=
  pollRebuild_rule (fun _ => of_fields rfl rfl rfl) (fun _ _ => of_fields rfl rfl rfl)
    (fun _ _ _ => of_fields rfl rfl rfl)

theorem finishPorts : s.LocalWork (s.finishPorts r) :=
  of_port (s.port.cycle r) rfl queueRequiredRebuilds

theorem submitted (next : AfterSubmit) : s.LocalWork (s.submitted next) := by
  cases next with
  | flushQueue site => exact queuePortRebuild
  | flushPoll => exact of_fields rfl rfl rfl
  | queued site => exact of_port { s.port with rebuildPending := true } rfl resume
  | polled skip => exact of_fields rfl rfl rfl
  | failed => exact of_fields rfl rfl rfl

theorem returned {work : RebuildWork} {next : AfterSubmit} :
    s.LocalWork (s.returned work next) := by
  cases next with
  | flushQueue site => exact of_deferred (some work) resume
  | flushPoll => exact of_fields rfl rfl rfl
  | queued site =>
    exact of_deferred (some work) (of_port { s.port with rebuildPending := true } rfl resume)
  | polled skip => exact of_fields rfl rfl rfl
  | failed => exact of_fields rfl rfl rfl

theorem pollRebuildCompletion {swap : DeviceSwap} :
    s.LocalWork (s.pollRebuildCompletion swap) := by
  simp only [Sys.pollRebuildCompletion]
  split
  · exact of_fields rfl rfl rfl
  · split
    case h_1 | h_4 =>
      constructor <;> first | rfl | exact fun h => .bump (h.congr rfl rfl rfl)
    case h_2 | h_3 => exact of_fields rfl rfl rfl

end Sys.LocalWork

/-- A data-loop step either moves a command or a completion through a cell, queues
a loss on the main loop, or works on the data loop's own state. -/
theorem dataStep_cases {s s' : Sys} {r : Reading} (h : dataStep r s = some s') :
    (∃ work next, s.data = .claim work next ∧ s.workState = .empty ∧
      s' = { s with workState := .busy, data := .publish work next }) ∨
    (∃ work next, s.data = .publish work next ∧
      s' = { s with workValue := some work, workState := .full }.submitted next) ∨
    (s.data = .takeSwap ∧ s.slotState = .full ∧
      s' = { s with slotState := .busy, data := .takeBusy }) ∨
    (∃ swap, s.data = .takeBusy ∧ s.slot = some swap ∧
      s' = { s with slot := none, slotState := .empty, data := .apply swap }) ∨
    (s.data = .takeBusy ∧ s.slot = none ∧
      s' = { s with slotState := .empty, data := .portIo s.port.rebuildPending }) ∨
    (∃ event, s.data = .notify event ∧
      s' = { s with
        tasks := if r.accepted then s.tasks ++ [event] else s.tasks, data := .idle }) ∨
    (s.data.publishing = false ∧ s.data.takingSwap = false ∧ s.LocalWork s') := by
  unfold dataStep at h
  cases hd : s.data <;> simp only [hd] at h
  case idle => cases h
  case claim work next =>
    cases h
    split
    · next he => exact .inl ⟨work, next, rfl, he, rfl⟩
    · exact .inr (.inr (.inr (.inr (.inr (.inr ⟨rfl, rfl, .returned⟩)))))
  case publish work next => exact .inr (.inl ⟨work, next, rfl, (Option.some.inj h).symm⟩)
  case takeSwap =>
    cases h
    split
    · next hf => exact .inr (.inr (.inl ⟨rfl, hf, rfl⟩))
    · exact .inr (.inr (.inr (.inr (.inr (.inr ⟨rfl, rfl, .of_fields rfl rfl rfl⟩)))))
  case takeBusy =>
    split at h
    · next swap hs =>
      exact .inr (.inr (.inr (.inl ⟨swap, rfl, hs, (Option.some.inj h).symm⟩)))
    · next hs => exact .inr (.inr (.inr (.inr (.inl ⟨rfl, hs, (Option.some.inj h).symm⟩))))
  case notify event =>
    exact .inr (.inr (.inr (.inr (.inr (.inl ⟨event, rfl, (Option.some.inj h).symm⟩)))))
  all_goals
    refine .inr (.inr (.inr (.inr (.inr (.inr ⟨rfl, rfl, ?_⟩)))))
    cases h
  case ports =>
    split
    · exact .finishPorts
    · exact .pollRebuild
  case swapReady => split <;> exact .of_fields rfl rfl rfl
  case apply swap => exact .pollRebuildCompletion
  case stampLoss => exact .of_fields rfl rfl rfl
  case portIo skip =>
    split
    · exact .queueRebuild
    · exact .finishPorts
  case portQueued => exact .finishPorts

/-- What no data-loop step touches. -/
theorem dataStep_frame {s s' : Sys} {r : Reading} (h : dataStep r s = some s') :
    s'.main = s.main ∧ s'.started = s.started ∧ s'.takeover = s.takeover ∧
      s'.flags = s.flags ∧ s'.epoch = s.epoch ∧ s'.publications = s.publications := by
  obtain ⟨work, next, -, -, rfl⟩ | ⟨work, next, -, rfl⟩ | ⟨-, -, rfl⟩ | ⟨swap, -, -, rfl⟩ |
    ⟨-, -, rfl⟩ | ⟨event, -, rfl⟩ | ⟨-, -, hl⟩ := dataStep_cases h
  case inr.inl =>
    have hl : Sys.LocalWork { s with workValue := some work, workState := .full } _ :=
      .submitted next
    exact ⟨hl.main, hl.started, hl.takeover, hl.flags, hl.epoch, hl.publications⟩
  case inr.inr.inr.inr.inr.inr =>
    exact ⟨hl.main, hl.started, hl.takeover, hl.flags, hl.epoch, hl.publications⟩
  all_goals exact ⟨rfl, rfl, rfl, rfl, rfl, rfl⟩

/-! ## The work slot -/

def WorkerPc.isTaking : WorkerPc → Bool
  | .taking => true
  | _ => false

/-- The worker has a command: `active` is set. -/
def WorkerPc.running : WorkerPc → Bool
  | .idle | .locked | .taking | .taken _ | .checkClosed | .exited => false
  | _ => true

/-- BUSY has one owner, and the cell follows the state. -/
structure Sys.WorkSlot (s : Sys) : Prop where
  owner : s.data.publishing.toNat + s.worker.isTaking.toNat =
    if s.workState = .busy then 1 else 0
  full : s.workState = .full → s.workValue.isSome
  empty : s.workState = .empty ∨ s.workState = .closed → s.workValue = none
  taking : s.worker.isTaking = true → s.workValue.isSome
  publishing : s.data.publishing = true → s.workValue = none
  active : s.active = s.worker.running
  exited : s.worker = .exited → s.workState = .closed

namespace Sys.WorkSlot
variable {s s' : Sys} {r : Reading}

theorem congr (hs : s.WorkSlot) (h1 : s'.data.publishing = s.data.publishing)
    (h2 : s'.worker = s.worker) (h3 : s'.workState = s.workState)
    (h4 : s'.workValue = s.workValue) (h5 : s'.active = s.active) : s'.WorkSlot := by
  obtain ⟨owner, full, empty, taking, publishing, active, exited⟩ := hs
  constructor <;> simpa only [h1, h2, h3, h4, h5]

/-- A worker step outside the slot. -/
theorem worker_congr (hs : s.WorkSlot) (h1 : s'.data = s.data)
    (h2 : s.worker.isTaking = false) (h2' : s'.worker.isTaking = false)
    (h3 : s'.workState = s.workState) (h4 : s'.workValue = s.workValue)
    (h5 : s'.active = s'.worker.running) (h6 : s'.worker ≠ .exited) : s'.WorkSlot := by
  obtain ⟨owner, full, empty, taking, publishing, -, exited⟩ := hs
  rw [h2] at owner
  exact
    { owner := by simpa only [h1, h2', h3] using owner
      full := by simpa only [h3, h4] using full
      empty := by simpa only [h3, h4] using empty
      taking := by simp [h2']
      publishing := by simpa only [h1, h4] using publishing
      active := h5
      exited := fun h => absurd h h6 }

theorem worker (hs : s.WorkSlot) (h : workerStep r s = some s') : s'.WorkSlot := by
  have hactive := hs.active
  unfold workerStep at h
  cases hw : s.worker <;> simp only [hw] at h hactive
  case locked =>
    cases h
    split
    · next hfull =>
      have howner := hs.owner
      have hpub : s.data.publishing = false := by simpa [hw, hfull, WorkerPc.isTaking] using howner
      exact
        { owner := by simp [hpub, WorkerPc.isTaking]
          full := by simp
          empty := by simp
          taking := fun _ => hs.full hfull
          publishing := by simp [hpub]
          active := hactive
          exited := by simp }
    · exact hs.worker_congr rfl (by rw [hw]; rfl) rfl rfl rfl hactive (by simp)
  case taking =>
    have howner := hs.owner
    have hpub : s.data.publishing = false := by
      simp only [hw, WorkerPc.isTaking, Bool.toNat_true] at howner
      split at howner <;> cases hd : s.data.publishing <;> simp_all
    have hsome := hs.taking (by rw [hw]; rfl)
    split at h
    · cases h
      exact
        { owner := by simp [hpub, WorkerPc.isTaking]
          full := by simp
          empty := by simp
          taking := by simp [WorkerPc.isTaking]
          publishing := by simp
          active := hactive
          exited := by simp }
    · next hnone => simp [hnone] at hsome
  case checkClosed =>
    cases h
    split
    · next hclosed =>
      exact
        { owner := by simpa [hw, WorkerPc.isTaking] using hs.owner
          full := hs.full
          empty := hs.empty
          taking := by simp [WorkerPc.isTaking]
          publishing := hs.publishing
          active := hactive
          exited := fun _ => hclosed }
    · exact hs.worker_congr rfl (by rw [hw]; rfl) rfl rfl rfl hactive (by simp)
  case exited => cases h
  -- every other step leaves the slot alone
  case finish =>
    cases h
    exact hs.worker_congr rfl (by rw [hw]; rfl) rfl rfl rfl rfl (by simp)
  case taken work =>
    cases h
    exact hs.worker_congr rfl (by rw [hw]; rfl) rfl rfl rfl rfl (by simp)
  all_goals
    repeat' split at h
    all_goals cases h
    all_goals
      refine hs.worker_congr rfl (by rw [hw]; rfl) ?_ rfl rfl ?_ ?_ <;>
        simp_all [WorkerPc.isTaking, WorkerPc.running, Sys.closeFds]

theorem of_local {t : Sys} (hl : t.LocalWork s')
    (owner : t.worker.isTaking.toNat = if t.workState = .busy then 1 else 0)
    (full : t.workState = .full → t.workValue.isSome)
    (empty : t.workState = .empty ∨ t.workState = .closed → t.workValue = none)
    (taking : t.worker.isTaking = true → t.workValue.isSome)
    (active : t.active = t.worker.running)
    (exited : t.worker = .exited → t.workState = .closed) : s'.WorkSlot where
  owner := by rw [hl.publishing, hl.worker, hl.workState, ← owner]; simp
  full := by rwa [hl.workState, hl.workValue]
  empty := by rwa [hl.workState, hl.workValue]
  taking := by rwa [hl.worker, hl.workValue]
  publishing := by simp [hl.publishing]
  active := by rwa [hl.active, hl.worker]
  exited := by rwa [hl.worker, hl.workState]

theorem data (hs : s.WorkSlot) (h : dataStep r s = some s') : s'.WorkSlot := by
  have howner := hs.owner
  obtain ⟨work, next, hd, he, rfl⟩ | ⟨work, next, hd, rfl⟩ | ⟨hd, hf, rfl⟩ |
    ⟨swap, hd, -, rfl⟩ | ⟨hd, -, rfl⟩ | ⟨event, hd, rfl⟩ | ⟨hp, -, hl⟩ := dataStep_cases h
  · -- EMPTY → BUSY
    rw [he, if_neg (by simp), hd] at howner
    exact
      { owner := by simp only [DataPc.publishing, Bool.toNat_false, Nat.zero_add] at howner
                    simp [DataPc.publishing, howner]
        full := by simp
        empty := by simp
        taking := hs.taking
        publishing := fun _ => hs.empty (.inl he)
        active := hs.active
        exited := fun h => absurd (hs.exited h) (by simp [he]) }
  · -- BUSY → FULL
    have htake : s.worker.isTaking = false := by
      rw [hd] at howner
      simp only [DataPc.publishing, Bool.toNat_true] at howner
      split at howner <;> cases ht : s.worker.isTaking <;> simp_all
    refine of_local (.submitted next) ?_ ?_ ?_ ?_ hs.active ?_
    · simp [htake]
    · simp
    · simp
    · simp
    · intro he
      have := hs.exited he
      rw [hd] at howner
      simp [DataPc.publishing, this] at howner
  · exact hs.congr (by rw [hd]; rfl) rfl rfl rfl rfl
  · exact hs.congr (by rw [hd]; rfl) rfl rfl rfl rfl
  · exact hs.congr (by rw [hd]; rfl) rfl rfl rfl rfl
  · exact hs.congr (by rw [hd]; rfl) rfl rfl rfl rfl
  · exact hs.congr (hl.publishing.trans hp.symm) hl.worker hl.workState hl.workValue hl.active

theorem main (hs : s.WorkSlot) (h : mainStep r s = some s') : s'.WorkSlot := by
  unfold mainStep at h
  cases hm : s.main <;> simp only [hm] at h
  case clearSlot =>
    have hvalue : s.workState = .empty ∨ s.workState = .closed → s'.WorkSlot := by
      intro hstate
      have howner := hs.owner
      rcases hstate with he | he <;> simp only [he] at h howner <;> cases h
      all_goals
        exact
          { owner := by simpa using howner
            full := by simp
            empty := fun _ => hs.empty (by simp [he])
            taking := hs.taking
            publishing := hs.publishing
            active := hs.active
            exited := fun _ => rfl }
    cases hstate : s.workState with
    | empty => exact hvalue (.inl hstate)
    | closed => exact hvalue (.inr hstate)
    | full => simp [hstate] at h
    | busy => simp [hstate] at h
  -- no other step of the main loop touches the slot
  all_goals
    repeat' split at h
    all_goals cases h
    all_goals exact hs.congr rfl rfl rfl rfl rfl

end Sys.WorkSlot

/-! ## The mailbox -/

def WorkerPc.depositing : WorkerPc → Bool
  | .depositBusy _ => true
  | _ => false

def MainPc.discarding : MainPc → Bool
  | .discardBusy _ => true
  | _ => false

/-- What a step hands over to is a step's beginning, outside the cell. -/
def MainPc.sequenced : MainPc → Bool
  | .drop _ next | .discard next | .discardBusy next => !next.discarding && next.sequenced
  | .waitIdle next stopped =>
    !next.discarding && next.sequenced && !stopped.discarding && stopped.sequenced
  | _ => true

@[simp] theorem Install.done_discarding (i : Install) (c : StreamConfig) (res : Int) :
    (i.done c res).discarding = false := by
  cases i <;> simp only [Install.done] <;> (try split) <;> rfl

@[simp] theorem Call.released_discarding (c : Call) (res : Int) :
    (c.released res).discarding = false := by
  cases c <;> simp only [Call.released] <;> (try split) <;> rfl

@[simp] theorem Call.enter_discarding (c : Call) : c.enter.discarding = false := by
  cases c <;> rfl

@[simp] theorem Install.done_sequenced (i : Install) (c : StreamConfig) (res : Int) :
    (i.done c res).sequenced = true := by
  cases i <;> simp only [Install.done] <;> (try split) <;> rfl

@[simp] theorem Call.released_sequenced (c : Call) (res : Int) :
    (c.released res).sequenced = true := by
  cases c <;> simp only [Call.released] <;> (try split) <;> rfl

@[simp] theorem Call.enter_sequenced (c : Call) : c.enter.sequenced = true := by
  cases c <;> rfl

/-- BUSY has one owner, and the cell follows the state. -/
structure Sys.Mailbox (s : Sys) : Prop where
  owner : s.data.takingSwap.toNat + s.worker.depositing.toNat + s.main.discarding.toNat =
    if s.slotState = .busy then 1 else 0
  full : s.slotState = .full → s.slot.isSome
  empty : s.slotState = .empty → s.slot = none
  taking : s.data.takingSwap = true → s.slot.isSome
  sequenced : s.main.sequenced = true

namespace Sys.Mailbox
variable {s s' : Sys} {r : Reading}

theorem congr (hs : s.Mailbox) (h1 : s'.data.takingSwap = s.data.takingSwap)
    (h2 : s'.worker.depositing = s.worker.depositing)
    (h3 : s'.main = s.main) (h4 : s'.slotState = s.slotState)
    (h5 : s'.slot = s.slot) : s'.Mailbox := by
  obtain ⟨owner, full, empty, taking, sequenced⟩ := hs
  constructor <;> simpa only [h1, h2, h3, h4, h5]

/-- A main-loop step outside the mailbox. -/
theorem main_congr (hs : s.Mailbox) (h1 : s'.data = s.data) (h2 : s'.worker = s.worker)
    (h3 : s.main.discarding = false) (h3' : s'.main.discarding = false)
    (h4 : s'.slotState = s.slotState) (h5 : s'.slot = s.slot)
    (h6 : s'.main.sequenced = true) : s'.Mailbox := by
  obtain ⟨owner, full, empty, taking, -⟩ := hs
  rw [h3] at owner
  exact
    { owner := by simpa only [h1, h2, h3', h4] using owner
      full := by simpa only [h4, h5] using full
      empty := by simpa only [h4, h5] using empty
      taking := by simpa only [h1, h5] using taking
      sequenced := h6 }

/-- Nobody owns the cell of a slot that is not BUSY. -/
theorem not_owned (hs : s.Mailbox) (h : s.slotState ≠ .busy) :
    s.data.takingSwap = false ∧ s.worker.depositing = false ∧ s.main.discarding = false := by
  have howner := hs.owner
  rw [if_neg h] at howner
  refine ⟨?_, ?_, ?_⟩
  · cases hd : s.data.takingSwap <;> simp_all
  · cases hw : s.worker.depositing <;> simp_all
  · cases hm : s.main.discarding <;> simp_all

theorem data (hs : s.Mailbox) (h : dataStep r s = some s') : s'.Mailbox := by
  have howner := hs.owner
  obtain ⟨work, next, hd, -, rfl⟩ | ⟨work, next, hd, rfl⟩ | ⟨hd, hf, rfl⟩ |
    ⟨swap, hd, hsome, rfl⟩ | ⟨hd, hnone, rfl⟩ | ⟨event, hd, rfl⟩ | ⟨-, ht, hl⟩ :=
    dataStep_cases h
  · exact hs.congr (by rw [hd]; rfl) rfl rfl rfl rfl
  · have hl : LocalWork { s with workValue := some work, workState := .full } _ :=
      .submitted next
    exact hs.congr (by rw [hl.takingSwap, hd]; rfl) (by rw [hl.worker]) hl.main
      hl.slotState hl.slot
  · obtain ⟨-, hw, hm⟩ := hs.not_owned (by simp [hf])
    exact
      { owner := by simp [DataPc.takingSwap, hw, hm]
        full := by simp
        empty := by simp
        taking := fun _ => hs.full hf
        sequenced := hs.sequenced }
  · rw [hd] at howner
    have hown : s.worker.depositing = false ∧ s.main.discarding = false := by
      simp only [DataPc.takingSwap, Bool.toNat_true] at howner
      split at howner <;> cases hw : s.worker.depositing <;> cases hm : s.main.discarding <;>
        simp_all
    exact
      { owner := by simp [DataPc.takingSwap, hown.1, hown.2]
        full := by simp
        empty := by simp
        taking := by simp [DataPc.takingSwap]
        sequenced := hs.sequenced }
  · have := hs.taking (by rw [hd]; rfl)
    simp [hnone] at this
  · exact hs.congr (by rw [hd]; rfl) rfl rfl rfl rfl
  · exact hs.congr (hl.takingSwap.trans ht.symm) (by rw [hl.worker]) hl.main
      hl.slotState hl.slot

theorem worker (hs : s.Mailbox) (h : workerStep r s = some s') : s'.Mailbox := by
  unfold workerStep at h
  cases hw : s.worker <;> simp only [hw] at h
  case deposit swap =>
    split at h
    · cases h
    · next hbusy =>
      obtain ⟨hd, -, hm⟩ := hs.not_owned hbusy
      cases h
      exact
        { owner := by simp [WorkerPc.depositing, hd, hm]
          full := by simp
          empty := by simp
          taking := hs.taking
          sequenced := hs.sequenced }
  case depositBusy swap =>
    have howner := hs.owner
    have hown : s.data.takingSwap = false ∧ s.main.discarding = false := by
      simp only [hw, WorkerPc.depositing, Bool.toNat_true] at howner
      split at howner <;> cases hd : s.data.takingSwap <;> cases hm : s.main.discarding <;>
        simp_all
    cases h
    exact
      { owner := by split <;> simp [WorkerPc.depositing, hown.1, hown.2]
        full := by simp
        empty := by simp
        taking := by simp
        sequenced := hs.sequenced }
  all_goals
    repeat' split at h
    all_goals cases h
    all_goals
      refine hs.congr rfl ?_ rfl rfl rfl
      rw [hw]
      rfl

theorem main (hs : s.Mailbox) (h : mainStep r s = some s') : s'.Mailbox := by
  have hseq := hs.sequenced
  unfold mainStep at h
  cases hm : s.main <;> simp only [hm] at h hseq
  case discard next =>
    split at h
    · cases h
    · next hbusy =>
      obtain ⟨hd, hw, -⟩ := hs.not_owned hbusy
      cases h
      exact
        { owner := by simp [MainPc.discarding, hd, hw]
          full := by simp
          empty := by simp
          taking := hs.taking
          sequenced := hseq }
  case discardBusy next =>
    have howner := hs.owner
    have hown : s.data.takingSwap = false ∧ s.worker.depositing = false := by
      simp only [hm, MainPc.discarding, Bool.toNat_true] at howner
      split at howner <;> cases hd : s.data.takingSwap <;> cases hw : s.worker.depositing <;>
        simp_all
    cases h
    exact
      { owner := by simp [MainPc.discarding, hown.1, hown.2]
        full := by simp
        empty := by simp
        taking := by simp [hown.1]
        sequenced := hseq }
  -- the remaining steps hand over to the beginning of another
  all_goals simp only [MainPc.sequenced, Bool.and_eq_true, Bool.not_eq_true'] at hseq
  all_goals
    repeat' split at h
    all_goals cases h
    all_goals
      refine hs.main_congr rfl rfl (by rw [hm]; rfl) ?_ rfl rfl ?_ <;>
        first | rfl | simp [MainPc.sequenced, hseq]

end Sys.Mailbox

/-! ## Lifetime and generation -/

/-- `clear` has revoked the node. -/
def MainPc.closed : MainPc → Bool
  | .clearStopping | .clearSlot | .clearJoin | .cleared => true
  | .drop _ next | .discard next | .discardBusy next => next.closed
  | _ => false

/-- `clear` has asked the worker to stop. -/
def MainPc.stopped : MainPc → Bool
  | .clearSlot | .clearJoin | .cleared => true
  | .drop _ next | .discard next | .discardBusy next => next.stopped
  | _ => false

theorem MainPc.closed_of_stopped {pc : MainPc} (h : pc.stopped = true) : pc.closed = true := by
  induction pc <;> simp_all [stopped, closed]

/-- No wait is followed by `clear`'s own steps. -/
def MainPc.waitsAlive : MainPc → Bool
  | .waitIdle next stopped =>
    !next.closed && !next.stopped && next.waitsAlive && !stopped.closed && !stopped.stopped &&
      stopped.waitsAlive
  | .drop _ next | .discard next | .discardBusy next => next.waitsAlive
  | _ => true

@[simp] theorem Install.done_closed (i : Install) (c : StreamConfig) (res : Int) :
    (i.done c res).closed = false ∧ (i.done c res).stopped = false ∧
      (i.done c res).waitsAlive = true := by
  cases i <;> simp only [Install.done] <;> (try split) <;> exact ⟨rfl, rfl, rfl⟩

@[simp] theorem Call.released_closed (c : Call) (res : Int) :
    (c.released res).closed = false ∧ (c.released res).stopped = false ∧
      (c.released res).waitsAlive = true := by
  cases c <;> simp only [Call.released] <;> (try split) <;> exact ⟨rfl, rfl, rfl⟩

@[simp] theorem Call.enter_closed (c : Call) :
    c.enter.closed = false ∧ c.enter.stopped = false ∧ c.enter.waitsAlive = true := by
  cases c <;> exact ⟨rfl, rfl, rfl⟩

/-- The lifetime flags follow `clear`, and the port's generation is fenced. -/
structure Sys.Lifetime (s : Sys) : Prop where
  alive : s.alive = !s.main.closed
  stopping : s.stopping = s.main.stopped
  waits : s.main.waitsAlive = true
  closed : s.workState = .closed → s.stopping = true
  fenced : s.Fenced

namespace Sys.Lifetime
variable {s s' : Sys} {r : Reading}

theorem congr (hs : s.Lifetime) (h1 : s'.alive = s.alive) (h2 : s'.stopping = s.stopping)
    (h3 : s'.main = s.main) (h4 : s'.workState = .closed → s.workState = .closed)
    (h5 : s.Fenced → s'.Fenced) : s'.Lifetime where
  alive := by rw [h1, h3]; exact hs.alive
  stopping := by rw [h2, h3]; exact hs.stopping
  waits := by rw [h3]; exact hs.waits
  closed := fun h => by rw [h2]; exact hs.closed (h4 h)
  fenced := h5 hs.fenced

theorem data (hs : s.Lifetime) (h : dataStep r s = some s') : s'.Lifetime := by
  obtain ⟨work, next, hd, -, rfl⟩ | ⟨work, next, hd, rfl⟩ | ⟨hd, hf, rfl⟩ |
    ⟨swap, hd, hsome, rfl⟩ | ⟨hd, hnone, rfl⟩ | ⟨event, hd, rfl⟩ | ⟨-, ht, hl⟩ :=
    dataStep_cases h
  · exact hs.congr rfl rfl rfl (by simp) (fun h => h.congr rfl rfl rfl)
  · have hl : LocalWork { s with workValue := some work, workState := .full } _ :=
      .submitted next
    exact hs.congr hl.alive hl.stopping hl.main (by simp [hl.workState])
      (fun h => hl.fenced (h.congr rfl rfl rfl))
  · exact hs.congr rfl rfl rfl id (fun h => h.congr rfl rfl rfl)
  · exact hs.congr rfl rfl rfl id (fun h => h.congr rfl rfl rfl)
  · exact hs.congr rfl rfl rfl id (fun h => h.congr rfl rfl rfl)
  · exact hs.congr rfl rfl rfl id (fun h => h.congr rfl rfl rfl)
  · exact hs.congr hl.alive hl.stopping hl.main (by rw [hl.workState]; exact id) hl.fenced

theorem worker (hs : s.Lifetime) (h : workerStep r s = some s') : s'.Lifetime := by
  unfold workerStep at h
  cases hw : s.worker <;> simp only [hw] at h
  all_goals
    repeat' split at h
    all_goals cases h
    all_goals
      refine hs.congr rfl rfl rfl ?_ (fun h => h.congr rfl rfl rfl)
      first | exact id | simp

theorem main (hs : s.Lifetime) (h : mainStep r s = some s') : s'.Lifetime := by
  obtain ⟨halive, hstopping, hwaits, hclosed, hfence⟩ := hs
  have hkeep : ∀ {t : Sys}, t.sharedGeneration = s.sharedGeneration →
      t.port.generation = s.port.generation → t.bumps = s.bumps → t.Fenced :=
    fun h1 h2 h3 => hfence.congr h1 h2 h3
  have hbump : ∀ {t : Sys}, t.sharedGeneration = s.bump.sharedGeneration →
      t.port.generation = s.bump.port.generation → t.bumps = s.bump.bumps → t.Fenced :=
    fun h1 h2 h3 => hfence.bump.congr h1 h2 h3
  unfold mainStep at h
  cases hm : s.main <;> simp only [hm] at h halive hstopping hwaits
  case clearSlot =>
    split at h
    case h_3 | h_4 => cases h
    all_goals
      cases h
      exact ⟨halive, hstopping, rfl, fun _ => hstopping, hkeep rfl rfl rfl⟩
  case clearStopping =>
    cases h
    exact ⟨halive, rfl, rfl, fun _ => rfl, hkeep rfl rfl rfl⟩
  case clearClose =>
    cases h
    exact ⟨rfl, hstopping, rfl, hclosed, hkeep rfl rfl rfl⟩
  case waitIdle next stopped =>
    simp only [MainPc.waitsAlive, Bool.and_eq_true, Bool.not_eq_true'] at hwaits
    have hs : s.stopping = false := hstopping
    repeat' split at h
    all_goals cases h
    · exact ⟨by simp [halive, hwaits, MainPc.closed], by simp [hs, hwaits], by simp [hwaits],
        hclosed, hkeep rfl rfl rfl⟩
    · next hstop => simp [hs] at hstop
  case swapQuery caller config dsp res =>
    repeat' split at h
    all_goals cases h
    · exact ⟨halive, hstopping, rfl, hclosed, hkeep rfl rfl rfl⟩
    · refine ⟨halive.trans ?_, hstopping.trans ?_, ?_, hclosed, hbump rfl rfl rfl⟩ <;>
        simp [MainPc.closed, MainPc.stopped, MainPc.waitsAlive]
  case stopQuery suspend wasStarted =>
    repeat' split at h
    all_goals cases h
    · exact ⟨halive, hstopping, rfl, hclosed, hkeep rfl rfl rfl⟩
    · exact ⟨halive, hstopping, rfl, hclosed, hbump rfl rfl rfl⟩
    · exact ⟨halive, hstopping, rfl, hclosed, hbump rfl rfl rfl⟩
  case fence caller config =>
    repeat' split at h
    all_goals cases h
    · exact ⟨by simp [halive, MainPc.closed], by simp [hstopping, MainPc.stopped], by simp,
        hclosed, hkeep rfl rfl rfl⟩
    · exact ⟨halive, hstopping, by cases caller <;> rfl, hclosed, hbump rfl rfl rfl⟩
  case releaseQuery =>
    repeat' split at h
    all_goals cases h
    · exact ⟨halive, hstopping, rfl, hclosed, hkeep rfl rfl rfl⟩
    · exact ⟨halive, hstopping, rfl, hclosed, hbump rfl rfl rfl⟩
  -- no other step touches the lifetime or the generation
  all_goals
    repeat' split at h
    all_goals cases h
    all_goals
      refine ⟨?_, ?_, ?_, hclosed, hkeep rfl rfl rfl⟩ <;>
        first | rfl | assumption | simp_all [MainPc.closed, MainPc.stopped]

end Sys.Lifetime

/-! ## Every reachable state -/

structure Sys.Slots (s : Sys) : Prop where
  work : s.WorkSlot
  mailbox : s.Mailbox
  life : s.Lifetime

namespace Sys.Slots
variable {s s' : Sys} {e : Event}

theorem initial : Sys.initial.Slots where
  work := ⟨rfl, nofun, fun _ => rfl, nofun, nofun, rfl, nofun⟩
  mailbox := ⟨rfl, nofun, fun _ => rfl, nofun, rfl⟩
  life := ⟨rfl, rfl, rfl, nofun, rfl, rfl⟩

/-- Private work of the data loop, outside both cells. -/
theorem of_localWork (hs : s.Slots) (hp : s.data.publishing = false)
    (ht : s.data.takingSwap = false) (hl : s.LocalWork s') : s'.Slots where
  work := hs.work.congr (hl.publishing.trans hp.symm) hl.worker hl.workState hl.workValue
    hl.active
  mailbox := hs.mailbox.congr (hl.takingSwap.trans ht.symm) (by rw [hl.worker]) hl.main
    hl.slotState hl.slot
  life := hs.life.congr hl.alive hl.stopping hl.main (by rw [hl.workState]; exact id)
    hl.fenced

theorem step (hs : s.Slots) (h : step s e = some s') : s'.Slots := by
  cases e with
  | wake ready | process ready =>
    simp only [Node.step] at h
    split at h
    · next hidle =>
      cases h
      split
      · exact hs.of_localWork (by rw [hidle.1]; rfl) (by rw [hidle.1]; rfl)
          .queueRequiredRebuilds
      · exact hs
    · cases h
  | data r => exact ⟨hs.work.data h, hs.mailbox.data h, hs.life.data h⟩
  | worker r => exact ⟨hs.work.worker h, hs.mailbox.worker h, hs.life.worker h⟩
  | main r => exact ⟨hs.work.main h, hs.mailbox.main h, hs.life.main h⟩
  | call c =>
    simp only [Node.step] at h
    split at h
    · next hidle =>
      cases h
      obtain ⟨h1, h2, h3⟩ := Call.enter_closed c
      obtain ⟨halive, hstopping, -, hclosed, hfence⟩ := hs.life
      rw [hidle] at halive hstopping
      exact
        { work := hs.work.congr rfl rfl rfl rfl rfl
          mailbox := hs.mailbox.main_congr rfl rfl (by rw [hidle]; rfl) (by simp) rfl rfl
            (by simp)
          life :=
            ⟨by rw [h1]; exact halive, by rw [h2]; exact hstopping, h3, hclosed,
              hfence.congr rfl rfl rfl⟩ }
    · cases h
  | deliver =>
    simp only [Node.step, deliver] at h
    repeat' split at h
    all_goals cases h
    all_goals
      exact ⟨hs.work.congr rfl rfl rfl rfl rfl, hs.mailbox.congr rfl rfl rfl rfl rfl,
        hs.life.congr rfl rfl rfl id (fun h => h.congr rfl rfl rfl)⟩

end Sys.Slots

theorem slots {P : Sys → Event → Prop} {s : Sys} (h : Via node P s) : s.Slots :=
  h.invariant
    { init := fun _ h0 => h0 ▸ Sys.Slots.initial
      step := fun _ _ _ hs _ h => hs.step h }

end PwOss.Node
