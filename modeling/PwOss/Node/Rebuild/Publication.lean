import PwOss.Node.Rebuild.Quiescence

/-
  The published Format param against the port's config.

  A lost format reaches the main loop as a message that carries the publication
  epoch of the moment the loss was recorded; a later publication makes the
  message stale. The invariant `Sys.Published` says what the flags, the port and
  the messages under way promise at each step of a call. It holds along every
  run whose steps are `Agreeing`: no loss is stamped between a call's query of
  the config and the publication of its answer, no Props rebuild reinstalls a
  format that was lost after its snapshot, and no epoch is met again after it
  wrapped. `lateLossRun` stamps a loss in the first window.

  Correspondence (Rust ↔ Lean):
    `events.rs` `emit_format_lost_now`        ↔ `Sys.deliver`
    `ports.rs` `publish_format_state`         ↔ `Sys.publishFormat`
    a loss recorded and not yet delivered     ↔ `Sys.losing`, `Sys.outstanding`
-/

namespace PwOss.Node

open PwOss.Backend PwOss.Sys PwOss.Transition

/-! ## Losses under way -/

/-- The data loop is about to stamp the loss of the port's format. -/
def DataPc.losing : DataPc → Bool
  | .claim _ .failed | .publish _ .failed | .stampLoss => true
  | _ => false

/-- The message in `queue_main_event`'s hand. -/
def DataPc.message? : DataPc → Option FormatLost
  | .notify event => some event
  | _ => none

/-- The losses that are stamped and not delivered. -/
def Sys.outstanding (s : Sys) : List FormatLost :=
  s.pendingMainEvent.toList ++ (s.data.message?.toList ++ s.tasks)

/-- A loss under way that the main loop will accept. -/
def Sys.Current (s : Sys) : Prop := ∃ m ∈ s.outstanding, m.stamp = s.publications

/-- What a step of the data loop does to the config and to the losses. -/
inductive News (s s' : Sys) : Prop where
  /-- Neither changes. -/
  | none (config : s'.port.config = s.port.config)
      (messages : ∀ m, m ∈ s'.outstanding ↔ m ∈ s.outstanding)
      (losing : s'.data.losing = s.data.losing)
  /-- An `Installed` completion replaces the config of a configured port. -/
  | installed (before : s.port.config.isSome) (after : s'.port.config.isSome)
      (messages : ∀ m, m ∈ s'.outstanding ↔ m ∈ s.outstanding)
      (losing : s.data.losing = false) (losing' : s'.data.losing = false)
  /-- A `Failed` completion drops the config. -/
  | failed (after : s'.port.config = .none)
      (messages : ∀ m, m ∈ s'.outstanding ↔ m ∈ s.outstanding)
      (losing' : s'.data.losing = true)
  /-- The loss is stamped. -/
  | stamped (at_ : s.data = .stampLoss) (config : s'.port.config = s.port.config)
      (messages : ∀ m, m ∈ s'.outstanding → m = ⟨s.epoch, s.publications⟩ ∨ m ∈ s.outstanding)
      (stamp : ⟨s.epoch, s.publications⟩ ∈ s'.outstanding)
      (losing' : s'.data.losing = false)

/-- `s'` is `s` as far as the publication goes, with the data loop's hand empty. -/
structure Sys.SameNews (s s' : Sys) : Prop where
  config : s'.port.config = s.port.config
  messages : ∀ m, m ∈ s'.outstanding ↔ m ∈ s.pendingMainEvent.toList ++ s.tasks
  losing : s'.data.losing = false

namespace Sys.SameNews
variable {s s' : Sys} {site : QueueSite} {r : Reading}

theorem of_fields {port : Port} {deferred : Option RebuildWork} {data : DataPc}
    (hc : port.config = s.port.config) (hm : data.message? = none) (hl : data.losing = false) :
    s.SameNews { s with port, deferred, data } where
  config := hc
  messages := by simp [outstanding, hm]
  losing := hl

theorem of_port (port : Port) (hc : port.config = s.port.config)
    (h : { s with port }.SameNews s') : s.SameNews s' :=
  ⟨h.config.trans hc, h.messages, h.losing⟩

theorem resume : s.SameNews (s.resume site) := by
  refine resume_rule (of_fields rfl rfl rfl) (of_fields rfl rfl rfl) (of_fields rfl rfl rfl)
    (fun event h => ⟨rfl, fun m => ?_, rfl⟩)
  simp [outstanding, DataPc.message?, h]

theorem queuePortRebuild : s.SameNews (s.queuePortRebuild site) :=
  queuePortRebuild_rule resume (fun _ _ => of_fields rfl rfl rfl)

theorem queueRebuild : s.SameNews (s.queueRebuild site) :=
  queueRebuild_rule resume (fun _ _ _ _ => of_fields rfl rfl rfl)
    (fun _ _ _ => of_fields rfl rfl rfl)

theorem queueRequiredRebuilds : s.SameNews (s.queueRequiredRebuilds site) :=
  queueRequiredRebuilds_rule resume (fun _ => queueRebuild)

theorem pollRebuild : s.SameNews s.pollRebuild :=
  pollRebuild_rule (fun _ => of_fields rfl rfl rfl) (fun _ _ => of_fields rfl rfl rfl)
    (fun _ _ _ => of_fields rfl rfl rfl)

theorem finishPorts : s.SameNews (s.finishPorts r) :=
  of_port (s.port.cycle r) rfl queueRequiredRebuilds

/-- From a counter without a message or a loss in hand this is no news. -/
theorem news (h : s.SameNews s') (hm : s.data.message? = none) (hl : s.data.losing = false) :
    News s s' :=
  .none h.config (fun m => by rw [h.messages m]; simp [outstanding, hm])
    (h.losing.trans hl.symm)

end Sys.SameNews

section DataSteps
variable {s s' : Sys} {r : Reading}

/-- The submission is done, or the work deferred: what follows brings no news. -/
theorem Sys.SameNews.submitted {next : AfterSubmit} (h : next ≠ .failed) :
    s.SameNews (s.submitted next) := by
  cases next with
  | flushQueue site => exact queuePortRebuild
  | queued site => exact of_port { s.port with rebuildPending := true } rfl resume
  | flushPoll | polled => exact of_fields rfl rfl rfl
  | failed => exact absurd rfl h

theorem Sys.SameNews.returned {work : RebuildWork} {next : AfterSubmit} (h : next ≠ .failed) :
    s.SameNews (s.returned work next) := by
  cases next with
  | flushQueue site =>
    have hr : Sys.SameNews _ (Sys.resume site { s with deferred := some work }) := .resume
    exact ⟨hr.config, hr.messages, hr.losing⟩
  | queued site =>
    have hr : Sys.SameNews _ (Sys.resume site
        { s with deferred := some work, port := { s.port with rebuildPending := true } }) := .resume
    exact ⟨hr.config, hr.messages, hr.losing⟩
  | flushPoll | polled => exact of_fields rfl rfl rfl
  | failed => exact absurd rfl h

/-- The completion in hand becomes news when it is current. -/
theorem apply_news (hb : s.Bookkeeping) {swap : DeviceSwap} (hd : s.data = .apply swap) :
    News s (s.pollRebuildCompletion swap) := by
  obtain ⟨hcur, -, -⟩ := hb.apply_current hd
  have hconfig : s.port.config.isSome = true := by
    have hl := hb.held.ledger (hb.no_takeover (by rw [hd]; rfl))
    exact hl.config (by simp [hd, DataPc.claims])
  have hmessages : ∀ m, m ∈ s.outstanding ↔ m ∈ s.pendingMainEvent.toList ++ s.tasks := by
    simp [Sys.outstanding, hd, DataPc.message?]
  have hlosing : s.data.losing = false := by rw [hd]; rfl
  simp only [Sys.pollRebuildCompletion]
  split
  · exact .none rfl (fun m => (hmessages m).symm) hlosing.symm
  · split
    · exact .installed hconfig rfl (fun m => (hmessages m).symm) hlosing rfl
    · exact .none rfl (fun m => (hmessages m).symm) hlosing.symm
    · exact .none rfl (fun m => (hmessages m).symm) hlosing.symm
    · exact .failed rfl (fun m => (hmessages m).symm) rfl

theorem dataStep_news (hb : s.Bookkeeping) (h : dataStep r s = some s')
    (hr : r.accepted = true) : News s s' := by
  unfold dataStep at h
  cases hd : s.data <;> simp only [hd] at h
  case idle => cases h
  case claim work next =>
    cases h
    split
    · refine .none rfl (fun m => ?_) ?_
      · simp [Sys.outstanding, hd, DataPc.message?]
      · rw [hd]
        cases next <;> rfl
    · by_cases hf : next = .failed
      · subst hf
        refine .none rfl (fun m => ?_) (by rw [hd]; rfl)
        simp [Sys.outstanding, Sys.returned, hd, DataPc.message?]
      · refine (Sys.SameNews.returned hf).news (by rw [hd]; rfl) ?_
        rw [hd]
        cases next <;> first | rfl | exact absurd rfl hf
  case publish work next =>
    cases h
    by_cases hf : next = .failed
    · subst hf
      refine .none rfl (fun m => ?_) (by rw [hd]; rfl)
      simp [Sys.outstanding, Sys.submitted, hd, DataPc.message?]
    · have hn : Sys.SameNews { s with workValue := some work, workState := .full } _ :=
        .submitted hf
      refine Sys.SameNews.news (s := s) ⟨hn.config, hn.messages, hn.losing⟩ (by rw [hd]; rfl) ?_
      rw [hd]
      cases next <;> first | rfl | exact absurd rfl hf
  case takeBusy =>
    split at h <;> cases h <;>
      exact .none rfl (fun m => by simp [Sys.outstanding, hd, DataPc.message?]) (by rw [hd]; rfl)
  case stampLoss =>
    cases h
    refine .stamped hd rfl (fun m hm => ?_) (by simp [Sys.outstanding]) rfl
    simp only [Sys.outstanding, DataPc.message?, Option.toList, List.mem_append,
      List.mem_singleton, List.nil_append] at hm ⊢
    rcases hm with hm | hm
    · exact .inl hm
    · exact .inr (.inr (.inr hm))
  case notify event =>
    cases h
    rw [hr]
    refine .none rfl (fun m => ?_) (by rw [hd]; rfl)
    simp [Sys.outstanding, hd, DataPc.message?, or_comm]
  case apply swap =>
    cases h
    exact apply_news hb hd
  all_goals
    cases h
    refine Sys.SameNews.news ?_ (by rw [hd]; rfl) (by rw [hd]; rfl)
  case ports =>
    split
    · exact .finishPorts
    · exact .pollRebuild
  case swapReady | takeSwap => split <;> exact ⟨rfl, fun m => Iff.rfl, rfl⟩
  case portIo skip =>
    split
    · exact .queueRebuild
    · exact .finishPorts
  case portQueued => exact .finishPorts

end DataSteps

/-! ## What a call promises -/

/-- What the main loop's program counter promises of the publication. -/
inductive Promise where
  /-- The flags follow the config, or a current loss will make them follow. -/
  | agree
  /-- The call publishes whatever it will read. -/
  | free
  /-- The port has no format, or the call publishes that it has none. -/
  | cleared
  /-- The call publishes the format it read. -/
  | configured
  deriving DecidableEq

/-- The promise of a call at its `release_rebuild_takeover`. -/
def Call.promise (call : Call) (res : Int) : Promise :=
  match call with
  | .suspend => .cleared
  | .setFormat _ => .free
  | .releaseFormat => if res = 0 then .cleared else .agree
  | .props => if res < 0 then .cleared else .agree
  | _ => .agree

def Install.promise : Install → Promise
  | .setFormat => .free
  | .props => .agree

def MainPc.promise : MainPc → Promise
  | .drop _ next | .discard next | .discardBusy next | .waitIdle next _ => next.promise
  | .fence caller _ | .opening caller _ _ | .retireQuery caller _ | .swapQuery caller _ _ _ =>
    caller.promise
  | .releaseTakeover call _ res => call.promise res
  | .formatQuery call _ => call.promise 0
  | .publish _ config _ => if config.isSome then .configured else .cleared
  | .emitLost => .cleared
  | _ => .agree

/-- The flags of a port without a loss under way follow its config, and a loss
that the main loop will accept stands for a port without a format. -/
structure Sys.Agrees (s : Sys) : Prop where
  current : s.Current → s.port.config = none
  flags : ¬ s.Current → s.data.losing = false → (s.flags = .readwrite ↔ s.port.config.isSome)

def Sys.Keeps (s : Sys) : Promise → Prop
  | .agree => s.Agrees
  | .free => True
  | .cleared => s.port.config = none
  | .configured => s.port.config.isSome = true ∨ s.data.losing = true

/-- The losses under way carry the epochs they were stamped with. -/
structure Sys.Stamped (s : Sys) : Prop where
  epoch : s.epoch = UInt64.ofNat s.publications
  stamps : ∀ m ∈ s.outstanding,
    m.expectedEpoch = UInt64.ofNat m.stamp ∧ m.stamp ≤ s.publications
  losing : s.data.losing = true → s.port.config = none

/-- The publication invariant. Only the publication itself holds a format the
call read. -/
structure Sys.Published (s : Sys) : Prop extends s.Stamped where
  promise : s.Keeps s.main.promise
  answer : s.main.promise = .configured →
    ∃ call config res, s.main = .publish call (some config) res

@[simp] theorem Call.released_promise (c : Call) (res : Int) :
    (c.released res).promise = c.promise res := by
  cases c <;> simp only [Call.released, Call.promise] <;> (try split) <;> rfl

theorem Call.enter_promise (c : Call) : c.enter.promise = .agree ∨ c.enter.promise = .free := by
  cases c <;> simp [Call.enter, MainPc.promise, Install.promise]

/-! ## The condition on the steps -/

/-- A call read a format from the port and has not published it. -/
def MainPc.answering : MainPc → Bool
  | .publish _ (some _) _ => true
  | _ => false

/-- The loops accept the call or the task of this event. -/
def Event.accepted : Event → Bool
  | .data r | .main r => r.accepted
  | _ => true

/-- `e` stamps no loss between a call's query and its publication, reinstalls no
format lost since the Props call's snapshot, and meets no epoch again. -/
def Sys.inStep (s : Sys) : Event → Bool
  | .data _ => !(decide (s.data = .stampLoss) && s.main.answering)
  | .main _ =>
    match s.main with
    | .swapQuery .props _ _ res => res.config?.isNone || s.port.config.isSome
    | _ => true
  | .deliver =>
    match s.tasks with
    | [] => true
    | m :: _ => s.epoch != m.expectedEpoch || m.stamp == s.publications
  | _ => true

/-- The steps that leave the publication and the port in agreement. -/
def agreeing (s : Sys) (e : Event) : Bool := e.accepted && s.inStep e

abbrev Agreeing (s : Sys) (e : Event) : Prop := agreeing s e = true

namespace Agreeing
variable {s : Sys} {r : Reading}

theorem accepted {e : Event} (h : Agreeing s e) : e.accepted = true := by
  simp only [Agreeing, agreeing, Bool.and_eq_true] at h
  exact h.1

theorem inStep {e : Event} (h : Agreeing s e) : s.inStep e = true := by
  simp only [Agreeing, agreeing, Bool.and_eq_true] at h
  exact h.2

theorem stamp (h : Agreeing s (.data r)) (hd : s.data = .stampLoss) {call : Call}
    {config : StreamConfig} {res : Int} : s.main ≠ .publish call (some config) res := by
  intro hm
  have hin := h.inStep
  simp [Sys.inStep, hd, hm, MainPc.answering] at hin

theorem snapshot (h : Agreeing s (.main r)) {config : StreamConfig} {dsp : Device}
    {res : OpenResult} (hm : s.main = .swapQuery .props config dsp res)
    (hres : res.config?.isSome = true) : s.port.config.isSome = true := by
  have hin := h.inStep
  simp only [Sys.inStep, hm, Bool.or_eq_true] at hin
  rcases hin with hin | hin
  · rw [Option.isNone_iff_eq_none] at hin
    simp [hin] at hres
  · exact hin

theorem epoch (h : Agreeing s .deliver) {m : FormatLost} {rest : List FormatLost}
    (ht : s.tasks = m :: rest) (he : s.epoch = m.expectedEpoch) : m.stamp = s.publications := by
  have hin := h.inStep
  simpa [Sys.inStep, ht, he] using hin

end Agreeing

namespace Sys.Agrees
variable {s s' : Sys}

theorem congr (h : s.Agrees) (hc : s'.port.config = s.port.config)
    (ho : ∀ m, m ∈ s'.outstanding ↔ m ∈ s.outstanding) (hl : s'.data.losing = s.data.losing)
    (hf : s'.flags = s.flags) (hp : s'.publications = s.publications) : s'.Agrees := by
  have hcur : s'.Current ↔ s.Current := by simp only [Current, ho, hp]
  refine ⟨fun hc' => ?_, fun hc' hl' => ?_⟩
  · rw [hc]
    exact h.current (hcur.mp hc')
  · rw [hf, hc]
    exact h.flags (fun hn => hc' (hcur.mpr hn)) (hl ▸ hl')

end Sys.Agrees

/-- The config of the publication is the port's, as far as a loss in hand allows. -/
theorem Sys.Stamped.publish {s : Sys} (h : s.Stamped) (config : Option StreamConfig) {main : MainPc}
    (hm : main.promise = .agree) (hk : s.Keeps (if config.isSome then .configured else .cleared)) :
    Sys.Published { s.publishFormat config with main } := by
  have hcur : ¬ Sys.Current { s.publishFormat config with main } := by
    rintro ⟨m, hmem, hstamp⟩
    have hle := (h.stamps m hmem).2
    simp only [Sys.publishFormat] at hstamp
    omega
  refine ⟨⟨?_, fun m hmem => ?_, h.losing⟩, ?_, fun hc => ?_⟩
  · show s.epoch + 1 = UInt64.ofNat (s.publications + 1)
    rw [h.epoch, UInt64.ofNat_add]
    rfl
  · exact ⟨(h.stamps m hmem).1, Nat.le_succ_of_le (h.stamps m hmem).2⟩
  · show Sys.Keeps _ main.promise
    rw [hm]
    refine ⟨fun hc => absurd hc hcur, fun _ hl => ?_⟩
    show (if config.isSome then FormatFlags.readwrite else .write) = .readwrite ↔
      s.port.config.isSome = true
    cases config with
    | none =>
      have hnone : s.port.config = none := hk
      simp [hnone]
    | some config =>
      have hsome : s.port.config.isSome = true ∨ s.data.losing = true := hk
      have hl' : s.data.losing = false := hl
      simpa [hl'] using hsome
  · have hc : main.promise = .configured := hc
    rw [hm] at hc
    cases hc

namespace Sys.Published
variable {s s' : Sys} {r : Reading}

/-- News from the data loop. A loss is not stamped while a format the port lost
is about to be published. -/
theorem of_news (h : s.Published) (hn : News s s') (hm : s'.main = s.main)
    (hf : s'.flags = s.flags) (he : s'.epoch = s.epoch) (hp : s'.publications = s.publications)
    (hstamp : s.data = .stampLoss → s.main.promise ≠ .configured) : s'.Published := by
  have hanswer := h.answer
  rw [← hm] at hanswer
  cases hn with
  | none hc ho hl =>
    refine ⟨⟨by rw [he, hp]; exact h.epoch, fun m hmem => ?_, fun hlosing => ?_⟩, ?_, hanswer⟩
    · rw [hp]
      exact h.stamps m ((ho m).mp hmem)
    · rw [hc]
      exact h.losing (hl ▸ hlosing)
    · have hk := h.promise
      rw [hm]
      cases hpr : s.main.promise <;> simp only [hpr, Keeps, hc, hl] at hk ⊢
      · exact hk.congr hc ho hl hf hp
      · exact hk
      · exact hk
  | installed hbefore hafter ho hl hl' =>
    refine ⟨⟨by rw [he, hp]; exact h.epoch, fun m hmem => ?_, fun hlosing => ?_⟩, ?_, hanswer⟩
    · rw [hp]
      exact h.stamps m ((ho m).mp hmem)
    · simp [hl'] at hlosing
    · have hk := h.promise
      rw [hm]
      cases hpr : s.main.promise <;> simp only [hpr, Keeps] at hk ⊢
      · have hcur : ¬ s.Current := fun hc => by simp [hk.current hc] at hbefore
        have hcur' : ¬ s'.Current := by
          simpa only [Current, ho, hp] using hcur
        refine ⟨fun hc => absurd hc hcur', fun _ _ => ?_⟩
        rw [hf, hk.flags hcur hl, hbefore, hafter]
      · simp [hk] at hbefore
      · exact .inl hafter
  | failed hafter ho hl' =>
    refine ⟨⟨by rw [he, hp]; exact h.epoch, fun m hmem => ?_, fun _ => hafter⟩, ?_, hanswer⟩
    · rw [hp]
      exact h.stamps m ((ho m).mp hmem)
    · rw [hm]
      cases hpr : s.main.promise <;> simp only [Keeps]
      · exact ⟨fun _ => hafter, fun _ hl => by simp [hl'] at hl⟩
      · exact hafter
      · exact .inr hl'
  | stamped hat hc ho hin hl' =>
    have hnone := h.losing (by rw [hat]; rfl)
    refine ⟨⟨by rw [he, hp]; exact h.epoch, fun m hmem => ?_, fun hlosing => ?_⟩, ?_, hanswer⟩
    · rw [hp]
      rcases ho m hmem with rfl | hold
      · exact ⟨h.epoch, Nat.le_refl _⟩
      · exact h.stamps m hold
    · simp [hl'] at hlosing
    · rw [hm]
      cases hpr : s.main.promise <;> simp only [Keeps, hc]
      · refine ⟨fun _ => hc.trans hnone, fun hcur => absurd ⟨_, hin, hp.symm⟩ hcur⟩
      · exact hnone
      · exact absurd hpr (hstamp hat)

/-- A main-loop step that publishes nothing. -/
theorem of_main (h : s.Published) (hd : s'.data = s.data)
    (ho : ∀ m, m ∈ s'.outstanding → m ∈ s.outstanding)
    (he : s'.epoch = s.epoch) (hp : s'.publications = s.publications)
    (hl : s.data.losing = true → s'.port.config = none) (hk : s'.Keeps s'.main.promise)
    (ha : s'.main.promise = .configured →
      ∃ call config res, s'.main = .publish call (some config) res) : s'.Published where
  epoch := by rw [he, hp]; exact h.epoch
  stamps := fun m hm => by
    rw [hp]
    exact h.stamps m (ho m hm)
  losing := by rw [hd]; exact hl
  promise := hk
  answer := ha

/-- A call that keeps its promise by keeping the port's config. -/
theorem of_keep (h : s.Published) (hpr : s'.main.promise = s.main.promise)
    (hd : s'.data = s.data) (hpe : s'.pendingMainEvent = s.pendingMainEvent)
    (ht : s'.tasks = s.tasks) (he : s'.epoch = s.epoch) (hp : s'.publications = s.publications)
    (hf : s'.flags = s.flags) (hc : s'.port.config = s.port.config)
    (ha : s.main.promise = .configured → s'.main = s.main) : s'.Published := by
  have ho : ∀ m, m ∈ s'.outstanding → m ∈ s.outstanding := fun m => by
    rw [outstanding, outstanding, hd, hpe, ht]
    exact id
  refine h.of_main hd ho he hp (fun hl => hc.trans (h.losing hl)) ?_ (fun hcfg => ?_)
  have hk := h.promise
  rw [hpr]
  cases hpr : s.main.promise <;> simp only [hpr, Keeps, hc, hd] at hk ⊢
  · exact hk.congr hc (fun m => by rw [outstanding, outstanding, hd, hpe, ht]) (by rw [hd]) hf hp
  · exact hk
  · exact hk
  · rw [hpr] at hcfg
    rw [ha hcfg]
    exact h.answer hcfg

/-- A call that takes the port's format away. -/
theorem of_clear (h : s.Published) (hpr : s'.main.promise = .cleared ∨ s'.main.promise = .free)
    (hd : s'.data = s.data) (hpe : s'.pendingMainEvent = s.pendingMainEvent)
    (ht : s'.tasks = s.tasks) (he : s'.epoch = s.epoch) (hp : s'.publications = s.publications)
    (hc : s'.port.config = none) : s'.Published := by
  have ho : ∀ m, m ∈ s'.outstanding → m ∈ s.outstanding := fun m => by
    rw [outstanding, outstanding, hd, hpe, ht]
    exact id
  refine h.of_main hd ho he hp (fun _ => hc) ?_ (fun hcfg => ?_)
  · rcases hpr with hpr | hpr <;> rw [hpr]
    · exact hc
    · trivial
  · rcases hpr with hpr | hpr <;> rw [hpr] at hcfg <;> cases hcfg

/-- Nothing but the publication holds a format that was read. -/
theorem moves_on (h : s.Published) (hm : ∀ call config res, s.main ≠ .publish call config res) :
    s.main.promise = .configured → s'.main = s.main := fun hc => by
  obtain ⟨call, config, res, hpub⟩ := h.answer hc
  exact absurd hpub (hm call (some config) res)

theorem main (hs : s.Slots) (h : s.Published) (ha : Agreeing s (.main r))
    (hstep : mainStep r s = some s') : s'.Published := by
  have hacc : r.accepted = true := ha.accepted
  have hk := h.promise
  unfold mainStep at hstep
  cases hm : s.main <;> simp only [hm, hacc, Bool.not_true, Bool.false_eq_true, if_false] at hstep
  case publish call config res =>
    cases hstep
    rw [hm] at hk
    exact h.toStamped.publish _ rfl hk
  case emitLost =>
    cases hstep
    rw [hm] at hk
    exact h.toStamped.publish _ rfl hk
  case waitIdle next stopped =>
    have hwaits := hs.life.waits
    have hstop := hs.life.stopping
    rw [hm] at hwaits hstop
    repeat' split at hstep
    all_goals cases hstep
    · exact h.of_keep (by rw [hm]; rfl) rfl rfl rfl rfl rfl rfl rfl (h.moves_on (by simp [hm]))
    · next hstopping => simp [hstop, MainPc.stopped] at hstopping
  case stopQuery suspend wasStarted =>
    repeat' split at hstep
    all_goals cases hstep
    · exact h.of_clear (.inl rfl) rfl rfl rfl rfl rfl rfl
    · exact h.of_keep (by rw [hm]; rfl) rfl rfl rfl rfl rfl rfl rfl (h.moves_on (by simp [hm]))
  case releaseQuery =>
    repeat' split at hstep
    all_goals cases hstep
    exact h.of_clear (.inl rfl) rfl rfl rfl rfl rfl rfl
  case swapQuery caller config dsp res =>
    split at hstep
    · cases hstep
    next hidle =>
    simp only [ne_eq, Decidable.not_not] at hidle
    cases hstep
    have hl : s.data.losing = false := by rw [hidle]; rfl
    cases caller with
    | setFormat =>
      exact h.of_main rfl (fun _ => id) rfl rfl (by simp [hl]) trivial
        (fun hc => by cases hc)
    | props =>
      cases res with
      | failed err =>
        have herr : (OpenResult.failed err).res < 0 := err.neg_lt
        refine h.of_clear (.inl ?_) rfl rfl rfl rfl rfl rfl
        simp only [MainPc.promise, Install.done, if_pos herr]
      | opened applied adjusted =>
        -- the flags already say that the port has a format
        have hsome := ha.snapshot hm rfl
        have hres : ¬ (OpenResult.opened applied adjusted).res < 0 := by
          cases adjusted <;> simp [OpenResult.res]
        rw [hm] at hk
        have hagree : s.Agrees := hk
        have hcur : ¬ s.Current := fun hc => by simp [hagree.current hc] at hsome
        have hnext : (Install.done .props config (OpenResult.opened applied adjusted).res).promise =
            .agree := by
          simp only [Install.done, if_neg hres]
          rfl
        refine h.of_main rfl (fun _ => id) rfl rfl (by simp [hl]) ?_ (fun hc => ?_)
        · show Keeps _ (Install.done .props config _).promise
          rw [hnext]
          refine ⟨fun hc => absurd hc hcur, fun _ _ => ?_⟩
          have hflags := hagree.flags hcur hl
          rw [hsome] at hflags
          exact hflags
        · have hc : (Install.done .props config _).promise = .configured := hc
          rw [hnext] at hc
          cases hc
  case formatQuery call res =>
    split at hstep
    · cases hstep
    next hidle =>
    simp only [ne_eq, Decidable.not_not] at hidle
    cases hstep
    cases hc : s.port.config with
    | none => exact h.of_clear (.inl rfl) rfl rfl rfl rfl rfl hc
    | some config =>
      exact h.of_main rfl (fun _ => id) rfl rfl h.losing (.inl (by rw [hc]; rfl))
        (fun _ => ⟨call, config, res, rfl⟩)
  case releaseTakeover call strict res =>
    split at hstep
    · cases hstep
    cases hstep
    exact h.of_keep (by rw [hm]; simp [MainPc.promise]) rfl rfl rfl rfl rfl rfl rfl
      (h.moves_on (by simp [hm]))
  all_goals
    repeat' split at hstep
    all_goals cases hstep
    all_goals
      exact h.of_keep (by rw [hm]; rfl) rfl rfl rfl rfl rfl rfl rfl (h.moves_on (by simp [hm]))

/-- A delivered loss is accepted exactly when it is current. -/
theorem deliver (hs : s.Slots) (h : s.Published) (ha : Agreeing s .deliver)
    (hidle : s.main = .idle) (hstep : s.deliver = some s') : s'.Published := by
  have halive := hs.life.alive
  have hk : s.Agrees := by
    have hk := h.promise
    rw [hidle] at hk
    exact hk
  rw [hidle] at halive
  simp only [Sys.deliver] at hstep
  split at hstep
  · cases hstep
  next event rest ht =>
  have hmem : event ∈ s.outstanding := by simp [outstanding, ht]
  have hold : ∀ m, m ∈ Sys.outstanding { s with tasks := rest } → m ∈ s.outstanding := by
    intro m hm
    simp only [outstanding, ht, List.mem_append, List.mem_cons] at hm ⊢
    rcases hm with hm | hm | hm
    · exact .inl hm
    · exact .inr (.inl hm)
    · exact .inr (.inr (.inr hm))
  cases hstep
  split
  · next haccept =>
    simp only [Bool.and_eq_true, beq_iff_eq] at haccept
    have hnone := hk.current ⟨event, hmem, ha.epoch ht haccept.2⟩
    have hrest : Sys.Stamped { s with tasks := rest } :=
      ⟨h.epoch, fun m hm => h.stamps m (hold m hm), h.losing⟩
    have hpub : Sys.Published (Sys.publishFormat none { s with tasks := rest }) :=
      hrest.publish none (congrArg MainPc.promise hidle) hnone
    exact hpub
  · next hrefuse =>
    have hstale : event.stamp ≠ s.publications := by
      intro hstamp
      refine hrefuse ?_
      rw [halive, h.epoch, (h.stamps event hmem).1, hstamp]
      simp [MainPc.closed]
    have hcur : Sys.Current { s with tasks := rest } ↔ s.Current := by
      constructor
      · rintro ⟨m, hm, hstamp⟩
        exact ⟨m, hold m hm, hstamp⟩
      rintro ⟨m, hm, hstamp⟩
      refine ⟨m, ?_, hstamp⟩
      have hne : m ≠ event := fun heq => hstale (heq ▸ hstamp)
      simpa [outstanding, ht, hne] using hm
    refine h.of_main rfl hold rfl rfl h.losing ?_ h.answer
    show Keeps _ s.main.promise
    rw [hidle]
    exact ⟨fun hc => hk.current (hcur.mp hc), fun hc => hk.flags (fun hn => hc (hcur.mpr hn))⟩

theorem step {e : Event} (hs : s.Slots) (hb : s.Bookkeeping) (h : s.Published)
    (ha : Agreeing s e) (hstep : step s e = some s') : s'.Published := by
  cases e with
  | wake ready | process ready =>
    simp only [Node.step] at hstep
    split at hstep
    · next hidle =>
      cases hstep
      split
      · exact h.of_news
          (SameNews.queueRequiredRebuilds.news (by rw [hidle.1]; rfl) (by rw [hidle.1]; rfl))
          LocalWork.queueRequiredRebuilds.main LocalWork.queueRequiredRebuilds.flags
          LocalWork.queueRequiredRebuilds.epoch LocalWork.queueRequiredRebuilds.publications
          (by simp [hidle.1])
      · exact h
    · cases hstep
  | data r =>
    obtain ⟨hm, -, -, hf, he, hp⟩ := dataStep_frame hstep
    refine h.of_news (dataStep_news hb hstep ha.accepted) hm hf he hp
      (fun hat hpr => ?_)
    obtain ⟨call, config, res, hmain⟩ := h.answer hpr
    exact ha.stamp hat hmain
  | worker r =>
    obtain ⟨hport, hd, -, hm, -, hf, he, ht, hpe, hp, -⟩ := workerStep_frame hstep
    exact h.of_keep (by rw [hm]) hd hpe ht he hp hf (by rw [hport]) (fun _ => hm)
  | main r => exact h.main hs ha hstep
  | call c =>
    simp only [Node.step] at hstep
    split at hstep
    · next hidle =>
      cases hstep
      rcases c.enter_promise with hpr | hpr
      · exact h.of_keep (by rw [hpr, hidle]; rfl) rfl rfl rfl rfl rfl rfl rfl
          (h.moves_on (by simp [hidle]))
      · refine h.of_main rfl (fun _ => id) rfl rfl h.losing ?_ (by simp [hpr])
        rw [hpr]
        trivial
    · cases hstep
  | deliver =>
    simp only [Node.step] at hstep
    split at hstep
    · next hidle => exact h.deliver hs ha hidle hstep
    · cases hstep

end Sys.Published

/-! ## Every agreeing run -/

theorem published {s : Sys} (h : Via node Agreeing s) : s.Published := by
  have hI : Inductive node Agreeing
      (fun s => (s.Slots ∧ s.Bookkeeping ∧ s.Dropped) ∧ s.Published) :=
    { init := fun s h0 => ⟨(bookkeeping_inductive Agreeing).init s h0, by
        subst h0
        exact
          { epoch := rfl
            stamps := nofun
            losing := nofun
            promise := ⟨nofun, fun _ _ => by simp [Sys.initial]⟩
            answer := nofun }⟩
      step := fun s e s' ⟨hb, hp⟩ he h =>
        ⟨(bookkeeping_inductive Agreeing).step s e s' hb he h, hp.step hb.1 hb.2.1 he h⟩ }
  exact (h.invariant hI).2

/-- Along every agreeing run the published Format param is READWRITE if and only
if the port has a config, whenever no main-loop call is in progress and no loss
is about to be stamped, pending or undelivered. -/
theorem format_published {s : Sys} (h : Via node Agreeing s) (hm : s.main = .idle)
    (hl : s.data.losing = false) (ho : s.outstanding = []) :
    s.flags = .readwrite ↔ s.port.config.isSome := by
  have hk := (published h).promise
  rw [hm] at hk
  refine hk.flags (fun hc => ?_) hl
  obtain ⟨m, hmem, -⟩ := hc
  rw [ho] at hmem
  cases hmem

/-- A running node whose rebuild fails between two calls: the loss is delivered. -/
def lostRun (config : StreamConfig) : List Event :=
  rebuildRun config ++ List.replicate 17 (.worker {}) ++
    .process true :: List.replicate 10 (.data {}) ++ [.deliver]

theorem format_published_lost :
    ∃ s, node.run Sys.initial (lostRun stereo) = some s ∧
      (s.flags = .readwrite ↔ s.port.config.isSome) := by
  have h : Via node Agreeing _ := via_of_runTested (lostRun stereo) (.init rfl) rfl
  exact ⟨_, rfl, format_published h rfl rfl rfl⟩

/-- A second `port_set_param` on a running node: the data loop queues a rebuild
before the call queries the config, the worker's open fails, and the data loop
polls the `Failed` completion after the query and before the epoch advances. -/
def lateLossRun (config : StreamConfig) : List Event :=
  let r : Reading := { result := .opened config false, running := true }
  startedRun config ++ .call (.setFormat config) :: List.replicate 12 (.main r) ++ latchCycle ++
    List.replicate 17 (.worker {}) ++ .main r ::
    .process true :: List.replicate 10 (.data {}) ++ [.main r, .main r, .deliver]

/-- After that run no call is in progress and no loss is under way: the host
reads a published READWRITE format, and the port has none. -/
theorem format_published_late_loss :
    ∃ s, node.run Sys.initial (lateLossRun stereo) = some s ∧
      Via node (fun _ e => e.accepted = true) s ∧
      s.main = .idle ∧ s.data = .idle ∧ s.outstanding = [] ∧
      ¬ (s.flags = .readwrite ↔ s.port.config.isSome) := by
  have h : Via node (fun _ e => e.accepted = true) _ :=
    via_of_runTested (lateLossRun stereo) (.init rfl) rfl
  exact ⟨_, rfl, h, rfl, rfl, rfl, by decide⟩

end PwOss.Node
