import PwOss.Node.Rebuild.Bookkeeping
import PwOss.Node.Sink.Shadow
import PwOss.Node.Source.Ownership
import PwOss.Node.Timing.Drive

/-
  The four models of a node on one view of its rebuilds.

  The source and the sink do to `rebuildView` what `RebuildView` does, procedure by
  procedure (`Source/Port.lean`, `Sink/Port.lean`); here a whole process cycle is a run of
  its moves. The timer side keeps two of the fields (`Timing.DataState.Shows`). On the
  threads a procedure is several steps, between which the worker and the host run: each
  step of the data loop is at most one move.

  What is proved:
    1. `Source.processDataCycle_view`, `Sink.processDataCycle_view`: a process cycle moves the
       view, on no completion but its own.
    2. `Timing.DataState.queueRequiredRebuilds_shows`, `pollRebuildCompletion_shows`,
       `processDataCycle_shows`: the timer side follows the view of the port's cycle.
    3. `Sys.pollRebuildCompletion_view`, `queueRebuild_claims`, `dataStep_view`: so does the
       data loop between the worker and the host.
    4. `pollRebuild_serves`, `queueRequiredRebuilds_orders`: what the view guarantees, for the
       source and the sink.
    5. `cycle_keeps_order`, `dataStep_keeps_order`: an order in flight survives everything on
       the data loop but the completion that settles it.
-/

namespace PwOss.Node

open PwOss.Backend PwOss.Proc PwOss.Transition

/-! ## The source -/

namespace Source

variable {δ : Type} (ops : CaptureOperations δ) (c : Cycle δ) {s t : Source δ}

/-- The moves of a cycle between its completion and its end. -/
abbrev Works (s t : Source δ) : Prop :=
  RebuildView.Run (fun _ => False) s.rebuildView t.rebuildView

/-- What keeps the frame can only ask for a rebuild, or forget one. -/
theorem works_of_frame (h : t.frame = s.frame) : Works s t := by
  have htakeover : t.takeover = s.takeover := congrArg Frame.takeover h
  have hconfig : t.config = s.config := congrArg Frame.config h
  have hpending : t.rebuildPending = s.rebuildPending := congrArg Frame.rebuildPending h
  have hview : t.rebuildView = { s.rebuildView with required := t.rebuildRequired } := by
    unfold rebuildView
    rw [htakeover, hconfig, hpending]
  unfold Works
  rw [hview]
  exact .single (.worked _)

theorem queueRebuild_works (s : Source δ) (flushed : Bool) :
    Works s (s.queueRebuild flushed).2 := by
  have hview := congrArg Prod.snd (s.queueRebuild_view flushed)
  dsimp only at hview
  unfold Works
  rw [hview]
  exact RebuildView.queue_run _ _ _

theorem retuneCycle_works (config : StreamConfig) (period : Nat) (s : Source δ) :
    Works s (retuneCycle ops c config period s).2 := by
  have hretune := works_of_frame (frame_retunePeriod ops s config period)
  unfold retuneCycle
  dsimp only
  split
  · exact hretune.trans (queueRebuild_works _ _)
  · exact hretune

theorem serveBlock_works (position : Position) (config : StreamConfig) (id : UInt32)
    (block : HostBlock) (s : Source δ) :
    Works s (serveBlock ops c position config id block s) := by
  unfold serveBlock
  dsimp only
  generalize hfilled : fillBlock ops c config _ _ _ _ _ = filled
  have hframe : filled.state.frame = s.frame := by
    rw [← hfilled, frame_fillBlock]
    rfl
  generalize hsettled : settleOverruns ops c _ _ filled.state = t
  have hworks : Works s t := works_of_frame (by rw [← hsettled, frame_settleOverruns, hframe])
  cases filled.bytes with
  | none => exact hworks
  | some size => exact hworks

theorem cycleBlock_works (position : Position) (config : StreamConfig) (id : UInt32)
    (block : HostBlock) (s : Source δ) :
    Works s (cycleBlock ops c position config id block s) := by
  have hretune := retuneCycle_works ops c config (cyclePeriod position config).2 s
  unfold cycleBlock
  dsimp only
  split
  · exact hretune
  · exact hretune.trans (serveBlock_works ops c position config id block _)

/-- The completion that a cycle takes. -/
abbrev Cycle.Takes (answer : Answer) : Prop := c.completion.map Completion.answer = some answer

theorem processPorts_view (position : Position) (s : Source δ) :
    RebuildView.Run c.Takes s.rebuildView (processPorts ops c position s).rebuildView := by
  have hpoll : RebuildView.Run c.Takes s.rebuildView (s.pollRebuild c).2.rebuildView := by
    have hview := congrArg Prod.snd (s.pollRebuild_view c)
    dsimp only at hview
    rw [hview]
    exact RebuildView.poll_run _ _ fun a ha => ha
  unfold processPorts
  generalize s.pollRebuild c = polled at hpoll ⊢
  obtain ⟨skip, t⟩ := polled
  dsimp only at hpoll ⊢
  have hafter {u : Source δ} (h : Works t u) :
      RebuildView.Run c.Takes s.rebuildView u.rebuildView := hpoll.trans (h.mono nofun)
  split
  · exact hpoll
  · split
    · next config area _ _ =>
      split
      · exact hpoll
      split
      · exact hafter (queueRebuild_works _ _)
      split
      · exact hpoll
      · have hid : Works t (t.cycleBufferId area).2 := by
          unfold cycleBufferId
          split <;> exact .refl
        generalize t.cycleBufferId area = named at hid ⊢
        obtain ⟨id, u⟩ := named
        dsimp only at hid ⊢
        split
        · exact hafter hid
        · next block _ =>
          have hblock : Works u (cycleBlock ops c position config id block (u.takeBlock id)) :=
            cycleBlock_works ops c position config id block (u.takeBlock id)
          exact hafter (hid.trans hblock)
    · exact hpoll

/-- A process cycle moves the view of the rebuilds as the data loop does, on the completion
that it takes. -/
theorem processDataCycle_view (s : Source δ) :
    RebuildView.Run c.Takes s.rebuildView (processDataCycle ops c s).rebuildView := by
  have hqueue (site : RebuildSite) (u : Source δ) :
      RebuildView.Run c.Takes u.rebuildView
        (u.queueRequiredRebuilds (c.queueFlushed site)).rebuildView := by
    rw [queueRequiredRebuilds_view]
    exact RebuildView.queueRequired_run _ _ _
  unfold processDataCycle
  cases c.position with
  | none => exact .refl
  | some position =>
    dsimp only
    split
    · exact .refl
    · exact ((hqueue .beforePorts s).trans (processPorts_view ops c position _)).trans
        (hqueue .afterPorts _)

end Source

/-! ## Cycles -/

/-- A port that a cycle serves is free: no order is in flight, and no control operation has
taken it over. -/
theorem pollRebuild_serves :
    (∀ {δ : Type} (c : Source.Cycle δ) (s : Source δ), (s.pollRebuild c).1 = false →
      (s.pollRebuild c).2.rebuildPending = false ∧ s.takeover = false) ∧
    ∀ (c : Cycle) (s : Sink), Ends (Sink.pollRebuild c) s fun skip t =>
      skip = false → t.rebuildPending = false ∧ s.takeover = false := by
  constructor
  · intro δ c s hserves
    have hview := s.pollRebuild_view c
    obtain ⟨hpending, hfree⟩ :=
      RebuildView.poll_serves ((congrArg Prod.fst hview).symm.trans hserves)
    exact ⟨(congrArg (·.2.pending) hview).trans hpending, hfree⟩
  · rintro c s skip t ht rfl
    have hview := Runs.elim (Sink.pollRebuild_view s c) ht
    obtain ⟨hpending, hfree⟩ := RebuildView.poll_serves (congrArg Prod.fst hview).symm
    exact ⟨(congrArg (·.2.pending) hview).trans hpending, hfree⟩

/-- Once the worker takes commands, the rebuild that a configured port requires is ordered. -/
theorem queueRequiredRebuilds_orders :
    (∀ {δ : Type} (s : Source δ), s.rebuildRequired = true → s.takeover = false →
      s.config.isSome = true → (s.queueRequiredRebuilds true).rebuildPending = true) ∧
    ∀ s : Sink, s.rebuildRequired = true → s.takeover = false → s.config.isSome = true →
      Ends (Sink.queueRequiredRebuilds true) s fun _ t => t.rebuildPending = true := by
  constructor
  · intro δ s hrequired hfree hconfigured
    have hview := s.queueRequiredRebuilds_view true
    exact (congrArg RebuildView.pending hview).trans
      (RebuildView.queueRequired_orders hrequired hfree hconfigured)
  · intro s hrequired hfree hconfigured _ t ht
    have hview := (Sink.queueRequiredRebuilds_view s true).elim ht
    exact (congrArg RebuildView.pending hview).trans
      (RebuildView.queueRequired_orders hrequired hfree hconfigured)

/-- A process cycle of a source or a sink leaves a takeover alone, and an order in flight
unless it takes a completion that settles it. -/
theorem cycle_keeps_order :
    (∀ {δ : Type} (ops : CaptureOperations δ) (c : Source.Cycle δ) (s : Source δ),
      (Source.processDataCycle ops c s).takeover = s.takeover ∧
      ((∀ completion ∈ c.completion, completion.answer.settles = false) →
        s.rebuildPending = true → (Source.processDataCycle ops c s).rebuildPending = true)) ∧
    ∀ (c : Cycle) (s : Sink), Ends (Sink.processDataCycle c) s fun _ t =>
      t.takeover = s.takeover ∧
      ((∀ completion ∈ c.completion, completion.answer.settles = false) →
        s.rebuildPending = true → t.rebuildPending = true) := by
  constructor
  · intro δ ops c s
    have hview := Source.processDataCycle_view ops c s
    refine ⟨hview.takeover, fun hsettles => hview.keeps_order fun answer htaken => ?_⟩
    obtain ⟨completion, hcompletion, rfl⟩ := Option.map_eq_some_iff.mp htaken
    exact hsettles completion hcompletion
  · intro c s verdict t ht
    have hview := Sink.processDataCycle_view c s verdict t ht
    refine ⟨hview.takeover, fun hsettles => hview.keeps_order fun answer htaken => ?_⟩
    obtain ⟨completion, hcompletion, rfl⟩ := Option.map_eq_some_iff.mp htaken
    exact hsettles completion hcompletion

/-! ## The timer side -/

namespace Timing

/-- The answer of a completion. -/
def Swap.answer : Swap → Answer
  | .installed _ => .installed
  | .aborted => .aborted
  | .retireAndRetry => .retireAndRetry
  | .failed => .failed
  | .stale => .superseded

namespace DataState

variable {k : Kernel} {s : DataState} {v : RebuildView}

/-- The timer side keeps two fields of the view. -/
structure Shows (s : DataState) (v : RebuildView) : Prop where
  pending : s.port.rebuildPending = v.pending
  required : s.port.rebuildRequired = v.required

theorem unregisterStream_shows (k : Kernel) (h : s.Shows v) : (s.unregisterStream k).Shows v := by
  unfold unregisterStream
  split
  · exact h
  · exact ⟨h.pending, h.required⟩

theorem disableDeviceWake_shows (k : Kernel) (h : s.Shows v) :
    (s.disableDeviceWake k).Shows v :=
  have hremoved := unregisterStream_shows k h
  ⟨hremoved.pending, hremoved.required⟩

theorem refreshDeviceWakeInner_shows (k : Kernel) (retry : Bool) (h : s.Shows v) :
    (s.refreshDeviceWakeInner k retry).1.Shows v := by
  unfold refreshDeviceWakeInner
  split
  · exact h
  split
  · exact disableDeviceWake_shows k h
  split
  · exact h
  split
  · exact ⟨h.pending, h.required⟩
  · have hfailed : { s with registrations := s.registrations + 1 }.Shows v :=
      ⟨h.pending, h.required⟩
    have hremoved := unregisterStream_shows k hfailed
    exact ⟨hremoved.pending, hremoved.required⟩

theorem armTimer_shows (k : Kernel) (value : Nat) (absolute : Bool) (h : s.Shows v) :
    (s.armTimer k value absolute).Shows v := by
  unfold armTimer tryNowNs
  split
  · exact ⟨h.pending, h.required⟩
  · split
    · exact ⟨h.pending, h.required⟩
    · cases k.now s.clockReads <;> exact ⟨h.pending, h.required⟩

theorem updateDriverWake_shows (k : Kernel) (h : s.Shows v) : (s.updateDriverWake k).Shows v := by
  have hdriving := refreshDeviceWakeInner_shows k true h
  unfold updateDriverWake tryNowNs
  split
  · cases k.now (s.refreshDeviceWakeInner k true).1.clockReads with
    | none => exact armTimer_shows k _ _ ⟨hdriving.pending, hdriving.required⟩
    | some now => exact armTimer_shows k _ _ ⟨hdriving.pending, hdriving.required⟩
  · exact armTimer_shows k _ _ (refreshDeviceWakeInner_shows k false h)

theorem selectNextWake_shows (k : Kernel) (h : s.Shows v) : (s.selectNextWake k).Shows v :=
  armTimer_shows k _ _ (refreshDeviceWakeInner_shows k false h)

theorem updateIfStarted_shows (k : Kernel) (h : s.Shows v) : (s.updateIfStarted k).Shows v := by
  unfold updateIfStarted
  split
  · exact updateDriverWake_shows k h
  · exact h

/-- Where the submission succeeds just when the view queues, both order the same. -/
theorem queueRequiredRebuilds_shows {flushed : Bool} (h : s.Shows v)
    (hk : k.submits s.submissions = (v.queue flushed).1) :
    (s.queueRequiredRebuilds k).Shows (v.queueRequired flushed) := by
  unfold queueRequiredRebuilds RebuildView.queueRequired
  rw [h.pending, h.required, hk]
  by_cases hq : v.required = true ∧ v.pending = false
  · rw [if_pos hq, if_pos (by rw [hq.1, hq.2]; rfl)]
    cases hqueued : (v.queue flushed).1 with
    | false =>
      rw [RebuildView.queue_of_refused hqueued]
      exact ⟨hq.2.symm, h.required⟩
    | true =>
      rw [RebuildView.queue_of_queued hqueued]
      exact ⟨rfl, h.required⟩
  · rw [if_neg hq, if_neg ?_]
    · exact h
    · intro hboth
      rw [Bool.and_eq_true, Bool.not_eq_true'] at hboth
      exact hq hboth

/-- A completion leaves the timer side as it leaves the view. -/
theorem pollRebuildCompletion_shows (swap : Swap) (h : s.Shows v) :
    (s.pollRebuildCompletion k swap).Shows (v.complete swap.answer).2 := by
  cases swap with
  | installed running => exact updateIfStarted_shows k ⟨rfl, rfl⟩
  | aborted => exact ⟨rfl, h.required⟩
  | retireAndRetry => exact updateIfStarted_shows k ⟨h.pending, rfl⟩
  | failed => exact updateIfStarted_shows k ⟨rfl, rfl⟩
  | stale => exact h

/-- A cycle leaves the timer side as its ports and the last submission leave the view. -/
theorem processDataCycle_shows {pass : PortsPass} {flushed : Bool} (hstarted : s.started = true)
    (hposition : s.position.isSome = true) (hpending : pass.flags.rebuildPending = v.pending)
    (hrequired : pass.flags.rebuildRequired = v.required)
    (hk : ∀ n, k.submits n = (v.queue flushed).1) :
    (s.processDataCycle k pass).Shows (v.queueRequired flushed) := by
  have hports : ((s.queueRequiredRebuilds k).processPorts k pass).Shows v :=
    ⟨hpending, hrequired⟩
  have hqueued := queueRequiredRebuilds_shows hports (hk _)
  have hdone : (((s.queueRequiredRebuilds k).processPorts k pass).queueRequiredRebuilds
      k).discardDeviceSnapshots.Shows (v.queueRequired flushed) :=
    ⟨hqueued.pending, hqueued.required⟩
  unfold processDataCycle
  rw [if_neg (by simp [hstarted, Option.isSome_iff_ne_none.mp hposition])]
  dsimp only
  split
  · exact hdone
  · exact selectNextWake_shows k hdone

end DataState

end Timing

/-! ## The threads -/

/-- The answer of a completion, to a port of this generation. -/
def DeviceSwap.answer (generation : UInt64) (swap : DeviceSwap) : Answer :=
  if swap.generation ≠ generation then .superseded
  else
    match swap.outcome with
    | .installed .. => .installed
    | .aborted => .aborted
    | .retireAndRetry .. => .retireAndRetry
    | .failed _ => .failed

/-- Past a completion: whether the cycle skips the port. -/
def DataPc.skips : DataPc → Option Bool
  | .claim _ (.polled skip) | .portIo skip => some skip
  | .claim _ .failed => some true
  | _ => none

namespace Sys

variable {s s' : Sys} {r : Reading}

def rebuildView (s : Sys) : RebuildView :=
  ⟨s.takeover, s.port.config.isSome, s.port.rebuildPending, s.port.rebuildRequired⟩

/-- A completion of the worker is one of the view. -/
theorem pollRebuildCompletion_view (swap : DeviceSwap) (s : Sys) :
    (s.pollRebuildCompletion swap).rebuildView =
        (s.rebuildView.complete (swap.answer s.port.generation)).2 ∧
      (s.pollRebuildCompletion swap).data.skips =
        some (s.rebuildView.complete (swap.answer s.port.generation)).1 := by
  unfold pollRebuildCompletion DeviceSwap.answer
  by_cases hcurrent : swap.generation ≠ s.port.generation
  · rw [if_pos hcurrent, if_pos hcurrent]
    exact ⟨rfl, rfl⟩
  · rw [if_neg hcurrent, if_neg hcurrent]
    cases swap.outcome <;> exact ⟨rfl, rfl⟩

/-- With the deferred cell free, an order is on its way to the worker just when the view
queues one. -/
theorem queueRebuild_claims (site : QueueSite) (hdeferred : s.deferred = none) :
    ((s.rebuildView.queue true).1 = true ∧ ∃ config, s.port.config = some config ∧
        s.queueRebuild site = { s with data := .claim (s.order config) (.queued site) }) ∨
      ((s.rebuildView.queue true).1 = false ∧ s.queueRebuild site = s.resume site) := by
  by_cases htakeover : s.takeover = true
  · unfold queueRebuild RebuildView.queue
    rw [if_pos htakeover, if_pos (.inl htakeover)]
    exact .inr ⟨rfl, rfl⟩
  · have hport : s.queueRebuild site = s.queuePortRebuild site := by
      unfold queueRebuild
      rw [if_neg htakeover, hdeferred]
    rw [hport]
    unfold queuePortRebuild RebuildView.queue rebuildView
    cases s.port.config with
    | none => exact .inr ⟨by simp, rfl⟩
    | some config => exact .inl ⟨by simp [htakeover], config, rfl, rfl⟩

theorem resume_view (site : QueueSite) (s : Sys) : (s.resume site).rebuildView = s.rebuildView :=
  resume_rule (I := fun t => t.rebuildView = s.rebuildView) rfl rfl rfl fun _ _ => rfl

theorem queuePortRebuild_view (site : QueueSite) (s : Sys) :
    (s.queuePortRebuild site).rebuildView = s.rebuildView :=
  queuePortRebuild_rule (I := fun t => t.rebuildView = s.rebuildView) (resume_view site s)
    fun _ _ => rfl

theorem queueRebuild_view (site : QueueSite) (s : Sys) :
    (s.queueRebuild site).rebuildView = s.rebuildView :=
  queueRebuild_rule (I := fun t => t.rebuildView = s.rebuildView) (resume_view site s)
    (fun _ _ _ _ => rfl) fun _ _ _ => rfl

theorem finishPorts_view (A : Answer → Prop) (r : Reading) (s : Sys) :
    RebuildView.Run A s.rebuildView (s.finishPorts r).rebuildView := by
  have hview : (s.finishPorts r).rebuildView = { s with port := s.port.cycle r }.rebuildView := by
    unfold finishPorts
    exact queueRequiredRebuilds_rule
      (I := fun t => t.rebuildView = { s with port := s.port.cycle r }.rebuildView)
      (resume_view _ _) fun _ => queueRebuild_view _ _
  rw [hview]
  exact .single (.worked _)

/-- The order that the data loop submits is one that the view queues. -/
theorem queued_view (A : Answer → Prop) (hb : s.Bookkeeping) (halive : s.alive = true)
    (hq : s.data.queuing = true) :
    RebuildView.Run A s.rebuildView { s.rebuildView with pending := true } := by
  have hfree : s.takeover = false := by
    apply hb.no_takeover
    cases hd : s.data <;> rw [hd] at hq <;> first | rfl | cases hq
  have hledger := hb.held.ledger hfree
  have hclaims := hledger.atLeast halive (by rw [hq, Bool.or_true])
  have hconfigured : s.port.config.isSome = true := hledger.config hclaims
  have hqueued : (s.rebuildView.queue true).1 = true := by
    unfold RebuildView.queue rebuildView
    rw [if_neg (by simp [hfree, hconfigured])]
  rw [← RebuildView.queue_of_queued hqueued]
  exact .single (.ordered hqueued)

/-- The completion that the data loop is about to apply. -/
def Applies (s : Sys) (answer : Answer) : Prop :=
  ∃ swap, s.data = .apply swap ∧ swap.answer s.port.generation = answer

/-- Each step of the data loop of a live node is at most one move of the view. -/
theorem dataStep_view {P : Sys → Event → Prop} (hs : Via node P s) (halive : s.alive = true)
    (h : dataStep r s = some s') : RebuildView.Run s.Applies s.rebuildView s'.rebuildView := by
  have hb := bookkeeping hs
  unfold dataStep at h
  cases hd : s.data <;> simp only [hd] at h
  case idle => cases h
  case claim work next =>
    cases h
    split
    · exact .refl
    · cases next with
      | queued site =>
        unfold returned
        rw [resume_view]
        exact queued_view _ hb halive (by rw [hd]; rfl)
      | flushQueue site =>
        unfold returned
        rw [resume_view]
        exact .refl
      | flushPoll | polled skip | failed => exact .refl
  case publish work next =>
    cases h
    cases next with
    | queued site =>
      unfold submitted
      rw [resume_view]
      exact queued_view _ hb halive (by rw [hd]; rfl)
    | flushQueue site =>
      unfold submitted
      dsimp only
      rw [queuePortRebuild_view]
      exact .refl
    | flushPoll | polled skip | failed => exact .refl
  case ports =>
    cases h
    split
    · exact finishPorts_view _ r s
    · have hview := pollRebuild_rule (I := fun t => t.rebuildView = s.rebuildView) (s := s)
        (fun _ => rfl) (fun _ _ => rfl) fun _ _ _ => rfl
      rw [hview]
  case swapReady =>
    cases h
    split <;> exact .refl
  case takeSwap =>
    cases h
    split <;> exact .refl
  case takeBusy => split at h <;> cases h <;> exact .refl
  case apply swap =>
    cases h
    rw [(pollRebuildCompletion_view swap s).1]
    exact .single (.completed ⟨swap, hd, rfl⟩ (hb.no_takeover (by rw [hd]; rfl)))
  case stampLoss =>
    cases h
    exact .refl
  case portIo skip =>
    cases h
    split
    · rw [queueRebuild_view]
    · exact finishPorts_view _ r s
  case portQueued =>
    cases h
    exact finishPorts_view _ r s
  case notify event =>
    cases h
    exact .refl

/-- A step of the data loop of a live node leaves a takeover alone, and an order in flight
unless it applies the completion that settles it. -/
theorem dataStep_keeps_order (hs : Reachable node s) (halive : s.alive = true)
    (h : dataStep r s = some s') :
    s'.takeover = s.takeover ∧
      ((∀ swap, s.data = .apply swap → (swap.answer s.port.generation).settles = false) →
        s.port.rebuildPending = true → s'.port.rebuildPending = true) := by
  have hview := dataStep_view hs halive h
  refine ⟨hview.takeover, fun hsettles => hview.keeps_order ?_⟩
  rintro answer ⟨swap, hd, rfl⟩
  exact hsettles swap hd

end Sys

end PwOss.Node
