import Mathlib.Algebra.GroupWithZero.Nat
import PwOss.Spa.Hooks

/-
  What the listeners of an endpoint are given.

  Every registration has a ledger (`Sound.ledger`): what its callbacks were given,
  and what the frames under way still owe it, is its initial snapshot and then the
  notifications that left the queue since it was registered. The stack has one
  owner of the dispatch turn at its bottom (`Stack`), so nothing leaves the queue
  while a registration's initial callbacks run, and a cohort becomes active when
  its barrier leaves the queue.
-/

namespace PwOss.Spa

open PwOss.Transition

variable {N : Type}

/-! ## Frames -/

/-- The notifications of a queue. -/
def notices : List (Entry N) → List N
  | [] => []
  | .notice note :: rest => note :: notices rest
  | .activate _ :: rest => notices rest

theorem notices_append : ∀ (xs ys : List (Entry N)), notices (xs ++ ys) = notices xs ++ notices ys
  | [], _ => rfl
  | .notice note :: xs, ys => congrArg (note :: ·) (notices_append xs ys)
  | .activate _ :: xs, ys => notices_append xs ys

theorem notices_map (notes : List N) : notices (notes.map .notice) = notes := by
  induction notes with
  | nil => rfl
  | cons note notes ih => exact congrArg (note :: ·) ih

namespace Frame

/-- The frame holds the dispatch turn. -/
def Owns (f : Frame N) : Prop :=
  match f.task with
  | .drain => True
  | .initial _ _ _ claimed _ => claimed = true

/-- A registration inside a callback: it has a cohort and not the turn. -/
def Nested (f : Frame N) : Prop := ∃ id todo, f.task = .initial id true [] false todo

/-- The hooks that the frame set aside. -/
def saved (f : Frame N) : List Nat :=
  match f.task with
  | .drain => []
  | .initial _ _ saved _ _ => saved

/-- What the frame will still give to `id`. -/
def owed (id : Nat) (f : Frame N) : List N :=
  (match f.emission with
    | some e => if id ∈ e.rest then [e.note] else []
    | none => []) ++
  (match f.task with
    | .drain => []
    | .initial i _ _ _ todo => if i = id then todo else [])

theorem not_nested_of_owns {f : Frame N} (h : f.Owns) : ¬ f.Nested := by
  rintro ⟨id, todo, hf⟩
  unfold Owns at h
  rw [hf] at h
  cases h

end Frame

/-- One owner of the turn, under registrations inside callbacks. -/
inductive Stack : List (Frame N) → Prop where
  | idle : Stack []
  | owner {f : Frame N} (h : f.Owns) : Stack [f]
  | nested {f g : Frame N} {rest : List (Frame N)} (h : f.Nested) (hs : Stack (g :: rest)) :
      Stack (f :: g :: rest)

/-- The owner has no frame under it. -/
theorem Stack.bottom {f : Frame N} {rest : List (Frame N)} (h : Stack (f :: rest)) (ho : f.Owns) :
    rest = [] := by
  cases h with
  | owner _ => rfl
  | nested hn _ => exact absurd hn (Frame.not_nested_of_owns ho)

/-- The frame on top is replaced by one of its kind. -/
theorem Stack.replace {f f' : Frame N} {rest : List (Frame N)} (h : Stack (f :: rest))
    (ho : f.Owns → f'.Owns) (hn : f.Nested → f'.Nested) : Stack (f' :: rest) := by
  cases h with
  | owner hf => exact .owner (ho hf)
  | nested hf hs => exact .nested (hn hf) hs

theorem Stack.tail {f : Frame N} {rest : List (Frame N)} (h : Stack (f :: rest)) : Stack rest := by
  cases h with
  | owner _ => exact .idle
  | nested _ hs => exact hs

namespace Notifier

/-! ## The invariant -/

/-- What the frames under way will still give to `id`. -/
def owed (s : Notifier N) (id : Nat) : List N := s.frames.flatMap (Frame.owed id)

/-- The listeners of the endpoint, set aside or not. -/
def listening (s : Notifier N) : List Nat := s.frames.flatMap Frame.saved ++ s.active

/-- A registration that was not removed. -/
def Live (s : Notifier N) (id : Nat) : Prop := ∃ c, s.cards id = some c ∧ c.removed = false

/-- The barrier of `id` waits behind the notifications enqueued before it. -/
def Waits (queue : List (Entry N)) (popped id born : Nat) : Prop :=
  ∃ before after, queue = before ++ .activate id :: after ∧ .activate id ∉ before ∧
    popped + (notices before).length = born

namespace Waits
variable {queue : List (Entry N)} {popped id born cohort : Nat} {note : N}

theorem append (h : Waits queue popped id born) (more : List (Entry N)) :
    Waits (queue ++ more) popped id born := by
  obtain ⟨before, after, rfl, hrest⟩ := h
  refine ⟨before, after ++ more, ?_, hrest⟩
  rw [List.append_assoc]
  rfl

/-- A notification in front of the barrier leaves the queue. -/
theorem notice (h : Waits (.notice note :: queue) popped id born) :
    Waits queue (popped + 1) id born := by
  obtain ⟨before, after, hqueue, hfirst, hcount⟩ := h
  cases before with
  | nil => cases hqueue
  | cons e before =>
    cases hqueue
    have hlen : (notices (.notice note :: before)).length = (notices before).length + 1 := rfl
    refine ⟨before, after, rfl, fun hm => hfirst (List.mem_cons_of_mem _ hm), ?_⟩
    omega

/-- A barrier at the front is the one that is waited for, or of another. -/
theorem activate (h : Waits (.activate cohort :: queue) popped id born) :
    id = cohort ∧ born = popped ∨ id ≠ cohort ∧ Waits queue popped id born := by
  obtain ⟨before, after, hqueue, hfirst, hcount⟩ := h
  cases before with
  | nil =>
    cases hqueue
    exact .inl ⟨rfl, hcount.symm⟩
  | cons e before =>
    cases hqueue
    refine .inr ⟨?_, before, after, rfl, fun hm => hfirst (List.mem_cons_of_mem _ hm), hcount⟩
    rintro rfl
    exact hfirst (List.mem_cons_self ..)

theorem popped_le (h : Waits queue popped id born) : popped ≤ born := by
  obtain ⟨before, -, -, -, hcount⟩ := h
  omega

end Waits

/-- A frame under way: what it traverses, and the list of a registration. -/
structure FrameOk (s : Notifier N) (f : Frame N) : Prop where
  hooks : ∀ e ∈ f.emission, e.rest.Nodup ∧ ∀ id ∈ e.rest, s.Live id
  alone : ∀ id deferred saved claimed todo, f.task = .initial id deferred saved claimed todo →
    (∃ c, s.cards id = some c ∧ s.popped ≤ c.born) ∧ (s.isolated id deferred).Nodup ∧
      (∀ x ∈ s.isolated id deferred, x = id) ∧ (s.Live id → id ∈ s.isolated id deferred) ∧
      (deferred = true → saved = []) ∧ (deferred = false → claimed = true)

structure Sound (s : Notifier N) : Prop where
  stack : Stack s.frames
  turn : s.dispatching = !s.frames.isEmpty
  count : s.popped ≤ s.sent.length
  queued : notices s.queue = s.sent.drop s.popped
  frames : ∀ f ∈ s.frames, s.FrameOk f
  born : ∀ id c, s.cards id = some c → c.born ≤ s.sent.length
  ledger : ∀ id c, s.cards id = some c → c.removed = false →
    c.log ++ s.owed id = c.initial ++ (s.sent.drop c.born).take (s.popped - c.born)
  given : ∀ id c, s.cards id = some c → c.log <+: c.initial ++ s.sent.drop c.born
  distinct : s.listening.Nodup
  listens : ∀ id ∈ s.listening, ∃ c, s.cards id = some c ∧ c.removed = false ∧ c.born ≤ s.popped
  cohort : ∀ k, (s.cohorts k).Nodup ∧ ∀ id ∈ s.cohorts k, id = k ∧ id ∉ s.listening ∧ s.Live id
  placed : ∀ id c, s.cards id = some c → c.removed = false →
    id ∈ s.listening ∨ id ∈ s.cohorts id ∧ Waits s.queue s.popped id c.born
  barrier : ∀ id, .activate id ∈ s.queue → ∃ c, s.cards id = some c

section Steps
variable {s : Notifier N}

/-- Steps that keep the registrations, and the lists that their frames traverse. -/
theorem FrameOk.congr {s' : Notifier N} {f : Frame N} (h : s.FrameOk f)
    (hcards : ∀ i c, s.cards i = some c →
      ∃ c', s'.cards i = some c' ∧ c'.born = c.born ∧ c'.removed = c.removed)
    (hp : s'.popped = s.popped)
    (hiso : ∀ i c deferred, s.cards i = some c → s'.isolated i deferred = s.isolated i deferred) :
    s'.FrameOk f where
  hooks e he := by
    refine ⟨(h.hooks e he).1, fun i hi => ?_⟩
    obtain ⟨c, hc, hr⟩ := (h.hooks e he).2 i hi
    obtain ⟨c', hc', -, hremoved⟩ := hcards i c hc
    exact ⟨c', hc', hremoved.trans hr⟩
  alone i deferred saved claimed todo ht := by
    obtain ⟨⟨c, hc, hborn⟩, hnodup, hall, hlive, hmode⟩ := h.alone i deferred saved claimed todo ht
    obtain ⟨c', hc', hb, hremoved⟩ := hcards i c hc
    rw [hiso i c deferred hc]
    refine ⟨⟨c', hc', by rw [hp, hb]; exact hborn⟩, hnodup, hall, ?_, hmode⟩
    rintro ⟨c'', hc'', hr⟩
    rw [hc'] at hc''
    cases hc''
    exact hlive ⟨c, hc, hremoved.symm.trans hr⟩

theorem Sound.idle (h : s.Sound) (hd : s.dispatching = false) : s.frames = [] := by
  have ht := h.turn
  rw [hd] at ht
  cases hf : s.frames with
  | nil => rfl
  | cons f rest =>
    rw [hf] at ht
    cases ht

/-- A change of the frames that owes the same to every listener, and keeps every
hook on the active list or set aside. -/
theorem Sound.reframe (h : s.Sound) {frames : List (Frame N)} {dispatching : Bool}
    {active : List Nat} (hstack : Stack frames) (hturn : dispatching = !frames.isEmpty)
    (hok : ∀ f ∈ frames, FrameOk { s with frames, dispatching, active } f)
    (howed : ∀ id, s.Live id → frames.flatMap (Frame.owed id) = s.owed id)
    (hsaved : frames.flatMap Frame.saved ++ active = s.listening) :
    Sound { s with frames, dispatching, active } := by
  have hlisten : listening { s with frames, dispatching, active } = s.listening := hsaved
  exact
    { stack := hstack
      turn := hturn
      count := h.count
      queued := h.queued
      frames := hok
      born := h.born
      ledger := fun id c hc hr =>
        (congrArg (c.log ++ ·) (howed id ⟨c, hc, hr⟩)).trans (h.ledger id c hc hr)
      given := h.given
      distinct := hlisten ▸ h.distinct
      listens := by
        rw [hlisten]
        exact h.listens
      cohort := fun k => by
        rw [hlisten]
        exact h.cohort k
      placed := fun id c hc hr => by
        rw [hlisten]
        exact h.placed id c hc hr
      barrier := h.barrier }

theorem sound_enqueue (h : s.Sound) (notes : List N) : (s.enqueue notes).Sound where
  stack := h.stack
  turn := h.turn
  count := by
    show s.popped ≤ (s.sent ++ notes).length
    have := h.count
    rw [List.length_append]
    omega
  queued := by
    show notices (s.queue ++ notes.map .notice) = (s.sent ++ notes).drop s.popped
    rw [notices_append, notices_map, h.queued, List.drop_append_of_le_length h.count]
  frames f hf := ⟨(h.frames f hf).hooks, (h.frames f hf).alone⟩
  born id c hc := by
    have := h.born id c hc
    show c.born ≤ (s.sent ++ notes).length
    rw [List.length_append]
    omega
  ledger id c hc hr := by
    have hb := h.born id c hc
    have hp := h.count
    show c.log ++ s.owed id = c.initial ++ ((s.sent ++ notes).drop c.born).take (s.popped - c.born)
    rw [List.drop_append_of_le_length hb, List.take_append_of_le_length, h.ledger id c hc hr]
    rw [List.length_drop]
    omega
  given id c hc := by
    show c.log <+: c.initial ++ (s.sent ++ notes).drop c.born
    rw [List.drop_append_of_le_length (h.born id c hc), ← List.append_assoc]
    exact (h.given id c hc).trans (List.prefix_append _ _)
  distinct := h.distinct
  listens := h.listens
  cohort := h.cohort
  placed id c hc hr := by
    rcases h.placed id c hc hr with hl | ⟨hco, hw⟩
    · exact .inl hl
    · exact .inr ⟨hco, hw.append _⟩
  barrier id hid := by
    rcases List.mem_append.mp hid with hid | hid
    · exact h.barrier id hid
    · obtain ⟨note, -, heq⟩ := List.mem_map.mp hid
      cases heq

theorem sound_flush (h : s.Sound) : s.flush.Sound := by
  unfold flush
  split
  · exact h
  · next hd =>
    have hf := h.idle (Bool.not_eq_true _ ▸ hd)
    rw [hf]
    refine h.reframe (.owner trivial) rfl ?_ ?_ ?_
    · intro f hf'
      rw [List.mem_singleton.mp hf']
      exact ⟨nofun, nofun⟩
    · intro id _
      unfold owed
      rw [hf]
      rfl
    · unfold listening
      rw [hf]
      rfl

/-! ### Registrations -/

theorem update_eq_some {α : Type} {f : Nat → Option α} {k i : Nat} {v : Option α} {a : α}
    (h : update f k v i = some a) : i = k ∧ v = some a ∨ i ≠ k ∧ f i = some a := by
  by_cases hi : i = k
  · subst hi
    rw [update_self] at h
    exact .inl ⟨rfl, h⟩
  · rw [update_ne _ _ hi] at h
    exact .inr ⟨hi, h⟩

theorem live_update_ne {id i : Nat} {card : Option (Card N)} (hi : i ≠ id) :
    Live { s with cards := update s.cards id card } i ↔ s.Live i := by
  unfold Live
  simp only [update_ne _ _ hi]

/-- No frame owes anything to a listener that is not registered. -/
theorem Sound.owed_unregistered (h : s.Sound) {id : Nat} (hid : s.cards id = none) :
    s.owed id = [] := by
  have hnone : ∀ c, s.cards id ≠ some c := fun c hc => by rw [hid] at hc; cases hc
  refine List.flatMap_eq_nil_iff.mpr fun f hf => ?_
  have hok := h.frames f hf
  unfold Frame.owed
  refine List.append_eq_nil_iff.mpr ⟨?_, ?_⟩
  · split
    · next e he =>
      split
      · next hmem =>
        obtain ⟨c, hc, -⟩ := (hok.hooks e he).2 id hmem
        exact absurd hc (hnone c)
      · rfl
    · rfl
  · split
    · rfl
    · next i deferred saved claimed todo ht =>
      split
      · next hi =>
        obtain ⟨⟨c, hc, -⟩, -⟩ := hok.alone _ _ _ _ _ ht
        exact absurd (hi ▸ hc) (hnone c)
      · rfl

theorem Sound.not_listening (h : s.Sound) {id : Nat} (hid : s.cards id = none) :
    id ∉ s.listening := by
  intro hmem
  obtain ⟨c, hc, -⟩ := h.listens id hmem
  rw [hid] at hc
  cases hc

theorem Sound.cohort_ne (h : s.Sound) {id i k : Nat} (hid : s.cards id = none)
    (hi : i ∈ s.cohorts k) : k ≠ id := by
  obtain ⟨rfl, -, c, hc, -⟩ := (h.cohort k).2 i hi
  rintro rfl
  rw [hid] at hc
  cases hc

/-- A card after a registration is the new one or an old one. -/
theorem card_register (s : Notifier N) (id : Nat) (initial : List N) (i : Nat) (c : Card N)
    (hc : (s.register id initial).cards i = some c) :
    i = id ∧ c = ⟨s.sent.length, initial, [], false⟩ ∨ i ≠ id ∧ s.cards i = some c := by
  rcases update_eq_some hc with ⟨hi, hnew⟩ | hold
  · exact .inl ⟨hi, (Option.some.inj hnew).symm⟩
  · exact .inr hold

theorem Sound.register_born (h : s.Sound) (id : Nat) (initial : List N) (i : Nat) (c : Card N)
    (hc : (s.register id initial).cards i = some c) : c.born ≤ s.sent.length := by
  rcases card_register s id initial i c hc with ⟨rfl, rfl⟩ | ⟨-, hc'⟩
  · exact Nat.le_refl _
  · exact h.born i c hc'

theorem Sound.register_given (h : s.Sound) (id : Nat) (initial : List N) (i : Nat) (c : Card N)
    (hc : (s.register id initial).cards i = some c) :
    c.log <+: c.initial ++ s.sent.drop c.born := by
  rcases card_register s id initial i c hc with ⟨rfl, rfl⟩ | ⟨-, hc'⟩
  · exact List.nil_prefix
  · exact h.given i c hc'

/-- The new frame owes the snapshot to the new listener, and nothing to another. -/
theorem owed_register (s : Notifier N) (id i : Nat) (initial : List N) :
    (s.register id initial).owed i = (if id = i then initial else []) ++ s.owed i := rfl

/-- All of its snapshot is owed to the new listener. -/
theorem Sound.register_ledger (h : s.Sound) {id : Nat} (hid : s.cards id = none)
    (initial : List N) (i : Nat) (c : Card N) (hc : (s.register id initial).cards i = some c)
    (hr : c.removed = false) :
    c.log ++ (s.register id initial).owed i =
      c.initial ++ (s.sent.drop c.born).take (s.popped - c.born) := by
  rw [owed_register]
  rcases card_register s id initial i c hc with ⟨rfl, rfl⟩ | ⟨hi, hc'⟩
  · rw [if_pos rfl, h.owed_unregistered hid, List.append_nil]
    show [] ++ initial = _
    rw [Nat.sub_eq_zero_of_le h.count, List.take_zero, List.append_nil, List.nil_append]
  · rw [if_neg (Ne.symm hi), List.nil_append]
    exact h.ledger i c hc' hr

/-- The frame of a registration whose list holds the new listener alone. -/
theorem frameOk_initial {id : Nat} {deferred claimed calling : Bool} {saved : List Nat}
    {todo : List N} (hcard : ∃ c, s.cards id = some c ∧ s.popped ≤ c.born)
    (hlist : s.isolated id deferred = [id]) (hsaved : deferred = true → saved = [])
    (hclaimed : deferred = false → claimed = true) :
    s.FrameOk ⟨.initial id deferred saved claimed todo, none, calling⟩ := by
  refine ⟨nofun, fun i deferred' saved' claimed' todo' ht => ?_⟩
  cases ht
  rw [hlist]
  exact ⟨hcard, List.pairwise_singleton _ _, fun x hx => List.mem_singleton.mp hx,
    fun _ => List.mem_singleton_self _, hsaved, hclaimed⟩

/-- A registration behind a barrier. -/
theorem sound_register_busy (h : s.Sound) {id : Nat} (hid : s.cards id = none) (initial : List N)
    (hbusy : (s.dispatching || !s.queue.isEmpty) = true) : (s.register id initial).Sound := by
  have hne : ∀ {i : Nat} {c : Card N}, s.cards i = some c → i ≠ id := by
    rintro i c hc rfl
    rw [hid] at hc
    cases hc
  have hborn := h.register_born id initial
  have hledger := h.register_ledger hid initial
  have hgiven := h.register_given id initial
  have hcard := card_register s id initial
  have hs : s.register id initial =
      { s with
        queue := s.queue ++ [.activate id]
        cohorts := update s.cohorts id [id]
        dispatching := true
        frames := ⟨.initial id true [] (!s.dispatching) initial, none, false⟩ :: s.frames
        cards := update s.cards id (some ⟨s.sent.length, initial, [], false⟩) } := by
    simp only [register, hbusy, if_true]
  rw [hs] at hborn hledger hgiven hcard ⊢
  have hcount := h.count
  have hold : ∀ {i : Nat} {c : Card N}, s.cards i = some c →
      update s.cards id (some ⟨s.sent.length, initial, [], false⟩) i = some c := fun hc =>
    (update_ne _ _ (hne hc)).trans hc
  refine
    { stack := ?_
      turn := rfl
      count := hcount
      queued := ?_
      frames := ?_
      born := hborn
      ledger := hledger
      given := hgiven
      distinct := h.distinct
      listens := ?_
      cohort := ?_
      placed := ?_
      barrier := ?_ }
  · -- a callback's registration leaves the turn where it is
    cases hf : s.frames with
    | nil =>
      have ht := h.turn
      rw [hf] at ht
      exact .owner (by simp only [Frame.Owns, ht, List.isEmpty_nil, Bool.not_true, Bool.not_false])
    | cons g rest =>
      have ht := h.turn
      have hst := h.stack
      rw [hf] at ht hst
      exact .nested
        ⟨id, initial, by simp only [ht, List.isEmpty_cons, Bool.not_false, Bool.not_true]⟩ hst
  · show notices (s.queue ++ [.activate id]) = _
    rw [notices_append, h.queued]
    exact List.append_nil _
  · intro f hf
    rcases List.mem_cons.mp hf with rfl | hf
    · exact frameOk_initial ⟨_, update_self _ _ _, hcount⟩ (update_self s.cohorts id [id])
        (fun _ => rfl) nofun
    · refine (h.frames f hf).congr (fun i c hc => ⟨c, hold hc, rfl, rfl⟩) rfl ?_
      intro i c deferred hc
      show (if deferred then update s.cohorts id [id] i else s.active) = _
      rw [update_ne _ _ (hne hc)]
      rfl
  · intro i hi
    obtain ⟨c, hc, hr, hp⟩ := h.listens i hi
    exact ⟨c, hold hc, hr, hp⟩
  · intro k
    by_cases hk : k = id
    · subst hk
      show (update s.cohorts k [k] k).Nodup ∧ ∀ i ∈ update s.cohorts k [k] k, _
      rw [update_self]
      refine ⟨List.pairwise_singleton _ _, fun i hi => ?_⟩
      rw [List.mem_singleton.mp hi]
      exact ⟨rfl, h.not_listening hid, _, update_self _ _ _, rfl⟩
    · show (update s.cohorts id [id] k).Nodup ∧ ∀ i ∈ update s.cohorts id [id] k, _
      rw [update_ne _ _ hk]
      refine ⟨(h.cohort k).1, fun i hi => ?_⟩
      obtain ⟨heq, hno, hlive⟩ := (h.cohort k).2 i hi
      exact ⟨heq, hno, (live_update_ne (heq ▸ hk)).mpr hlive⟩
  · intro i c hc hr
    rcases hcard i c hc with ⟨rfl, rfl⟩ | ⟨hi, hc'⟩
    · refine .inr ⟨?_, s.queue, [], rfl, fun hmem => ?_, ?_⟩
      · show i ∈ update s.cohorts i [i] i
        rw [update_self]
        exact List.mem_singleton_self _
      · obtain ⟨c, hc⟩ := h.barrier i hmem
        exact hne hc rfl
      · rw [h.queued, List.length_drop]
        show s.popped + (s.sent.length - s.popped) = s.sent.length
        omega
    · rcases h.placed i c hc' hr with hl | ⟨hco, hw⟩
      · exact .inl hl
      · refine .inr ⟨?_, hw.append _⟩
        show i ∈ update s.cohorts id [id] i
        rw [update_ne _ _ hi]
        exact hco
  · intro i hi
    rcases List.mem_append.mp hi with hi | hi
    · obtain ⟨c, hc⟩ := h.barrier i hi
      exact ⟨c, hold hc⟩
    · cases List.mem_singleton.mp hi
      exact ⟨_, update_self _ _ _⟩

/-- A registration on the active list: the other hooks are set aside. -/
theorem sound_register_idle (h : s.Sound) {id : Nat} (hid : s.cards id = none) (initial : List N)
    (hidle : (s.dispatching || !s.queue.isEmpty) = false) : (s.register id initial).Sound := by
  obtain ⟨hd, hq⟩ := Bool.or_eq_false_iff.mp hidle
  have hframes := h.idle hd
  have hborn := h.register_born id initial
  have hledger := h.register_ledger hid initial
  have hgiven := h.register_given id initial
  have hcard := card_register s id initial
  have hs : s.register id initial =
      { s with
        active := [id]
        dispatching := true
        frames := [⟨.initial id false s.active true initial, none, false⟩]
        cards := update s.cards id (some ⟨s.sent.length, initial, [], false⟩) } := by
    simp only [register, hd, hq, hframes, Bool.or_self, Bool.false_eq_true, if_false,
      Bool.not_false]
  have hactive : s.listening = s.active := by
    unfold listening
    rw [hframes]
    rfl
  have hno : id ∉ s.active := hactive ▸ h.not_listening hid
  have hqueue : s.queue = [] := List.isEmpty_iff.mp (by simpa using hq)
  have hcount := h.count
  have hlistening : ∀ i, i ∈ s.active ++ [] ++ [id] ↔ i ∈ s.active ∨ i = id := fun i => by
    rw [List.append_nil, List.mem_append, List.mem_singleton]
  rw [hs] at hborn hledger hgiven hcard ⊢
  refine
    { stack := .owner rfl
      turn := rfl
      count := hcount
      queued := h.queued
      frames := ?_
      born := hborn
      ledger := hledger
      given := hgiven
      distinct := ?_
      listens := ?_
      cohort := ?_
      placed := ?_
      barrier := ?_ }
  · intro f hf
    rw [List.mem_singleton.mp hf]
    exact frameOk_initial ⟨_, update_self _ _ _, hcount⟩ rfl nofun fun _ => rfl
  · show (s.active ++ [] ++ [id]).Nodup
    rw [List.append_nil]
    refine List.nodup_append.mpr ⟨hactive ▸ h.distinct, List.pairwise_singleton _ _, ?_⟩
    intro a ha b hb
    rw [List.mem_singleton.mp hb]
    rintro rfl
    exact hno ha
  · intro i hi
    rcases (hlistening i).mp hi with ha | rfl
    · obtain ⟨c, hc, hr, hb⟩ := h.listens i (hactive.symm ▸ ha)
      refine ⟨c, (update_ne _ _ ?_).trans hc, hr, hb⟩
      rintro rfl
      exact hno ha
    · refine ⟨_, update_self _ _ _, rfl, ?_⟩
      -- an empty queue: everything enqueued so far left it
      have hempty := h.queued
      rw [hqueue] at hempty
      exact List.drop_eq_nil_iff.mp hempty.symm
  · intro k
    refine ⟨(h.cohort k).1, fun i hi => ?_⟩
    obtain ⟨heq, hnot, hlive⟩ := (h.cohort k).2 i hi
    have hne : i ≠ id := heq ▸ h.cohort_ne hid hi
    refine ⟨heq, fun hmem => ?_, (live_update_ne hne).mpr hlive⟩
    rcases (hlistening i).mp hmem with ha | rfl
    · exact hnot (hactive.symm ▸ ha)
    · exact hne rfl
  · intro i c hc hr
    rcases hcard i c hc with ⟨rfl, rfl⟩ | ⟨hi, hc'⟩
    · exact .inl ((hlistening i).mpr (.inr rfl))
    · rcases h.placed i c hc' hr with hl | hw
      · exact .inl ((hlistening i).mpr (.inl (hactive ▸ hl)))
      · exact .inr hw
  · intro i hi
    rw [show s.queue = [] from hqueue] at hi
    cases hi

theorem sound_register (h : s.Sound) {id : Nat} (hid : s.cards id = none) (initial : List N) :
    (s.register id initial).Sound := by
  cases hbusy : s.dispatching || !s.queue.isEmpty with
  | true => exact sound_register_busy h hid initial hbusy
  | false => exact sound_register_idle h hid initial hbusy

/-! ### Removals -/

theorem owed_unlink {id i : Nat} (hi : i ≠ id) (f : Frame N) :
    Frame.owed i (Frame.unlink id f) = Frame.owed i f := by
  obtain ⟨task, emission, calling⟩ := f
  have hmem : ∀ rest : List Nat, i ∈ rest.filter (· ≠ id) ↔ i ∈ rest := fun rest => by
    rw [List.mem_filter]
    exact and_iff_left (by simpa using hi)
  cases emission with
  | none => cases task <;> rfl
  | some e => cases task <;> simp only [Frame.owed, Frame.unlink, Option.map_some, hmem]

theorem saved_unlink (id : Nat) (f : Frame N) :
    (Frame.unlink id f).saved = f.saved.filter (· ≠ id) := by
  obtain ⟨task, emission, calling⟩ := f
  cases task <;> rfl

theorem owns_unlink {id : Nat} {f : Frame N} (h : f.Owns) : (Frame.unlink id f).Owns := by
  obtain ⟨task, emission, calling⟩ := f
  cases task <;> exact h

theorem nested_unlink {id : Nat} {f : Frame N} (h : f.Nested) : (Frame.unlink id f).Nested := by
  obtain ⟨task, emission, calling⟩ := f
  obtain ⟨i, todo, rfl⟩ := h
  exact ⟨i, todo, rfl⟩

theorem stack_unlink (id : Nat) {frames : List (Frame N)} (h : Stack frames) :
    Stack (frames.map (Frame.unlink id)) := by
  induction h with
  | idle => exact .idle
  | owner h => exact .owner (owns_unlink h)
  | nested h _ ih => exact .nested (nested_unlink h) ih

theorem listening_remove (s : Notifier N) (id : Nat) :
    (s.remove id).listening = s.listening.filter (· ≠ id) := by
  have hframes : ∀ frames : List (Frame N), (frames.map (Frame.unlink id)).flatMap Frame.saved =
      (frames.flatMap Frame.saved).filter (· ≠ id) := by
    intro frames
    induction frames with
    | nil => rfl
    | cons f frames ih =>
      rw [List.map_cons, List.flatMap_cons, List.flatMap_cons, List.filter_append, ih, saved_unlink]
  show (s.frames.map (Frame.unlink id)).flatMap Frame.saved ++ s.active.filter (· ≠ id) =
    (s.frames.flatMap Frame.saved ++ s.active).filter (· ≠ id)
  rw [List.filter_append, ← hframes]

theorem owed_remove (s : Notifier N) {id i : Nat} (hi : i ≠ id) :
    (s.remove id).owed i = s.owed i := by
  show (s.frames.map (Frame.unlink id)).flatMap (Frame.owed i) = s.frames.flatMap (Frame.owed i)
  induction s.frames with
  | nil => rfl
  | cons f frames ih => rw [List.map_cons, List.flatMap_cons, List.flatMap_cons, ih, owed_unlink hi]

theorem mem_filter_ne {id i : Nat} {l : List Nat} :
    i ∈ l.filter (· ≠ id) ↔ i ∈ l ∧ i ≠ id := by
  rw [List.mem_filter, decide_eq_true_eq]

/-- A registration that a removal leaves is another one. -/
theorem card_remove {id i : Nat} {c : Card N} (hc : (s.remove id).cards i = some c) :
    ∃ c₀, s.cards i = some c₀ ∧ c.born = c₀.born ∧ c.initial = c₀.initial ∧ c.log = c₀.log ∧
      (c.removed = false → i ≠ id ∧ c₀.removed = false) := by
  rcases update_eq_some hc with ⟨rfl, hnew⟩ | ⟨hi, hc'⟩
  · obtain ⟨c₀, hc₀, rfl⟩ := Option.map_eq_some_iff.mp hnew
    exact ⟨c₀, hc₀, rfl, rfl, rfl, nofun⟩
  · exact ⟨c, hc', rfl, rfl, rfl, fun hr => ⟨hi, hr⟩⟩

theorem live_remove {id i : Nat} : (s.remove id).Live i ↔ s.Live i ∧ i ≠ id := by
  constructor
  · rintro ⟨c, hc, hr⟩
    obtain ⟨c₀, hc₀, -, -, -, hlive⟩ := card_remove hc
    exact ⟨⟨c₀, hc₀, (hlive hr).2⟩, (hlive hr).1⟩
  · rintro ⟨⟨c, hc, hr⟩, hi⟩
    exact ⟨c, (update_ne _ _ hi).trans hc, hr⟩

theorem isolated_remove (s : Notifier N) (id i : Nat) (deferred : Bool) :
    (s.remove id).isolated i deferred = (s.isolated i deferred).filter (· ≠ id) := by
  cases deferred <;> rfl

theorem FrameOk.remove {f : Frame N} (h : s.FrameOk f) (id : Nat) :
    (s.remove id).FrameOk (Frame.unlink id f) where
  hooks e he := by
    obtain ⟨e₀, he₀, rfl⟩ := Option.map_eq_some_iff.mp he
    obtain ⟨hnodup, hlive⟩ := h.hooks e₀ he₀
    refine ⟨hnodup.filter _, fun i hi => ?_⟩
    obtain ⟨hmem, hne⟩ := mem_filter_ne.mp hi
    exact live_remove.mpr ⟨hlive i hmem, hne⟩
  alone i deferred saved claimed todo ht := by
    obtain ⟨task, emission, calling⟩ := f
    cases task with
    | drain => cases ht
    | initial i₀ deferred₀ saved₀ claimed₀ todo₀ =>
      cases ht
      obtain ⟨⟨c, hc, hp⟩, hnodup, hall, hlive, hsaved, hclaimed⟩ := h.alone _ _ _ _ _ rfl
      rw [isolated_remove]
      refine ⟨?_, hnodup.filter _, fun x hx => hall x (mem_filter_ne.mp hx).1, fun hl => ?_,
        fun hd => by rw [hsaved hd]; rfl, hclaimed⟩
      · by_cases hi : i = id
        · subst hi
          refine ⟨{ c with removed := true }, ?_, hp⟩
          show update s.cards i _ i = _
          rw [update_self, hc]
          rfl
        · exact ⟨c, (update_ne _ _ hi).trans hc, hp⟩
      · obtain ⟨hl, hi⟩ := live_remove.mp hl
        exact mem_filter_ne.mpr ⟨hlive hl, hi⟩

theorem sound_remove (h : s.Sound) (id : Nat) : (s.remove id).Sound where
  stack := stack_unlink id h.stack
  turn := by
    show s.dispatching = !(s.frames.map _).isEmpty
    rw [h.turn, List.isEmpty_map]
  count := h.count
  queued := h.queued
  frames f hf := by
    obtain ⟨f₀, hf₀, rfl⟩ := List.mem_map.mp hf
    exact (h.frames f₀ hf₀).remove id
  born i c hc := by
    obtain ⟨c₀, hc₀, hb, -⟩ := card_remove hc
    exact hb ▸ h.born i c₀ hc₀
  ledger i c hc hr := by
    obtain ⟨c₀, hc₀, hb, hinitial, hlog, hlive⟩ := card_remove hc
    rw [owed_remove s (hlive hr).1, hlog, hinitial, hb]
    exact h.ledger i c₀ hc₀ (hlive hr).2
  given i c hc := by
    obtain ⟨c₀, hc₀, hb, hinitial, hlog, -⟩ := card_remove hc
    rw [hlog, hinitial, hb]
    exact h.given i c₀ hc₀
  distinct := by
    rw [listening_remove]
    exact h.distinct.filter _
  listens i hi := by
    rw [listening_remove] at hi
    obtain ⟨hmem, hne⟩ := mem_filter_ne.mp hi
    obtain ⟨c, hc, hr, hb⟩ := h.listens i hmem
    exact ⟨c, (update_ne _ _ hne).trans hc, hr, hb⟩
  cohort k := by
    refine ⟨(h.cohort k).1.filter _, fun i hi => ?_⟩
    obtain ⟨hmem, hne⟩ := mem_filter_ne.mp hi
    obtain ⟨heq, hno, hlive⟩ := (h.cohort k).2 i hmem
    refine ⟨heq, fun hl => hno ?_, live_remove.mpr ⟨hlive, hne⟩⟩
    rw [listening_remove] at hl
    exact (mem_filter_ne.mp hl).1
  placed i c hc hr := by
    obtain ⟨c₀, hc₀, hb, -, -, hlive⟩ := card_remove hc
    obtain ⟨hne, hr₀⟩ := hlive hr
    rw [listening_remove, hb]
    rcases h.placed i c₀ hc₀ hr₀ with hl | ⟨hco, hw⟩
    · exact .inl (mem_filter_ne.mpr ⟨hl, hne⟩)
    · exact .inr ⟨mem_filter_ne.mpr ⟨hco, hne⟩, hw⟩
  barrier i hi := by
    obtain ⟨c, hc⟩ := h.barrier i hi
    by_cases hne : i = id
    · subst hne
      refine ⟨{ c with removed := true }, ?_⟩
      show update s.cards i _ i = _
      rw [update_self, hc]
      rfl
    · exact ⟨c, (update_ne _ _ hne).trans hc⟩

/-! ### The innermost frame -/

section Advance
variable {f : Frame N} {rest : List (Frame N)}

theorem owed_cons (hf : s.frames = f :: rest) (id : Nat) :
    s.owed id = Frame.owed id f ++ rest.flatMap (Frame.owed id) := by
  unfold owed
  rw [hf, List.flatMap_cons]

theorem listening_cons (hf : s.frames = f :: rest) :
    s.listening = f.saved ++ rest.flatMap Frame.saved ++ s.active := by
  unfold listening
  rw [hf, List.flatMap_cons]

/-- The frame on top is replaced by one that owes and sets aside the same. -/
theorem Sound.replace (h : s.Sound) (hf : s.frames = f :: rest) {f' : Frame N}
    (htask : f.Owns → f'.Owns) (hnested : f.Nested → f'.Nested) (hok : s.FrameOk f')
    (howed : ∀ id, s.Live id → Frame.owed id f' = Frame.owed id f) (hsaved : f'.saved = f.saved) :
    Sound { s with frames := f' :: rest } := by
  have hstack := h.stack
  have hturn := h.turn
  rw [hf] at hstack hturn
  refine h.reframe (hstack.replace htask hnested) hturn ?_ ?_ ?_
  · intro g hg
    have hgok : s.FrameOk g := by
      rcases List.mem_cons.mp hg with rfl | hg
      · exact hok
      · exact h.frames g (hf ▸ List.mem_cons_of_mem _ hg)
    exact ⟨hgok.hooks, hgok.alone⟩
  · intro id hl
    rw [owed_cons hf, List.flatMap_cons, howed id hl]
  · rw [listening_cons hf, List.flatMap_cons, hsaved]

/-- The frame on top gives up the turn, or the call. -/
theorem Sound.drop (h : s.Sound) (hf : s.frames = f :: rest) (howed : ∀ id, Frame.owed id f = [])
    (hsaved : f.saved = []) {dispatching : Bool} (hturn : dispatching = !rest.isEmpty) :
    Sound { s with frames := rest, dispatching } := by
  have hstack := h.stack
  rw [hf] at hstack
  refine h.reframe hstack.tail hturn ?_ ?_ ?_
  · intro g hg
    have hgok := h.frames g (hf ▸ List.mem_cons_of_mem _ hg)
    exact ⟨hgok.hooks, hgok.alone⟩
  · intro id _
    rw [owed_cons hf, howed id, List.nil_append]
  · rw [listening_cons hf, hsaved, List.nil_append]

theorem Sound.top (h : s.Sound) (hf : s.frames = f :: rest) : s.FrameOk f :=
  h.frames f (hf ▸ List.mem_cons_self ..)

/-- A call adds to the log of the listener it is for. -/
theorem card_deliver {note : N} {id i : Nat} {c : Card N}
    (hc : (s.deliver note id).cards i = some c) :
    ∃ c₀, s.cards i = some c₀ ∧ c.removed = c₀.removed ∧ c.born = c₀.born ∧
      c.initial = c₀.initial ∧ c.log = c₀.log ++ (if i = id then [note] else []) := by
  rcases update_eq_some hc with ⟨rfl, hnew⟩ | ⟨hi, hc'⟩
  · obtain ⟨c₀, hc₀, rfl⟩ := Option.map_eq_some_iff.mp hnew
    exact ⟨c₀, hc₀, rfl, rfl, rfl, by rw [if_pos rfl]⟩
  · exact ⟨c, hc', rfl, rfl, rfl, by rw [if_neg hi, List.append_nil]⟩

/-- A call keeps every registration. -/
theorem deliver_card {note : N} (id : Nat) {i : Nat} {c : Card N} (hc : s.cards i = some c) :
    ∃ c', (s.deliver note id).cards i = some c' ∧ c'.born = c.born ∧ c'.removed = c.removed := by
  by_cases hi : i = id
  · refine ⟨{ c with log := c.log ++ [note] }, ?_, rfl, rfl⟩
    show update s.cards id _ i = _
    rw [← hi, update_self, hc]
    rfl
  · exact ⟨c, (update_ne _ _ hi).trans hc, rfl, rfl⟩

/-- A call gives `note` to `id`, which the frame owed it first. -/
theorem sound_deliver (h : s.Sound) (hf : s.frames = f :: rest) {note : N} {id : Nat}
    {hooks : List Nat} (he : f.emission = some ⟨note, id :: hooks⟩) :
    Sound { s.deliver note id with
      frames := { f with emission := some ⟨note, hooks⟩, calling := true } :: rest } := by
  obtain ⟨task, emission, calling⟩ := f
  cases he
  have hok := h.top hf
  obtain ⟨hnodup, hlive⟩ := hok.hooks _ rfl
  obtain ⟨hnot, hnodup⟩ := List.nodup_cons.mp hnodup
  -- what is owed to the listener that is called, and to another
  have howed : ∀ i, s.owed i = (if i = id then [note] else []) ++
      (Frame.owed i ⟨task, some ⟨note, hooks⟩, true⟩ ++ rest.flatMap (Frame.owed i)) := by
    intro i
    rw [owed_cons hf]
    by_cases hi : i = id
    · subst hi
      simp only [Frame.owed, List.mem_cons, true_or, if_true, if_neg hnot, List.nil_append,
        List.append_assoc]
    · simp only [Frame.owed, List.mem_cons, hi, false_or, if_false, List.nil_append]
  have hledger : ∀ i c, (s.deliver note id).cards i = some c → c.removed = false →
      c.log ++ (Frame.owed i ⟨task, some ⟨note, hooks⟩, true⟩ ++ rest.flatMap (Frame.owed i)) =
        c.initial ++ (s.sent.drop c.born).take (s.popped - c.born) := by
    intro i c hc hr
    obtain ⟨c₀, hc₀, hremoved, hborn, hinitial, hlog⟩ := card_deliver hc
    rw [hlog, hborn, hinitial, List.append_assoc, ← howed]
    exact h.ledger i c₀ hc₀ (hremoved ▸ hr)
  have hstack := h.stack
  have hturn := h.turn
  rw [hf] at hstack hturn
  refine
    { stack := hstack.replace (fun ho => ho) (fun hn => hn)
      turn := hturn
      count := h.count
      queued := h.queued
      frames := ?_
      born := ?_
      ledger := hledger
      given := ?_
      distinct := ?_
      listens := ?_
      cohort := ?_
      placed := ?_
      barrier := ?_ }
  · intro g hg
    have hgok : s.FrameOk g := by
      rcases List.mem_cons.mp hg with rfl | hg
      · refine ⟨fun e he => ?_, hok.alone⟩
        cases he
        exact ⟨hnodup, fun i hi => hlive i (List.mem_cons_of_mem _ hi)⟩
      · exact h.frames g (hf ▸ List.mem_cons_of_mem _ hg)
    exact hgok.congr (fun _ _ => deliver_card id) rfl fun _ _ _ _ => rfl
  · intro i c hc
    obtain ⟨c₀, hc₀, -, hborn, -⟩ := card_deliver hc
    exact hborn ▸ h.born i c₀ hc₀
  · intro i c hc
    obtain ⟨c₀, hc₀, hremoved, hborn, hinitial, hlog⟩ := card_deliver hc
    by_cases hi : i = id
    · -- a listener that is called was not removed
      obtain ⟨c₁, hc₁, hr₁⟩ := hlive id (List.mem_cons_self ..)
      rw [← hi, hc₀] at hc₁
      cases hc₁
      have hprefix : c.log <+: c.initial ++ (s.sent.drop c.born).take (s.popped - c.born) := by
        rw [← hledger i c hc (hremoved.trans hr₁)]
        exact List.prefix_append _ _
      exact hprefix.trans (List.prefix_append_right_inj _ |>.mpr (List.take_prefix _ _))
    · rw [hlog, hborn, hinitial, if_neg hi, List.append_nil]
      exact h.given i c₀ hc₀
  · have hd := h.distinct
    rw [listening_cons hf] at hd
    exact hd
  · intro i hi
    obtain ⟨c, hc, hr, hb⟩ := h.listens i (by rw [listening_cons hf]; exact hi)
    obtain ⟨c', hc', hb', hr'⟩ := deliver_card id hc
    exact ⟨c', hc', hr'.trans hr, hb' ▸ hb⟩
  · intro k
    refine ⟨(h.cohort k).1, fun i hi => ?_⟩
    obtain ⟨heq, hno, c, hc, hr⟩ := (h.cohort k).2 i hi
    rw [listening_cons hf] at hno
    obtain ⟨c', hc', -, hr'⟩ := deliver_card id hc
    exact ⟨heq, hno, c', hc', hr'.trans hr⟩
  · intro i c hc hr
    obtain ⟨c₀, hc₀, hremoved, hborn, -⟩ := card_deliver hc
    have hp := h.placed i c₀ hc₀ (hremoved ▸ hr)
    rw [listening_cons hf, ← hborn] at hp
    exact hp
  · intro i hi
    obtain ⟨c, hc⟩ := h.barrier i hi
    obtain ⟨c', hc', -⟩ := deliver_card id hc
    exact ⟨c', hc'⟩

/-- `emit` visits the new listener, which is alone on its list. -/
theorem sound_begin (h : s.Sound) {id : Nat} {deferred claimed calling : Bool} {saved : List Nat}
    {note : N} {todo : List N}
    (hf : s.frames = ⟨.initial id deferred saved claimed (note :: todo), none, calling⟩ :: rest) :
    Sound { s with
      frames :=
        ⟨.initial id deferred saved claimed todo, some ⟨note, s.isolated id deferred⟩, false⟩ ::
          rest } := by
  have hok := h.top hf
  obtain ⟨hcard, hnodup, hall, hlive, hmode⟩ := hok.alone _ _ _ _ _ rfl
  have hlisted : ∀ i ∈ s.isolated id deferred, s.Live i := by
    intro i hi
    cases deferred with
    | true => exact ((h.cohort id).2 i hi).2.2
    | false =>
      obtain ⟨c, hc, hr, -⟩ := h.listens i (List.mem_append_right _ hi)
      exact ⟨c, hc, hr⟩
  refine h.replace hf (fun ho => ho) ?_ ⟨fun e he => ?_, fun i d sv cl td ht => ?_⟩ ?_ rfl
  · rintro ⟨i, td, ht⟩
    cases ht
    exact ⟨_, todo, rfl⟩
  · cases he
    exact ⟨hnodup, hlisted⟩
  · cases ht
    exact ⟨hcard, hnodup, hall, hlive, hmode⟩
  · intro i hl
    simp only [Frame.owed, List.nil_append]
    by_cases hi : id = i
    · subst hi
      rw [if_pos (hlive hl), if_pos rfl, if_pos rfl]
      rfl
    · rw [if_neg hi, if_neg hi, if_neg fun hmem => hi (hall i hmem).symm]
      rfl

/-- The end of a registration: the hooks set aside are back. -/
theorem sound_join (h : s.Sound) {id : Nat} {deferred claimed calling : Bool} {saved : List Nat}
    (hf : s.frames = ⟨.initial id deferred saved claimed [], none, calling⟩ :: rest) :
    Sound { s.join id deferred saved with
      frames := if claimed then ⟨.drain, none, false⟩ :: rest else rest } := by
  obtain ⟨-, -, -, -, hsaved, hclaimed⟩ := (h.top hf).alone _ _ _ _ _ rfl
  have howed : ∀ i,
      Frame.owed i (⟨.initial id deferred saved claimed [], none, calling⟩ : Frame N) = [] :=
    fun i => by
    simp only [Frame.owed, List.nil_append, ite_self]
  have hcohorts : deferred = true →
      update s.cohorts id (saved ++ s.cohorts id) = s.cohorts := fun hd => by
    funext k
    by_cases hk : k = id
    · rw [hk, update_self, hsaved hd, List.nil_append]
    · exact update_ne _ _ hk
  have hstack := h.stack
  have hturn := h.turn
  rw [hf] at hstack hturn
  cases claimed with
  | true =>
    -- the registration owns the turn, and drains what its callbacks queued
    have hrest := hstack.bottom rfl
    subst hrest
    cases deferred with
    | true =>
      simp only [join, if_true, hcohorts rfl]
      refine h.replace hf (fun _ => trivial) (fun hn => ?_) ⟨nofun, nofun⟩ ?_ (hsaved rfl).symm
      · obtain ⟨i, todo, ht⟩ := hn
        cases ht
      · intro i _
        exact (howed i).symm
    | false =>
      simp only [join, Bool.false_eq_true, if_false, if_true]
      refine h.reframe (.owner trivial) hturn ?_ ?_ ?_
      · intro g hg
        rw [List.mem_singleton.mp hg]
        exact ⟨nofun, nofun⟩
      · intro i _
        rw [owed_cons hf, howed i]
        rfl
      · rw [listening_cons hf]
        show [] ++ (saved ++ s.active) = saved ++ [] ++ s.active
        rw [List.append_nil, List.nil_append]
  | false =>
    have hdeferred : deferred = true := by
      cases deferred with
      | true => rfl
      | false => exact absurd (hclaimed rfl) Bool.false_ne_true
    subst hdeferred
    simp only [join, if_true, hcohorts rfl, Bool.false_eq_true, if_false]
    refine h.drop hf howed (hsaved rfl) ?_
    cases hstack with
    | owner ho => exact absurd ho Bool.false_ne_true
    | nested _ _ => exact hturn

/-- The owner takes a notification out of the queue. -/
theorem sound_pop (h : s.Sound) {calling : Bool} (hf : s.frames = ⟨.drain, none, calling⟩ :: rest)
    {note : N} {queue : List (Entry N)} (hq : s.queue = .notice note :: queue) :
    Sound { s with
      queue, popped := s.popped + 1,
      frames := ⟨.drain, some ⟨note, s.active⟩, false⟩ :: rest } := by
  have hstack := h.stack
  have hturn := h.turn
  rw [hf] at hstack hturn
  have hrest := hstack.bottom trivial
  subst hrest
  have hlist : s.listening = s.active := listening_cons hf
  have hdrop : s.sent.drop s.popped = note :: notices queue := by rw [← h.queued, hq]; rfl
  have hlt : s.popped < s.sent.length := by
    refine Nat.lt_of_not_le fun hle => ?_
    rw [List.drop_eq_nil_iff.mpr hle] at hdrop
    cases hdrop
  have hnote : s.sent[s.popped]? = some note := by
    have hhead : (s.sent.drop s.popped)[0]? = some note := by rw [hdrop]; rfl
    rwa [List.getElem?_drop, Nat.add_zero] at hhead
  have hnone : ∀ i, s.owed i = [] := fun i => owed_cons hf i
  refine
    { stack := .owner trivial
      turn := hturn
      count := hlt
      queued := ?_
      frames := ?_
      born := h.born
      ledger := ?_
      given := h.given
      distinct := hlist ▸ h.distinct
      listens := ?_
      cohort := ?_
      placed := ?_
      barrier := ?_ }
  · show notices queue = s.sent.drop (s.popped + 1)
    rw [← List.tail_drop, hdrop]
    rfl
  · intro g hg
    rw [List.mem_singleton.mp hg]
    refine ⟨fun e he => ?_, nofun⟩
    cases he
    refine ⟨hlist ▸ h.distinct, fun i hi => ?_⟩
    obtain ⟨c, hc, hr, -⟩ := h.listens i (hlist ▸ hi)
    exact ⟨c, hc, hr⟩
  · intro i c hc hr
    have hledger := h.ledger i c hc hr
    rw [hnone i, List.append_nil] at hledger
    have howed : ∀ frame : Frame N, frame = ⟨.drain, some ⟨note, s.active⟩, false⟩ →
        [frame].flatMap (Frame.owed i) = if i ∈ s.active then [note] else [] := by
      rintro _ rfl
      simp only [List.flatMap_cons, List.flatMap_nil, Frame.owed, List.append_nil]
    show c.log ++ [_].flatMap (Frame.owed i) =
      c.initial ++ (s.sent.drop c.born).take (s.popped + 1 - c.born)
    rw [howed _ rfl, hledger]
    rcases h.placed i c hc hr with hl | ⟨hco, hw⟩
    · -- active: the notification is owed
      obtain ⟨c', hc', -, hb⟩ := h.listens i hl
      rw [hc] at hc'
      cases hc'
      have hone : (s.sent.drop c.born)[s.popped - c.born]? = some note := by
        rw [List.getElem?_drop, Nat.add_sub_cancel' hb, hnote]
      rw [if_pos (hlist ▸ hl), Nat.succ_sub hb, List.take_add_one, hone, List.append_assoc]
      rfl
    · -- behind a barrier that is not at the front
      have hno : i ∉ s.active := hlist ▸ ((h.cohort i).2 i hco).2.1
      rw [hq] at hw
      have hlate : s.popped + 1 ≤ c.born := hw.notice.popped_le
      rw [if_neg hno, Nat.sub_eq_zero_of_le hlate, Nat.sub_eq_zero_of_le (Nat.le_of_succ_le hlate),
        List.append_nil]
  · intro i hi
    obtain ⟨c, hc, hr, hb⟩ := h.listens i (hlist ▸ hi)
    exact ⟨c, hc, hr, Nat.le_succ_of_le hb⟩
  · intro k
    have hk := h.cohort k
    rw [hlist] at hk
    exact hk
  · intro i c hc hr
    rcases h.placed i c hc hr with hl | ⟨hco, hw⟩
    · exact .inl (hlist ▸ hl)
    · rw [hq] at hw
      exact .inr ⟨hco, hw.notice⟩
  · intro i hi
    exact h.barrier i (hq ▸ List.mem_cons_of_mem _ hi)

/-- The owner takes a barrier out of the queue: its cohort becomes active. -/
theorem sound_activate (h : s.Sound) {calling : Bool}
    (hf : s.frames = ⟨.drain, none, calling⟩ :: rest) {cohort : Nat} {queue : List (Entry N)}
    (hq : s.queue = .activate cohort :: queue) :
    Sound { s.activate cohort with queue, frames := ⟨.drain, none, calling⟩ :: rest } := by
  have hstack := h.stack
  have hturn := h.turn
  rw [hf] at hstack hturn
  have hrest := hstack.bottom trivial
  subst hrest
  have hlist : s.listening = s.active := listening_cons hf
  have hnone : ∀ i, s.owed i = [] := fun i => owed_cons hf i
  obtain ⟨hnodup, hmembers⟩ := h.cohort cohort
  rw [hlist] at hmembers
  -- the cohort's own barrier is at the front
  have hfront : ∀ {i : Nat} {c : Card N}, i ∈ s.cohorts cohort → s.cards i = some c →
      c.removed = false → c.born = s.popped := by
    intro i c hi hc hr
    obtain ⟨rfl, hno, -⟩ := hmembers i hi
    rcases h.placed i c hc hr with hl | ⟨-, hw⟩
    · exact absurd (hlist ▸ hl) hno
    · rw [hq] at hw
      rcases hw.activate with ⟨-, hborn⟩ | ⟨hne, -⟩
      · exact hborn
      · exact absurd rfl hne
  refine
    { stack := hstack
      turn := hturn
      count := h.count
      queued := ?_
      frames := ?_
      born := h.born
      ledger := ?_
      given := h.given
      distinct := ?_
      listens := ?_
      cohort := ?_
      placed := ?_
      barrier := ?_ }
  · show notices queue = s.sent.drop s.popped
    rw [← h.queued, hq]
    rfl
  · intro g hg
    rw [List.mem_singleton.mp hg]
    exact ⟨nofun, nofun⟩
  · intro i c hc hr
    have hledger := h.ledger i c hc hr
    rw [hnone i] at hledger
    exact hledger
  · show (s.active ++ s.cohorts cohort).Nodup
    refine List.nodup_append.mpr ⟨hlist ▸ h.distinct, hnodup, ?_⟩
    rintro a ha b hb rfl
    exact (hmembers a hb).2.1 ha
  · intro i hi
    have hi : i ∈ s.active ++ s.cohorts cohort := hi
    rcases List.mem_append.mp hi with ha | hco
    · exact h.listens i (hlist.symm ▸ ha)
    · obtain ⟨-, -, c, hc, hr⟩ := hmembers i hco
      exact ⟨c, hc, hr, Nat.le_of_eq (hfront hco hc hr)⟩
  · intro k
    by_cases hk : k = cohort
    · show (update s.cohorts cohort [] k).Nodup ∧ ∀ i ∈ update s.cohorts cohort [] k, _
      rw [hk, update_self]
      exact ⟨List.nodup_nil, nofun⟩
    · show (update s.cohorts cohort [] k).Nodup ∧ ∀ i ∈ update s.cohorts cohort [] k, _
      rw [update_ne _ _ hk]
      refine ⟨(h.cohort k).1, fun i hi => ?_⟩
      obtain ⟨heq, hno, hlive⟩ := (h.cohort k).2 i hi
      refine ⟨heq, fun hmem => ?_, hlive⟩
      have hmem : i ∈ s.active ++ s.cohorts cohort := hmem
      rcases List.mem_append.mp hmem with ha | hco
      · exact hno (hlist.symm ▸ ha)
      · exact hk (heq.symm.trans (hmembers i hco).1)
  · intro i c hc hr
    rcases h.placed i c hc hr with hl | ⟨hco, hw⟩
    · left
      show i ∈ s.active ++ s.cohorts cohort
      exact List.mem_append_left _ (hlist ▸ hl)
    · rw [hq] at hw
      rcases hw.activate with ⟨rfl, -⟩ | ⟨hi, hw⟩
      · left
        show i ∈ s.active ++ s.cohorts i
        exact List.mem_append_right _ hco
      · refine .inr ⟨?_, hw⟩
        show i ∈ update s.cohorts cohort [] i
        rw [update_ne _ _ hi]
        exact hco
  · intro i hi
    exact h.barrier i (hq ▸ List.mem_cons_of_mem _ hi)

theorem sound_advance (h : s.Sound) (hf : s.frames = f :: rest) : (s.advance f rest).Sound := by
  obtain ⟨task, emission, calling⟩ := f
  unfold advance
  split
  · next note id hooks he => exact sound_deliver h hf he
  · next note he =>
    cases he
    refine h.replace hf (fun ho => ho) (fun hn => hn) ⟨nofun, (h.top hf).alone⟩ (fun id _ => ?_) rfl
    simp only [Frame.owed, List.not_mem_nil, if_false]
  · next he =>
    cases he
    split
    · next ht =>
      cases ht
      exact sound_begin h hf
    · next ht =>
      cases ht
      exact sound_join h hf
    · next ht =>
      cases ht
      split
      · next hq => exact sound_pop h hf hq
      · next hq => exact sound_activate h hf hq
      · next hq =>
        have hstack := h.stack
        rw [hf] at hstack
        have hrest := hstack.bottom trivial
        subst hrest
        exact h.drop hf (fun _ => rfl) rfl rfl

theorem sound_return (h : s.Sound) (hf : s.frames = f :: rest) :
    Sound { s with frames := { f with calling := false } :: rest } :=
  h.replace hf (fun ho => ho) (fun hn => hn) ⟨(h.top hf).hooks, (h.top hf).alone⟩
    (fun _ _ => rfl) rfl

end Advance

end Steps

section Run
variable {s s' : Notifier N}

/-- What each step does, and when. -/
inductive Stepped (s : Notifier N) : Event N → Notifier N → Prop where
  | enqueue (hext : s.external = true) (notes : List N) :
    Stepped s (.enqueue notes) (s.enqueue notes)
  | flush (hext : s.external = true) : Stepped s .flush s.flush
  | register (hext : s.external = true) {id : Nat} (hid : s.cards id = none) (initial : List N) :
    Stepped s (.register id initial) (s.register id initial)
  | remove (hext : s.external = true) (id : Nat) : Stepped s (.remove id) (s.remove id)
  | return_ {f : Frame N} {rest : List (Frame N)} (hf : s.frames = f :: rest)
    (hc : f.calling = true) :
    Stepped s .return_ { s with frames := { f with calling := false } :: rest }
  | run {f : Frame N} {rest : List (Frame N)} (hf : s.frames = f :: rest)
    (hc : f.calling = false) : Stepped s .run (s.advance f rest)

theorem stepped {e : Event N} (hs : s.step e = some s') : Stepped s e s' := by
  cases e with
  | enqueue notes =>
    obtain ⟨hext, heq⟩ := Option.ite_none_right_eq_some.mp hs
    cases heq
    exact .enqueue hext notes
  | flush =>
    obtain ⟨hext, heq⟩ := Option.ite_none_right_eq_some.mp hs
    cases heq
    exact .flush hext
  | register id initial =>
    obtain ⟨⟨hext, hid⟩, heq⟩ := Option.ite_none_right_eq_some.mp hs
    cases heq
    exact .register hext (Option.isNone_iff_eq_none.mp hid) initial
  | remove id =>
    obtain ⟨hext, heq⟩ := Option.ite_none_right_eq_some.mp hs
    cases heq
    exact .remove hext id
  | return_ =>
    simp only [step] at hs
    split at hs
    · next f rest hf =>
      obtain ⟨hc, heq⟩ := Option.ite_none_right_eq_some.mp hs
      cases heq
      exact .return_ hf hc
    · cases hs
  | run =>
    simp only [step] at hs
    split at hs
    · next f rest hf =>
      obtain ⟨hc, heq⟩ := Option.ite_none_left_eq_some.mp hs
      cases heq
      exact .run hf (Bool.eq_false_iff.mpr hc)
    · cases hs

theorem sound_step (h : s.Sound) {e : Event N} (hs : s.step e = some s') : s'.Sound := by
  cases stepped hs with
  | enqueue _ notes => exact sound_enqueue h notes
  | flush _ => exact sound_flush h
  | register _ hid initial => exact sound_register h hid initial
  | remove _ id => exact sound_remove h id
  | return_ hf _ => exact sound_return h hf
  | run hf _ => exact sound_advance h hf

theorem sound_init (h : system.init s) : s.Sound := by
  obtain ⟨hq, hd, ha, hc, hf, hs, hp, hcards⟩ := h
  have hnone : ∀ {id : Nat} {c : Card N}, s.cards id = some c → False := fun hc => by
    rw [hcards] at hc
    cases hc
  have hlist : s.listening = [] := by
    unfold listening
    rw [hf, ha]
    rfl
  refine
    { stack := hf ▸ .idle
      turn := by rw [hd, hf]; rfl
      count := by rw [hp]; exact Nat.zero_le _
      queued := by rw [hq, hs, hp]; rfl
      frames := by rw [hf]; nofun
      born := fun _ _ hc => (hnone hc).elim
      ledger := fun _ _ hc => (hnone hc).elim
      given := fun _ _ hc => (hnone hc).elim
      distinct := by rw [hlist]; exact List.nodup_nil
      listens := by rw [hlist]; nofun
      cohort := fun k => by rw [hc]; exact ⟨List.nodup_nil, nofun⟩
      placed := fun _ _ hc => (hnone hc).elim
      barrier := by rw [hq]; nofun }

theorem sound_inductive : Inductive (system (N := N)) (fun _ _ => True) Sound :=
  ⟨fun _ => sound_init, fun _ _ _ h _ => sound_step h⟩

theorem sound (h : Reachable system s) : s.Sound := h.invariant sound_inductive

/-- The notifications that a step enqueues. -/
def Event.notes : Event N → List N
  | .enqueue notes => notes
  | _ => []

/-- A registration keeps its place and its snapshot. -/
theorem books_step {e : Event N} (hs : s.step e = some s') :
    s'.sent = s.sent ++ e.notes ∧
      ∀ id c', s'.cards id = some c' →
        (∃ c, s.cards id = some c ∧ c.born = c'.born ∧ c.initial = c'.initial) ∨
        e = .register id c'.initial ∧ c'.born = s.sent.length := by
  have hsame : ∀ {t : Notifier N}, t.sent = s.sent → t.cards = s.cards →
      t.sent = s.sent ++ [] ∧ ∀ id c', t.cards id = some c' →
        (∃ c, s.cards id = some c ∧ c.born = c'.born ∧ c.initial = c'.initial) ∨
        e = .register id c'.initial ∧ c'.born = s.sent.length := by
    intro t hsent hcards
    refine ⟨by rw [hsent, List.append_nil], fun id c' hc => .inl ⟨c', hcards ▸ hc, rfl, rfl⟩⟩
  cases stepped hs with
  | enqueue _ notes => exact ⟨rfl, fun id c' hc => .inl ⟨c', hc, rfl, rfl⟩⟩
  | flush _ => refine hsame ?_ ?_ <;> (unfold flush; split <;> rfl)
  | @register _ id hid initial =>
    refine ⟨(List.append_nil _).symm, fun i c' hc => ?_⟩
    rcases card_register s id initial i c' hc with ⟨rfl, rfl⟩ | ⟨-, hc'⟩
    · exact .inr ⟨rfl, rfl⟩
    · exact .inl ⟨c', hc', rfl, rfl⟩
  | remove _ id =>
    refine ⟨(List.append_nil _).symm, fun i c' hc => ?_⟩
    obtain ⟨c₀, hc₀, hb, hinitial, -⟩ := card_remove hc
    exact .inl ⟨c₀, hc₀, hb.symm, hinitial.symm⟩
  | return_ _ _ => exact hsame rfl rfl
  | run hf _ =>
    unfold advance
    split
    · next note id hooks _ =>
      refine ⟨(List.append_nil _).symm, fun i c' hc => .inl ?_⟩
      obtain ⟨c₀, hc₀, -, hb, hinitial, -⟩ := card_deliver hc
      exact ⟨c₀, hc₀, hb.symm, hinitial.symm⟩
    · exact hsame rfl rfl
    · split
      · exact hsame rfl rfl
      · next id deferred saved claimed _ =>
        cases deferred <;> exact hsame rfl rfl
      · split <;> exact hsame rfl rfl

/-! ## The dispatch turn -/

/-- The turn is given up on an empty queue, and by the outermost call. -/
theorem released_empty (h : s.Sound) {e : Event N} (hs : s.step e = some s')
    (hd : s.dispatching = true) (hd' : s'.dispatching = false) :
    s'.queue = [] ∧ s'.frames = [] := by
  refine ⟨?_, (sound_step h hs).idle hd'⟩
  have hkept : s'.dispatching ≠ s.dispatching := by
    rw [hd, hd']
    exact Bool.false_ne_true
  cases stepped hs with
  | enqueue _ notes => exact absurd rfl hkept
  | flush _ =>
    refine absurd ?_ hkept
    simp only [flush, hd, if_true]
  | register _ hid initial => exact absurd hd.symm hkept
  | remove _ id => exact absurd rfl hkept
  | return_ _ _ => exact absurd rfl hkept
  | @run f rest hf _ =>
    unfold advance at hkept ⊢
    split at hkept
    · exact absurd rfl hkept
    · exact absurd rfl hkept
    · split at hkept
      · exact absurd rfl hkept
      · next id deferred saved claimed _ =>
        refine absurd ?_ hkept
        cases deferred <;> rfl
      · split at hkept
        · exact absurd rfl hkept
        · exact absurd rfl hkept
        · next hq => exact hq

end Run

/-! ## The outermost call returns -/

section Settle

/-- The snapshots that a frame has not begun to emit. -/
def backlog (f : Frame N) : Nat :=
  match f.task with
  | .drain => 0
  | .initial _ _ _ _ todo => todo.length

/-- The steps that a frame's traversal and its end take. -/
def effort (f : Frame N) : Nat :=
  (match f.task with
    | .drain => 1
    | .initial .. => 2) +
  (match f.emission with
    | some e => 2 * e.rest.length + 1
    | none => 0) +
  (if f.calling then 1 else 0)

/-- The notifications and snapshots that wait. -/
def load (s : Notifier N) : Nat := s.queue.length + (s.frames.map backlog).sum

/-- The steps of the traversals under way. -/
def work (s : Notifier N) : Nat := (s.frames.map effort).sum

/-- The frame on top goes on, towards its end. -/
theorem advance_less {s : Notifier N} {f : Frame N} {rest : List (Frame N)}
    (hf : s.frames = f :: rest) (hc : f.calling = false) :
    (s.advance f rest).load < s.load ∨
      (s.advance f rest).load = s.load ∧ (s.advance f rest).work < s.work := by
  obtain ⟨task, emission, calling⟩ := f
  cases hc
  simp only [load, work, hf, List.map_cons, List.sum_cons]
  unfold advance
  split
  · next note id hooks he =>
    cases he
    right
    simp only [deliver, List.map_cons, List.sum_cons, backlog, effort, List.length_cons]
    exact ⟨trivial, by simp; omega⟩
  · next note he =>
    cases he
    right
    simp only [List.map_cons, List.sum_cons, backlog, effort, List.length_nil]
    exact ⟨trivial, by omega⟩
  · next he =>
    cases he
    split
    · next ht =>
      cases ht
      left
      simp only [List.map_cons, List.sum_cons, backlog, List.length_cons]
      omega
    · next id deferred saved claimed ht =>
      cases ht
      right
      have hqueue : (s.join id deferred saved).queue = s.queue := by
        cases deferred <;> rfl
      cases claimed with
      | true =>
        simp only [hqueue, if_true, List.map_cons, List.sum_cons, backlog, effort, List.length_nil]
        exact ⟨trivial, by omega⟩
      | false =>
        simp only [hqueue, Bool.false_eq_true, if_false, backlog, effort, List.length_nil]
        exact ⟨by omega, by omega⟩
    · next ht =>
      cases ht
      split
      · next hq =>
        left
        simp only [hq, List.map_cons, List.sum_cons, backlog, List.length_cons]
        omega
      · next hq =>
        left
        simp only [hq, List.map_cons, List.sum_cons, backlog, List.length_cons]
        omega
      · next hq =>
        right
        simp only [hq, backlog, effort, List.length_nil]
        exact ⟨by omega, by omega⟩

/-- A callback that returns is work done. -/
theorem return_less {s : Notifier N} {f : Frame N} {rest : List (Frame N)}
    (hf : s.frames = f :: rest) (hc : f.calling = true) :
    load { s with frames := { f with calling := false } :: rest } = s.load ∧
      work { s with frames := { f with calling := false } :: rest } < s.work := by
  obtain ⟨task, emission, calling⟩ := f
  cases hc
  simp only [load, work, hf, List.map_cons, List.sum_cons, backlog, effort, if_true,
    Bool.false_eq_true, if_false]
  exact ⟨trivial, by omega⟩

/-- When every callback just returns, so does the outermost call. -/
theorem settles (s : Notifier N) : ∃ es s', (∀ e ∈ es, e = .return_ ∨ e = .run) ∧
    system.run s es = some s' ∧ s'.frames = [] := by
  cases hf : s.frames with
  | nil => exact ⟨[], s, nofun, rfl, hf⟩
  | cons f rest =>
    cases hc : f.calling with
    | true =>
      have hless := return_less hf hc
      obtain ⟨es, s', hes, hrun, hend⟩ :=
        settles { s with frames := { f with calling := false } :: rest }
      refine ⟨.return_ :: es, s', ?_, ?_, hend⟩
      · intro e he
        rcases List.mem_cons.mp he with rfl | he
        · exact .inl rfl
        · exact hes e he
      · simp only [System.run, system, step, hf, hc, if_true]
        exact hrun
    | false =>
      have hless := advance_less hf hc
      obtain ⟨es, s', hes, hrun, hend⟩ := settles (s.advance f rest)
      refine ⟨.run :: es, s', ?_, ?_, hend⟩
      · intro e he
        rcases List.mem_cons.mp he with rfl | he
        · exact .inr rfl
        · exact hes e he
      · simp only [System.run, system, step, hf, hc, Bool.false_eq_true, if_false]
        exact hrun
termination_by (s.load, s.work)
decreasing_by
  · exact Prod.lex_def.mpr hless
  · exact Prod.lex_def.mpr (.inr hless)

end Settle

/-! ## Listeners are served -/

/-- The endpoint serves its listeners. -/
structure Served (s : Notifier N) : Prop where
  /-- A listener that was not removed has, with what the calls under way still owe it,
  its initial snapshot and then the notifications enqueued since it was registered
  that left the queue: each once, in order. -/
  ledger : ∀ id c, s.cards id = some c → c.removed = false →
    c.log ++ s.owed id = c.initial ++ (s.sent.drop c.born).take (s.popped - c.born)
  /-- A removed listener has a beginning of that. -/
  given : ∀ id c, s.cards id = some c → c.log <+: c.initial ++ s.sent.drop c.born
  /-- The queue has the notifications that did not leave it, in order. -/
  queued : notices s.queue = s.sent.drop s.popped
  /-- The outermost call gives up the turn. -/
  released : s.frames = [] → s.dispatching = false ∧ ∀ id, s.owed id = []
  /-- The turn is given up on an empty queue only. -/
  drained : ∀ e s', s.step e = some s' → s.dispatching = true → s'.dispatching = false →
    s'.queue = [] ∧ s'.frames = []
  /-- The next flush takes it again. -/
  flushes : s.frames = [] → ∃ s', s.step .flush = some s' ∧ s'.dispatching = true
  /-- The outermost call returns when every callback does. -/
  settles : ∃ es s', (∀ e ∈ es, e = .return_ ∨ e = .run) ∧ system.run s es = some s' ∧
    s'.frames = []

theorem Sound.served {s : Notifier N} (h : s.Sound) : s.Served where
  ledger := h.ledger
  given := h.given
  queued := h.queued
  released hf := by
    refine ⟨by rw [h.turn, hf]; rfl, fun id => ?_⟩
    unfold owed
    rw [hf]
    rfl
  drained e s' hs hd hd' := released_empty h hs hd hd'
  flushes hf := by
    have hd : s.dispatching = false := by rw [h.turn, hf]; rfl
    refine ⟨{ s with dispatching := true, frames := ⟨.drain, none, false⟩ :: s.frames }, ?_, rfl⟩
    simp only [step, external, hf, flush, hd, if_true, Bool.false_eq_true, if_false]
  settles := s.settles

/-- A listener that nothing is owed to, while no notification waits, has them all. -/
theorem Served.complete {s : Notifier N} (h : s.Served) {id : Nat} {c : Card N}
    (hc : s.cards id = some c) (hr : c.removed = false) (hq : s.queue = []) (ho : s.owed id = []) :
    c.log = c.initial ++ s.sent.drop c.born := by
  have hledger := h.ledger id c hc hr
  have hqueued := h.queued
  rw [hq] at hqueued
  have hle : s.sent.length ≤ s.popped := List.drop_eq_nil_iff.mp hqueued.symm
  rw [ho, List.append_nil, List.take_of_length_le (by rw [List.length_drop]; omega)] at hledger
  exact hledger

end Notifier

end PwOss.Spa
