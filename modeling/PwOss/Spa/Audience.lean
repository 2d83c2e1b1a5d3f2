import PwOss.Spa.Notifications

/-
  What the listeners of an endpoint make of it.

  The methods of an endpoint act on its state, and enqueue and dispatch what they
  have to tell (`dispatch_all`). A listener makes something of each notification that
  its callback is given, and reads the endpoint when it likes: in a callback, or when
  nobody else runs. `Script` is the endpoint's side and the listener's side of this,
  and a run of its `system` is any tree of re-entrant callbacks.

  A relation between the state, a listener and the notifications on their way to it
  that each part keeps by itself (`Script.Keeps`) holds in every run, for every
  registration (`Audience.kept`).
-/

namespace PwOss.Spa

open PwOss.Transition

variable {N : Type}

/-! ## The next delivery -/

namespace Notifier
variable {s s' : Notifier N}

/-- The callback that the innermost frame is about to make. -/
def delivery (s : Notifier N) : Option (Nat × N) :=
  match s.frames with
  | ⟨_, some ⟨note, id :: _⟩, false⟩ :: _ => some (id, note)
  | _ => none

/-- What a step gives to `id`. -/
def given (s : Notifier N) (id : Nat) : Event N → List N
  | .run =>
    match s.delivery with
    | some (i, note) => if id = i then [note] else []
    | none => []
  | _ => []

/-- A step adds what it gives to the log, and a new registration has no log. -/
theorem log_step {e : Event N} (hs : s.step e = some s') (id : Nat) (c' : Card N)
    (hc' : s'.cards id = some c') :
    (∃ c, s.cards id = some c ∧ c.born = c'.born ∧ c.initial = c'.initial ∧
      c'.log = c.log ++ s.given id e) ∨
    e = .register id c'.initial ∧ s.cards id = none ∧ c'.born = s.sent.length ∧ c'.log = [] := by
  have hsame : ∀ {t : Notifier N}, t.cards = s.cards → t.cards id = some c' →
      s.given id e = [] → ∃ c, s.cards id = some c ∧ c.born = c'.born ∧ c.initial = c'.initial ∧
        c'.log = c.log ++ s.given id e := by
    intro t hcards hc hgiven
    exact ⟨c', hcards ▸ hc, rfl, rfl, by rw [hgiven, List.append_nil]⟩
  cases stepped hs with
  | enqueue _ notes => exact .inl (hsame rfl hc' rfl)
  | flush _ => exact .inl (hsame (by unfold flush; split <;> rfl) hc' rfl)
  | @register _ i hi initial =>
    rcases card_register s i initial id c' hc' with ⟨rfl, rfl⟩ | ⟨-, hc⟩
    · exact .inr ⟨rfl, hi, rfl, rfl⟩
    · exact .inl ⟨c', hc, rfl, rfl, (List.append_nil _).symm⟩
  | remove _ i =>
    obtain ⟨c, hc, hb, hinitial, hlog, -⟩ := card_remove hc'
    exact .inl ⟨c, hc, hb.symm, hinitial.symm, hlog.trans (List.append_nil _).symm⟩
  | return_ _ _ => exact .inl (hsame rfl hc' rfl)
  | @run f rest hf hc =>
    left
    obtain ⟨task, emission, calling⟩ := f
    cases hc
    match emission with
    | some ⟨note, i :: hooks⟩ =>
      have hdeliver : (s.deliver note i).cards id = some c' := hc'
      obtain ⟨c, hc, -, hb, hinitial, hlog⟩ := card_deliver hdeliver
      have hgiven : s.given id .run = if id = i then [note] else [] := by
        simp only [given, delivery, hf]
      exact ⟨c, hc, hb.symm, hinitial.symm, hgiven ▸ hlog⟩
    | some ⟨_, []⟩ => exact hsame rfl hc' (by simp only [given, delivery, hf])
    | none =>
      have hgiven : s.given id .run = [] := by simp only [given, delivery, hf]
      refine hsame (t := s.advance ⟨task, none, false⟩ rest) ?_ hc' hgiven
      unfold advance
      dsimp only
      split
      · rfl
      · next i deferred saved claimed =>
        cases deferred <;> rfl
      · split <;> rfl

end Notifier

/-! ## Endpoints and listeners -/

/-- An endpoint with the state `W`, methods `Op` and notifications `N`, and its
listeners, which make `R` of what they are given and ask for what `K` names. -/
structure Script (W Op N R K : Type) where
  /-- A method's effect, and what it tells the listeners. -/
  act : W → Op → Option (W × List N)
  /-- What a new listener is told. -/
  initial : W → List N
  fresh : R
  hear : N → R → R
  ask : W → K → R → R

/-- An endpoint, its queue and its listeners. -/
structure Audience (W N R : Type) where
  world : W
  notifier : Notifier N
  readers : Nat → R

namespace Audience
variable {W Op N R K : Type}

inductive Event (Op K : Type) where
  | act (op : Op)
  | addListener (id : Nat)
  | remove (id : Nat)
  /-- The listener reads from the endpoint. -/
  | ask (id : Nat) (key : K)
  | return_
  | run

/-- The listener whose callback is next has heard its notification. -/
def heard (script : Script W Op N R K) (s : Audience W N R) : Nat → R :=
  match s.notifier.delivery with
  | some (id, note) => update s.readers id (script.hear note (s.readers id))
  | none => s.readers

/-- The part of the step that is the notifier's alone. -/
def notify (s : Audience W N R) (e : Notifier.Event N) (readers : Nat → R) :
    Option (Audience W N R) :=
  (s.notifier.step e).map fun notifier => { s with notifier, readers }

/-- `dispatch_all` of what a method tells, after its effect. -/
def dispatchAll (s : Audience W N R) (world : W) (notes : List N) : Option (Audience W N R) :=
  (Notifier.system.run s.notifier [.enqueue notes, .flush]).map fun notifier =>
    { s with world, notifier }

def step (script : Script W Op N R K) (s : Audience W N R) : Event Op K → Option (Audience W N R)
  | .act op => (script.act s.world op).bind fun (world, notes) => s.dispatchAll world notes
  | .addListener id =>
    s.notify (.register id (script.initial s.world)) (update s.readers id script.fresh)
  | .remove id => s.notify (.remove id) s.readers
  | .ask id key =>
    if s.notifier.external then
      some { s with readers := update s.readers id (script.ask s.world key (s.readers id)) }
    else none
  | .return_ => s.notify .return_ s.readers
  | .run => s.notify .run (s.heard script)

/-- An endpoint in a state as `Init` says, without listeners. -/
def system (script : Script W Op N R K) (Init : W → Prop) :
    System (Audience W N R) (Event Op K) where
  init s := Init s.world ∧ Notifier.system.init s.notifier
  step := step script

/-- The notifications that a registration was not given yet. -/
def pending (s : Audience W N R) (c : Card N) : List N :=
  (c.initial ++ s.notifier.sent.drop c.born).drop c.log.length

end Audience

/-! ## What every run keeps -/

variable {W Op N R K : Type}

/-- `J` relates the state, a listener and what it was not given yet; `I` is an invariant
of the state itself. Each of the endpoint and the listener keeps them. -/
structure Script.Keeps (script : Script W Op N R K) (Init I : W → Prop)
    (J : W → R → List N → Prop) : Prop where
  init : ∀ w, Init w → I w
  act : ∀ w op w' notes, I w → script.act w op = some (w', notes) →
    I w' ∧ ∀ r pending, J w r pending → J w' r (pending ++ notes)
  start : ∀ w, I w → J w script.fresh (script.initial w)
  hear : ∀ w r n pending, J w r (n :: pending) → J w (script.hear n r) pending
  ask : ∀ w r key pending, J w r pending → J w (script.ask w key r) pending

namespace Audience
variable {script : Script W Op N R K} {Init I : W → Prop} {J : W → R → List N → Prop}
  {s s' : Audience W N R}

/-- The relation holds of every registration. -/
structure Kept (I : W → Prop) (J : W → R → List N → Prop) (s : Audience W N R) : Prop where
  sound : s.notifier.Sound
  world : I s.world
  each : ∀ id c, s.notifier.cards id = some c → J s.world (s.readers id) (s.pending c)

/-- A step of the notifier that tells nothing new. -/
theorem Kept.notify (h : s.Kept I J) {e : Notifier.Event N} {readers : Nat → R}
    (hstep : s.notify e readers = some s') (hnotes : Notifier.Event.notes e = [])
    (hold : ∀ id c, s.notifier.cards id = some c → ∀ pending,
      J s.world (s.readers id) (s.notifier.given id e ++ pending) →
      J s.world (readers id) pending)
    (hnew : ∀ id initial, e = .register id initial → J s.world (readers id) initial) :
    s'.Kept I J := by
  obtain ⟨notifier, hs, rfl⟩ := Option.map_eq_some_iff.mp hstep
  have hsent : notifier.sent = s.notifier.sent := by
    rw [(Notifier.books_step hs).1, hnotes, List.append_nil]
  have hsound := Notifier.sound_step h.sound hs
  refine ⟨hsound, h.world, fun id c' hc' => ?_⟩
  rcases Notifier.log_step hs id c' hc' with ⟨c, hc, hb, hinitial, hlog⟩ | ⟨hreg, -, hb, hlog⟩
  · refine hold id c hc _ ?_
    have hpending : s.pending c =
        s.notifier.given id e ++ pending { s with notifier, readers } c' := by
      have hgiven := hsound.given id c' hc'
      unfold pending
      rw [hsent] at hgiven ⊢
      rw [hb, hinitial]
      rw [hlog] at hgiven ⊢
      obtain ⟨ys, hys⟩ := hgiven
      rw [← hys, List.drop_left, List.append_assoc, List.drop_left]
    rw [← hpending]
    exact h.each id c hc
  · have hpending : pending { s with notifier, readers } c' = c'.initial := by
      unfold pending
      rw [hsent, hb, List.drop_length, List.append_nil, hlog, List.length_nil, List.drop_zero]
    rw [hpending]
    exact hnew id _ hreg

/-- A method's effect, and its notifications at the end of every registration's. -/
theorem Kept.enqueue (h : s.Kept I J) {world : W} {notes : List N} (hworld : I world)
    (hJ : ∀ r pending, J s.world r pending → J world r (pending ++ notes))
    {notifier : Notifier N} (hs : s.notifier.step (.enqueue notes) = some notifier) :
    Kept I J { s with world, notifier } := by
  refine ⟨Notifier.sound_step h.sound hs, hworld, fun id c' hc' => ?_⟩
  have hsent : notifier.sent = s.notifier.sent ++ notes := (Notifier.books_step hs).1
  rcases Notifier.log_step hs id c' hc' with ⟨c, hc, hb, hinitial, hlog⟩ | ⟨hreg, -⟩
  · have hlog : c'.log = c.log := hlog.trans (List.append_nil _)
    have hpending : pending { s with world, notifier } c' = s.pending c ++ notes := by
      have hgiven := (h.sound.given id c hc).length_le
      unfold pending
      rw [hsent, ← hb, ← hinitial, hlog, List.drop_append_of_le_length (h.sound.born id c hc),
        ← List.append_assoc, List.drop_append_of_le_length hgiven]
    show J world (s.readers id) (pending { s with world, notifier } c')
    rw [hpending]
    exact hJ _ _ (h.each id c hc)
  · cases hreg

theorem kept_step (hk : script.Keeps Init I J) (h : s.Kept I J) {e : Event Op K}
    (hstep : step script s e = some s') : s'.Kept I J := by
  have hsame : ∀ e : Notifier.Event N, (∀ id, s.notifier.given id e = []) →
      ∀ id c, s.notifier.cards id = some c → ∀ pending,
        J s.world (s.readers id) (s.notifier.given id e ++ pending) →
        J s.world (s.readers id) pending := by
    intro e hgiven id c _ pending hJ
    rwa [hgiven, List.nil_append] at hJ
  cases e with
  | act op =>
    obtain ⟨⟨world, notes⟩, hact, hdispatch⟩ := Option.bind_eq_some_iff.mp hstep
    obtain ⟨notifier, hrun, rfl⟩ := Option.map_eq_some_iff.mp hdispatch
    obtain ⟨enqueued, henqueue, hflush⟩ := run_cons hrun
    rw [run_singleton] at hflush
    obtain ⟨hworld, hJ⟩ := hk.act _ _ _ _ h.world hact
    have hmid := h.enqueue hworld hJ henqueue
    have hnotify : notify { s with world, notifier := enqueued } .flush s.readers =
        some { s with world, notifier } := by
      show (enqueued.step .flush).map _ = some _
      rw [show enqueued.step .flush = some notifier from hflush]
      rfl
    exact hmid.notify hnotify rfl (fun id c _ pending hJ => hJ) nofun
  | addListener id =>
    refine h.notify hstep rfl (fun i c hc pending hJ => ?_) fun i initial heq => ?_
    · -- a registered listener is another one
      have hne : i ≠ id := by
        rintro rfl
        obtain ⟨_, hs, -⟩ := Option.map_eq_some_iff.mp hstep
        obtain ⟨⟨-, hnone⟩, -⟩ := Option.ite_none_right_eq_some.mp hs
        rw [hc] at hnone
        cases hnone
      rw [update_ne _ _ hne]
      exact hJ
    · cases heq
      rw [update_self]
      exact hk.start _ h.world
  | remove id => exact h.notify hstep rfl (hsame _ fun _ => rfl) nofun
  | ask id key =>
    obtain ⟨-, heq⟩ := Option.ite_none_right_eq_some.mp hstep
    cases heq
    refine ⟨h.sound, h.world, fun i c hc => ?_⟩
    by_cases hi : i = id
    · subst hi
      show J s.world (update s.readers i _ i) (s.pending c)
      rw [update_self]
      exact hk.ask _ _ _ _ (h.each i c hc)
    · show J s.world (update s.readers id _ i) (s.pending c)
      rw [update_ne _ _ hi]
      exact h.each i c hc
  | return_ => exact h.notify hstep rfl (hsame _ fun _ => rfl) nofun
  | run =>
    refine h.notify hstep rfl (fun i c _ pending hJ => ?_) nofun
    unfold heard
    unfold Notifier.given at hJ
    cases hdelivery : s.notifier.delivery with
    | none =>
      rw [hdelivery] at hJ
      exact hJ
    | some p =>
      obtain ⟨id, note⟩ := p
      rw [hdelivery] at hJ
      dsimp only at hJ ⊢
      by_cases hi : i = id
      · subst hi
        rw [if_pos rfl] at hJ
        rw [update_self]
        exact hk.hear _ _ _ _ hJ
      · rw [if_neg hi] at hJ
        rw [update_ne _ _ hi]
        exact hJ

/-- In every run the relation holds of every registration. -/
theorem kept (hk : script.Keeps Init I J) (h : Reachable (system script Init) s) : s.Kept I J := by
  have hI : Inductive (system script Init) (fun _ _ => True) (Kept I J) := by
    refine ⟨?_, fun _ _ _ ht _ hstep => kept_step hk ht hstep⟩
    rintro t ⟨hinit, hnotifier⟩
    refine ⟨Notifier.sound_init hnotifier, hk.init _ hinit, fun id c hc => ?_⟩
    obtain ⟨-, -, -, -, -, -, -, hcards⟩ := hnotifier
    rw [hcards] at hc
    cases hc
  exact h.invariant hI

/-- A listener that nothing is owed to, while no notification waits, was given all. -/
theorem Kept.settled (h : s.Kept I J) {id : Nat} {c : Card N}
    (hc : s.notifier.cards id = some c) (hr : c.removed = false) (hq : s.notifier.queue = [])
    (ho : s.notifier.owed id = []) : J s.world (s.readers id) [] := by
  have hlog := h.sound.served.complete hc hr hq ho
  have hnone : s.pending c = [] := by
    rw [pending, ← hlog, List.drop_length]
  exact hnone ▸ h.each id c hc

end Audience

end PwOss.Spa
