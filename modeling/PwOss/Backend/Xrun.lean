import PwOss.Lib.Transition
import PwOss.Backend.Playback

/-
  Xrun accounting: `XrunTracker::observe` of `backend/mod.rs` over one kernel
  counter.

  The kernel counts loss events in a 32-bit counter. A kqueue event carries a
  snapshot of it; a GETERROR poll returns it and sets it to zero. `Counter` has the
  readings taken and not observed yet in `pending`, in the order they were read: a
  snapshot may be dropped from there, and the one observed last may be observed
  again. The ghost counts are not reduced modulo anything. What the tracker
  reported is exactly the increments before the reading observed last
  (`Accounted`), so no event is lost or counted twice.

  Correspondence (Rust ↔ Lean):
    `XrunUnit`, `CounterUpdate`, `XrunObservation`  ↔ the same names
    `XrunTracker`, `XrunBaseline`, `XrunDelta`      ↔ the same names
    `cumulative_delta`                              ↔ `cumulativeDelta`
    `observe`, `reset`                              ↔ `XrunTracker.observe`, `XrunTracker.reset`
    `wrapping_events_u32`, `resetting_events`       ↔ `wrappingEventsU32`, `resettingEvents`
-/

namespace PwOss.Backend

open PwOss.Transition

/-! ## The tracker -/

/-- `ObservationQuality`. -/
inductive ObservationQuality where
  | exact | estimated
  deriving DecidableEq, Repr

/-- `XrunUnit`. -/
inductive XrunUnit where
  | events | frames | bytes
  deriving DecidableEq, Repr

/-- `XrunUnit::index`. -/
def XrunUnit.index : XrunUnit → Fin 3
  | .events => 0
  | .frames => 1
  | .bytes => 2

/-- `CounterUpdate`. -/
inductive CounterUpdate where
  | delta
  | snapshot
  | wrappingSnapshot (modulus : Nat)
  | resettingTotal
  deriving DecidableEq, Repr

/-- `XrunObservation`, of the counter with the identity `counter`. -/
structure XrunObservation where
  counter : Nat
  value : Nat
  unit : XrunUnit
  update : CounterUpdate
  quality : ObservationQuality
  deriving DecidableEq, Repr

/-- `XrunDelta`. -/
structure XrunDelta where
  events : Nat := 0
  lostFrames : Option Nat := none
  lostBytes : Option Nat := none
  quality : Option ObservationQuality := none
  deriving DecidableEq, Repr

/-- `XrunBaseline`. -/
structure XrunBaseline where
  counter : Nat
  value : Nat
  wrappingModulus : Option Nat
  deriving DecidableEq, Repr

/-- `XrunTracker`: one baseline a unit. -/
structure XrunTracker where
  previous : Vector (Option XrunBaseline) 3 := Vector.replicate 3 none
  deriving DecidableEq

/-- `cumulative_delta`. -/
def cumulativeDelta (current : Nat) : Option XrunBaseline → Nat
  | none => current
  | some previous =>
    let unwrapped := if previous.value ≤ current then current - previous.value else current
    match previous.wrappingModulus with
    | some modulus =>
      if 0 < modulus then
        let current := current % modulus
        let previous := previous.value % modulus
        if previous ≤ current then current - previous else modulus - previous + current
      else unwrapped
    | none => unwrapped

namespace XrunObservation

/-- `resetting_events`. -/
def resettingEvents (value : Nat) : XrunObservation :=
  ⟨0, value, .events, .resettingTotal, .exact⟩

/-- `wrapping_events_u32`. -/
def wrappingEventsU32 (value : Nat) : XrunObservation :=
  ⟨0, value, .events, .wrappingSnapshot (2 ^ 32), .exact⟩

end XrunObservation

namespace XrunTracker

/-- The delta of an observation, and the baseline it leaves. -/
def advance (previous : Option XrunBaseline) (o : XrunObservation) : Nat × Option XrunBaseline :=
  let matching := previous.filter fun baseline => baseline.counter = o.counter
  match o.update with
  | .delta => (o.value, previous)
  | .resettingTotal => (cumulativeDelta o.value matching, none)
  | .snapshot => (cumulativeDelta o.value matching, some ⟨o.counter, o.value, none⟩)
  | .wrappingSnapshot modulus =>
    let prior := matching.map fun baseline => { baseline with wrappingModulus := some modulus }
    (cumulativeDelta o.value prior, some ⟨o.counter, o.value, some modulus⟩)

/-- What is reported of a delta. -/
def report (o : XrunObservation) (delta : Nat) : XrunDelta :=
  match o.unit with
  | .events => { events := min delta u32Max, quality := some o.quality }
  | .frames =>
    { events := if delta = 0 then 0 else 1, lostFrames := some delta, quality := some o.quality }
  | .bytes =>
    { events := if delta = 0 then 0 else 1, lostBytes := some delta, quality := some o.quality }

/-- `observe`. -/
def observe (t : XrunTracker) (o : XrunObservation) : XrunDelta × XrunTracker :=
  let next := advance t.previous[o.unit.index] o
  (report o next.1, { t with previous := t.previous.set o.unit.index next.2 })

/-- `reset`. -/
def reset (_ : XrunTracker) : XrunTracker := {}

/-! ## Units are independent -/

/-- The deltas that a list of observations reports for one unit. -/
def deltas (u : XrunUnit) : XrunTracker → List XrunObservation → List XrunDelta
  | _, [] => []
  | t, o :: os =>
    let next := t.observe o
    if o.unit = u then next.1 :: deltas u next.2 os else deltas u next.2 os

theorem index_inj {u v : XrunUnit} (h : u.index = v.index) : u = v := by
  cases u <;> cases v <;> first | rfl | cases h

/-- An observation of another unit keeps the baseline. -/
theorem observe_previous_ne (t : XrunTracker) {o : XrunObservation} {u : XrunUnit}
    (h : o.unit ≠ u) : (t.observe o).2.previous[u.index] = t.previous[u.index] := by
  have hne : (o.unit.index : Nat) ≠ u.index := fun he => h (index_inj (Fin.ext he))
  exact Vector.getElem_set_ne o.unit.index.isLt u.index.isLt hne

theorem observe_previous_self (t : XrunTracker) (o : XrunObservation) :
    (t.observe o).2.previous[o.unit.index] = (advance t.previous[o.unit.index] o).2 :=
  Vector.getElem_set_self o.unit.index.isLt

/-- The deltas of a unit depend on its own baseline and its own observations only. -/
theorem deltas_congr (u : XrunUnit) : ∀ (os : List XrunObservation) {t t' : XrunTracker},
    t.previous[u.index] = t'.previous[u.index] →
    deltas u t os = deltas u t' (os.filter (·.unit = u))
  | [], _, _, _ => rfl
  | o :: os, t, t', h => by
    by_cases hu : o.unit = u
    · subst hu
      have hnext : (t.observe o).2.previous[o.unit.index] =
          (t'.observe o).2.previous[o.unit.index] := by
        rw [observe_previous_self, observe_previous_self, h]
      have hreport : (t.observe o).1 = (t'.observe o).1 := by
        unfold observe
        rw [h]
      rw [List.filter_cons_of_pos (by simp), deltas, deltas]
      simp only [if_true]
      rw [hreport, deltas_congr o.unit os hnext]
    · rw [List.filter_cons_of_neg (by simpa using hu), deltas]
      simp only [if_neg hu]
      exact deltas_congr u os ((observe_previous_ne t hu).trans h)

/-- A wrapping snapshot at the count `b` after one at the count `a` gives the
increments between them. -/
theorem cumulativeDelta_wrapping {a b : Nat} (hab : a ≤ b) (hlt : b - a < 2 ^ 32) :
    cumulativeDelta (b % 2 ^ 32) (some ⟨0, a % 2 ^ 32, some (2 ^ 32)⟩) = b - a := by
  have ha : a % 2 ^ 32 % 2 ^ 32 = a % 2 ^ 32 := Nat.mod_mod _ _
  have hb : b % 2 ^ 32 % 2 ^ 32 = b % 2 ^ 32 := Nat.mod_mod _ _
  simp only [cumulativeDelta, ha, hb]
  split
  · split <;> omega
  · omega

end XrunTracker

/-! ## One counter in one epoch -/

/-- A value read from the kernel's counter. -/
structure Reading where
  /-- GETERROR set the counter to zero. -/
  resets : Bool
  value : Nat
  /-- The increments before it was read. -/
  before : Nat
  deriving DecidableEq

/-- What the backend makes of a reading. -/
def Reading.observation (r : Reading) : XrunObservation :=
  if r.resets then .resettingEvents r.value else .wrappingEventsU32 r.value

/-- The kernel's counter, its readings under way and the tracker of one epoch. -/
structure Counter where
  /-- The increments since the counter was last zero. -/
  count : Nat
  pending : List Reading
  tracker : XrunTracker
  /-- The snapshot observed last, which can be observed again. -/
  latest : Option Reading
  -- ghost counts
  /-- All increments. -/
  total : Nat
  /-- The increments before the reading observed last. -/
  observed : Nat
  /-- The sum of the reported `XrunDelta.events`. -/
  reported : Nat

namespace Counter

inductive Event where
  | increment (events : Nat)
  /-- A kqueue event carries the counter. -/
  | snapshot
  /-- GETERROR. -/
  | poll
  /-- A snapshot is dropped before it was observed. -/
  | discard (index : Nat)
  | observe
  /-- The latest snapshot is observed once more. -/
  | again
  /-- An observation of another unit. -/
  | other (o : XrunObservation)

/-- The tracker observes `r`. -/
def take (s : Counter) (r : Reading) : Counter :=
  let next := s.tracker.observe r.observation
  { s with
    tracker := next.2, reported := s.reported + next.1.events, observed := r.before,
    latest := if r.resets then none else some r }

def step (s : Counter) : Event → Option Counter
  | .increment events => some { s with count := s.count + events, total := s.total + events }
  | .snapshot =>
    some { s with pending := s.pending ++ [⟨false, s.count % 2 ^ 32, s.total⟩] }
  | .poll =>
    some { s with pending := s.pending ++ [⟨true, s.count % 2 ^ 32, s.total⟩], count := 0 }
  | .discard index =>
    match s.pending[index]? with
    | some ⟨false, _, _⟩ => some { s with pending := s.pending.eraseIdx index }
    | _ => none
  | .observe =>
    match s.pending with
    | r :: rest => some ({ s with pending := rest }.take r)
    | [] => none
  | .again => s.latest.map s.take
  | .other o =>
    if o.unit = .events then none else some { s with tracker := (s.tracker.observe o).2 }

/-- An epoch begins with a counter at zero. -/
def system : System Counter Event where
  init s :=
    s.count = 0 ∧ s.pending = [] ∧ s.tracker = {} ∧ s.latest = none ∧ s.total = 0 ∧
      s.observed = 0 ∧ s.reported = 0
  step := step

/-- Fewer than 2^32 increments lie between two observed readings. -/
def Timely (s : Counter) : Event → Prop
  | .observe => ∀ r ∈ s.pending.head?, r.before < s.observed + 2 ^ 32
  | _ => True

instance (s : Counter) : (e : Event) → Decidable (Timely s e)
  | .observe =>
    inferInstanceAs (Decidable (∀ r ∈ s.pending.head?, r.before < s.observed + 2 ^ 32))
  | .increment _ | .snapshot | .poll | .discard _ | .again | .other _ => .isTrue trivial

/-! ## Accounting -/

/-- The readings under way are those of a counter that was zero at the increment
`base`, after a reading at the increment `seen`. -/
def Queued (total count : Nat) : Nat → Nat → List Reading → Prop
  | base, seen, [] => base ≤ seen ∧ seen ≤ total ∧ count = total - base
  | base, seen, r :: rest =>
    base ≤ seen ∧ seen ≤ r.before ∧ r.value = (r.before - base) % 2 ^ 32 ∧
      Queued total count (if r.resets then r.before else base) r.before rest

/-- The baseline after a reading at `seen` of a counter that was zero at `base`. -/
def Based (t : XrunTracker) (base seen : Nat) : Prop :=
  t.previous[XrunUnit.events.index] = none ∧ seen = base ∨
  t.previous[XrunUnit.events.index] = some ⟨0, (seen - base) % 2 ^ 32, some (2 ^ 32)⟩

/-- The tracker reported every increment before the reading observed last. -/
structure Accounted (s : Counter) : Prop where
  reported : s.reported = s.observed
  /-- The counter was zero at `base`. -/
  based : ∃ base, Based s.tracker base s.observed ∧
    Queued s.total s.count base s.observed s.pending
  latest : ∀ r ∈ s.latest, r.resets = false ∧ r.before = s.observed ∧
    s.tracker.previous[XrunUnit.events.index] = some ⟨0, r.value, some (2 ^ 32)⟩ ∧
    r.value < 2 ^ 32

/-- The increments between two timely readings fit the reported count. -/
theorem reported_events {d : Nat} (h : d < 2 ^ 32) : min d u32Max = d := by
  unfold u32Max
  omega

/-- A timely reading reports the increments since the reading before it. -/
theorem Based.observe {t : XrunTracker} {base seen : Nat} (h : Based t base seen) {r : Reading}
    (hzero : base ≤ seen) (hseen : seen ≤ r.before) (hlt : r.before < seen + 2 ^ 32)
    (hv : r.value = (r.before - base) % 2 ^ 32) :
    (t.observe r.observation).1.events = r.before - seen ∧
      (t.observe r.observation).2.previous[XrunUnit.events.index] =
        if r.resets then none else some ⟨0, r.value, some (2 ^ 32)⟩ := by
  have hd : min (r.before - seen) u32Max = r.before - seen := reported_events (by omega)
  -- the counter's own value when the reading is the first since it was zero
  have hfirst : seen = base → r.value = r.before - seen := by
    intro he
    rw [hv, he, Nat.mod_eq_of_lt (by omega)]
  have hsince : cumulativeDelta r.value (some ⟨0, (seen - base) % 2 ^ 32, some (2 ^ 32)⟩) =
      r.before - seen := by
    rw [hv, XrunTracker.cumulativeDelta_wrapping (by omega) (by omega)]
    omega
  cases hr : r.resets with
  | true =>
    have hu : r.observation = .resettingEvents r.value := by
      simp only [Reading.observation, hr, if_true]
    rw [hu]
    refine ⟨?_, XrunTracker.observe_previous_self t _⟩
    rcases h with ⟨hp, he⟩ | hp
    · show min (cumulativeDelta r.value (Option.filter _ t.previous[XrunUnit.events.index])) _ = _
      rw [hp]
      exact (congrArg (min · u32Max) (hfirst he)).trans hd
    · show min (cumulativeDelta r.value (Option.filter _ t.previous[XrunUnit.events.index])) _ = _
      rw [hp]
      exact (congrArg (min · u32Max) hsince).trans hd
  | false =>
    have hu : r.observation = .wrappingEventsU32 r.value := by
      simp only [Reading.observation, hr, Bool.false_eq_true, if_false]
    rw [hu]
    refine ⟨?_, XrunTracker.observe_previous_self t _⟩
    rcases h with ⟨hp, he⟩ | hp
    · show min (cumulativeDelta r.value
        (Option.map _ (Option.filter _ t.previous[XrunUnit.events.index]))) _ = _
      rw [hp]
      exact (congrArg (min · u32Max) (hfirst he)).trans hd
    · show min (cumulativeDelta r.value
        (Option.map _ (Option.filter _ t.previous[XrunUnit.events.index]))) _ = _
      rw [hp]
      exact (congrArg (min · u32Max) hsince).trans hd

/-- The baseline that a reading leaves. -/
theorem Based.of_reading {t : XrunTracker} {base : Nat} {r : Reading}
    (hp : t.previous[XrunUnit.events.index] =
      if r.resets then none else some ⟨0, r.value, some (2 ^ 32)⟩)
    (hv : r.value = (r.before - base) % 2 ^ 32) :
    Based t (if r.resets then r.before else base) r.before := by
  cases hr : r.resets with
  | true =>
    rw [hr] at hp
    exact .inl ⟨hp, rfl⟩
  | false =>
    rw [hr, hv] at hp
    exact .inr hp

section Queue
variable {total count : Nat}

theorem Queued.le {base seen : Nat} : ∀ {l : List Reading}, Queued total count base seen l →
    base ≤ seen
  | [], h => h.1
  | _ :: _, h => h.1

/-- Readings stay under way while the reading before them is earlier. -/
theorem Queued.earlier {base seen seen' : Nat} (hb : base ≤ seen') (hs : seen' ≤ seen) :
    ∀ {l : List Reading}, Queued total count base seen l → Queued total count base seen' l
  | [], h => ⟨hb, Nat.le_trans hs h.2.1, h.2.2⟩
  | _ :: _, h => ⟨hb, Nat.le_trans hs h.2.1, h.2.2⟩

/-- A new reading goes to the end; a poll sets the counter to zero. -/
theorem Queued.append {r : Reading} (hb : r.before = total) (hv : r.value = count % 2 ^ 32) :
    ∀ {l : List Reading} {base seen : Nat}, Queued total count base seen l →
      Queued total (if r.resets then 0 else count) base seen (l ++ [r])
  | [], base, seen, ⟨hle, hs, hcount⟩ => by
    rw [hcount] at hv
    refine ⟨hle, by omega, by rw [hv, hb], ?_⟩
    cases hr : r.resets with
    | true => exact ⟨Nat.le_refl _, by omega, by simp only [if_true]; omega⟩
    | false =>
      simp only [Bool.false_eq_true, if_false]
      exact ⟨by omega, by omega, hcount⟩
  | _ :: _, _, _, ⟨hle, hs, hvalue, hrest⟩ => ⟨hle, hs, hvalue, hrest.append hb hv⟩

/-- A dropped snapshot leaves the readings around it. -/
theorem Queued.discard : ∀ {l : List Reading} {index base seen v b : Nat},
    Queued total count base seen l → l[index]? = some ⟨false, v, b⟩ →
    Queued total count base seen (l.eraseIdx index)
  | r :: rest, 0, base, seen, v, b, h, hi => by
    obtain ⟨hle, hs, -, hrest⟩ := h
    simp only [List.getElem?_cons_zero, Option.some.injEq] at hi
    subst hi
    exact Queued.earlier hle hs hrest
  | r :: rest, index + 1, base, seen, v, b, h, hi => by
    obtain ⟨hle, hs, hvalue, hrest⟩ := h
    rw [List.getElem?_cons_succ] at hi
    exact ⟨hle, hs, hvalue, hrest.discard hi⟩

/-- The kernel counts on. -/
theorem Queued.increment (events : Nat) : ∀ {l : List Reading} {base seen : Nat},
    Queued total count base seen l → Queued (total + events) (count + events) base seen l
  | [], base, seen, ⟨hle, hs, hcount⟩ => ⟨hle, Nat.le_add_right_of_le hs, by omega⟩
  | _ :: _, _, _, ⟨hle, hs, hvalue, hrest⟩ => ⟨hle, hs, hvalue, hrest.increment events⟩

/-- The increments are at least those before the last reading. -/
theorem Queued.le_total : ∀ {l : List Reading} {base seen : Nat},
    Queued total count base seen l → seen ≤ total
  | [], _, _, h => h.2.1
  | _ :: _, _, _, h => Nat.le_trans h.2.1 h.2.2.2.le_total

end Queue

section Run
variable {s s' : Counter}

theorem accounted_observe (h : s.Accounted) {r : Reading} {rest : List Reading}
    (hp : s.pending = r :: rest) (ht : Timely s .observe) :
    Accounted ({ s with pending := rest }.take r) := by
  obtain ⟨base, hbased, hqueue⟩ := h.based
  rw [hp] at hqueue
  obtain ⟨hz, hs, hv, hrest⟩ := hqueue
  have hlt : r.before < s.observed + 2 ^ 32 := ht r (by rw [hp]; rfl)
  obtain ⟨hevents, hprevious⟩ := hbased.observe hz hs hlt hv
  refine ⟨?_, ⟨_, .of_reading hprevious hv, hrest⟩, ?_⟩
  · show s.reported + (s.tracker.observe r.observation).1.events = r.before
    rw [h.reported, hevents]
    omega
  · intro r' hr'
    cases hr : r.resets with
    | true => simp only [take, hr, if_true, Option.mem_def, reduceCtorEq] at hr'
    | false =>
      simp only [take, hr, Bool.false_eq_true, if_false, Option.mem_def, Option.some.injEq] at hr'
      subst hr'
      rw [hr] at hprevious
      exact ⟨hr, rfl, hprevious, by rw [hv]; exact Nat.mod_lt _ (by decide)⟩

/-- The latest snapshot reports nothing when it is observed again. -/
theorem accounted_again (h : s.Accounted) {r : Reading} (hl : s.latest = some r) :
    Accounted (s.take r) := by
  obtain ⟨hr, hb, hp, hlt⟩ := h.latest r (by rw [hl]; rfl)
  obtain ⟨base, hbased, hqueue⟩ := h.based
  have hu : r.observation = .wrappingEventsU32 r.value := by
    simp only [Reading.observation, hr, Bool.false_eq_true, if_false]
  have hnone : (s.tracker.observe r.observation).1.events = 0 := by
    rw [hu]
    show min (cumulativeDelta r.value
      (Option.map _ (Option.filter _ s.tracker.previous[XrunUnit.events.index]))) _ = _
    rw [hp]
    have hsame := XrunTracker.cumulativeDelta_wrapping (Nat.le_refl r.value) (by omega)
    rw [Nat.mod_eq_of_lt hlt, Nat.sub_self] at hsame
    exact (congrArg (min · u32Max) hsame).trans (Nat.zero_min _)
  have hprevious : (s.tracker.observe r.observation).2.previous[XrunUnit.events.index] =
      some ⟨0, r.value, some (2 ^ 32)⟩ := by
    rw [hu]
    exact XrunTracker.observe_previous_self s.tracker _
  refine ⟨?_, ⟨base, ?_, ?_⟩, ?_⟩
  · show s.reported + (s.tracker.observe r.observation).1.events = r.before
    rw [hnone, hb, h.reported, Nat.add_zero]
  · show Based (s.tracker.observe r.observation).2 base r.before
    rw [hb]
    unfold Based at hbased ⊢
    rwa [hprevious, ← hp]
  · show Queued s.total s.count base r.before s.pending
    rw [hb]
    exact hqueue
  · intro r' hr'
    simp only [take, hr, Bool.false_eq_true, if_false, Option.mem_def, Option.some.injEq] at hr'
    subst hr'
    exact ⟨hr, rfl, hprevious, hlt⟩

theorem accounted_inductive : Inductive system Timely Accounted where
  init := by
    rintro s ⟨hc, hp, ht, hl, htotal, ho, hr⟩
    refine ⟨by rw [hr, ho], ⟨0, .inl ⟨by rw [ht]; rfl, ho⟩, ?_⟩, by rw [hl]; nofun⟩
    rw [hp]
    exact ⟨Nat.zero_le _, by omega, by omega⟩
  step := by
    intro s e s' h ht hs
    obtain ⟨base, hbased, hqueue⟩ := h.based
    cases e with
    | increment events =>
      cases hs
      exact ⟨h.reported, ⟨base, hbased, hqueue.increment events⟩, h.latest⟩
    | snapshot =>
      cases hs
      have hread := hqueue.append (r := ⟨false, s.count % 2 ^ 32, s.total⟩) rfl rfl
      exact ⟨h.reported, ⟨base, hbased, hread⟩, h.latest⟩
    | poll =>
      cases hs
      have hread := hqueue.append (r := ⟨true, s.count % 2 ^ 32, s.total⟩) rfl rfl
      exact ⟨h.reported, ⟨base, hbased, hread⟩, h.latest⟩
    | discard index =>
      simp only [system, step] at hs
      split at hs
      · next v b hi =>
        cases hs
        exact ⟨h.reported, ⟨base, hbased, hqueue.discard hi⟩, h.latest⟩
      · cases hs
    | observe =>
      simp only [system, step] at hs
      split at hs
      · next r rest hp =>
        cases hs
        exact accounted_observe h hp ht
      · cases hs
    | again =>
      obtain ⟨r, hl, rfl⟩ := Option.map_eq_some_iff.mp hs
      exact accounted_again h hl
    | other o =>
      simp only [system, step] at hs
      split at hs
      · cases hs
      · next hu =>
        cases hs
        have hkeep := XrunTracker.observe_previous_ne s.tracker (u := .events) hu
        refine ⟨h.reported, ⟨base, ?_, hqueue⟩, ?_⟩
        · unfold Based at hbased ⊢
          rwa [hkeep]
        · intro r hr
          obtain ⟨hreset, hb, hp, hlt⟩ := h.latest r hr
          exact ⟨hreset, hb, hkeep.trans hp, hlt⟩

/-- The tracker accounts for every increment of an epoch. -/
theorem accounted (h : Via system Timely s) : s.Accounted := h.invariant accounted_inductive

end Run

end Counter

/-- Xrun accounting conserves events. In every run of one counter's epoch in which
fewer than 2^32 increments lie between two observed readings, the reported events
and the increments after the reading observed last are all increments. The deltas
of a unit are those of its own observations alone, whatever else is observed. -/
theorem xruns_conserved :
    (∀ s : Counter, Via Counter.system Counter.Timely s →
      s.observed ≤ s.total ∧ s.reported + (s.total - s.observed) = s.total) ∧
    ∀ (u : XrunUnit) (t : XrunTracker) (os : List XrunObservation),
      t.deltas u os = t.deltas u (os.filter (·.unit = u)) := by
  refine ⟨fun s h => ?_, fun u t os => XrunTracker.deltas_congr u os rfl⟩
  have ha := Counter.accounted h
  obtain ⟨base, -, hqueue⟩ := ha.based
  have hle := hqueue.le_total
  exact ⟨hle, by rw [ha.reported]; omega⟩

def epochStart : Counter := ⟨0, [], {}, none, 0, 0, 0⟩

/-- A snapshot just below the wrap, one that is dropped, one past the wrap that is
observed twice, and a poll. -/
def acrossTheWrap : List Counter.Event :=
  [.increment (2 ^ 32 - 2), .snapshot, .observe, .increment 1, .snapshot, .discard 0, .increment 3,
    .snapshot, .observe, .again, .increment 5, .poll, .observe, .increment 4]

theorem xruns_conserved_across_wrap :
    ∃ s, Counter.system.runTested (fun s e => decide (s.Timely e)) epochStart acrossTheWrap =
        some s ∧
      s.reported = 2 ^ 32 + 7 ∧ s.reported + (s.total - s.observed) = s.total := by
  have hrun : (Counter.system.runTested (fun s e => decide (s.Timely e)) epochStart
      acrossTheWrap).map Counter.reported = some (2 ^ 32 + 7) := by
    decide +kernel
  obtain ⟨s, hs, hreported⟩ := Option.map_eq_some_iff.mp hrun
  have hinit : Counter.system.init epochStart := ⟨rfl, rfl, rfl, rfl, rfl, rfl, rfl⟩
  have h : Via Counter.system Counter.Timely s :=
    (via_of_runTested acrossTheWrap (.init hinit) hs).mono fun _ _ => of_decide_eq_true
  exact ⟨s, hs, hreported, (xruns_conserved.1 s h).2⟩

end PwOss.Backend
