import PwOss.Node.Events
import PwOss.Oss.Devices

/-
  The listener endpoint of the device monitor, `monitor/mod.rs`, over the catalog.

  A hotplug event rescans the catalog and dispatches its changes; a new listener is
  given the catalog's snapshots as they are. So the listener that replays what it
  was given holds the catalog whenever nothing waits for it: the invariant is that
  its initial snapshot, and every change enqueued since, replay to the catalog
  (`Told`).

  Correspondence (Rust ↔ Lean):
    `MonitorEvents`, `MonitorObjectEvent`       ↔ `Monitor`, `MonitorNote`
    `catalog_notifications`                     ↔ `MonitorNote.ofChange`
    `on_hotplug_event`                          ↔ `Event.hotplug`
    `add_listener`                              ↔ `Event.addListener`
-/

namespace PwOss.Monitor

open PwOss.Oss PwOss.Spa PwOss.Transition PwOss.Sys

/-- What a monitor listener is given. -/
inductive MonitorNote where
  /-- The device info. -/
  | info
  | added (snapshot : CatalogGroupSnapshot)
  | removed (id : Nat)

namespace MonitorNote

/-- `catalog_notifications`: the diagnostic goes to the log. -/
def ofChange : CatalogChange → MonitorNote
  | .added snapshot _ => .added snapshot
  | .removed id _ => .removed id

/-- A listener applies a notification. -/
def apply (l : Listener) : MonitorNote → Option Listener
  | .info => some l
  | .added snapshot => l.apply (.added snapshot "")
  | .removed id => l.apply (.removed id "")

/-- Notifications in order. -/
def replay : Listener → List MonitorNote → Option Listener
  | l, [] => some l
  | l, note :: rest => (apply l note).bind fun l => replay l rest

theorem replay_append : ∀ (xs ys : List MonitorNote) (l : Listener),
    replay l (xs ++ ys) = (replay l xs).bind fun l => replay l ys
  | [], _, _ => rfl
  | x :: xs, ys, l => by
    simp only [List.cons_append, replay]
    cases apply l x with
    | none => rfl
    | some l' => exact replay_append xs ys l'

/-- The notifications of catalog changes replay as the changes do. -/
theorem replay_ofChange : ∀ (changes : List CatalogChange) (l : Listener),
    replay l (changes.map ofChange) = l.replay changes
  | [], _ => rfl
  | change :: changes, l => by
    have hone : apply l (ofChange change) = l.apply change := by
      cases change <;> rfl
    simp only [List.map_cons, replay, Listener.replay, hone]
    cases l.apply change with
    | none => rfl
    | some l' => exact replay_ofChange changes l'

end MonitorNote

structure Monitor where
  catalog : Groups
  notifier : Notifier MonitorNote

namespace Monitor

inductive Event where
  | hotplug (call : RescanCall)
  | addListener (id : Nat)
  | remove (id : Nat)
  | return_
  | run

/-- The snapshot that `add_listener` emits to a new listener. -/
def initialSnapshot (s : Monitor) : List MonitorNote :=
  .info :: (snapshots s.catalog).map .added

/-- The step's part on the queue and the listeners. -/
def Event.notify (s : Monitor) : Event → List (Notifier.Event MonitorNote)
  | .hotplug call =>
    let rescan := (rescanWith s.catalog call.detached call.read).2
    [.enqueue (rescan.changes.map .ofChange), .flush]
  | .addListener id => [.register id s.initialSnapshot]
  | .remove id => [.remove id]
  | .return_ => [.return_]
  | .run => [.run]

/-- The step's part on the catalog. -/
def Event.rescan (s : Monitor) : Event → Groups
  | .hotplug call => (rescanWith s.catalog call.detached call.read).1
  | _ => s.catalog

def step (s : Monitor) (e : Event) : Option Monitor :=
  (Notifier.system.run s.notifier (e.notify s)).map fun notifier => ⟨e.rescan s, notifier⟩

/-- A scanned catalog without listeners. -/
def system : System Monitor Event where
  init s := WellFormed s.catalog ∧ Notifier.system.init s.notifier
  step := step

/-- A successful read gives well-formed groups. -/
def ReadsWell (_ : Monitor) : Event → Prop
  | .hotplug call => ∀ groups, call.read = .ok groups → WellFormed groups
  | _ => True

/-! ## What a listener is told -/

/-- A listener that was told nothing. -/
def untold : Listener := fun _ => none

/-- The notifications replay to a listener that holds the catalog. -/
def Told (groups : Groups) (notes : List MonitorNote) : Prop :=
  ∃ l, MonitorNote.replay untold notes = some l ∧ l.Reflects (· ∈ groups.entries)

/-- Every registration was told the catalog, or has it under way. -/
structure Tells (s : Monitor) : Prop where
  wellFormed : WellFormed s.catalog
  sound : s.notifier.Sound
  told : ∀ id c, s.notifier.cards id = some c →
    Told s.catalog (c.initial ++ s.notifier.sent.drop c.born)

section Steps
variable {s : Monitor}

/-- The initial snapshot tells the catalog. -/
theorem told_initial (hw : WellFormed s.catalog) : Told s.catalog s.initialSnapshot := by
  have hempty : untold.Reflects fun _ => False := by
    intro id snapshot
    exact ⟨nofun, fun ⟨_, he, _⟩ => he.elim⟩
  obtain ⟨l, hl, hreflects⟩ := Listener.replay_announcements hempty
    ((Listener.distinct_of_wellFormed hw).mono fun _ he => he.resolve_left id) s.catalog.nodup
    fun _ _ => id
  refine ⟨l, ?_, Listener.reflects_congr hreflects fun e => by simp only [false_or]⟩
  have hmap : (snapshots s.catalog).map MonitorNote.added =
      (s.catalog.entries.filterMap fun e => announcement e.1 e.2).map MonitorNote.ofChange := by
    unfold snapshots
    rw [List.map_filterMap, List.map_filterMap]
    congr 1
    funext e
    unfold announcement
    cases groupSnapshot e.1 e.2 <;> rfl
  show MonitorNote.replay untold ((snapshots s.catalog).map .added) = some l
  rw [hmap, MonitorNote.replay_ofChange, hl]

/-- A rescan's changes lead from what was told to the new catalog. -/
theorem Told.rescan (hw : WellFormed s.catalog) {notes : List MonitorNote}
    (h : Told s.catalog notes) {call : RescanCall}
    (hr : ∀ groups, call.read = .ok groups → WellFormed groups) :
    Told (rescanWith s.catalog call.detached call.read).1
      (notes ++ (rescanWith s.catalog call.detached call.read).2.changes.map .ofChange) := by
  obtain ⟨l, hl, hreflects⟩ := h
  obtain ⟨-, l', hl', hreflects'⟩ := Listener.replay_rescanWith hw hreflects call.detached hr
  refine ⟨l', ?_, hreflects'⟩
  rw [MonitorNote.replay_append, hl, Option.bind_some, MonitorNote.replay_ofChange, hl']

/-- A step that enqueues nothing and registers nobody. -/
theorem Tells.quiet (h : s.Tells) {e : Notifier.Event MonitorNote} {notifier : Notifier MonitorNote}
    (hs : s.notifier.step e = some notifier) (hnotes : Notifier.Event.notes e = [])
    (he : ∀ id initial, e ≠ .register id initial) : Tells { s with notifier } := by
  obtain ⟨hsent, hcards⟩ := Notifier.books_step hs
  rw [hnotes, List.append_nil] at hsent
  refine ⟨h.wellFormed, Notifier.sound_step h.sound hs, fun id c' hc' => ?_⟩
  rcases hcards id c' hc' with ⟨c, hc, hb, hinitial⟩ | ⟨hreg, -⟩
  · show Told s.catalog (c'.initial ++ notifier.sent.drop c'.born)
    rw [← hinitial, ← hb, hsent]
    exact h.told id c hc
  · exact absurd hreg (he _ _)

theorem Tells.register (h : s.Tells) {id : Nat} {notifier : Notifier MonitorNote}
    (hs : s.notifier.step (.register id s.initialSnapshot) = some notifier) :
    Tells { s with notifier } := by
  obtain ⟨hsent, hcards⟩ := Notifier.books_step hs
  rw [show Notifier.Event.notes (.register id s.initialSnapshot) = [] from rfl,
    List.append_nil] at hsent
  refine ⟨h.wellFormed, Notifier.sound_step h.sound hs, fun i c' hc' => ?_⟩
  show Told s.catalog (c'.initial ++ notifier.sent.drop c'.born)
  rw [hsent]
  rcases hcards i c' hc' with ⟨c, hc, hb, hinitial⟩ | ⟨hreg, hb⟩
  · rw [← hinitial, ← hb]
    exact h.told i c hc
  · -- the new listener is told the catalog as it is
    injection hreg with _ hinitial
    rw [← hinitial, hb, List.drop_length, List.append_nil]
    exact told_initial h.wellFormed

theorem Tells.enqueue (h : s.Tells) {call : RescanCall}
    (hr : ∀ groups, call.read = .ok groups → WellFormed groups) {notifier : Notifier MonitorNote}
    (hs : s.notifier.step (.enqueue
      ((rescanWith s.catalog call.detached call.read).2.changes.map .ofChange)) = some notifier) :
    Tells ⟨(rescanWith s.catalog call.detached call.read).1, notifier⟩ := by
  obtain ⟨hsent, hcards⟩ := Notifier.books_step hs
  have hreads := Listener.replay_rescanWith h.wellFormed
    (Listener.reflects_of h.wellFormed) call.detached hr
  refine ⟨hreads.1, Notifier.sound_step h.sound hs, fun id c' hc' => ?_⟩
  rcases hcards id c' hc' with ⟨c, hc, hb, hinitial⟩ | ⟨hreg, -⟩
  · show Told _ (c'.initial ++ notifier.sent.drop c'.born)
    rw [← hinitial, ← hb, hsent, List.drop_append_of_le_length (h.sound.born id c hc),
      ← List.append_assoc]
    exact (h.told id c hc).rescan h.wellFormed hr
  · cases hreg

theorem tells_step {s' : Monitor} {e : Event} (h : s.Tells) (hr : s.ReadsWell e)
    (hs : s.step e = some s') : s'.Tells := by
  obtain ⟨notifier, hrun, rfl⟩ := Option.map_eq_some_iff.mp hs
  cases e with
  | hotplug call =>
    obtain ⟨enqueued, henqueue, hflush⟩ := run_cons hrun
    rw [run_singleton] at hflush
    exact (h.enqueue hr henqueue).quiet (e := .flush) hflush rfl nofun
  | addListener id =>
    rw [show Event.notify s (.addListener id) = [.register id s.initialSnapshot] from rfl,
      run_singleton] at hrun
    exact h.register hrun
  | remove id =>
    rw [show Event.notify s (.remove id) = [.remove id] from rfl, run_singleton] at hrun
    exact h.quiet (e := .remove id) hrun rfl nofun
  | return_ =>
    rw [show Event.notify s .return_ = [.return_] from rfl, run_singleton] at hrun
    exact h.quiet (e := .return_) hrun rfl nofun
  | run =>
    rw [show Event.notify s .run = [.run] from rfl, run_singleton] at hrun
    exact h.quiet (e := .run) hrun rfl nofun

theorem tells (h : Via system ReadsWell s) : s.Tells := by
  have hI : Inductive system ReadsWell Tells := by
    refine ⟨?_, fun s e s' ht hr hs => tells_step ht hr hs⟩
    rintro s ⟨hw, hinit⟩
    refine ⟨hw, Notifier.sound_init hinit, fun id c hc => ?_⟩
    obtain ⟨-, -, -, -, -, -, -, hcards⟩ := hinit
    rw [hcards] at hc
    cases hc
  exact h.invariant hI

end Steps

end Monitor

/-- Listener notifications are FIFO and behind a barrier. In every run of re-entrant
callbacks an endpoint gives each listener its initial snapshot and then the
notifications enqueued since it was registered, each once and in order, and gives
up the dispatch turn when its queue is empty (`Notifier.Served`); so does a node's
endpoint. A monitor listener to which nothing is owed while the queue is empty
replays what it was given to the catalog's snapshots. -/
theorem listeners_served :
    (∀ {N : Type} (s : Notifier N), Reachable Notifier.system s → s.Served) ∧
    (∀ {ν π : Type} (s : Node.NodeEvents ν π), Reachable Node.NodeEvents.system s →
      s.notifier.Served) ∧
    ∀ s : Monitor, Via Monitor.system Monitor.ReadsWell s → s.notifier.Served ∧
      ∀ id c, s.notifier.cards id = some c → c.removed = false → s.notifier.queue = [] →
        s.notifier.owed id = [] →
          ∃ l, MonitorNote.replay Monitor.untold c.log = some l ∧
            l.Holds (snapshots s.catalog) := by
  refine ⟨fun s h => (Notifier.sound h).served, fun s h => ?_, fun s h => ?_⟩
  · exact (Notifier.sound (Node.NodeEvents.notifier_reachable h)).served
  · have ht := Monitor.tells h
    refine ⟨ht.sound.served, fun id c hc hr hq ho => ?_⟩
    obtain ⟨l, hl, hreflects⟩ := ht.told id c hc
    rw [← ht.sound.served.complete hc hr hq ho] at hl
    exact ⟨l, hl, Listener.holds_of_reflects hreflects⟩

def scannedMonitor : Monitor := ⟨usbDac, ⟨[], false, [], fun _ => [], [], [], 0, fun _ => none⟩⟩

/-- One `emit` to a listener whose callback returns. -/
def emission : List Monitor.Event := [.run, .run, .return_, .run]

/-- A listener is added; while it is told of a replug, another one is. -/
def addedInCallback : List Monitor.Event :=
  [.addListener 0] ++ emission ++ emission ++ [.run, .run, .hotplug replug, .run, .run] ++
    [.addListener 1] ++ emission ++ emission ++ [.run, .return_, .run] ++ emission ++ [.run, .run]

/-- Rescans find the USB card only. -/
def findsUsbDac (_ : Monitor) : Monitor.Event → Bool
  | .hotplug ⟨_, .ok groups⟩ => decide (groups.entries = usbDac.entries)
  | _ => true

/-- The second listener skips the announcement that was queued before its barrier,
and still has the catalog. -/
theorem listeners_served_in_callback :
    ∃ s, Monitor.system.runTested findsUsbDac scannedMonitor addedInCallback = some s ∧
      s.notifier.Served ∧ ∃ c, s.notifier.cards 1 = some c ∧ c.log.length = 2 ∧
        ∃ l, MonitorNote.replay Monitor.untold c.log = some l ∧ l.Holds (snapshots s.catalog) := by
  have hrun : (Monitor.system.runTested findsUsbDac scannedMonitor addedInCallback).map
      (fun s => (s.notifier.queue.isEmpty, (s.notifier.owed 1).isEmpty,
        (s.notifier.cards 1).map fun c => (c.removed, c.log.length))) =
      some (true, true, some (false, 2)) := by
    decide +kernel
  obtain ⟨s, hs, hview⟩ := Option.map_eq_some_iff.mp hrun
  simp only [Prod.mk.injEq, List.isEmpty_iff, Option.map_eq_some_iff] at hview
  obtain ⟨hq, ho, c, hc, hr, hlog⟩ := hview
  have hinit : Monitor.system.init scannedMonitor :=
    ⟨usbDac_wellFormed, rfl, rfl, rfl, fun _ => rfl, rfl, rfl, rfl, fun _ => rfl⟩
  have h : Via Monitor.system Monitor.ReadsWell s := by
    refine (via_of_runTested addedInCallback (.init hinit) hs).mono ?_
    intro t e he
    cases e with
    | hotplug call =>
      rintro groups hg
      obtain ⟨detached, read⟩ := call
      cases hg
      obtain ⟨entries, sorted⟩ := groups
      have hentries : entries = usbDac.entries := of_decide_eq_true he
      subst hentries
      exact usbDac_wellFormed
    | _ => trivial
  obtain ⟨hserved, hreplay⟩ := listeners_served.2.2 s h
  exact ⟨s, hs, hserved, c, hc, hlog, hreplay 1 c hc hr hq ho⟩

end PwOss.Monitor
