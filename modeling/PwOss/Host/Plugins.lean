import PwOss.Host.Sources
import PwOss.Lib.Transition

/-
  The plugins of a host, from `init` to `clear`, and the rest of the process.

  Any number of devices, monitors and nodes are made and cleared, their loops call them
  back, and other code opens and closes files of its own in between. In every run the
  loops poll just the descriptors of the plugins that are there, each opened by the
  watcher that its source is for; what a plugin opened is closed when it is cleared, and
  the files of others are left alone. No assertion fails and no registered source is
  dropped; the process ends only if a loop refuses to remove a source (`sources_safe`).

  Correspondence (Rust ↔ Lean):
    `device/watch.rs` `arm_route_watch`            ↔ `armRouteWatch`
      `on_route_timeout`, `on_hotplug_event`       ↔ `Watch.fire`
    `device/mod.rs` `clear`                        ↔ `clearDevice`
    `monitor/mod.rs` `init`, `on_hotplug_event`,
      `clear`                                      ↔ `initMonitor`, `Watch.fire`, `clearMonitor`
    `node/factory.rs` `init`, `clear`              ↔ `initNode`, `clearNode`
  What else these functions do is left out here.
-/

namespace PwOss.Host

open PwOss.Descriptors PwOss.Proc PwOss.Transition

/-! ## Plugins -/

/-- The watchers of a plugin. -/
inductive Plugin where
  | device (timer hotplug : Watch)
  | monitor (hotplug : Watch)
  | node (wake : Watch)

/-- The watcher in a slot: where a plugin has none, one that was never armed. -/
def Plugin.watch : Plugin → Slot → Watch
  | device timer _, .timer => timer
  | device _ hotplug, .hotplug => hotplug
  | monitor hotplug, .hotplug => hotplug
  | node wake, .wake => wake
  | _, _ => .new

/-- The same plugin with another watcher in a slot that it has. -/
def Plugin.setWatch : Plugin → Slot → Watch → Plugin
  | device _ hotplug, .timer, w => device w hotplug
  | device timer _, .hotplug, w => device timer w
  | monitor _, .hotplug, w => monitor w
  | node _, .wake, w => node w
  | p, _, _ => p

/-- What the kernel and the loop answer to the watchers of a device. There may be no
route to watch, and no loop, clock or policy for a watcher. -/
structure DeviceAnswers where
  routed : Bool
  timer : Option ArmAnswer
  hotplug : Option ArmAnswer

/-- A watcher that is armed if there is reason to. -/
def Watch.armIf (id : WatchId) (answer : Option ArmAnswer) (w : Watch) : Proc Env Watch :=
  match answer with
  | none => pure w
  | some answer => w.arm id answer

/-- `arm_route_watch`, of a new device. -/
def armRouteWatch (i : Nat) (answers : DeviceAnswers) : Proc Env (Option Plugin) :=
  if answers.routed then do
    let timer ← Watch.new.armIf ⟨i, .timer⟩ answers.timer
    let hotplug ← Watch.new.armIf ⟨i, .hotplug⟩ answers.hotplug
    pure (some (.device timer hotplug))
  else pure (some (.device .new .new))

/-- `init` of a monitor. -/
def initMonitor (i : Nat) (answer : ArmAnswer) : Proc Env (Option Plugin) :=
  if answer.opened then do
    let fd ← openFd ⟨i, .hotplug⟩
    let (_, w) ← Watch.attach ⟨i, .hotplug⟩ answer.added ⟨some fd, .new fd⟩
    pure (some (.monitor w))
  else pure (some (.monitor .new))

/-- What a node meets: whether it has a kqueue, or else a timer, whether its worker
starts, and whether the loop adds its source. -/
structure NodeAnswers where
  driver : Bool
  timer : Bool
  started : Bool
  added : Bool

/-- `init` of a node, which fails without a descriptor, a worker or a registration. -/
def initNode (i : Nat) (answers : NodeAnswers) : Proc Env (Option Plugin) :=
  if answers.driver || answers.timer then do
    let fd ← openFd ⟨i, .wake⟩
    if answers.started then do
      let (added, w) ← Watch.attach ⟨i, .wake⟩ answers.added ⟨some fd, .new fd⟩
      if added then pure (some (.node w))
      else do
        w.dropInPlace ⟨i, .wake⟩
        pure none
    else do
      closeFd ⟨i, .wake⟩ fd
      pure none
  else pure none

/-- A callback of a source: it reads the descriptor, and a hotplug source that was closed
is detached. -/
def Watch.fire (id : WatchId) (alive removed : Bool) (w : Watch) : Proc Env (Ended Watch) :=
  match w.owner with
  | none => pure (.done w)
  | some fd => do
    readFd id fd
    if id.slot = .hotplug ∧ alive = false then w.detach id removed
    else pure (.done w)

/-- A source is unregistered and its number forgotten, and its owner is kept. -/
def Watch.quiet (id : WatchId) (removed : Bool) (w : Watch) : Proc Env (Ended Watch) := do
  let (removed, source) ← w.source.unregister id removed
  if removed then do
    let source ← source.setFd (-1)
    pure (.done { w with source })
  else pure .aborted

/-- A source is detached if it is registered. -/
def Watch.detachIf (id : WatchId) (removed : Bool) (w : Watch) : Proc Env (Ended Watch) :=
  if w.source.registered then w.detach id removed else pure (.done w)

/-- `clear` of a device. -/
def clearDevice (i : Nat) (removed : Slot → Bool) (timer hotplug : Watch) :
    Proc Env (Ended Unit) := do
  let timer ← timer.detachIf ⟨i, .timer⟩ (removed .timer)
  match timer with
  | .aborted => pure .aborted
  | .done timer => do
    let hotplug ← hotplug.quiet ⟨i, .hotplug⟩ (removed .hotplug)
    match hotplug with
    | .aborted => pure .aborted
    | .done hotplug => do
      timer.dropInPlace ⟨i, .timer⟩
      hotplug.dropInPlace ⟨i, .hotplug⟩
      pure (.done ())

/-- `clear` of a monitor. -/
def clearMonitor (i : Nat) (removed : Slot → Bool) (hotplug : Watch) :
    Proc Env (Ended Unit) := do
  let hotplug ← hotplug.quiet ⟨i, .hotplug⟩ (removed .hotplug)
  match hotplug with
  | .aborted => pure .aborted
  | .done hotplug => do
    hotplug.dropInPlace ⟨i, .hotplug⟩
    pure (.done ())

/-- `clear` of a node: its loop runs the closure and removes the source, or the process
ends. -/
def clearNode (i : Nat) (removed : Slot → Bool) (wake : Watch) : Proc Env (Ended Unit) := do
  let wake ← wake.detach ⟨i, .wake⟩ (removed .wake)
  match wake with
  | .aborted => pure .aborted
  | .done wake => do
    wake.dropInPlace ⟨i, .wake⟩
    pure (.done ())

def Plugin.clear (i : Nat) (removed : Slot → Bool) : Plugin → Proc Env (Ended Unit)
  | device timer hotplug => clearDevice i removed timer hotplug
  | monitor hotplug => clearMonitor i removed hotplug
  | node wake => clearNode i removed wake

/-! ## The process -/

structure Process where
  env : Env
  plugins : Nat → Option Plugin
  /-- The descriptors of other code. -/
  others : Nat → Option Nat
  aborted : Bool

namespace Process

inductive Event where
  | initDevice (i : Nat) (answers : DeviceAnswers)
  | initMonitor (i : Nat) (answer : ArmAnswer)
  | initNode (i : Nat) (answers : NodeAnswers)
  /-- A loop calls a source back: what it watches is closed or not, and the loop would
  remove the source or not. -/
  | fire (id : WatchId) (alive removed : Bool)
  | clear (i : Nat) (removed : Slot → Bool)
  | otherOpens (k : Nat)
  | otherCloses (k : Nat)

/-- Some loop refuses to remove a source. -/
def Event.Refused : Event → Prop
  | fire _ _ removed => removed = false
  | clear _ removed => ∃ slot, removed slot = false
  | _ => False

variable (s : Process)

/-- What the host and other code do: `init` is for new memory, callbacks are for
sources that are polled, `clear` is for what `init` has made. -/
def admits : Event → Bool
  | .initDevice i _ | .initMonitor i _ | .initNode i _ => (s.plugins i).isNone
  | .fire id _ _ => (s.env.polled id).isSome
  | .clear i _ => (s.plugins i).isSome
  | .otherOpens k => (s.others k).isNone
  | .otherCloses k => (s.others k).isSome

/-- A plugin after `init`, if it succeeds. -/
def make (i : Nat) (x : Proc Env (Option Plugin)) : Option Process :=
  (x s.env).map fun (p, env) => { s with env, plugins := Function.update s.plugins i p }

def perform : Event → Option Process
  | .initDevice i answers => s.make i (armRouteWatch i answers)
  | .initMonitor i answer => s.make i (Host.initMonitor i answer)
  | .initNode i answers => s.make i (Host.initNode i answers)
  | .fire id alive removed =>
    (s.plugins id.plugin).bind fun p =>
      ((p.watch id.slot).fire id alive removed s.env).map fun
        | (.done w, env) =>
          { s with env, plugins := Function.update s.plugins id.plugin (p.setWatch id.slot w) }
        | (.aborted, env) => { s with env, aborted := true }
  | .clear i removed =>
    (s.plugins i).bind fun p =>
      (p.clear i removed s.env).map fun
        | (.done (), env) => { s with env, plugins := Function.update s.plugins i none }
        | (.aborted, env) => { s with env, aborted := true }
  | .otherOpens k =>
    some { s with
      env := { s.env with files := s.env.files.opens (.other k) }
      others := Function.update s.others k (some s.env.files.free) }
  | .otherCloses k =>
    (s.others k).map fun fd => { s with
      env := { s.env with files := s.env.files.close fd }
      others := Function.update s.others k none }

def step (e : Event) : Option Process := if s.aborted = false ∧ s.admits e then s.perform e else none

end Process

/-- A process whose host has no plugins yet, and whose other code has opened nothing. -/
def running : System Process Process.Event where
  init s := s = ⟨⟨[], fun _ => none⟩, fun _ => none, fun _ => none, false⟩
  step := Process.step

/-! ## What every run keeps -/

namespace Process

/-- Who keeps which descriptor. -/
def own (s : Process) : Owner → Option Nat
  | .watch id => (s.plugins id.plugin).bind fun p => (p.watch id.slot).owner
  | .other k => s.others k

structure Sound (s : Process) : Prop where
  env : s.env.Sound s.own
  settled : ∀ i p, s.plugins i = some p → ∀ slot, p.watch slot = .settled (p.watch slot).owner

@[simp] theorem owner_settled (o : Option Nat) : (Watch.settled o).owner = o := by
  cases o <;> rfl

theorem settled_owner (o : Option Nat) :
    Watch.settled o = .settled (Watch.settled o).owner := by
  rw [owner_settled]

/-- The watchers of a plugin keep what `own` says. -/
def Tells (own : Owner → Option Nat) (i : Nat) (p : Option Plugin) : Prop :=
  ∀ slot, own (.watch ⟨i, slot⟩) = p.bind fun p => (p.watch slot).owner

/-- A plugin is made, changed or cleared: the others keep what they had. -/
structure Leaves (s : Process) (i : Nat) (p : Option Plugin) (env' : Env) : Prop where
  settled : ∀ q ∈ p, ∀ slot, q.watch slot = .settled (q.watch slot).owner
  sound : ∃ own, env'.Sound own ∧ Tells own i p ∧
    ∀ o, (∀ slot, o ≠ .watch ⟨i, slot⟩) → own o = s.own o

variable {s : Process} {i : Nat} {p : Option Plugin} {env' : Env}

theorem Sound.leaves (hs : s.Sound) (h : s.Leaves i p env') :
    Sound { s with env := env', plugins := Function.update s.plugins i p } := by
  obtain ⟨own, hsound, htells, hrest⟩ := h.sound
  have hown : Process.own { s with env := env', plugins := Function.update s.plugins i p } = own := by
    funext o
    cases o with
    | other k => exact (hrest (.other k) fun slot heq => Owner.noConfusion heq).symm
    | watch id =>
      obtain ⟨j, slot⟩ := id
      by_cases hj : j = i
      · subst hj
        rw [htells slot]
        simp only [Process.own, Function.update_self]
      · rw [hrest _ fun slot' heq => hj (WatchId.mk.inj (Owner.watch.inj heq)).1]
        simp only [Process.own, Function.update_of_ne hj]
  refine ⟨hown ▸ hsound, fun j q hq slot => ?_⟩
  by_cases hj : j = i
  · subst hj
    exact h.settled q (by simpa using hq) slot
  · exact hs.settled j q (by simpa [Function.update_of_ne hj] using hq) slot

/-! ### `init` -/

theorem own_none (hi : s.plugins i = none) (slot : Slot) : s.own (.watch ⟨i, slot⟩) = none := by
  rw [own, hi]
  rfl

/-- A watcher of a slot is no other slot's. -/
theorem watch_ne {slot slot' : Slot} (h : slot ≠ slot') :
    Owner.watch ⟨i, slot⟩ ≠ .watch ⟨i, slot'⟩ := fun heq =>
  h (WatchId.mk.inj (Owner.watch.inj heq)).2

/-- What another owner keeps is not what a watcher of the plugin got. -/
theorem update_rest {own : Owner → Option Nat} {slot : Slot} {o : Option Nat}
    (h : ∀ o, (∀ slot, o ≠ .watch ⟨i, slot⟩) → own o = s.own o) :
    ∀ o', (∀ slot, o' ≠ .watch ⟨i, slot⟩) →
      Function.update own (.watch ⟨i, slot⟩) o o' = s.own o' := fun o' hne => by
  rw [Function.update_of_ne (hne slot)]
  exact h o' hne

theorem armIf_runs {own : Owner → Option Nat} {env : Env} {id : WatchId} (h : env.Sound own)
    (hid : own (.watch id) = none) (answer : Option ArmAnswer) :
    Runs (Watch.new.armIf id answer) env fun w env' =>
      ∃ o, w = .settled o ∧ Env.Sound (Function.update own (.watch id) o) env' := by
  cases answer with
  | none =>
    refine .pure ⟨none, rfl, ?_⟩
    rw [← hid, Function.update_eq_self]
    exact h
  | some answer => exact Watch.arm_runs h hid answer

/-- A plugin whose watchers were never armed. -/
theorem Sound.leaves_new (hs : s.Sound) (hi : s.plugins i = none)
    (hnew : ∀ q ∈ p, ∀ slot, q.watch slot = .new) : s.Leaves i p s.env := by
  refine ⟨fun q hq slot => by rw [hnew q hq]; rfl, s.own, hs.env, fun slot => ?_, fun _ _ => rfl⟩
  rw [own_none hi]
  cases p with
  | none => rfl
  | some q => exact (congrArg Watch.owner (hnew q rfl slot)).symm

theorem armRouteWatch_leaves (hs : s.Sound) (hi : s.plugins i = none) (answers : DeviceAnswers) :
    Runs (armRouteWatch i answers) s.env fun p env' => s.Leaves i p env' := by
  refine .ite (fun _ => ?_) fun _ => .pure (hs.leaves_new hi ?_)
  · refine .bind_of (armIf_runs hs.env (own_none hi .timer) answers.timer) ?_
    rintro _ env₁ ⟨timer, rfl, h₁⟩
    have hhotplug : Function.update s.own (.watch ⟨i, .timer⟩) timer (.watch ⟨i, .hotplug⟩) = none := by
      rw [Function.update_of_ne (watch_ne (by decide))]
      exact own_none hi .hotplug
    refine .bind_of (armIf_runs h₁ hhotplug answers.hotplug) ?_
    rintro _ env₂ ⟨hotplug, rfl, h₂⟩
    refine .pure ⟨?_, _, h₂, fun slot => ?_, update_rest (update_rest fun _ _ => rfl)⟩
    · rintro _ ⟨⟩ slot
      cases slot with
      | timer => exact settled_owner timer
      | hotplug => exact settled_owner hotplug
      | wake => rfl
    · cases slot with
      | timer =>
        rw [Function.update_of_ne (watch_ne (by decide)), Function.update_self]
        exact (owner_settled timer).symm
      | hotplug =>
        rw [Function.update_self]
        exact (owner_settled hotplug).symm
      | wake =>
        rw [Function.update_of_ne (watch_ne (by decide)),
          Function.update_of_ne (watch_ne (by decide))]
        exact own_none hi .wake
  · rintro _ ⟨⟩ slot
    cases slot <;> rfl

/-- A new plugin with one watcher. -/
theorem leaves_one (hi : s.plugins i = none) {q : Plugin} (slot : Slot) {o : Option Nat}
    (hwatch : q.watch slot = .settled o) (hrest : ∀ slot', slot' ≠ slot → q.watch slot' = .new)
    (hsound : env'.Sound (Function.update s.own (.watch ⟨i, slot⟩) o)) :
    s.Leaves i (some q) env' := by
  refine ⟨?_, _, hsound, fun slot' => ?_, update_rest fun _ _ => rfl⟩
  · rintro _ ⟨⟩ slot'
    by_cases heq : slot' = slot
    · rw [heq, hwatch]
      exact settled_owner o
    · rw [hrest slot' heq]
      rfl
  · by_cases heq : slot' = slot
    · rw [heq, Function.update_self]
      exact ((congrArg Watch.owner hwatch).trans (owner_settled o)).symm
    · rw [Function.update_of_ne (watch_ne heq), own_none hi]
      exact (congrArg Watch.owner (hrest slot' heq)).symm

/-- A plugin that was not made leaves nothing open. -/
theorem leaves_none (hi : s.plugins i = none) {slot : Slot}
    (hsound : env'.Sound (Function.update s.own (.watch ⟨i, slot⟩) none)) :
    s.Leaves i none env' := by
  refine ⟨fun q hq => absurd hq (Option.not_mem_none q), _, hsound, fun slot' => ?_,
    update_rest fun _ _ => rfl⟩
  rw [← own_none hi slot, Function.update_eq_self]
  exact own_none hi slot'

theorem initMonitor_leaves (hs : s.Sound) (hi : s.plugins i = none) (answer : ArmAnswer) :
    Runs (initMonitor i answer) s.env fun p env' => s.Leaves i p env' := by
  refine .ite (fun _ => ?_) fun _ => .pure (hs.leaves_new hi ?_)
  · refine .bind_of (openFd_runs _) ?_
    rintro _ _ ⟨rfl, rfl⟩
    refine .bind_of (Watch.attach_runs (hs.env.open (own_none hi .hotplug)) answer.added) ?_
    rintro ⟨added, w⟩ env' ⟨-, o, hw, -, hsound⟩
    refine .pure (leaves_one hi .hotplug hw (fun slot' hne => ?_) hsound)
    cases slot' with
    | timer => rfl
    | hotplug => exact absurd rfl hne
    | wake => rfl
  · rintro _ ⟨⟩ slot
    cases slot <;> rfl

theorem initNode_leaves (hs : s.Sound) (hi : s.plugins i = none) (answers : NodeAnswers) :
    Runs (initNode i answers) s.env fun p env' => s.Leaves i p env' := by
  refine .ite (fun _ => ?_) fun _ => .pure (hs.leaves_new hi fun q hq =>
    absurd hq (Option.not_mem_none q))
  refine .bind_of (openFd_runs _) ?_
  rintro _ _ ⟨rfl, rfl⟩
  have hopen := hs.env.open (own_none hi .wake)
  refine .ite (fun _ => ?_) fun _ => .bind_of hopen.closeFd_runs fun _ env' hclosed =>
    .pure (leaves_none hi hclosed)
  refine .bind_of (Watch.attach_runs hopen answers.added) ?_
  rintro ⟨added, w⟩ env' ⟨hadded, o, hw, hfailed, hsound⟩
  refine .ite (fun _ => .pure (leaves_one hi .wake hw (fun slot' hne => ?_) hsound))
    fun hfalse => ?_
  · cases slot' with
    | timer => rfl
    | hotplug => rfl
    | wake => exact absurd rfl hne
  · -- the descriptor is closed already, and the source is not registered
    have hnone := hfailed (hadded ▸ Bool.eq_false_iff.mpr hfalse)
    have hnew : w = .new := by
      rw [show w = .settled o from hw, hnone]
      rfl
    rw [hnew]
    refine .bind_of (Watch.dropInPlace_new env' _) ?_
    rintro _ _ rfl
    exact .pure (leaves_none hi (hnone ▸ hsound))

/-! ### Callbacks and `clear` -/

/-- A watcher of a plugin is another one, and the others are as they were. -/
theorem watch_setWatch {p : Plugin} {slot : Slot} (h : (p.watch slot).owner.isSome) (w : Watch)
    (slot' : Slot) : (p.setWatch slot w).watch slot' = if slot' = slot then w else p.watch slot' := by
  cases p <;> cases slot <;> cases slot' <;>
    first
    | rfl
    | cases h

/-- A source that is polled has its descriptor. -/
theorem Sound.polled (hs : s.Sound) {id : WatchId} (h : (s.env.polled id).isSome) :
    ∃ p fd, s.plugins id.plugin = some p ∧ p.watch id.slot = .settled (some fd) ∧
      s.own (.watch id) = some fd := by
  obtain ⟨n, hn⟩ := Option.isSome_iff_exists.mp h
  rw [hs.env.polled, Option.map_eq_some_iff] at hn
  obtain ⟨fd, hown, -⟩ := hn
  obtain ⟨p, hp, howner⟩ := Option.bind_eq_some_iff.mp hown
  exact ⟨p, fd, hp, howner ▸ hs.settled _ p hp id.slot, hown⟩

theorem fire_leaves (hs : s.Sound) {id : WatchId} {p : Plugin} {fd : Nat}
    (hp : s.plugins id.plugin = some p) (hwatch : p.watch id.slot = .settled (some fd))
    (hown : s.own (.watch id) = some fd) (alive removed : Bool) :
    Runs ((p.watch id.slot).fire id alive removed) s.env fun r env' =>
      (removed = false ∧ r = .aborted) ∨
      ∃ w, r = .done w ∧ s.Leaves id.plugin (some (p.setWatch id.slot w)) env' := by
  have hsome : (p.watch id.slot).owner.isSome := by rw [hwatch]; rfl
  have hleaves : ∀ (o : Option Nat) (env' : Env),
      env'.Sound (Function.update s.own (.watch id) o) →
        s.Leaves id.plugin (some (p.setWatch id.slot (.settled o))) env' := by
    intro o env' hsound
    have hrest : ∀ o', (∀ slot, o' ≠ .watch ⟨id.plugin, slot⟩) →
        Function.update s.own (.watch ⟨id.plugin, id.slot⟩) o o' = s.own o' :=
      update_rest fun _ _ => rfl
    refine ⟨?_, _, hsound, fun slot => ?_, hrest⟩
    · rintro _ ⟨⟩ slot
      rw [watch_setWatch hsome]
      split
      · exact settled_owner o
      · exact hs.settled _ p hp slot
    · show _ = ((p.setWatch id.slot (.settled o)).watch slot).owner
      rw [watch_setWatch hsome]
      by_cases heq : slot = id.slot
      · rw [if_pos heq, heq]
        exact (Function.update_self ..).trans (owner_settled o).symm
      · rw [if_neg heq, Function.update_of_ne (watch_ne heq), own, hp]
        rfl
  rw [hwatch]
  refine .bind_of (R := fun _ env' => env' = s.env) ?_ ?_
  · exact .get (.require ((hs.env.held fd _).mpr hown) (.pure rfl))
  rintro _ _ rfl
  refine .ite (fun _ => ?_) fun _ => .pure (.inr ⟨_, rfl, hleaves (some fd) _ ?_⟩)
  · refine (Watch.detach_runs hs.env hown removed).mono ?_
    rintro r env' (hrefused | ⟨rfl, hsound⟩)
    · exact .inl hrefused
    · exact .inr ⟨_, rfl, hleaves none env' hsound⟩
  · rw [← hown, Function.update_eq_self]
    exact hs.env

/-- A watcher that is not polled: it has no descriptor, or its number is forgotten. -/
def Unpolled (own : Owner → Option Nat) (id : WatchId) (w : Watch) (env : Env) : Prop :=
  (w = .new ∧ own (.watch id) = none ∧ env.Sound own) ∨
    ∃ fd, w = ⟨some fd, .new (-1)⟩ ∧ Env.Open own id fd env

section
variable {own : Owner → Option Nat} {env : Env} {id : WatchId}

theorem quiet_runs (h : env.Sound own) (removed : Bool) :
    Runs ((Watch.settled (own (.watch id))).quiet id removed) env fun r env' =>
      (removed = false ∧ r = .aborted) ∨ ∃ w, r = .done w ∧ Unpolled own id w env' := by
  cases hid : own (.watch id) with
  | none => exact .of_eq rfl (.inr ⟨.new, rfl, .inl ⟨rfl, hid, h⟩⟩)
  | some fd =>
    refine .bind_of (LoopSource.unregister_runs rfl removed) ?_
    rintro r env' (⟨-, rfl, rfl⟩ | ⟨hremoved, rfl, rfl⟩)
    · refine .bind_of (LoopSource.setFd_runs rfl _) ?_
      rintro source env' ⟨rfl, rfl⟩
      exact .pure (.inr ⟨_, rfl, .inr ⟨fd, rfl, h.removed hid⟩⟩)
    · exact .pure (.inl ⟨hremoved, rfl⟩)

theorem Unpolled.dropInPlace_runs {w : Watch} (h : Unpolled own id w env) :
    Runs (w.dropInPlace id) env fun _ env' =>
      Env.Sound (Function.update own (.watch id) none) env' := by
  rcases h with ⟨rfl, hid, hsound⟩ | ⟨fd, rfl, hopen⟩
  · refine (Watch.dropInPlace_new env id).mono ?_
    rintro _ _ rfl
    rw [← hid, Function.update_eq_self]
    exact hsound
  · exact Watch.dropInPlace_runs hopen (-1)

/-- A watcher that is detached has no descriptor then. -/
theorem detach_runs (h : env.Sound own) (removed : Bool) :
    Runs ((Watch.settled (own (.watch id))).detach id removed) env fun r env' =>
      (removed = false ∧ r = .aborted) ∨
        (r = .done Watch.new ∧ Env.Sound (Function.update own (.watch id) none) env') := by
  cases hid : own (.watch id) with
  | none =>
    refine .of_eq rfl (.inr ⟨rfl, ?_⟩)
    rw [← hid, Function.update_eq_self]
    exact h
  | some fd => exact Watch.detach_runs h hid removed

theorem detachIf_runs (h : env.Sound own) (removed : Bool) :
    Runs ((Watch.settled (own (.watch id))).detachIf id removed) env fun r env' =>
      (removed = false ∧ r = .aborted) ∨
        (r = .done Watch.new ∧ Env.Sound (Function.update own (.watch id) none) env') := by
  refine .ite (fun _ => detach_runs h removed) fun hfalse => ?_
  cases hid : own (.watch id) with
  | none =>
    refine .pure (.inr ⟨rfl, ?_⟩)
    rw [← hid, Function.update_eq_self]
    exact h
  | some fd =>
    rw [hid] at hfalse
    exact absurd rfl hfalse

end

/-- What a cleared plugin leaves is sound without its watchers. -/
theorem leaves_cleared {own : Owner → Option Nat} (hsound : env'.Sound own)
    (hnone : ∀ slot, own (.watch ⟨i, slot⟩) = none)
    (hrest : ∀ o, (∀ slot, o ≠ .watch ⟨i, slot⟩) → own o = s.own o) : s.Leaves i none env' :=
  ⟨fun q hq => absurd hq (Option.not_mem_none q), own, hsound, hnone, hrest⟩

theorem clear_leaves (hs : s.Sound) {p : Plugin} (hp : s.plugins i = some p)
    (removed : Slot → Bool) :
    Runs (p.clear i removed) s.env fun r env' =>
      ((∃ slot, removed slot = false) ∧ r = .aborted) ∨
      (r = .done () ∧ s.Leaves i none env') := by
  have hown : ∀ slot, s.own (.watch ⟨i, slot⟩) = (p.watch slot).owner := fun slot => by
    rw [own, hp]
    rfl
  have hwatch : ∀ slot, p.watch slot = .settled (s.own (.watch ⟨i, slot⟩)) := fun slot => by
    rw [hown]
    exact hs.settled i p hp slot
  have hkept : ∀ slot, p.watch slot = .new → s.own (.watch ⟨i, slot⟩) = none := fun slot hnew => by
    rw [hown, hnew]
    rfl
  cases p with
  | device timer hotplug =>
    obtain rfl : timer = .settled _ := hwatch .timer
    obtain rfl : hotplug = .settled _ := hwatch .hotplug
    refine .bind_of (detachIf_runs hs.env (removed .timer)) ?_
    rintro _ env₁ (⟨hrefused, rfl⟩ | ⟨rfl, h₁⟩)
    · exact .pure (.inl ⟨⟨_, hrefused⟩, rfl⟩)
    have hsame : s.own (.watch ⟨i, .hotplug⟩) =
        Function.update s.own (.watch ⟨i, .timer⟩) none (.watch ⟨i, .hotplug⟩) :=
      (Function.update_of_ne (watch_ne (by decide)) _ _).symm
    rw [hsame]
    refine .bind_of (quiet_runs h₁ (removed .hotplug)) ?_
    rintro _ env₂ (⟨hrefused, rfl⟩ | ⟨w, rfl, h₂⟩)
    · exact .pure (.inl ⟨⟨_, hrefused⟩, rfl⟩)
    refine .bind_of (Watch.dropInPlace_new env₂ _) ?_
    rintro _ _ rfl
    refine .bind_of h₂.dropInPlace_runs fun _ env₃ h₃ => .pure (.inr ⟨rfl, ?_⟩)
    refine leaves_cleared h₃ (fun slot => ?_) (update_rest (update_rest fun _ _ => rfl))
    cases slot with
    | timer => rw [Function.update_of_ne (watch_ne (by decide)), Function.update_self]
    | hotplug => rw [Function.update_self]
    | wake =>
      rw [Function.update_of_ne (watch_ne (by decide)),
        Function.update_of_ne (watch_ne (by decide))]
      exact hkept .wake rfl
  | monitor hotplug =>
    obtain rfl : hotplug = .settled _ := hwatch .hotplug
    refine .bind_of (quiet_runs hs.env (removed .hotplug)) ?_
    rintro _ env₁ (⟨hrefused, rfl⟩ | ⟨w, rfl, h₁⟩)
    · exact .pure (.inl ⟨⟨_, hrefused⟩, rfl⟩)
    refine .bind_of h₁.dropInPlace_runs fun _ env₂ h₂ => .pure (.inr ⟨rfl, ?_⟩)
    refine leaves_cleared h₂ (fun slot => ?_) (update_rest fun _ _ => rfl)
    cases slot with
    | timer => exact (Function.update_of_ne (watch_ne (by decide)) _ _).trans (hkept .timer rfl)
    | hotplug => rw [Function.update_self]
    | wake => exact (Function.update_of_ne (watch_ne (by decide)) _ _).trans (hkept .wake rfl)
  | node wake =>
    obtain rfl : wake = .settled _ := hwatch .wake
    refine .bind_of (detach_runs hs.env (removed .wake)) ?_
    rintro _ env₁ (⟨hrefused, rfl⟩ | ⟨rfl, h₁⟩)
    · exact .pure (.inl ⟨⟨_, hrefused⟩, rfl⟩)
    refine .bind_of (Watch.dropInPlace_new env₁ _) ?_
    rintro _ _ rfl
    refine .pure (.inr ⟨rfl, leaves_cleared h₁ (fun slot => ?_) (update_rest fun _ _ => rfl)⟩)
    cases slot with
    | timer => exact (Function.update_of_ne (watch_ne (by decide)) _ _).trans (hkept .timer rfl)
    | hotplug => exact (Function.update_of_ne (watch_ne (by decide)) _ _).trans (hkept .hotplug rfl)
    | wake => rw [Function.update_self]

/-! ### Other code -/

/-- Other code keeps another descriptor, or none. -/
theorem own_others (s : Process) (k : Nat) (o : Option Nat) (env : Env) :
    Process.own { s with env, others := Function.update s.others k o } =
      Function.update s.own (.other k) o := by
  funext owner
  cases owner with
  | watch id => exact (Function.update_of_ne (fun heq => Owner.noConfusion heq) _ _).symm
  | other j =>
    by_cases hj : j = k
    · rw [hj, Function.update_self]
      exact Function.update_self ..
    · rw [Function.update_of_ne fun heq => hj (Owner.other.inj heq)]
      exact Function.update_of_ne hj ..

theorem Sound.others (hs : s.Sound) {k : Nat} {o : Option Nat} {files : Table Owner}
    (h : Held (Function.update s.own (.other k) o) files) :
    Sound { s with
      env := { s.env with files }, others := Function.update s.others k o } := by
  refine ⟨⟨?_, fun id => ?_⟩, hs.settled⟩
  · rw [own_others]
    exact h
  · rw [own_others, Function.update_of_ne fun heq => Owner.noConfusion heq]
    exact hs.env.polled id

/-! ### Steps -/

/-- Whatever is admitted is done, and leaves a sound process, or one that a loop's refusal
has ended. -/
theorem perform_sound (hs : s.Sound) (e : Event) (he : s.admits e = true) :
    ∃ s', s.perform e = some s' ∧
      ((s'.aborted = s.aborted ∧ s'.Sound) ∨ (e.Refused ∧ s'.aborted = true)) := by
  have hmade : ∀ {i : Nat} {x : Proc Env (Option Plugin)},
      (Runs x s.env fun p env' => s.Leaves i p env') →
        ∃ s', s.make i x = some s' ∧
          ((s'.aborted = s.aborted ∧ s'.Sound) ∨ (e.Refused ∧ s'.aborted = true)) := by
    rintro i x ⟨p, env', hx, h⟩
    refine ⟨_, ?_, .inl ⟨?_, hs.leaves h⟩⟩
    · rw [make, hx]
      rfl
    · rfl
  cases e with
  | initDevice i answers => exact hmade (armRouteWatch_leaves hs (Option.isNone_iff_eq_none.mp he) answers)
  | initMonitor i answer => exact hmade (initMonitor_leaves hs (Option.isNone_iff_eq_none.mp he) answer)
  | initNode i answers => exact hmade (initNode_leaves hs (Option.isNone_iff_eq_none.mp he) answers)
  | fire id alive removed =>
    obtain ⟨p, fd, hp, hwatch, hown⟩ := hs.polled he
    obtain ⟨r, env', hfire, h⟩ := fire_leaves hs hp hwatch hown alive removed
    rcases h with ⟨hrefused, rfl⟩ | ⟨w, rfl, h⟩
    · refine ⟨{ s with env := env', aborted := true }, ?_, .inr ⟨hrefused, rfl⟩⟩
      simp only [perform, hp, hfire, Option.bind_some, Option.map_some]
    · refine ⟨_, ?_, .inl ⟨?_, hs.leaves h⟩⟩
      · simp only [perform, hp, hfire, Option.bind_some, Option.map_some]
      · rfl
  | clear i removed =>
    obtain ⟨p, hp⟩ := Option.isSome_iff_exists.mp he
    obtain ⟨r, env', hclear, h⟩ := clear_leaves hs hp removed
    rcases h with ⟨hrefused, rfl⟩ | ⟨rfl, h⟩
    · refine ⟨{ s with env := env', aborted := true }, ?_, .inr ⟨hrefused, rfl⟩⟩
      simp only [perform, hp, hclear, Option.bind_some, Option.map_some]
    · refine ⟨_, ?_, .inl ⟨?_, hs.leaves h⟩⟩
      · simp only [perform, hp, hclear, Option.bind_some, Option.map_some]
      · rfl
  | otherOpens k =>
    have hnone : s.own (.other k) = none := Option.isNone_iff_eq_none.mp he
    exact ⟨_, rfl, .inl ⟨by rfl, hs.others (hs.env.held.opens hnone)⟩⟩
  | otherCloses k =>
    obtain ⟨fd, hfd⟩ := Option.isSome_iff_exists.mp he
    have hown : s.own (.other k) = some fd := hfd
    refine ⟨_, ?_, .inl ⟨?_, hs.others (hs.env.held.close hown)⟩⟩
    · rw [perform, hfd]
      rfl
    · rfl

/-- In every run, the process was ended or is sound. -/
theorem sound_of_reachable (h : Reachable running s) : s.aborted = true ∨ s.Sound := by
  have hI : Inductive running (fun _ _ => True) fun s => s.aborted = true ∨ s.Sound := by
    refine ⟨fun s hs => .inr ?_, fun s e s' hs _ hstep => ?_⟩
    · cases hs
      refine ⟨⟨fun fd o => ?_, fun _ => rfl⟩, fun i p hp => ?_⟩
      · cases o <;> exact Held.empty fd _
      · cases hp
    · obtain ⟨⟨hrunning, he⟩, hperform⟩ := Option.ite_none_right_eq_some.mp hstep
      rcases hs with hended | hs
      · rw [hended] at hrunning
        cases hrunning
      · obtain ⟨t, ht, hresult⟩ := perform_sound hs e he
        rw [ht] at hperform
        cases hperform
        rcases hresult with ⟨-, hsound⟩ | ⟨-, hended⟩
        · exact .inr hsound
        · exact .inl hended
  exact h.invariant hI

end Process

/-- In every run of a process with any number of devices, monitors and nodes, whatever the
kernel and the loops answer and whatever other code opens and closes: the loops poll just
the descriptors that plugins keep, each open and opened by the watcher whose source it is;
what a watcher has opened is its plugin's as long as that is there; and the descriptors of
other code are as it left them. Whatever the host does next, no assertion fails, no
registered source is dropped and no descriptor of others is read or closed; the process
is ended only by a loop that refuses to remove a source. -/
theorem sources_safe {s : Process} (h : Reachable running s) (hs : s.aborted = false) :
    (∀ id n, s.env.polled id = some n ↔
      ∃ fd : Nat, n = fd ∧ s.env.files.get fd = some (.watch id)) ∧
    (∀ fd id, s.env.files.get fd = some (.watch id) ↔
      ∃ p, s.plugins id.plugin = some p ∧ (p.watch id.slot).owner = some fd) ∧
    (∀ fd k, s.env.files.get fd = some (.other k) ↔ s.others k = some fd) ∧
    ∀ e, s.admits e = true → ∃ s', s.perform e = some s' ∧ (s'.aborted = true → e.Refused) := by
  have hsound : s.Sound := (Process.sound_of_reachable h).resolve_left (by rw [hs]; decide)
  refine ⟨fun id n => ?_, fun fd id => ?_, fun fd k => hsound.env.held fd (.other k),
    fun e he => ?_⟩
  · rw [hsound.env.polled, Option.map_eq_some_iff]
    constructor
    · rintro ⟨fd, hown, rfl⟩
      exact ⟨fd, rfl, (hsound.env.held fd _).mpr hown⟩
    · rintro ⟨fd, rfl, hget⟩
      exact ⟨fd, (hsound.env.held fd _).mp hget, rfl⟩
  · exact (hsound.env.held fd _).trans Option.bind_eq_some_iff
  · obtain ⟨s', hperform, hresult⟩ := Process.perform_sound hsound e he
    refine ⟨s', hperform, fun hended => ?_⟩
    rcases hresult with ⟨hsame, -⟩ | ⟨hrefused, -⟩
    · rw [hsame, hs] at hended
      cases hended
    · exact hrefused

/-! ## A number that comes back -/

/-- A process without plugins. -/
def bare : Process := ⟨⟨[], fun _ => none⟩, fun _ => none, fun _ => none, false⟩

/-- A device whose timer is not added and whose hotplug source is closed, a node, and
other code that opens two files: the second gets the number that the device had twice. -/
def reusesNumber : List Process.Event :=
  [.initDevice 0 ⟨true, some ⟨true, false⟩, some ⟨true, true⟩⟩, .otherOpens 0,
    .initNode 1 ⟨false, true, true, true⟩, .fire ⟨0, .hotplug⟩ false true, .otherOpens 1]

/-- The loop has forgotten the device's number, and polls the node's own. -/
theorem sources_safe_reused : ∃ s, Reachable running s ∧ s.others 1 = some 0 ∧
    s.env.files.get 0 = some (.other 1) ∧ s.env.files.get 2 = some (.watch ⟨1, .wake⟩) := by
  have hrun : ((running.run bare reusesNumber).map fun s =>
      (s.aborted, s.others 1, s.env.polled ⟨1, .wake⟩)) = some (false, some 0, some 2) := by
    decide
  obtain ⟨s, hs, hview⟩ := Option.map_eq_some_iff.mp hrun
  simp only [Prod.mk.injEq] at hview
  obtain ⟨hrunning, hother, hpolled⟩ := hview
  have h : Reachable running s := via_of_run reusesNumber (.init rfl) (fun _ _ _ => trivial) hs
  obtain ⟨hpolls, -, hothers, -⟩ := sources_safe h hrunning
  obtain ⟨fd, hfd, hget⟩ := (hpolls _ _).mp hpolled
  cases Int.ofNat.inj hfd
  exact ⟨s, h, hother, (hothers 0 1).mpr hother, hget⟩

end PwOss.Host
