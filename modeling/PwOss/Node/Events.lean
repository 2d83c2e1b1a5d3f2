import PwOss.Spa.Notifications

/-
  The listener endpoint of a node, `node/events.rs`.

  The endpoint keeps the live node and port info. Queueing an info takes a snapshot
  of it and clears its change mask; a new listener gets both snapshots with every
  change set. The fields of an info decide nothing here and are a parameter.

  Correspondence (Rust ↔ Lean):
    `NodeEvents`, `NodeNotification`         ↔ `NodeEvents`, `NodeNotification`
    `with_info`                              ↔ `Event.withInfo`
    `queue_node_info`, `queue_port_info`     ↔ `queueNodeInfo`, `queuePortInfo`
    `emit_done`, `flush`, `add_listener`     ↔ the same names
-/

namespace PwOss.Node

open PwOss.Spa PwOss.Transition

/-- `NodeInfo` and `PortInfo`: the change mask, and the rest. -/
structure Info (α : Type) where
  changeMask : Nat
  fields : α

/-- `SPA_NODE_CHANGE_MASK_ALL`: flags, props and params. -/
def nodeChangeMaskAll : Nat := 7

/-- `SPA_PORT_CHANGE_MASK_ALL`: flags, rate, props and params. -/
def portChangeMaskAll : Nat := 15

/-- `NodeNotification`; the activation barrier is an entry of the queue. -/
inductive NodeNotification (ν π : Type) where
  | node (snapshot : Info ν)
  | port (snapshot : Info π)
  | done (seq : Int)

structure NodeEvents (ν π : Type) where
  node : Info ν
  port : Info π
  notifier : Notifier (NodeNotification ν π)

namespace NodeEvents
variable {ν π : Type}

inductive Event (ν π : Type) where
  | withInfo (apply : Info ν × Info π → Info ν × Info π)
  | queueNodeInfo
  | queuePortInfo
  | emitDone (seq : Int)
  | flush
  | addListener (id : Nat)
  | remove (id : Nat)
  | return_
  | run

/-- `initial_snapshots`. -/
def initialSnapshots (s : NodeEvents ν π) : List (NodeNotification ν π) :=
  [.node { s.node with changeMask := nodeChangeMaskAll },
    .port { s.port with changeMask := portChangeMaskAll }]

/-- The step's part on the queue and the listeners. -/
def Event.notify (s : NodeEvents ν π) : Event ν π → List (Notifier.Event (NodeNotification ν π))
  | .withInfo _ => []
  | .queueNodeInfo => [.enqueue [.node s.node]]
  | .queuePortInfo => [.enqueue [.port s.port]]
  | .emitDone seq => [.enqueue [.done seq], .flush]
  | .flush => [.flush]
  | .addListener id => [.register id s.initialSnapshots]
  | .remove id => [.remove id]
  | .return_ => [.return_]
  | .run => [.run]

/-- The step's part on the info. -/
def Event.update (s : NodeEvents ν π) : Event ν π → Info ν × Info π
  | .withInfo apply => apply (s.node, s.port)
  | .queueNodeInfo => ({ s.node with changeMask := 0 }, s.port)
  | .queuePortInfo => (s.node, { s.port with changeMask := 0 })
  | _ => (s.node, s.port)

def step (s : NodeEvents ν π) (e : Event ν π) : Option (NodeEvents ν π) :=
  (Notifier.system.run s.notifier (e.notify s)).map fun notifier =>
    ⟨(e.update s).1, (e.update s).2, notifier⟩

def system : System (NodeEvents ν π) (Event ν π) where
  init s := Notifier.system.init s.notifier
  step := step

/-- The endpoint runs its notifier. -/
theorem notifier_reachable {s : NodeEvents ν π} (h : Reachable system s) :
    Reachable Notifier.system s.notifier := by
  have hI : Inductive system (fun _ _ => True)
      fun s : NodeEvents ν π => Reachable Notifier.system s.notifier := by
    refine ⟨fun _ hinit => .init hinit, ?_⟩
    intro s e s' hs _ hstep
    obtain ⟨notifier, hrun, rfl⟩ := Option.map_eq_some_iff.mp hstep
    exact via_of_run _ hs (fun _ _ _ => trivial) hrun
  exact h.invariant hI

end NodeEvents

end PwOss.Node
