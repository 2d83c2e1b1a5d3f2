import PwOss.Spa.Props

/-
  The properties that a backend lets clients tune, from `backend/mod.rs`.

  A node keeps them for its backend without knowing what they are: it decodes updates
  from the params struct of a Props pod, applies them one by one, and shows what there
  is to tune under PropInfo and its values under Props.

  Correspondence (Rust ↔ Lean):
    `BackendPropertyDescriptor`, `BackendProperties`   ↔ the same names
    `InitItemResult`                                   ↔ the same name
-/

namespace PwOss.Backend

open PwOss.Spa

structure BackendPropertyDescriptor where
  key : String
  description : String
  maximum : Nat
  deriving DecidableEq, Repr

/-- `InitItemResult`. -/
inductive InitItemResult where
  | handled | invalidBoolean | unknown
  deriving DecidableEq, Repr

/-- `BackendProperties`, with the type of its updates. -/
class BackendProperties (P : Type) (U : outParam Type) where
  descriptors : P → List BackendPropertyDescriptor
  values : P → List (String × Nat)
  decodeParams {V : Type} : PodValue V → List U
  /-- The new properties, and whether they are others. -/
  apply : P → U → P × Bool
  reset : P → P × Bool

end PwOss.Backend
