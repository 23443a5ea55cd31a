import Sift.Json.Basic

/-! # Predicates

A predicate decides whether a field meets a value. It may fail, and it may read and change a state of any
type, which it leaves changed also when it fails. Two predicates are the same when they have the same
identity, whatever they compute.
-/
namespace Sift

inductive FilterError
  /-- The value of a pattern operator is no valid pattern. -/
  | invalidPattern (reason : String)
  | predicateFailed (operator message : String)
deriving DecidableEq

def FilterError.message : FilterError → String
  | invalidPattern reason => "invalid regex pattern: " ++ reason
  | predicateFailed operator message => "predicate '" ++ operator ++ "' failed: " ++ message

/-- The error underneath, if there is one. -/
def FilterError.cause? : FilterError → Option String
  | invalidPattern reason => some reason
  | predicateFailed _ _ => none

abbrev Eval (σ : Type) := ExceptT FilterError (StateM σ)

/-- A binary predicate on a field, which may be missing, and a value. -/
structure Predicate (σ : Type) where
  id : Nat
  call : Option Json → Json → Eval σ Bool

namespace Predicate

/-- A predicate that depends on its arguments alone and never fails. -/
def ofTest {σ : Type} (id : Nat) (test : Option Json → Json → Bool) : Predicate σ :=
  ⟨id, fun field value => pure (test field value)⟩

def same {σ : Type} (p q : Predicate σ) : Bool := p.id == q.id

end Predicate
end Sift
