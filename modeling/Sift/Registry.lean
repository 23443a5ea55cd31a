import Sift.Operator

/-! # Registries

A registry is a table of named predicates that only grows. Names are trimmed; an empty name, a name with
a negation marker and a name that is taken are refused, and a refusal leaves the table as it is. An alias
is another name for the predicate that a name holds at that moment.
-/
namespace Sift

/-- A table of named predicates, in the order in which the names came. -/
structure Registry (σ : Type) where
  entries : List (String × Predicate σ)

namespace Registry
variable {σ : Type}

def empty : Registry σ := ⟨[]⟩

def size (r : Registry σ) : Nat := r.entries.length

def lookup? (r : Registry σ) (name : String) : Option (Predicate σ) := r.entries.lookup (Text.trim name)

def contains (r : Registry σ) (name : String) : Bool := (r.lookup? name).isSome

def names (r : Registry σ) : List String := (r.entries.map Prod.fst).mergeSort fun a b => !decide (b < a)

/-- Whether a trimmed name may be added. -/
def admits (r : Registry σ) (name : String) : Bool :=
  !name.isEmpty && !OperatorName.isNegated name && (r.entries.lookup name).isNone

/-- Adds a predicate under a name. The answer says whether it was added. -/
def register (r : Registry σ) (name : String) (predicate : Predicate σ) : Bool × Registry σ :=
  let name := Text.trim name
  if r.admits name then (true, ⟨r.entries ++ [(name, predicate)]⟩) else (false, r)

/-- Adds another name for the predicate that an existing name holds. The answer says whether it was
added. -/
def addAlias (r : Registry σ) (existing name : String) : Bool × Registry σ :=
  match r.lookup? existing with
  | some predicate => r.register name predicate
  | none => (false, r)

@[simp] theorem size_empty : (empty : Registry σ).size = 0 := rfl

@[simp] theorem size_names (r : Registry σ) : r.names.length = r.size := by simp [names, size]

theorem mem_names {r : Registry σ} {name : String} :
    name ∈ r.names ↔ ∃ predicate, (name, predicate) ∈ r.entries := by simp [names]

theorem register_of_admits {r : Registry σ} {name : String} (h : r.admits (Text.trim name) = true)
    (predicate : Predicate σ) :
    r.register name predicate = (true, ⟨r.entries ++ [(Text.trim name, predicate)]⟩) := by
  simp [register, h]

theorem register_of_not_admits {r : Registry σ} {name : String} (h : r.admits (Text.trim name) = false)
    (predicate : Predicate σ) : r.register name predicate = (false, r) := by
  simp [register, h]

end Registry
end Sift
