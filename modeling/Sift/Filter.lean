import Sift.Condition
import Sift.Polarity

/-! # Filters

A filter is a list of conditions that all have to hold. They are evaluated in order and the first one
that does not hold, or fails, settles the test. Collections are run through record by record; a kept
record comes with its position, so that equal records stay apart.
-/
namespace Sift

structure Filter (σ : Type) where
  conditions : List (Condition σ)

namespace Filter
variable {σ : Type}

/-- The filter without conditions, which every record passes. -/
def empty : Filter σ := ⟨[]⟩

def add (f : Filter σ) (c : Condition σ) : Filter σ := ⟨f.conditions ++ [c]⟩

def extend (f : Filter σ) (cs : List (Condition σ)) : Filter σ := ⟨f.conditions ++ cs⟩

/-- Removes the conditions that a selector picks. -/
def removeWhere (f : Filter σ) (selects : Condition σ → Bool) : Filter σ :=
  ⟨f.conditions.filter fun c => !selects c⟩

/-- The conditions that a selector does not pick. It is asked about each of them in order, and may answer
by those it was asked about before. -/
def retain (selects : List (Condition σ) → Condition σ → Bool) (asked : List (Condition σ)) :
    List (Condition σ) → List (Condition σ)
  | [] => []
  | c :: cs =>
    let rest := retain selects (asked ++ [c]) cs
    if selects asked c then rest else c :: rest

/-- Removes the conditions that a selector with a memory picks. -/
def removeAsking (f : Filter σ) (selects : List (Condition σ) → Condition σ → Bool) : Filter σ :=
  ⟨retain selects [] f.conditions⟩

def clear (_ : Filter σ) : Filter σ := empty

@[simp] theorem conditions_empty : (empty : Filter σ).conditions = [] := rfl

@[simp] theorem conditions_add (f : Filter σ) (c : Condition σ) :
    (f.add c).conditions = f.conditions ++ [c] := rfl

@[simp] theorem conditions_extend (f : Filter σ) (cs : List (Condition σ)) :
    (f.extend cs).conditions = f.conditions ++ cs := rfl

@[simp] theorem conditions_removeWhere (f : Filter σ) (selects : Condition σ → Bool) :
    (f.removeWhere selects).conditions = f.conditions.filter fun c => !selects c := rfl

@[simp] theorem conditions_removeAsking (f : Filter σ)
    (selects : List (Condition σ) → Condition σ → Bool) :
    (f.removeAsking selects).conditions = retain selects [] f.conditions := rfl

theorem retain_eq_filter {selects : List (Condition σ) → Condition σ → Bool} {p : Condition σ → Bool}
    (h : ∀ asked c, selects asked c = p c) (asked cs : List (Condition σ)) :
    retain selects asked cs = cs.filter fun c => !p c := by
  induction cs generalizing asked with
  | nil => rfl
  | cons c cs ih => cases hc : p c <;> simp [retain, h, ih, hc]

@[simp] theorem conditions_clear (f : Filter σ) : f.clear.conditions = [] := rfl

/-- What a removal asks of a condition; what is left out is not asked. -/
structure Criteria (σ : Type) where
  field : Option String
  operator : Option (Operator σ)
  value : Option ConditionValue

/-- Whether a condition meets every given criterion. -/
def Criteria.selects (k : Criteria σ) (c : Condition σ) : Bool :=
  k.field.all (c.field == ·) && k.operator.all c.operator.same && k.value.all c.value.sameCandidates

/-- Removes every condition that meets the criteria. -/
def remove (f : Filter σ) (k : Criteria σ) : Filter σ := f.removeWhere k.selects

/-- Evaluates conditions in order, up to the first one that does not hold. -/
def testAll (registry : Registry σ) (record : Json) : List (Condition σ) → Eval σ Bool
  | [] => pure true
  | c :: cs => do
    if ← c.matches registry record then testAll registry record cs else pure false

def test (f : Filter σ) (registry : Registry σ) (record : Json) : Eval σ Bool :=
  testAll registry record f.conditions

/-- The kept ones of numbered records, in order. -/
def keepAll (f : Filter σ) (registry : Registry σ) (polarity : Polarity) :
    List (Json × Nat) → Eval σ (List (Json × Nat))
  | [] => pure []
  | r :: rs => do
    let passed ← f.test registry r.1
    let kept ← f.keepAll registry polarity rs
    pure (if polarity.keeps passed then r :: kept else kept)

/-- The first kept one of numbered records; those after it are not tested. -/
def keepFirst (f : Filter σ) (registry : Registry σ) (polarity : Polarity) :
    List (Json × Nat) → Eval σ (Option (Json × Nat))
  | [] => pure none
  | r :: rs => do
    if polarity.keeps (← f.test registry r.1) then pure (some r)
    else f.keepFirst registry polarity rs

def matching (f : Filter σ) (registry : Registry σ) (polarity : Polarity) (records : List Json) :
    Eval σ (List (Json × Nat)) :=
  f.keepAll registry polarity records.zipIdx

/-- The first kept record with its position. -/
def first (f : Filter σ) (registry : Registry σ) (polarity : Polarity) (records : List Json) :
    Eval σ (Option (Json × Nat)) :=
  f.keepFirst registry polarity records.zipIdx

end Filter
end Sift
