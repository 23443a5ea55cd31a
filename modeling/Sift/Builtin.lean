import Sift.Condition
import Sift.Pattern.Cache

/-! # Built-in operators

Eleven predicates and nineteen names for them. All but one depend on their arguments alone; the pattern
predicate keeps compiled patterns in a cache, which is a part of the state of an evaluation.
-/
namespace Sift

/-- The place of a pattern cache inside a state. -/
structure CacheSlot (L : PatternLanguage) (σ : Type) where
  get : σ → PatternCache L
  set : PatternCache L → σ → σ

/-- A state that is a cache and nothing else. -/
def CacheSlot.whole (L : PatternLanguage) : CacheSlot L (PatternCache L) := ⟨id, fun cache _ => cache⟩

/-- What is read back from a slot is what was written last, and writing what is there changes nothing. -/
structure CacheSlot.Lawful {L : PatternLanguage} {σ : Type} (slot : CacheSlot L σ) : Prop where
  get_set : ∀ cache s, slot.get (slot.set cache s) = cache
  set_get : ∀ s, slot.set (slot.get s) s = s

theorem CacheSlot.lawful_whole (L : PatternLanguage) : (whole L).Lawful where
  get_set _ _ := rfl
  set_get _ := rfl

namespace Builtin
variable {L : PatternLanguage} {σ : Type}

inductive Op
  | greaterThan
  | greaterThanOrEqual
  | lessThan
  | lessThanOrEqual
  | equal
  | strictEqual
  | contains
  | has
  | matches
  | startsWith
  | endsWith
deriving DecidableEq

/-- Whether a row of characters stands somewhere inside another. -/
def isInfix (needle : List Char) : List Char → Bool
  | [] => needle.isEmpty
  | c :: cs => needle.isPrefixOf (c :: cs) || isInfix needle cs

/-- A test on the texts of a field and a value; without a text it fails. -/
def onTexts (test : List Char → List Char → Bool) (field : Option Json) (value : Json) : Bool :=
  match field.bind Json.toText?, value.toText? with
  | some a, some b => test a.toList b.toList
  | _, _ => false

/-- The test of a predicate that depends on its arguments alone. -/
def Op.test : Op → Option Json → Json → Bool
  | .greaterThan, field, value => Json.order? field value == some .gt
  | .greaterThanOrEqual, field, value =>
    Json.order? field value == some .gt || Json.order? field value == some .eq
  | .lessThan, field, value => Json.order? field value == some .lt
  | .lessThanOrEqual, field, value =>
    Json.order? field value == some .lt || Json.order? field value == some .eq
  | .equal, field, value => Json.looseEq field value
  | .strictEqual, field, value => Json.fieldStrictEq field value
  | .contains, some (.string text), value => onTexts (fun a b => isInfix b a) (some (.string text)) value
  | .has, some (.array items), value => items.any fun item => Json.strictEq item value
  | .startsWith, field, value => onTexts (fun a b => b.isPrefixOf a) field value
  | .endsWith, field, value => onTexts (fun a b => b.isSuffixOf a) field value
  | _, _, _ => false

/-- Matches the text of a field against the pattern that a value is. A value that is no string is no
pattern and meets nothing. -/
def matchPattern (slot : CacheSlot L σ) (field : Option Json) (value : Json) : Eval σ Bool :=
  match value with
  | .string source => do
    match (slot.get (← get)).fetch source with
    | .ok (pattern, cache) =>
      modify (slot.set cache)
      match field.bind Json.toText? with
      | some text => pure (L.isMatch pattern text)
      | none => pure false
    | .error reason => throw (.invalidPattern reason)
  | _ => pure false

/-- The identity of a predicate among the built-in ones. -/
def Op.id : Op → Nat
  | .greaterThan => 0
  | .greaterThanOrEqual => 1
  | .lessThan => 2
  | .lessThanOrEqual => 3
  | .equal => 4
  | .strictEqual => 5
  | .contains => 6
  | .has => 7
  | .matches => 8
  | .startsWith => 9
  | .endsWith => 10

/-- How many predicates there are; their identities are below. -/
def count : Nat := 11

def Op.predicate (slot : CacheSlot L σ) : Op → Predicate σ
  | .matches => ⟨Op.matches.id, matchPattern slot⟩
  | op => .ofTest op.id op.test

def names : List (String × Op) :=
  [("greater than", .greaterThan), ("greater than or equal", .greaterThanOrEqual),
   ("less than", .lessThan), ("less than or equal", .lessThanOrEqual), ("equal", .equal),
   ("strict equal", .strictEqual), ("contains", .contains), ("has", .has), ("matches", .matches),
   ("starts with", .startsWith), ("ends with", .endsWith)]

/-- Further names, each after a name that it stands for. -/
def aliases : List (String × String) :=
  [("greater than", ">"), ("greater than or equal", ">="), ("less than", "<"),
   ("less than or equal", "<="), ("equal", "=="), ("strict equal", "==="), ("has", "array contains"),
   ("matches", "regexp")]

def registry (slot : CacheSlot L σ) : Registry σ :=
  let named := names.foldl (fun r (name, op) => (r.register name (op.predicate slot)).2) Registry.empty
  aliases.foldl (fun r (existing, name) => (r.addAlias existing name).2) named

end Builtin
end Sift
