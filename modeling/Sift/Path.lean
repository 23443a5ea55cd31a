import Sift.Json.Basic
import Sift.Text.Pieces

/-! # Field paths

A path is a text whose pieces between the points are its segments. Each segment goes from a value to one
of its members: to the member of an object under that key, to the element of an array or the character of
a string at that index, or to the length of either. What is computed rather than found in the record is
derived, and so is everything reached through it.
-/
namespace Sift

/-- What stands at the end of a path. -/
inductive FieldValue
  /-- A value that is stored in the record. -/
  | stored (value : Json)
  /-- A length, or a character of a string. -/
  | derived (value : Json)
  | absent

namespace FieldValue

def value? : FieldValue → Option Json
  | stored v => some v
  | derived v => some v
  | absent => none

/-- The same value as one that is not part of the record. -/
def detach : FieldValue → FieldValue
  | stored v => derived v
  | derived v => derived v
  | absent => absent

@[simp] theorem value?_stored (v : Json) : (stored v).value? = some v := rfl
@[simp] theorem value?_derived (v : Json) : (derived v).value? = some v := rfl
@[simp] theorem value?_absent : absent.value? = none := rfl

@[simp] theorem detach_stored (v : Json) : (stored v).detach = derived v := rfl
@[simp] theorem detach_derived (v : Json) : (derived v).detach = derived v := rfl
@[simp] theorem detach_absent : absent.detach = absent := rfl

@[simp] theorem value?_detach (f : FieldValue) : f.detach.value? = f.value? := by cases f <;> rfl

@[simp] theorem detach_detach (f : FieldValue) : f.detach.detach = f.detach := by cases f <;> rfl

end FieldValue

namespace Path

/-- The segment that reads the size of an array or a string. -/
def lengthSegment : List Char := ['l', 'e', 'n', 'g', 't', 'h']

/-- The index that a segment denotes: decimal digits without a sign and without a leading zero. -/
def index? (segment : List Char) : Option Nat :=
  match segment with
  | ['0'] => some 0
  | '0' :: _ => none
  | cs => natOfDigits? 10 cs

/-- The member of a value that a segment names. -/
def member (value : Json) (segment : List Char) : FieldValue :=
  match value with
  | .object ms => match ms.lookup (String.ofList segment) with
    | some v => .stored v
    | none => .absent
  | .array xs =>
    if segment = lengthSegment then .derived (.number (.ofNat xs.length))
    else match (index? segment).bind (xs[·]?) with
      | some v => .stored v
      | none => .absent
  | .string s =>
    if segment = lengthSegment then .derived (.number (.ofNat s.toList.length))
    else match (index? segment).bind (s.toList[·]?) with
      | some c => .derived (.string (String.singleton c))
      | none => .absent
  | _ => .absent

def step (current : FieldValue) (segment : List Char) : FieldValue :=
  match current with
  | .stored v => member v segment
  | .derived v => (member v segment).detach
  | .absent => .absent

@[simp] theorem value?_step (f : FieldValue) (segment : List Char) :
    (step f segment).value? = f.value?.bind fun v => (member v segment).value? := by
  cases f with
  | stored v => rfl
  | derived v => exact FieldValue.value?_detach _
  | absent => rfl

/-- The segments of a path; the empty path has none. -/
def segments (path : String) : List (List Char) :=
  match path.toList with
  | [] => []
  | cs => Text.pieces '.' cs

@[simp] theorem segments_empty : segments "" = [] := rfl

end Path

/-- The value of a record at the end of a path. The empty path leads to the record itself. -/
def Json.resolve (record : Json) (path : String) : FieldValue :=
  (Path.segments path).foldl Path.step (.stored record)

@[simp] theorem Json.resolve_empty (record : Json) : record.resolve "" = .stored record := rfl

end Sift
