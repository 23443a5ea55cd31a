import Mathlib.Control.Monad.Basic
import Sift.Pipeline
import Sift.Proofs.Conditions.Expression

/-! # The stages of a run

A run goes through four stages, and the first one that fails ends it before anything is printed. What a run
prints depends on its conditions through their row only, wherever they are stated, and on the polarity that
is in force.
-/
namespace Sift

/-- The error of an outcome, if it is one. -/
def errorOf? {ε α : Type} : Except ε α → Option ε
  | .error e => some e
  | .ok _ => none

@[simp] theorem errorOf?_error {ε : Type} (α : Type) (e : ε) : errorOf? (.error e : Except ε α) = some e := rfl

@[simp] theorem errorOf?_ok (ε : Type) {α : Type} (a : α) : errorOf? (.ok a : Except ε α) = none := rfl

theorem errorOf?_eq_some_iff {ε α : Type} {o : Except ε α} {e : ε} : errorOf? o = some e ↔ o = .error e := by
  cases o <;> simp

theorem fromUTF8?_toUTF8 (text : String) : String.fromUTF8? text.toUTF8 = some text :=
  dif_pos text.isValidUTF8

namespace Run

theorem textOf_toUTF8 (text : String) : textOf (.ok text.toUTF8) = .ok text := by
  rw [textOf, fromUTF8?_toUTF8]

/-- Loading the conditions fails on a file that cannot be read, with its path, or whose text does not state
conditions in the format that the path is for. -/
theorem loadConditions_eq_error_iff {L : Libraries} {inputs : Inputs} {config : Option String}
    {e : ConditionsError} :
    loadConditions L inputs config = .error e ↔ ∃ path, config = some path ∧
      ((∃ cause, textOf (inputs.file path) = .error cause ∧ .unreadable path cause = e) ∨
        ∃ text, textOf (inputs.file path) = .ok text ∧
          (if isJson path then ConditionsFile.parseJson L.json text
            else ConditionsFile.parseYaml L.yaml text) = .error e) := by
  unfold loadConditions
  cases config with
  | none => simp
  | some path =>
    simp only [Option.some.injEq, exists_eq_left']
    cases textOf (inputs.file path) <;> simp

theorem recordsText_eq_error_iff {inputs : Inputs} {path : Option String} {e : RunError} :
    recordsText inputs path = .error e ↔
      (∃ p cause, path = some p ∧ textOf (inputs.file p) = .error cause ∧ .unreadableRecords p cause = e) ∨
      ∃ cause, path = none ∧ textOf inputs.stdin = .error cause ∧ .invalidInput cause = e := by
  cases path <;> simp [recordsText, mapError_eq_error_iff]

/-- Loading the records fails on a source that cannot be read, with its path if it is a file, or on a text that
is no JSON. -/
theorem loadRecords_eq_error_iff {L : Libraries} {inputs : Inputs} {path : Option String} {e : RunError} :
    loadRecords L inputs path = .error e ↔
      (∃ p cause, path = some p ∧ textOf (inputs.file p) = .error cause ∧ .unreadableRecords p cause = e) ∨
      (∃ cause, path = none ∧ textOf inputs.stdin = .error cause ∧ .invalidInput cause = e) ∨
      ∃ text, recordsText inputs path = .ok text ∧
        ∃ reason, L.json.parse text = .error reason ∧ .invalidRecords reason = e := by
  rw [← or_assoc, ← recordsText_eq_error_iff, loadRecords]
  simp only [← mapError_eq_error_iff]
  cases recordsText inputs path <;> simp [bind, Except.bind]

inductive Stage
  | conditions
  | expressions
  | records
  | filtering
deriving DecidableEq

/-- The stages in their order. -/
def Stage.all : List Stage := [.conditions, .expressions, .records, .filtering]

/-- What is to be printed with conditions from wherever they come, or the error of a test. -/
def filtered (L : Libraries) (conditions : List (Condition (PatternCache L.patterns)))
    (polarity : Polarity) (mode : Mode) (format : OutputFormat) (records : Json) :
    Except FilterError String :=
  ((output L ⟨conditions⟩ polarity mode format records).run .empty).1

/-- Prints a text, or fails without printing. -/
def finish (outcome : Except FilterError String) (printed : String) : Except RunError Unit × String :=
  match outcome with
  | .ok text => (.ok (), printed ++ text)
  | .error e => (.error (.filter e), printed)

theorem run_printOutput (L : Libraries) (filter : Filter (PatternCache L.patterns)) (polarity : Polarity)
    (mode : Mode) (format : OutputFormat) (records : Json) (printed : String) :
    (printOutput L filter polarity mode format records).run printed =
      finish (filtered L filter.conditions polarity mode format records) printed := by
  unfold printOutput filtered
  cases ((output L filter polarity mode format records).run .empty).1 <;> rfl

end Run

namespace Arguments
open Run

/-- The conditions and the polarity that a run filters with. -/
def setting (a : Arguments) (L : Libraries) (inputs : Inputs) :
    Except ConditionsError (List (Condition (PatternCache L.patterns)) × Polarity) := do
  let file ← loadConditions L inputs a.config
  let specs ← a.expressions.mapM (ConditionSpec.parse L.json)
  pure ((filterOf file specs).conditions, polarityOf a file)

variable {L : Libraries} {a b : Arguments} {inputs inputs' : Inputs} {file : ConditionsFile}
  {specs : List ConditionSpec}

/-- A run needs the conditions file and the expressions for its setting only. -/
theorem run_execute (printed : String) :
    (a.execute L inputs).run printed = match a.setting L inputs, loadRecords L inputs a.recordsFile? with
      | .error e, _ => (.error (.conditions e), printed)
      | .ok _, .error e => (.error e, printed)
      | .ok (conditions, polarity), .ok records =>
        finish (filtered L conditions polarity (.ofArguments a) a.format records) printed := by
  unfold execute setting
  cases loadConditions L inputs a.config with
  | error e => rfl
  | ok file =>
    cases a.expressions.mapM (ConditionSpec.parse L.json) with
    | error e => rfl
    | ok specs =>
      cases loadRecords L inputs a.recordsFile? with
      | error e => rfl
      | ok records => exact run_printOutput L _ _ _ _ _ printed

end Arguments
end Sift
