import Sift.Builtin
import Sift.CommandLine
import Sift.Conditions.Expression
import Sift.Conditions.JsonFile
import Sift.Conditions.YamlFile
import Sift.Filter

/-! # Runs

A run loads the conditions file, reads the condition expressions, reads the records and filters them, in
this order; the first of these that fails ends it, and nothing is printed then. The outside world is a
function from paths to the contents of files and the contents of standard input.
-/
namespace Sift

/-- What a run leaves to others: patterns, and the formats of texts. -/
structure Libraries where
  patterns : PatternLanguage
  json : JsonCodec
  yaml : YamlCodec

inductive RunError
  | conditions (error : ConditionsError)
  /-- The file of records cannot be read. -/
  | unreadableRecords (path cause : String)
  | invalidInput (cause : String)
  | invalidRecords (cause : String)
  | filter (error : FilterError)
deriving DecidableEq

def RunError.message : RunError → String
  | conditions error => error.message
  | unreadableRecords path _ => "cannot read records from " ++ path
  | invalidInput _ => "cannot read records from stdin"
  | invalidRecords _ => "records are not valid JSON"
  | filter error => error.message

/-- The error underneath, if there is one. -/
def RunError.cause? : RunError → Option String
  | conditions error => error.cause?
  | unreadableRecords _ cause => some cause
  | invalidInput cause => some cause
  | invalidRecords cause => some cause
  | filter error => error.cause?

/-- The contents of files and of standard input, or why they cannot be read. -/
structure Inputs where
  file : String → Except String ByteArray
  stdin : Except String ByteArray

namespace Run

def fileName (path : String) : List Char := (Text.pieces '/' path.toList).getLast?.getD []

/-- What follows the last point of a file's name; a point at the start of the name does not count. -/
def extension? (path : String) : Option (List Char) :=
  match Text.pieces '.' (fileName path) with
  | [] => none
  | [_] => none
  | [[], _] => none
  | ps => ps.getLast?

def isJson (path : String) : Bool :=
  match extension? path with
  | some e => e.map Char.toLower == ['j', 's', 'o', 'n']
  | none => false

/-- The text that some contents are, which must be valid UTF-8. -/
def textOf (contents : Except String ByteArray) : Except String String :=
  match contents with
  | .error cause => .error cause
  | .ok bytes => match String.fromUTF8? bytes with
    | some text => .ok text
    | none => .error "stream did not contain valid UTF-8"

/-- Loads the conditions file, if there is one. -/
def loadConditions (L : Libraries) (inputs : Inputs) (config : Option String) :
    Except ConditionsError ConditionsFile :=
  match config with
  | none => .ok .empty
  | some path => match textOf (inputs.file path) with
    | .error cause => .error (.unreadable path cause)
    | .ok text =>
      if isJson path then ConditionsFile.parseJson L.json text else ConditionsFile.parseYaml L.yaml text

def recordsText (inputs : Inputs) (path : Option String) : Except RunError String :=
  match path with
  | some path => (textOf (inputs.file path)).mapError (.unreadableRecords path)
  | none => (textOf inputs.stdin).mapError .invalidInput

def loadRecords (L : Libraries) (inputs : Inputs) (path : Option String) : Except RunError Json := do
  let text ← recordsText inputs path
  (L.json.parse text).mapError .invalidRecords

/-- The text of a value in a format. -/
def render (L : Libraries) (format : OutputFormat) (value : Json) : String :=
  match format with
  | .json => L.json.pretty value ++ "\n"
  | .yaml => L.yaml.write value

/-- What to print of the kept records. -/
inductive Mode
  | all
  | first
  | count
deriving DecidableEq

def Mode.ofArguments (a : Arguments) : Mode :=
  if a.count then .count else if a.first then .first else .all

/-- Filters the records with the built-in operators and prints the outcome. -/
def output (L : Libraries) (filter : Filter (PatternCache L.patterns)) (polarity : Polarity) (mode : Mode)
    (format : OutputFormat) (records : Json) : Eval (PatternCache L.patterns) String :=
  let registry := Builtin.registry (.whole L.patterns)
  match mode with
  | .count => do
    let kept ← filter.matching registry polarity records.items
    pure (String.ofList (integerText kept.length) ++ "\n")
  | .first => do
    let first ← filter.first registry polarity records.items
    pure (render L format ((first.map Prod.fst).getD .null))
  | .all => do
    let kept ← filter.matching registry polarity records.items
    pure (render L format (.array (kept.map Prod.fst)))

/-- The conditions of the file and then those of the expressions. -/
def filterOf {σ : Type} (file : ConditionsFile) (specs : List ConditionSpec) : Filter σ :=
  ⟨file.conditions ++ specs.map ConditionSpec.toCondition⟩

/-- The flags go before the file, and whitelisting is the default. -/
def polarityOf (a : Arguments) (file : ConditionsFile) : Polarity :=
  (a.polarity?.or file.polarity).getD .whitelist

end Run

/-- A part of a run. It may fail, and it may add to the text that is printed, which stays when a later part
fails. -/
abbrev Printing := ExceptT RunError (StateM String)

namespace Run

def print (text : String) : Printing Unit := modify (· ++ text)

/-- Filters with a new pattern cache, and prints what comes out. -/
def printOutput (L : Libraries) (filter : Filter (PatternCache L.patterns)) (polarity : Polarity) (mode : Mode)
    (format : OutputFormat) (records : Json) : Printing Unit := do
  let text ← ((output L filter polarity mode format records).run .empty).1.mapError RunError.filter
  print text

end Run

namespace Arguments

/-- Runs a command line. -/
def execute (a : Arguments) (L : Libraries) (inputs : Inputs) : Printing Unit := do
  let file ← (Run.loadConditions L inputs a.config).mapError RunError.conditions
  let specs ← (a.expressions.mapM (ConditionSpec.parse L.json)).mapError RunError.conditions
  let records ← Run.loadRecords L inputs a.recordsFile?
  Run.printOutput L (Run.filterOf file specs) (Run.polarityOf a file) (.ofArguments a) a.format records

/-- What a run prints, or why it fails. -/
def run (a : Arguments) (L : Libraries) (inputs : Inputs) : Except RunError String :=
  match (a.execute L inputs).run "" with
  | (.ok (), text) => .ok text
  | (.error e, _) => .error e

end Arguments
end Sift
