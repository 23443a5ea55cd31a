import Sift.Libraries

/-! # The program

Reads the files that the arguments name, or standard input, runs, and prints.
-/
open Sift

def help : String :=
  "Filter a JSON array of records with declarative conditions\n\n" ++
  "Usage: datafilter [OPTIONS] [RECORDS]\n\n" ++
  "Arguments:\n" ++
  "  [RECORDS]  JSON file holding an array of records; stdin when omitted or \"-\"\n\n" ++
  "Options:\n" ++
  "  -c, --config <FILE>      Conditions file (YAML, or JSON with a .json extension)\n" ++
  "  -w, --where <CONDITION>  Extra condition as \"field|operator|value\"; " ++
    "the value is JSON or plain text\n" ++
  "  -b, --blacklist          Keep the records that fail the conditions\n" ++
  "      --whitelist          Keep the records that pass the conditions, " ++
    "whatever the conditions file says\n" ++
  "      --first              Print only the first kept record, or null\n" ++
  "      --count              Print the number of kept records\n" ++
  "  -o, --output <OUTPUT>    Output format [default: json] [possible values: json, yaml]\n" ++
  "  -v, --verbose            Log evaluation details to stderr\n" ++
  "  -h, --help               Print help\n" ++
  "  -V, --version            Print version\n\n" ++
  "Examples:\n" ++
  "  datafilter articles.json -w 'data.author.age|>|25' " ++
    "-w 'type|not equal|[\"newsletter\",\"spam\"]'\n" ++
  "  cat articles.json | datafilter --config filters.yaml --first\n"

def version : String := "datafilter 0.1.0"

def usageMessage : UsageError → String
  | .unknownArgument => "unexpected argument found"
  | .argumentConflict => "an argument cannot be used with one or more of the other specified arguments"
  | .invalidValue => "one of the values isn't valid for an argument"
  | .tooManyValues => "unexpected value for an argument found"
  | .displayHelp => help
  | .displayVersion => version

/-- What is printed of a failed run: the error, and below it the one underneath. -/
def report (e : RunError) : String :=
  match e.cause? with
  | none => "Error: " ++ e.message
  | some cause =>
    "Error: " ++ e.message ++ "\n\nCaused by:\n    " ++ String.intercalate "\n    " (cause.splitOn "\n")

def systemMessage : IO.Error → String
  | .noFileOrDirectory _ code _ => "No such file or directory (os error " ++ toString code ++ ")"
  | .permissionDenied _ code _ => "Permission denied (os error " ++ toString code ++ ")"
  | e => toString e

def contents (read : IO ByteArray) : IO (Except String ByteArray) := do
  try return .ok (← read) catch e => return .error (systemMessage e)

def fileContents (path : String) : IO (Except String ByteArray) := contents (IO.FS.readBinFile path)

/-- Runs with the arguments; the answer is the exit code. -/
def runArguments (a : Arguments) : IO UInt32 := do
  let paths := a.config.toList ++ a.recordsFile?.toList
  let files ← paths.mapM fun path => do return (path, ← fileContents path)
  let stdin ← if a.recordsFile?.isSome then pure (.ok .empty) else contents (do (← IO.getStdin).readBinToEnd)
  let file := fun path => (files.lookup path).getD (.ok .empty)
  let (outcome, text) := (a.execute .bundled ⟨file, stdin⟩).run ""
  IO.print text
  match outcome with
  | .ok () => return 0
  | .error e => do
    IO.eprintln (report e)
    return 1

def main (args : List String) : IO UInt32 := do
  match Arguments.parse args with
  | .ok a => runArguments a
  | .error .displayHelp => do
    IO.print help
    return 0
  | .error .displayVersion => do
    IO.println version
    return 0
  | .error e => do
    IO.eprintln ("error: " ++ usageMessage e ++ "\n\nUsage: datafilter [OPTIONS] [RECORDS]\n\n" ++
      "For more information, try '--help'.")
    return 2
