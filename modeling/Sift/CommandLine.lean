import Sift.Polarity

/-! # Command lines

Arguments are read from left to right. A long option may have its value after an equals sign, a short one
right after its letter; otherwise the next argument is the value, unless it looks like an option. Letters
of flags may be grouped. A value that was given separately is looked at when the next option or record
file is met, so that an unknown option after it is reported first.
-/
namespace Sift

inductive OutputFormat
  | json
  | yaml
deriving DecidableEq

def OutputFormat.ofName? (s : String) : Option OutputFormat :=
  if s = "json" then some .json else if s = "yaml" then some .yaml else none

/-- Why a command line is refused, or what it asks for instead of a run. -/
inductive UsageError
  | unknownArgument
  | argumentConflict
  | invalidValue
  | tooManyValues
  | displayHelp
  | displayVersion
deriving DecidableEq

structure Arguments where
  records : Option String
  config : Option String
  expressions : List String
  blacklist : Bool
  whitelist : Bool
  first : Bool
  count : Bool
  /-- The output format, if it is stated. -/
  output : Option OutputFormat
  verbose : Bool
deriving DecidableEq

namespace Arguments

def empty : Arguments := ⟨none, none, [], false, false, false, false, none, false⟩

def polarity? (a : Arguments) : Option Polarity :=
  if a.blacklist then some .blacklist else if a.whitelist then some .whitelist else none

/-- The file that records are read from; without one they are read from standard input. -/
def recordsFile? (a : Arguments) : Option String :=
  match a.records with
  | some path => if path = "-" then none else some path
  | none => none

def format (a : Arguments) : OutputFormat := a.output.getD .json

inductive Switch
  | blacklist
  | whitelist
  | first
  | count
  | verbose
  | help
  | version
deriving DecidableEq

inductive Slot
  | records
  | config
  | expression
  | output
deriving DecidableEq

inductive Opt
  | switch (s : Switch)
  | valued (slot : Slot)
deriving DecidableEq

def Opt.ofLong? (name : List Char) : Option Opt :=
  match String.ofList name with
  | "config" => some (.valued .config)
  | "where" => some (.valued .expression)
  | "output" => some (.valued .output)
  | "blacklist" => some (.switch .blacklist)
  | "whitelist" => some (.switch .whitelist)
  | "first" => some (.switch .first)
  | "count" => some (.switch .count)
  | "verbose" => some (.switch .verbose)
  | "help" => some (.switch .help)
  | "version" => some (.switch .version)
  | _ => none

def Opt.ofShort? : Char → Option Opt
  | 'c' => some (.valued .config)
  | 'w' => some (.valued .expression)
  | 'o' => some (.valued .output)
  | 'b' => some (.switch .blacklist)
  | 'v' => some (.switch .verbose)
  | 'h' => some (.switch .help)
  | 'V' => some (.switch .version)
  | _ => none

/-- The arguments so far, and a slot that waits for a value or whose value is yet to be looked at. -/
structure Progress where
  arguments : Arguments
  pending : Option (Slot × Option String)
  /-- Whether a file of records has been named. -/
  hasRecords : Bool

/-- Turns on a switch that may be on only once. -/
def Switch.apply (a : Arguments) : Switch → Except UsageError Arguments
  | .blacklist => if a.blacklist then .error .argumentConflict else .ok { a with blacklist := true }
  | .whitelist => if a.whitelist then .error .argumentConflict else .ok { a with whitelist := true }
  | .first => if a.first then .error .argumentConflict else .ok { a with first := true }
  | .count => if a.count then .error .argumentConflict else .ok { a with count := true }
  | .verbose => if a.verbose then .error .argumentConflict else .ok { a with verbose := true }
  | .help => .error .displayHelp
  | .version => .error .displayVersion

/-- Puts a value into its slot. Only expressions may be given more than once, and names of files are not
empty. -/
def Slot.assign (a : Arguments) (value : String) : Slot → Except UsageError Arguments
  | .records => if value.isEmpty then .error .invalidValue else .ok { a with records := some value }
  | .config =>
    if a.config.isSome then .error .argumentConflict
    else if value.isEmpty then .error .invalidValue
    else .ok { a with config := some value }
  | .expression => .ok { a with expressions := a.expressions ++ [value] }
  | .output =>
    if a.output.isSome then .error .argumentConflict
    else match OutputFormat.ofName? value with
      | some format => .ok { a with output := some format }
      | none => .error .invalidValue

namespace Progress

/-- Looks at the pending value; a slot must have got one. -/
def settle (p : Progress) : Except UsageError Progress :=
  match p.pending with
  | none => .ok p
  | some (_, none) => .error .invalidValue
  | some (slot, some value) => do
    let a ← slot.assign p.arguments value
    .ok { p with arguments := a, pending := none }

def switch (p : Progress) (s : Switch) : Except UsageError Progress := do
  let p ← p.settle
  let a ← s.apply p.arguments
  .ok { p with arguments := a }

/-- A value that is attached to its option. -/
def attach (p : Progress) (slot : Slot) (value : List Char) : Except UsageError Progress := do
  let p ← p.settle
  let a ← slot.assign p.arguments (String.ofList value)
  .ok { p with arguments := a }

/-- An option whose value is the next argument. -/
def await (p : Progress) (slot : Slot) : Except UsageError Progress := do
  let p ← p.settle
  .ok { p with pending := some (slot, none) }

def positional (p : Progress) (value : String) : Except UsageError Progress :=
  if p.hasRecords then .error .unknownArgument
  else do
    let p ← p.settle
    .ok { p with pending := some (.records, some value), hasRecords := true }

/-- The value after an equals sign, if there is one. -/
def valueAfterEquals? (cs : List Char) : Option (List Char) :=
  match cs.dropWhile (· ≠ '=') with
  | _ :: value => some value
  | [] => none

def long (p : Progress) (cs : List Char) : Except UsageError Progress :=
  match Opt.ofLong? (cs.takeWhile (· ≠ '=')), valueAfterEquals? cs with
  | none, _ => .error .unknownArgument
  | some (.valued slot), some value => p.attach slot value
  | some (.valued slot), none => p.await slot
  | some (.switch _), some _ => .error .tooManyValues
  | some (.switch s), none => p.switch s

/-- A group of short options, without its hyphen. -/
def short (p : Progress) : List Char → Except UsageError Progress
  | [] => .ok p
  | c :: rest => match Opt.ofShort? c with
    | none => .error .unknownArgument
    | some (.switch s) => do
      let p ← p.switch s
      p.short rest
    | some (.valued slot) => match rest with
      | [] => p.await slot
      | '=' :: value => p.attach slot value
      | value => p.attach slot value

def argument (p : Progress) (arg : String) : Except UsageError Progress :=
  match arg.toList with
  | '-' :: '-' :: cs => p.long cs
  | '-' :: c :: cs => p.short (c :: cs)
  | _ => match p.pending with
    | some (slot, none) => .ok { p with pending := some (slot, some arg) }
    | _ => p.positional arg

/-- All arguments; after a double hyphen none is an option. -/
def all (p : Progress) : List String → Except UsageError Progress
  | [] => .ok p
  | arg :: args =>
    if arg = "--" then args.foldlM positional p
    else do
      let p ← p.argument arg
      p.all args

end Progress

def parse (args : List String) : Except UsageError Arguments := do
  let p ← Progress.all ⟨empty, none, false⟩ args
  let p ← p.settle
  let a := p.arguments
  if (a.blacklist && a.whitelist) || (a.first && a.count) then .error .argumentConflict else .ok a

end Arguments
end Sift
