import RowQuery.Text.Split

/-!
# Command-line arguments

One URL may stand anywhere among the options. The value of an option is the next argument, which may
not begin with a dash, or stands behind an equals sign; behind a short name the sign may be left
out. Short names may share a dash. An option for one value and a flag may be given once, only hidden
fields and verbosity add up. Two dashes end the options. A request for help or the version ends the
reading where it stands.
-/
namespace RowQuery.CommandLine

structure Arguments where
  url : Option String := none
  recordType : Option String := none
  hidden : List String := []
  noEnforce : Bool := false
  data : Option String := none
  config : Option String := none
  printConfig : Bool := false
  verbosity : Nat := 0
deriving DecidableEq, Repr

inductive OptionName
  | recordType
  | hidden
  | noEnforce
  | data
  | config
  | printConfig
  | verbose
  | help
  | version
deriving DecidableEq, Repr

inductive Refusal
  | help
  | version
  | unexpected (argument : String)
  | unexpectedValue (name : OptionName)
  | missingValue (name : OptionName)
  | repeated (name : OptionName)
  | missingUrl
deriving DecidableEq, Repr

namespace OptionName

def all : List OptionName :=
  [recordType, hidden, noEnforce, data, config, printConfig, verbose, help, version]

def long : OptionName → String
  | recordType => "record-type"
  | hidden => "hidden"
  | noEnforce => "no-enforce"
  | data => "data"
  | config => "config"
  | printConfig => "print-config"
  | verbose => "verbose"
  | help => "help"
  | version => "version"

def short? : OptionName → Option Char
  | config => some 'c'
  | verbose => some 'v'
  | help => some 'h'
  | version => some 'V'
  | _ => none

def takesValue : OptionName → Bool
  | recordType | hidden | data | config => true
  | _ => false

def ofLong? (name : String) : Option OptionName := all.find? fun o => o.long = name

def ofShort? (c : Char) : Option OptionName := all.find? fun o => o.short? = some c

end OptionName

namespace Arguments

def once {α : Type} (name : OptionName) (old : Option α) (new : α) : Except Refusal (Option α) :=
  if old.isSome then .error (.repeated name) else .ok (some new)

def file (name : OptionName) (old : Option String) (new : String) :
    Except Refusal (Option String) :=
  if new.isEmpty then .error (.missingValue name) else once name old new

def give (a : Arguments) (name : OptionName) (value : String) : Except Refusal Arguments :=
  match name with
  | .recordType => do .ok { a with recordType := ← once name a.recordType value }
  | .hidden => .ok { a with hidden := a.hidden ++ [value] }
  | .data => do .ok { a with data := ← file name a.data value }
  | .config => do .ok { a with config := ← file name a.config value }
  | _ => .error (.unexpectedValue name)

def mark (a : Arguments) (name : OptionName) : Except Refusal Arguments :=
  match name with
  | .noEnforce => if a.noEnforce then .error (.repeated name) else .ok { a with noEnforce := true }
  | .printConfig =>
    if a.printConfig then .error (.repeated name) else .ok { a with printConfig := true }
  | .verbose => .ok { a with verbosity := a.verbosity + 1 }
  | .help => .error .help
  | .version => .error .version
  | _ => .error (.missingValue name)

def place (a : Arguments) (argument : String) : Except Refusal Arguments :=
  if a.url.isSome then .error (.unexpected argument) else .ok { a with url := some argument }

abbrev Progress := Arguments × Option OptionName

def readLong (a : Arguments) (body : List Char) : Except Refusal Progress :=
  let (name, value) := Text.breakAt (· == '=') body
  match OptionName.ofLong? (String.ofList name), value with
  | none, _ => .error (.unexpected (String.ofList ('-' :: '-' :: body)))
  | some name, some value => do .ok (← a.give name (String.ofList value), none)
  | some name, none => do
    if name.takesValue then .ok (a, some name) else .ok (← a.mark name, none)

def readShort (a : Arguments) : List Char → Except Refusal Progress
  | [] => .ok (a, none)
  | c :: rest =>
    match OptionName.ofShort? c with
    | none => .error (.unexpected (String.ofList ['-', c]))
    | some name =>
      if name.takesValue then
        match rest with
        | [] => .ok (a, some name)
        | '=' :: value => do .ok (← a.give name (String.ofList value), none)
        | value => do .ok (← a.give name (String.ofList value), none)
      else do readShort (← a.mark name) rest

def beginsOption (argument : String) : Bool := argument.startsWith "-" && argument ≠ "-"

def readOne (a : Arguments) (argument : String) : Except Refusal Progress :=
  match argument.toList with
  | '-' :: '-' :: body => a.readLong body
  | '-' :: c :: rest => a.readShort (c :: rest)
  | _ => do .ok (← a.place argument, none)

def readAll (a : Arguments) : Option OptionName → List String → Except Refusal Arguments
  | none, [] => .ok a
  | some name, [] => .error (.missingValue name)
  | some name, argument :: rest => do
    if beginsOption argument then .error (.missingValue name)
    else (← a.give name argument).readAll none rest
  | none, argument :: rest =>
    if argument = "--" then rest.foldlM place a
    else do
      let (a, waiting) ← a.readOne argument
      a.readAll waiting rest

def read (arguments : List String) : Except Refusal Arguments := do
  let a ← readAll {} none arguments
  if a.url.isNone && !a.printConfig then .error .missingUrl else .ok a

end Arguments
end RowQuery.CommandLine
