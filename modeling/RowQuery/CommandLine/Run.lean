import RowQuery.Apply
import RowQuery.CommandLine.Arguments
import RowQuery.Json.Printer
import RowQuery.Json.Reader
import RowQuery.Memory.Basic
import RowQuery.Problem
import RowQuery.Query.Codec
import RowQuery.Query.FromUrl
import RowQuery.Settings.Load
import RowQuery.Settings.Printer

/-!
# A run of the command line

A run is a function of its arguments, the files they name and the environment. It ends well with an
output, with the problem of a refused query, with a failure that has a message, with arguments that
it does not accept, or in the middle of a sort that has no answer. Only a refused query is answered
by a problem.
-/
namespace RowQuery.CommandLine

/-- What a run reads; a file that cannot be read has no text. -/
structure Surroundings where
  textOf : String → Option String
  environment : List (String × String) := []

inductive Ending
  | done (output : String)
  | rejected (output : String)
  | failed (message : String)
  | refused (why : Refusal)
  /-- The sort of the rows has no answer. -/
  | broken
deriving DecidableEq, Repr

namespace Ending

def exitCode : Ending → Nat
  | done _ => 0
  | rejected _ => 2
  | failed _ => 1
  | refused .help => 0
  | refused .version => 0
  | refused _ => 2
  | broken => 101

def output : Ending → String
  | done output => output
  | rejected output => output
  | _ => ""

end Ending

def Arguments.recordTypeName (a : Arguments) : String := a.recordType.getD "record"

def adapt (settings : Settings) (recordType : String) (enforce : Bool) (url : String)
    (rows : Option MemoryQuery) : Attempt QueryError (Option Json) := do
  let query ← (Query.parseUrl settings.limits url).mapError .parse
  let applier : Applier := { policy := settings.visibility.policy, recordType, enforce }
  match rows with
  | none =>
    (applier.validate query ({} : MemoryQuery)).mapError .validation
    pure (some query.toJson)
  | some rows =>
    let adapted ← applier.apply query rows
    let answer := if enforce then adapted.visibleRows applier.policy recordType else adapted.rows
    pure (answer.map fun rows => .array (rows.map .object))

def printed (value : Json) : String := value.pretty 0 ++ "\n"

def answer (settings : Settings) (a : Arguments) (url : String) (rows : Option MemoryQuery) :
    Ending :=
  match (adapt settings a.recordTypeName (!a.noEnforce) url rows).result with
  | .ok (some value) => .done (printed value)
  | .ok none => .broken
  | .error e =>
    let problem := (Problem.ofError e).value
    .rejected (printed { problem with instanceUri := url }.toJson)

def settingsText (s : Surroundings) : Option String → Except String (Option String)
  | none => .ok none
  | some path =>
    match s.textOf path with
    | some text => .ok (some text)
    | none => .error ("config file does not exist: " ++ path)

def effectiveSettings (s : Surroundings) (a : Arguments) : Except String Settings := do
  let text ← settingsText s a.config
  match Settings.load? text s.environment with
  | some settings =>
    .ok (settings.override
      { recordType := a.recordTypeName, hidden := a.hidden, verbosity := a.verbosity })
  | none => .error "failed to load configuration"

def rowsIn (s : Surroundings) (path : String) : Except String MemoryQuery :=
  match s.textOf path with
  | none => .error ("failed to read " ++ path)
  | some text =>
    match Json.readValue text with
    | none => .error (path ++ " is not valid JSON")
    | some value =>
      (MemoryQuery.ofJson value).mapError fun e => "unusable rows in " ++ path ++ ": " ++ e.message

def perform (s : Surroundings) (a : Arguments) : Except String Ending := do
  let settings ← effectiveSettings s a
  if a.printConfig then .ok (.done (settings.toYaml ++ "\n"))
  else
    match a.url with
    | none => .error "missing URL"
    | some url =>
      let rows ← a.data.mapM (rowsIn s)
      .ok (answer settings a url rows)

def run (s : Surroundings) (arguments : List String) : Ending :=
  match Arguments.read arguments with
  | .error why => .refused why
  | .ok a =>
    match perform s a with
    | .ok ending => ending
    | .error message => .failed message

end RowQuery.CommandLine
