import RowQuery.CommandLine.Run

/-!
# The program

Reads the files that the arguments name and the environment, runs, and prints what the run ended
with.
-/
namespace RowQuery.Main

open CommandLine

def textOf (path : String) : IO (Option String) := do
  try
    let text ← IO.FS.readFile path
    pure (some text)
  catch _ => pure none

def environment : IO (List (String × String)) := do
  try
    let bytes ← IO.FS.readBinFile "/proc/self/environ"
    let entries := Text.splitBy (· == 0) bytes.toList
    pure (entries.filterMap fun entry =>
      match Text.breakAt (· == 0x3d) entry with
      | (name, some value) =>
        some (String.ofList (Utf8.decodeLossy name), String.ofList (Utf8.decodeLossy value))
      | _ => none)
  catch _ => pure []

def surroundings (arguments : List String) : IO Surroundings := do
  let paths := match Arguments.read arguments with
    | .ok a => a.config.toList ++ a.data.toList
    | .error _ => []
  let texts ← paths.mapM fun path => do pure (path, ← textOf path)
  pure { textOf := fun path => (texts.lookup path).bind id, environment := ← environment }

end RowQuery.Main

def main (arguments : List String) : IO UInt32 := do
  let ending := RowQuery.CommandLine.run (← RowQuery.Main.surroundings arguments) arguments
  IO.print ending.output
  match ending with
  | .failed message => IO.eprintln ("Error: " ++ message)
  | .refused .help => IO.println "Usage: odata-adapt [OPTIONS] [URL]"
  | .refused .version => IO.println "odata-adapt 0.1.0"
  | .refused _ => IO.eprintln "Usage: odata-adapt [OPTIONS] [URL]"
  | _ => pure ()
  pure ending.exitCode.toUInt32
