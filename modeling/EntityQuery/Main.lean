import EntityQuery.Session

/-!
The command line. The settings file is found by the environment; a missing or broken one counts as
none.
-/
namespace EntityQuery

def Text.toString (text : Text) : String :=
  String.ofList text

def readSource (path : String) : IO Settings.Source := do
  try
    return .file (← IO.FS.readBinFile path)
  catch e =>
    match e with
    | .noFileOrDirectory .. => return .absent
    | _ => return .unreadable

partial def converse (input output : IO.FS.Stream) (session : Session) : IO Unit := do
  let line ← input.getLine
  if line.isEmpty then return
  let (text, next) := session.receive line.toList
  output.putStr text.toString
  output.flush
  match next with
  | some session => converse input output session
  | none => return

end EntityQuery

open EntityQuery in
def main (arguments : List String) : IO UInt32 := do
  let chosen ← IO.getEnv "DSQL_CONFIG"
  let path := Settings.path (chosen.map String.toList)
  let settings := Settings.loadOrStandard (← readSource path.toString)
  if arguments.isEmpty then
    let output ← IO.getStdout
    output.putStr (Session.greeting settings).toString
    converse (← IO.getStdin) output (.start settings)
    return 0
  else
    let outcome := Outcome.ofStatement settings (arguments.map String.toList)
    IO.print outcome.output.toString
    IO.eprint outcome.errors.toString
    return outcome.code.toUInt32
