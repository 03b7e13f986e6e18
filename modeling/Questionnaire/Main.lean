import Questionnaire.CommandLine.Outcome

namespace Questionnaire.CommandLine

def readFile (path : String) : IO (Except ReadError String) := do
  try
    let bytes ← IO.FS.readBinFile path
    match String.fromUTF8? bytes with
    | some text => return .ok text
    | none => return .error .notText
  catch e =>
    match e with
    | .noFileOrDirectory .. => return .error .notFound
    | .permissionDenied .. => return .error .notPermitted
    | .inappropriateType .. => return .error .isDirectory
    | e => return .error (.failed (toString e))

def printLines (stream : IO.FS.Stream) (lines : List String) : IO Unit :=
  lines.forM fun line => stream.putStrLn line

end Questionnaire.CommandLine

open Questionnaire.CommandLine in
def main (arguments : List String) : IO UInt32 := do
  match Invocation.ofArguments arguments with
  | .error e =>
    let outcome := e.outcome
    printLines (← IO.getStderr) outcome.stderr
    return outcome.exitCode.toUInt32
  | .ok i =>
    let contents ← i.paths.mapM fun path => return (path, ← readFile path)
    let outcome := i.run fun path => (contents.lookup path).getD (.error .notFound)
    printLines (← IO.getStderr) (outcome.errorLines i)
    printLines (← IO.getStdout) outcome.stdout
    return outcome.exitCode.toUInt32
