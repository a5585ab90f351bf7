import Swimlane.Command.Plan

/-!
# The program

Reads the arguments and the files that they name, and carries out the plan of the command.
-/

namespace Swimlane.Program

/-- The error of a file as the system tells it. -/
def fileError : IO.Error → FileError
  | .noFileOrDirectory _ _ _ => .missing
  | .inappropriateType _ 20 _ => .notFolder
  | .invalidArgument _ 36 _ => .nameTooLong
  | .inappropriateType _ _ _ => .isFolder
  | e => .other (toString e).toList

/-- The text of some bytes. -/
def decode (bytes : ByteArray) : Except FileError Text :=
  match String.fromUTF8? bytes with
  | some s => .ok s.toList
  | none => .error .notText

/-- The text of a file. -/
def readFile (path : Text) : IO (Except FileError Text) := do
  try
    return decode (← IO.FS.readBinFile (String.ofList path))
  catch e => return .error (fileError e)

/-- The text of the standard input. -/
def readStandardInput : IO (Except FileError Text) := do
  return decode (← (← IO.getStdin).readBinToEnd)

/-- Is there a folder at a path?  Then it cannot be read as a file. -/
def isFolder (path : Text) : IO Bool := do
  match ← readFile path with
  | .error .isFolder => return true
  | _ => return false

/-- Tells an error and gives the exit code. -/
def report (e : CommandError) : IO UInt32 := do
  IO.eprintln ("error: " ++ String.ofList e.message)
  return 1

/-- Carries out the steps of a plan. -/
def carryOut : List Step → IO UInt32
  | [] => return 0
  | .print text :: rest => do
      IO.print (String.ofList text)
      carryOut rest
  | .fail e :: _ => report e
  | .write path text :: rest => do
      let failure ←
        try
          IO.FS.writeFile (String.ofList path) (String.ofList text)
          pure none
        catch e => pure (some (fileError e))
      match failure with
      | some e => report (.file e)
      | none => carryOut rest

/-- What the files named by the arguments hold. -/
def find (a : Arguments) : IO Findings := do
  let settings ← a.settings.mapM readFile
  let input ←
    match a.input with
    | some path => if a.readsStandardInput then readStandardInput else readFile path
    | none => readStandardInput
  return ⟨settings, input, ← isFolder (a.output.getD [])⟩

/-- Runs the command. -/
def run (arguments : List Text) : IO UInt32 := do
  match readArguments arguments with
  | .error .help => IO.print (String.ofList helpText); return 0
  | .error .version => IO.print (String.ofList versionText); return 0
  | .error .misuse => IO.eprintln (String.ofList helpText); return 2
  | .ok a => carryOut (plan a (← find a))

end Swimlane.Program

/-- The command. -/
def main (arguments : List String) : IO UInt32 :=
  Swimlane.Program.run (arguments.map String.toList)
