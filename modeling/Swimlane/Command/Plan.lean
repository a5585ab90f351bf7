import Swimlane.Command.Arguments
import Swimlane.Command.FilePath
import Swimlane.Document
import Swimlane.Markdown

/-!
# Plans of the command

The command reads settings and an input, and writes documents.  What it is going to do is
a plan, a list of steps that ends early where something is wrong; the plan depends on
nothing but the arguments and on what was found in the files.
-/

namespace Swimlane

/-! ## Errors -/

/-- Why a file cannot be read or written. -/
inductive FileError
  | missing
  | isFolder
  | notFolder
  | nameTooLong
  /-- The bytes of the file are no text. -/
  | notText
  | other (message : Text)

/-- The wording of an error. -/
def FileError.message : FileError → Text
  | missing => "No such file or directory (os error 2)".toList
  | isFolder => "Is a directory (os error 21)".toList
  | notFolder => "Not a directory (os error 20)".toList
  | nameTooLong => "File name too long (os error 36)".toList
  | notText => "stream did not contain valid UTF-8".toList
  | other message => message

/-- Why the command fails. -/
inductive CommandError
  | file (error : FileError)
  | settings (error : SettingsError)
  | diagram (error : DiagramError)
  /-- There is no diagram in the input. -/
  | noDiagrams
  /-- There are several diagrams, and no place to put them. -/
  | noOutput

/-- The wording of an error. -/
def CommandError.message : CommandError → Text
  | file e => e.message
  | settings e => e.message
  | diagram e => e.message
  | noDiagrams => "No Mermaid diagrams found in input".toList
  | noOutput => "Output path required for markdown input".toList

/-! ## Steps -/

/-- A step of a plan. -/
inductive Step
  | write (path text : Text)
  | print (text : Text)
  | fail (error : CommandError)

/-- What was found in the files. -/
structure Findings where
  /-- The text of the settings file, if there is to be one. -/
  settings : Option (Except FileError Text)
  input : Except FileError Text
  /-- Is there a folder at the path of the output? -/
  outputIsFolder : Bool

/-- Does the input come from the standard input?  It does if no file is named, and if the
file is a hyphen, whatever slashes follow. -/
def Arguments.readsStandardInput (a : Arguments) : Bool :=
  match a.input with
  | none => true
  | some path => startsWith ['-'] path && pathParts path = [['-']]

/-- Is the input Markdown, by its extension? -/
def Arguments.isMarkdown (a : Arguments) : Bool :=
  !a.readsStandardInput
    && ((a.input.bind fileExtension?).any fun e => e = "md".toList || e = "markdown".toList)

/-- The settings of the command. -/
def Findings.readSettings (f : Findings) : Except CommandError (Settings Float32) :=
  match f.settings with
  | none => .ok .default
  | some (.error e) => .error (.file e)
  | some (.ok text) => (Settings.ofText text).mapError .settings

/-- The texts of the diagrams in the input. -/
def Findings.diagrams (f : Findings) (a : Arguments) : Except CommandError (List Text) :=
  match f.input with
  | .error e => .error (.file e)
  | .ok text => .ok (if a.isMarkdown then markdownDiagrams text else [text])

/-- The text of the document of a diagram, as it is written to a file. -/
def diagramFile (s : Settings Float32) (a : Arguments) (diagram : Text) :
    Except CommandError Text :=
  match documentText diagram s a.spread with
  | .ok text => .ok (text ++ ['\n'])
  | .error e => .error (.diagram e)

/-- The path of one of several documents. -/
def numberedOutput (output : Text) (isFolder : Bool) (number : Nat) : Text :=
  let ending := '-' :: decimal number ++ ".json".toList
  if isFolder then inFolder output ("diagram".toList ++ ending)
  else besideFile output ((fileStem? output).getD "diagram".toList ++ ending)

/-- The steps for several diagrams, numbered from `number`; the first one without an outcome
ends them. -/
def writeAll (s : Settings Float32) (a : Arguments) (output : Text) (isFolder : Bool)
    (number : Nat) : List Text → List Step
  | [] => []
  | diagram :: rest =>
      match diagramFile s a diagram with
      | .error e => [.fail e]
      | .ok text =>
          .write (numberedOutput output isFolder number) text
            :: writeAll s a output isFolder (number + 1) rest

/-- The steps for the diagrams of an input. -/
def diagramSteps (s : Settings Float32) (a : Arguments) (isFolder : Bool) :
    List Text → List Step
  | [] => [.fail .noDiagrams]
  | [diagram] =>
      match diagramFile s a diagram, a.output with
      | .error e, _ => [.fail e]
      | .ok text, some path => [.write path text]
      | .ok text, none => [.print text]
  | diagrams =>
      match a.output with
      | some output => writeAll s a output isFolder 1 diagrams
      | none => [.fail .noOutput]

/-- The plan of the command. -/
def plan (a : Arguments) (f : Findings) : List Step :=
  match f.readSettings with
  | .error e => [.fail e]
  | .ok s =>
      match f.diagrams a with
      | .error e => [.fail e]
      | .ok diagrams => diagramSteps s a f.outputIsFolder diagrams

/-! ## What the command says of itself -/

/-- The line that tells the version. -/
def versionText : Text := "lanegraph 0.1.0\n".toList

/-- The text that tells the options. -/
def helpText : Text :=
  joinWith ['\n']
    ["Lane and section layout for Mermaid flowcharts".toList,
     [],
     "Usage: lanegraph [OPTIONS]".toList,
     [],
     "Options:".toList,
     "  -i, --input <INPUT>        Input file (.mmd or .md) or '-' for stdin".toList,
     "  -o, --output <OUTPUT>      Output JSON file. Defaults to stdout for a single diagram".toList,
     "  -c, --configFile <CONFIG>  Config JSON file (flowchart spacing, grid, normalize policy)".toList,
     "      --pretty               Pretty-print the JSON output".toList,
     "  -v, --verbose              Debug-level logs on stderr".toList,
     "  -h, --help                 Print help".toList,
     "  -V, --version              Print version".toList,
     []]

end Swimlane
