import Swimlane.Command.Plan

/-!
# The command on a file tree

A file tree is a folder with everything in it.  Carrying out a plan on a tree gives the
tree afterwards, what was printed and how the command ended; so the effect of the command
is a function of its arguments, its standard input and the tree.
-/

namespace Swimlane

/-! ## File trees -/

/-- The files and folders below a folder; paths are lists of names. -/
structure FileTree where
  files : List (List Text × List UInt8)
  folders : List (List Text)

namespace FileTree

/-- Is there a file at a path? -/
def isFile (t : FileTree) (path : List Text) : Bool := t.files.any (·.1 = path)

/-- Is there a folder at a path?  Folders around files and folders exist. -/
def isFolder (t : FileTree) (path : List Text) : Bool :=
  path = [] || t.folders.any path.isPrefixOf
    || t.files.any fun file => path.isPrefixOf file.1 && path ≠ file.1

/-- The path from a folder by one part of a path. -/
def enter (here : List Text) (part : Text) : List Text :=
  if part = [] ∨ part = ['.'] then here
  else if part = ['.', '.'] then here.dropLast
  else here ++ [part]

/-- The most bytes that a name in a folder may have. -/
def longestName : Nat := 255

/-- The most bytes that a path may have. -/
def longestPath : Nat := 4095

/-- Follows the parts of a path; every one but the last has to lead to a folder. -/
def follow (t : FileTree) (here : List Text) : List Text → Except FileError (List Text)
  | [] => .ok here
  | part :: rest =>
      if t.isFolder here then
        if longestName < byteCount part then .error .nameTooLong
        else t.follow (enter here part) rest
      else if t.isFile here then .error .notFolder
      else .error .missing

/-- The place that a path leads to. -/
def find (t : FileTree) (path : Text) : Except FileError (List Text) :=
  if longestPath < byteCount path then .error .nameTooLong else t.follow [] (pieces (· = '/') path)

/-- The bytes of a file. -/
def readBytes (t : FileTree) (path : Text) : Except FileError (List UInt8) := do
  let place ← t.find path
  match t.files.lookup place with
  | some bytes => return bytes
  | none => throw (if t.isFolder place then .isFolder else .missing)

/-- The text that bytes encode. -/
def textOfBytes (bytes : List UInt8) : Except FileError Text :=
  match String.fromUTF8? (ByteArray.mk bytes.toArray) with
  | some s => .ok s.toList
  | none => .error .notText

/-- The text of a file. -/
def readText (t : FileTree) (path : Text) : Except FileError Text :=
  t.readBytes path >>= textOfBytes

/-- Writes a file; a path that ends with a slash is that of a folder. -/
def writeText (t : FileTree) (path text : Text) : Except FileError FileTree := do
  let isFolderPath := path.getLast? = some '/'
  let place ← t.find (if isFolderPath then joinWith ['/'] (pathParts path) else path)
  if isFolderPath || t.isFolder place then throw .isFolder
  let bytes := (String.ofList text).toUTF8.toList
  return { t with files := (place, bytes) :: t.files.filter (·.1 ≠ place) }

end FileTree

/-! ## Carrying out plans -/

/-- How the command ended. -/
structure CommandResult where
  code : Nat
  printed : Text
  /-- The error, if there is one. -/
  error : Option CommandError
  tree : FileTree

/-- Carries out the steps of a plan, up to the first that fails. -/
def carryOut (t : FileTree) (printed : Text) : List Step → CommandResult
  | [] => ⟨0, printed, none, t⟩
  | .print text :: rest => carryOut t (printed ++ text) rest
  | .fail e :: _ => ⟨1, printed, some e, t⟩
  | .write path text :: rest =>
      match t.writeText path text with
      | .ok t => carryOut t printed rest
      | .error e => ⟨1, printed, some (.file e), t⟩

/-- What is found in a file tree. -/
def Findings.ofTree (t : FileTree) (standardInput : Text) (a : Arguments) : Findings where
  settings := a.settings.map t.readText
  input :=
    match a.input with
    | some path => if a.readsStandardInput then .ok standardInput else t.readText path
    | none => .ok standardInput
  outputIsFolder :=
    match t.find (a.output.getD []) with
    | .ok place => t.isFolder place
    | .error _ => false

/-- Runs the command on a file tree. -/
def runCommand (t : FileTree) (standardInput : Text) (arguments : List Text) : CommandResult :=
  match readArguments arguments with
  | .error .help => ⟨0, helpText, none, t⟩
  | .error .version => ⟨0, versionText, none, t⟩
  | .error .misuse => ⟨2, [], none, t⟩
  | .ok a => carryOut t [] (plan a (.ofTree t standardInput a))

end Swimlane
