import Swimlane.Text.Basic

/-!
# File paths

A path is a list of parts between slashes.  Its last part is the name of the file, which
the last dot divides into a stem and an extension; a name that begins with its only dot is
all stem.
-/

namespace Swimlane

/-- The parts of a path that lead anywhere. -/
def pathParts (path : Text) : List Text :=
  (pieces (· = '/') path).filter fun part => part ≠ [] && part ≠ ['.']

/-- The name of the file at a path. -/
def fileName? (path : Text) : Option Text := (pathParts path).getLast?.filter (· ≠ ['.', '.'])

/-- A file name before and after its last dot, unless it begins with that. -/
def splitName (name : Text) : Text × Option Text :=
  let after := (name.reverse.takeWhile (· ≠ '.')).reverse
  let before := name.take (name.length - after.length - 1)
  if before = [] then (name, none) else (before, some after)

/-- The stem of the file name of a path. -/
def fileStem? (path : Text) : Option Text := (fileName? path).map fun name => (splitName name).1

/-- The extension of the file name of a path. -/
def fileExtension? (path : Text) : Option Text :=
  (fileName? path).bind fun name => (splitName name).2

/-- The path of a file in a folder. -/
def inFolder (folder name : Text) : Text :=
  if folder = [] ∨ folder.getLast? = some '/' then folder ++ name else folder ++ '/' :: name

/-- The path of a file next to another one. -/
def besideFile (path name : Text) : Text :=
  let root : Text := if startsWith ['/'] path then ['/'] else []
  inFolder (root ++ joinWith ['/'] (pathParts path).dropLast) name

end Swimlane
