import Swimlane.Text.Basic

/-!
# Arguments

The arguments of the command are options in a short and in a long form.  Three of them
take a value, which follows as the next argument or is attached; the others are flags, and
short ones may share a hyphen.  No option may be given twice, and there are no other
arguments.  Asking for help or for the version ends the reading at once.
-/

namespace Swimlane

/-- The options with a value. -/
inductive ValueOption
  | input
  | output
  | settings
deriving DecidableEq

/-- The options without a value. -/
inductive Flag
  | spread
  | verbose
  | help
  | version
deriving DecidableEq

/-- What the arguments ask for. -/
structure Arguments where
  /-- The file to read, or a hyphen for the standard input. -/
  input : Option Text
  output : Option Text
  settings : Option Text
  spread : Bool
  verbose : Bool

/-- Why the arguments do not lead to a diagram. -/
inductive ArgumentsEnd
  /-- The arguments are wrong. -/
  | misuse
  | help
  | version
deriving DecidableEq

/-- What was read of the arguments so far. -/
structure ArgumentsDraft where
  given : Arguments
  /-- The option whose value comes next. -/
  awaited : Option ValueOption
  /-- Are there to be no more options? -/
  ended : Bool

namespace ArgumentsDraft

/-- No arguments. -/
def start : ArgumentsDraft := ⟨⟨none, none, none, false, false⟩, none, false⟩

/-- Sets an option to a value. -/
def setValue (d : ArgumentsDraft) (o : ValueOption) (value : Text) :
    Except ArgumentsEnd ArgumentsDraft :=
  let given := d.given
  let earlier :=
    match o with
    | .input => given.input
    | .output => given.output
    | .settings => given.settings
  if earlier.isSome || value = [] then .error .misuse
  else
    let given :=
      match o with
      | .input => { given with input := some value }
      | .output => { given with output := some value }
      | .settings => { given with settings := some value }
    .ok { d with given, awaited := none }

/-- Sets an option to the value attached to it, or else waits for one. -/
def setAttached (d : ArgumentsDraft) (o : ValueOption) : Option Text →
    Except ArgumentsEnd ArgumentsDraft
  | some value => d.setValue o value
  | none => .ok { d with awaited := some o }

/-- Sets a flag. -/
def setFlag (d : ArgumentsDraft) : Flag → Except ArgumentsEnd ArgumentsDraft
  | .help => .error .help
  | .version => .error .version
  | .spread =>
      if d.given.spread then .error .misuse
      else .ok { d with given := { d.given with spread := true } }
  | .verbose =>
      if d.given.verbose then .error .misuse
      else .ok { d with given := { d.given with verbose := true } }

end ArgumentsDraft

/-! ## Names of options -/

/-- The options with a value and their long names. -/
def longValueNames : List (Text × ValueOption) :=
  [("input".toList, .input), ("output".toList, .output), ("configFile".toList, .settings)]

/-- The options with a value and their short names. -/
def shortValueNames : List (Char × ValueOption) := [('i', .input), ('o', .output), ('c', .settings)]

/-- The flags and their long names. -/
def longFlagNames : List (Text × Flag) :=
  [("pretty".toList, .spread), ("verbose".toList, .verbose), ("help".toList, .help),
   ("version".toList, .version)]

/-- The flags and their short names. -/
def shortFlagNames : List (Char × Flag) := [('v', .verbose), ('h', .help), ('V', .version)]

/-! ## Reading -/

/-- The name of a long option, and the value attached to it by an equals sign. -/
def splitLong (s : Text) : Text × Option Text :=
  match s.span (· ≠ '=') with
  | (name, '=' :: value) => (name, some value)
  | (name, _) => (name, none)

/-- The value attached to a short option. -/
def attachedValue? : Text → Option Text
  | [] => none
  | '=' :: value => some value
  | value => some value

/-- Reads a long option, after its hyphens. -/
def readLong (d : ArgumentsDraft) (s : Text) : Except ArgumentsEnd ArgumentsDraft :=
  let (name, attached) := splitLong s
  match longValueNames.lookup name, longFlagNames.lookup name, attached with
  | some o, _, _ => d.setAttached o attached
  | none, some flag, none => d.setFlag flag
  | _, _, _ => .error .misuse

/-- Reads short options, after their hyphen. -/
def readShorts (d : ArgumentsDraft) : Text → Except ArgumentsEnd ArgumentsDraft
  | [] => .ok d
  | c :: rest =>
      match shortValueNames.lookup c, shortFlagNames.lookup c with
      | some o, _ => d.setAttached o (attachedValue? rest)
      | none, some flag => do readShorts (← d.setFlag flag) rest
      | none, none => .error .misuse

/-- Reads one argument. -/
def readArgument (d : ArgumentsDraft) (argument : Text) : Except ArgumentsEnd ArgumentsDraft :=
  if d.ended then .error .misuse
  else
    match d.awaited, argument with
    | some o, ['-'] => d.setValue o ['-']
    | some _, '-' :: _ => .error .misuse
    | some o, value => d.setValue o value
    | none, ['-', '-'] => .ok { d with ended := true }
    | none, '-' :: '-' :: long => readLong d long
    | none, '-' :: c :: shorts => readShorts d (c :: shorts)
    | none, _ => .error .misuse

/-- Reads all arguments. -/
def readArguments (arguments : List Text) : Except ArgumentsEnd Arguments := do
  let d ← arguments.foldlM readArgument .start
  match d.awaited with
  | some _ => throw .misuse
  | none => return d.given

end Swimlane
