import Swimlane.Settings.Basic
import Swimlane.Settings.Fault

/-!
# Blocks of settings

A block of a settings file is an object whose known keys each change something; other keys
are passed over.  It may also be written as a list of the values in the order of the keys.
Reading a block gives the change that it makes as a whole, or the first misfit in the
order of the text.
-/

namespace Swimlane

open Json (Sketch Items Fields FieldName Break Place)

/-! ## Keys and blocks -/

/-- A key of a block: its name, and the change that a value of it makes. -/
structure Key (σ : Type) where
  name : Text
  change : Sketch → Except Misfit (σ → σ)

/-- A block: how messages call it, and its keys. -/
structure Block (σ : Type) where
  title : Text
  keys : List (Key σ)

/-- The key of a block with a name. -/
def Block.key? {σ : Type} (b : Block σ) (name : Text) : Option (Key σ) :=
  b.keys.find? (·.name = name)

/-- What a list in place of a block should be. -/
def Block.listTitle {σ : Type} (b : Block σ) : Text :=
  let unit := if b.keys.length = 1 then " element" else " elements"
  b.title ++ " with ".toList ++ decimal b.keys.length ++ unit.toList

/-! ## Misfits -/

/-- The misfit of a value where something else is expected. -/
def typeMisfit (expected : Text) (s : Sketch) : Misfit :=
  match s with
  | .unreadable _ reading _ => .ofBreak reading
  | .null after | .bool _ _ after | .number _ _ after | .text _ after =>
      ⟨.wrongType s.description expected, .before after⟩
  | .list before _ | .object before _ => ⟨.wrongType s.description expected, .before before⟩

/-- The misfit of a list that goes on where it should end. -/
def tooManyMisfit (rest : Text) : Misfit :=
  match Json.skipGap rest with
  | [] => .ofBreak ⟨.endInList, .onto []⟩
  | ',' :: rest =>
      match Json.skipGap rest with
      | ']' :: rest => .ofBreak ⟨.trailingComma, .onto (']' :: rest)⟩
      | rest => .ofBreak ⟨.trailingCharacters, .onto rest⟩
  | rest => .ofBreak ⟨.trailingCharacters, .onto rest⟩

/-- The place of a key that was there before; the end of the object right after it counts
as read. -/
def repeatedPlace (afterName : Text) : Place :=
  match Json.skipGap afterName with
  | '\x7d' :: rest => .before rest
  | rest => .before rest

/-! ## Reading blocks -/

/-- The change that a list in place of a block makes; `done` counts the items so far, and
`rest` is the text after them. -/
def readItems {σ : Type} (listTitle : Text) (done : Nat) (rest : Text) :
    List (Key σ) → Items → Except Misfit (σ → σ)
  | [], .closed _ => .ok id
  | [], _ => .error (tooManyMisfit rest)
  | _ :: _, .closed after => .error ⟨.tooFew done listTitle, .before after⟩
  | _ :: _, .cut reading _ => .error (.ofBreak reading)
  | key :: keys, .item item next => do
      let change ← key.change item
      let rest ← item.passed.mapError .ofBreak
      let others ← readItems listTitle (done + 1) rest keys next
      return others ∘ change

/-- The name of a field of a block, and the key that it names if it is a known one; the
names in `seen` have occurred. -/
def Block.readName {σ : Type} (b : Block σ) (seen : List Text) (name : FieldName) :
    Except Misfit (Text × Option (Key σ)) := do
  let text ← name.value.mapError .ofBreak
  match b.key? text with
  | some key =>
      if seen.contains text then throw ⟨.repeated text, repeatedPlace name.after⟩
      else return (text, some key)
  | none => return (text, none)

/-- The change that the fields of a block make; a field with an unknown name is passed
over. -/
def readFields {σ : Type} (b : Block σ) (seen : List Text) : Fields → Except Misfit (σ → σ)
  | .closed _ => .ok id
  | .cut reading _ => .error (.ofBreak reading)
  | .bare name missing => do
      let _ ← b.readName seen name
      throw (.ofBreak missing)
  | .field name value next => do
      match ← b.readName seen name with
      | (name, some key) =>
          let change ← key.change value
          let others ← readFields b (name :: seen) next
          return others ∘ change
      | (_, none) =>
          let _ ← value.passed.mapError .ofBreak
          readFields b seen next

/-- The change that a block makes. -/
def Block.read {σ : Type} (b : Block σ) (s : Sketch) : Except Misfit (σ → σ) :=
  match s with
  | .object _ fields => readFields b [] fields
  | .list _ items => readItems b.listTitle 0 [] b.keys items
  | _ => .error (typeMisfit b.title s)

/-! ## Kinds of keys -/

/-- A key whose value may be null, which changes nothing. -/
def optionalKey {σ : Type} (name : Text) (change : Sketch → Except Misfit (σ → σ)) : Key σ where
  name
  change s :=
    match s with
    | .null _ => .ok id
    | _ => change s

/-- A key for a length.  A length that is not finite or less than zero changes nothing. -/
def lengthKey {α σ : Type} [Length α] (name : Text) (set : α → σ → σ) : Key σ :=
  optionalKey name fun s =>
    match s with
    | .number _ n _ =>
        let value : Option α :=
          match n with
          | .whole k => some (Length.ofInt k)
          | .double x => some (Length.ofDouble x)
          | .single _ => none
        match value.filter fun v => Length.isFinite v && Length.atMost Length.zero v with
        | some v => .ok (set v)
        | none => .ok id
    | _ => .error (typeMisfit "f32".toList s)

/-- A key for a count. -/
def countKey {σ : Type} (name : Text) (set : Nat → σ → σ) : Key σ :=
  optionalKey name fun s =>
    match s with
    | .number _ (.whole n) after =>
        if 0 ≤ n then .ok (set n.toNat)
        else .error ⟨.wrongValue s.description "usize".toList, .before after⟩
    | _ => .error (typeMisfit "usize".toList s)

/-- A key for a block within a block. -/
def blockKey {σ τ : Type} (name : Text) (b : Block τ) (lift : (τ → τ) → σ → σ) : Key σ :=
  optionalKey name fun s => (b.read s).map lift

/-! ## Choices -/

/-- The names of two choices in a message. -/
def choiceTitle (first second : Text) : Text :=
  "`".toList ++ first ++ "` or `".toList ++ second ++ "`".toList

/-- The choice that a word names. -/
def readChoice {β : Type} (choices : List (Text × β)) (expected word after : Text) :
    Except Misfit β :=
  match choices.lookup word with
  | some choice => .ok choice
  | none => .error ⟨.unknownChoice word expected, .before after⟩

/-- A choice written as an object, after its brace: its name is the only key, and the
value is null. -/
def readTagged {β : Type} (choices : List (Text × β)) (expected s : Text) : Except Misfit β :=
  match (Json.sketch s).1 with
  | .text word after => do
      let choice ← readChoice choices expected word after
      match Json.skipGap after with
      | [] => throw (.ofBreak ⟨.endInObject, .onto []⟩)
      | ':' :: rest =>
          match (Json.sketch rest).1 with
          | .null after =>
              match Json.skipGap after with
              | '\x7d' :: _ => return choice
              | [] => throw (.ofBreak ⟨.endInObject, .before []⟩)
              | rest => throw (.ofBreak ⟨.noValue, .before rest⟩)
          | value => throw (typeMisfit "unit".toList value)
      | rest => throw (.ofBreak ⟨.noColon, .onto rest⟩)
  | name => .error (typeMisfit "variant identifier".toList name)

/-- A key for one of some choices: its name, or an object with its name as the only key and
null as the value.  Nothing else is looked at more closely than at its first character. -/
def choiceKey {β σ : Type} (name : Text) (choices : List (Text × β)) (expected : Text)
    (set : β → σ → σ) : Key σ :=
  optionalKey name fun s =>
    match s with
    | .text word after => (readChoice choices expected word after).map set
    | .object before _ => (readTagged choices expected (before.drop 1)).map set
    | .unreadable [] reading _ | .unreadable ('"' :: _) reading _ | .unreadable ('n' :: _) reading _ =>
        .error (.ofBreak reading)
    | .null before | .bool before _ _ | .number before _ _ | .list before _
    | .unreadable before _ _ => .error (.ofBreak ⟨.noValue, .onto before⟩)

end Swimlane
