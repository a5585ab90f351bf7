import Mathlib.Data.Char
import Mathlib.Data.List.Lex
import Swimlane.Proofs.Settings.Parts

/-!
# Settings by values

A text that is JSON throughout has a value, in which the last field of each name counts.  No known
name has two fields in a text that is read, so that the settings are what the value says: a part is
set by what the value has for its name, and how the text is written makes no difference
(`Block.get_of_value?`).
-/

namespace Swimlane

open Json (Sketch Items Fields)

/-! ## Fields in order -/

section Fields

variable {name other : Text} {value : Json} {fields : List (Text × Json)}

theorem lookup_putField (name : Text) (value : Json) (fields : List (Text × Json)) (other : Text) :
    (Json.putField name value fields).lookup other =
      if other = name then some value else fields.lookup other := by
  induction fields with
  | nil =>
    by_cases h : other = name
    · simp [Json.putField, h]
    · rw [Json.putField, lookup_cons_of_ne h, if_neg h]
  | cons field rest ih =>
    obtain ⟨first, v⟩ := field
    rw [Json.putField]
    by_cases h : other = name
    · subst h
      rw [if_pos rfl] at ih ⊢
      by_cases hlt : other < first
      · rw [if_pos hlt, List.lookup_cons_self]
      · by_cases heq : other = first
        · rw [if_neg hlt, if_pos heq, List.lookup_cons_self]
        · rw [if_neg hlt, if_neg heq, lookup_cons_of_ne heq, ih]
    · rw [if_neg h] at ih ⊢
      by_cases hlt : name < first
      · rw [if_pos hlt, lookup_cons_of_ne h]
      · by_cases heq : name = first
        · subst heq
          rw [if_neg hlt, if_pos rfl, lookup_cons_of_ne h, lookup_cons_of_ne h]
        · rw [if_neg hlt, if_neg heq, List.lookup_cons, List.lookup_cons, ih]

theorem mem_names_putField (h : other ∈ (Json.putField name value fields).map Prod.fst) :
    other = name ∨ other ∈ fields.map Prod.fst := by
  by_contra hnone
  rw [not_or] at hnone
  obtain ⟨field, hfield, rfl⟩ := List.mem_map.1 h
  have hlookup := lookup_putField name value fields field.1
  rw [if_neg hnone.1, lookup_eq_none hnone.2] at hlookup
  have hbeq := List.lookup_eq_none_iff.1 hlookup field hfield
  simp at hbeq

/-- A field that is put among fields in order leaves them in order. -/
theorem pairwise_putField (h : (fields.map Prod.fst).Pairwise (· < ·)) :
    ((Json.putField name value fields).map Prod.fst).Pairwise (· < ·) := by
  induction fields with
  | nil => exact List.pairwise_singleton _ _
  | cons field rest ih =>
    obtain ⟨first, v⟩ := field
    rw [List.map_cons, List.pairwise_cons] at h
    rw [Json.putField]
    by_cases hlt : name < first
    · rw [if_pos hlt, List.map_cons, List.map_cons, List.pairwise_cons, List.pairwise_cons]
      refine ⟨List.forall_mem_cons.2 ⟨hlt, fun a ha => hlt.trans (h.1 a ha)⟩, h⟩
    · by_cases heq : name = first
      · subst heq
        rw [if_neg hlt, if_pos rfl, List.map_cons, List.pairwise_cons]
        exact h
      · rw [if_neg hlt, if_neg heq, List.map_cons, List.pairwise_cons]
        refine ⟨fun a ha => ?_, ih h.2⟩
        rcases mem_names_putField ha with rfl | hmem
        · exact lt_of_le_of_ne (not_lt.1 hlt) (Ne.symm heq)
        · exact h.1 a hmem

/-- The fields of an object that was read have different names. -/
theorem nodup_foldl_putField (fields : List (Text × Json)) :
    ((fields.foldl (fun done field => Json.putField field.1 field.2 done) []).map
      Prod.fst).Nodup := by
  have hordered : ∀ done : List (Text × Json), (done.map Prod.fst).Pairwise (· < ·) →
      ((fields.foldl (fun done field => Json.putField field.1 field.2 done) done).map
        Prod.fst).Pairwise (· < ·) := by
    induction fields with
    | nil => exact fun _ h => h
    | cons field rest ih => exact fun done h => ih _ (pairwise_putField h)
  exact (hordered [] List.Pairwise.nil).imp fun hlt => ne_of_lt hlt

end Fields

/-! ## Values of entries -/

section Entries

variable {σ β : Type} {b : Block σ} {s : Sketch} {name : Text} {change : σ → σ} {room : Nat}
  {value : Json}

/-- An entry of a text and a field of a value have the same name and the same value. -/
def Agrees (room : Nat) (entry : Text × Sketch) (field : Text × Json) : Prop :=
  entry.1 = field.1 ∧ entry.2.value? room = some field.2

/-- The value of a list is that of its items. -/
theorem Json.Sketch.of_value?_list {before : Text} {items : Items}
    (h : (Sketch.list before items).value? room = some value) :
    ∃ values, items.values? (room - 1) = some values ∧ value = .list values := by
  rw [Sketch.value?] at h
  split at h
  · cases h
  · obtain ⟨values, hvalues, rfl⟩ := Option.map_eq_some_iff.1 h
    exact ⟨values, hvalues, rfl⟩

/-- The value of an object is that of its fields. -/
theorem Json.Sketch.of_value?_object {before : Text} {fields : Fields}
    (h : (Sketch.object before fields).value? room = some value) :
    ∃ values, fields.values? (room - 1) = some values ∧ value = .ofFields values := by
  rw [Sketch.value?] at h
  split at h
  · cases h
  · obtain ⟨values, hvalues, rfl⟩ := Option.map_eq_some_iff.1 h
    exact ⟨values, hvalues, rfl⟩

theorem forall₂_of_items_values? : ∀ {items : Items} {values : List Json},
    items.values? room = some values →
      List.Forall₂ (fun s value => s.value? room = some value) items.sketches values
  | .closed _, _, h => by
    cases h
    exact .nil
  | .cut _ _, _, h => by cases h
  | .item item next, values, h => by
    rw [Items.values?] at h
    split at h
    · next own others hown hothers =>
      cases h
      exact .cons hown (forall₂_of_items_values? hothers)
    · cases h

theorem forall₂_of_fields_values? : ∀ {fields : Fields} {values : List (Text × Json)},
    fields.values? room = some values → List.Forall₂ (Agrees room) fields.entries values
  | .closed _, _, h => by
    cases h
    exact .nil
  | .cut _ _, _, h => by cases h
  | .bare _ _, _, h => by cases h
  | .field fieldName value next, values, h => by
    rw [Fields.values?] at h
    split at h
    · next key own others hkey hown hothers =>
      cases h
      rw [Fields.entries, hkey]
      exact .cons ⟨rfl, hown⟩ (forall₂_of_fields_values? hothers)
    · cases h

theorem rel_lookup_of_forall₂ {table : List (Text × Sketch)} {fields : List (Text × Json)}
    (h : List.Forall₂ (Agrees room) table fields) (name : Text) :
    Option.Rel (fun s value => s.value? room = some value) (table.lookup name)
      (fields.lookup name) := by
  induction h with
  | nil => exact .none
  | @cons entry field table fields hagrees _ ih =>
    obtain ⟨key, s⟩ := entry
    obtain ⟨key', value⟩ := field
    obtain ⟨rfl, hvalue⟩ : key = key' ∧ s.value? room = some value := hagrees
    by_cases hname : name = key
    · subst hname
      rw [List.lookup_cons_self, List.lookup_cons_self]
      exact .some hvalue
    · rw [lookup_cons_of_ne hname, lookup_cons_of_ne hname]
      exact ih

theorem forall₂_zip {items : List Sketch} {values : List Json}
    (h : List.Forall₂ (fun s value => s.value? room = some value) items values)
    (names : List Text) : List.Forall₂ (Agrees room) (names.zip items) (names.zip values) := by
  induction h generalizing names with
  | nil =>
    rw [List.zip_nil_right, List.zip_nil_right]
    exact .nil
  | cons hvalue _ ih =>
    cases names with
    | nil => exact .nil
    | cons name names => exact .cons ⟨rfl, hvalue⟩ (ih names)

/-- Of fields without a known name twice, the object has for a known name what they have. -/
theorem Block.Makes.lookup_foldl_putField {table : List (Text × Sketch)}
    (h : b.Makes table change) {fields : List (Text × Json)}
    (hfields : List.Forall₂ (Agrees room) table fields) (hname : (b.key? name).isSome)
    (done : List (Text × Json)) :
    (fields.foldl (fun done field => Json.putField field.1 field.2 done) done).lookup name =
      (fields.lookup name).or (done.lookup name) := by
  -- What is put later wins over what is there, but no field of the name comes later.
  induction h generalizing fields done with
  | nil =>
    cases hfields
    rfl
  | @unknown first s rest change hfirst _ ih =>
    cases hfields with
    | @cons _ field _ fields hagrees hrest =>
      obtain ⟨key, value⟩ := field
      obtain rfl : first = key := hagrees.1
      have hne : name ≠ first := by
        rintro rfl
        rw [hfirst] at hname
        cases hname
      rw [List.foldl_cons, ih hrest, lookup_putField, if_neg hne, lookup_cons_of_ne hne]
  | @known first s rest key own others hfirst hown hlater _ ih =>
    cases hfields with
    | @cons _ field _ fields hagrees hrest =>
      obtain ⟨key, value⟩ := field
      obtain rfl : first = key := hagrees.1
      rw [List.foldl_cons, ih hrest, lookup_putField]
      by_cases hne : name = first
      · subst hne
        have hnone := rel_lookup_of_forall₂ hrest name
        rw [lookup_eq_none hlater] at hnone
        cases hfound : fields.lookup name with
        | some found =>
          rw [hfound] at hnone
          cases hnone
        | none =>
          rw [if_pos rfl, List.lookup_cons_self]
          rfl
      · rw [if_neg hne, lookup_cons_of_ne hne]

/-- What a text that is read has for a known name has the value that its value has for it. -/
theorem Block.Makes.exists_rel_valueFor? (h : b.Makes (b.entries s) change)
    (hvalue : s.value? room = some value) (hname : (b.key? name).isSome) :
    ∃ room, Option.Rel (fun s value => s.value? room = some value) ((b.entries s).lookup name)
      (b.valueFor? value name) := by
  cases s with
  | unreadable before reading passing => cases hvalue
  | list before items =>
    obtain ⟨values, hvalues, rfl⟩ := Sketch.of_value?_list hvalue
    have hitems := forall₂_zip (forall₂_of_items_values? hvalues) (b.keys.map Key.name)
    exact ⟨_, rel_lookup_of_forall₂ hitems name⟩
  | object before fields =>
    obtain ⟨values, hvalues, rfl⟩ := Sketch.of_value?_object hvalue
    have hfields := forall₂_of_fields_values? hvalues
    have hlookup := h.lookup_foldl_putField hfields hname []
    rw [List.lookup_nil, Option.or_none] at hlookup
    refine ⟨room - 1, ?_⟩
    show Option.Rel _ _ (List.lookup name _)
    rw [hlookup]
    exact rel_lookup_of_forall₂ hfields name
  | _ =>
    cases hvalue
    exact ⟨0, .none⟩

/-- What the value has for a known name is the value of what the text has for it. -/
theorem Block.Makes.exists_entry (h : b.Makes (b.entries s) change)
    (hvalue : s.value? room = some value) (hname : (b.key? name).isSome) {own : Json}
    (hown : b.valueFor? value name = some own) :
    ∃ entry inner, (b.entries s).lookup name = some entry ∧ entry.value? inner = some own := by
  obtain ⟨inner, hrel⟩ := h.exists_rel_valueFor? hvalue hname
  rw [hown] at hrel
  cases hlookup : (b.entries s).lookup name with
  | none =>
    rw [hlookup] at hrel
    cases hrel
  | some entry =>
    rw [hlookup] at hrel
    cases hrel with
    | some hsame => exact ⟨entry, inner, rfl, hsame⟩

end Entries

/-! ## Sketches of texts -/

namespace Json

/-- What a sketch tells of the text that it is of, as far as it matters here. -/
def Sketch.Tells (text : Text) : Sketch → Prop
  | .null after => ∃ rest, skipGap text = 'n' :: rest ∧ readWord "ull".toList rest = .ok after
  | .text value after => ∃ rest, skipGap text = '"' :: rest ∧ readText [] rest = .ok (value, after)
  | .list _ items => ∃ fuel rest, items = (sketchItems fuel true rest).1
  | .object before fields =>
      ∃ fuel rest, before = '{' :: rest ∧ fields = (sketchFields fuel true rest).1
  | _ => True

theorem tells_sketchWord {text before word rest : Text} {make : Text → Sketch}
    (h : ∀ after, readWord word rest = .ok after → (make after).Tells text) :
    (sketchWord before word rest make).1.Tells text := by
  unfold sketchWord
  split
  · next after hafter => exact h after hafter
  · exact trivial

/-- The sketch of a value tells what stands there. -/
theorem tells_sketchValue (fuel : Nat) (text : Text) : (sketchValue fuel text).1.Tells text := by
  cases fuel with
  | zero => exact trivial
  | succ fuel =>
    unfold sketchValue
    split
    · exact trivial
    · next rest hrest => exact tells_sketchWord fun after hafter => ⟨rest, hrest, hafter⟩
    · exact tells_sketchWord fun _ _ => trivial
    · exact tells_sketchWord fun _ _ => trivial
    · next rest hrest =>
      unfold sketchText
      split
      · next value after hvalue => exact ⟨rest, hrest, hvalue⟩
      · exact trivial
    · next rest hrest => exact ⟨fuel, rest, rfl⟩
    · next rest hrest => exact ⟨fuel, rest, rfl, rfl⟩
    · split
      · unfold sketchNumber
        split
        · split
          · exact trivial
          · exact trivial
        · exact trivial
      · exact trivial

/-- A sketch of some text. -/
def Sketch.IsGenuine (s : Sketch) : Prop := ∃ fuel text, s = (sketchValue fuel text).1

theorem Sketch.IsGenuine.exists_tells {s : Sketch} (h : s.IsGenuine) : ∃ text, s.Tells text := by
  obtain ⟨fuel, text, rfl⟩ := h
  exact ⟨text, tells_sketchValue fuel text⟩

/-- The items of a list are sketches of texts. -/
theorem isGenuine_of_mem_items (fuel : Nat) :
    (∀ first text, ∀ s ∈ (sketchItems fuel first text).1.sketches, s.IsGenuine) ∧
      ∀ text, ∀ s ∈ (sketchItem fuel text).1.sketches, s.IsGenuine := by
  induction fuel with
  | zero =>
    constructor
    · exact fun _ _ _ h => absurd h List.not_mem_nil
    · exact fun _ _ h => absurd h List.not_mem_nil
  | succ fuel ih =>
    constructor
    · intro first text s hs
      unfold sketchItems at hs
      split at hs
      · cases hs
      · cases hs
      · split at hs
        · exact ih.2 _ s hs
        · split at hs
          · split at hs
            · cases hs
            · exact ih.2 _ s hs
          · cases hs
    · intro text s hs
      unfold sketchItem at hs
      split at hs
      · next item found hitem =>
        rcases List.mem_cons.1 hs with rfl | hs
        · exact ⟨fuel, text, by rw [hitem]⟩
        · cases hs
      · next item rest hitem =>
        rcases List.mem_cons.1 hs with rfl | hs
        · exact ⟨fuel, text, by rw [hitem]⟩
        · exact ih.1 false rest s hs

theorem mem_entries_field {name : FieldName} {value : Sketch} {next : Fields}
    {entry : Text × Sketch} (h : entry ∈ (Fields.field name value next).entries) :
    entry.2 = value ∨ entry ∈ next.entries := by
  rw [Fields.entries] at h
  split at h
  · rcases List.mem_cons.1 h with rfl | h
    · exact .inl rfl
    · exact .inr h
  · exact .inr h

/-- The values of the fields of an object are sketches of texts. -/
theorem isGenuine_of_mem_fields (fuel : Nat) :
    (∀ first text, ∀ entry ∈ (sketchFields fuel first text).1.entries, entry.2.IsGenuine) ∧
      ∀ text, ∀ entry ∈ (sketchField fuel text).1.entries, entry.2.IsGenuine := by
  induction fuel with
  | zero =>
    constructor
    · exact fun _ _ _ h => absurd h List.not_mem_nil
    · exact fun _ _ h => absurd h List.not_mem_nil
  | succ fuel ih =>
    constructor
    · intro first text entry hentry
      unfold sketchFields at hentry
      split at hentry
      · cases hentry
      · cases hentry
      · split at hentry
        · exact ih.2 _ entry hentry
        · split at hentry
          · split at hentry
            · cases hentry
            · cases hentry
            · exact ih.2 _ entry hentry
          · cases hentry
    · intro text entry hentry
      unfold sketchField at hentry
      split at hentry
      · split at hentry
        · cases hentry
        · cases hentry
        · split at hentry
          · cases hentry
          · split at hentry
            · next rest hrest _ value found hvalue =>
              rcases mem_entries_field hentry with heq | hentry
              · exact ⟨fuel, rest, by rw [heq, hvalue]⟩
              · cases hentry
            · next rest hrest _ value after hvalue =>
              rcases mem_entries_field hentry with heq | hentry
              · exact ⟨fuel, rest, by rw [heq, hvalue]⟩
              · exact ih.1 false after entry hentry
          · cases hentry
      · cases hentry

end Json

/-- What a text has for the keys of a block are sketches of texts. -/
theorem Block.isGenuine_of_mem_entries {σ : Type} (b : Block σ) {s : Sketch} (h : s.IsGenuine)
    {entry : Text × Sketch} (hentry : entry ∈ b.entries s) : entry.2.IsGenuine := by
  obtain ⟨text, htells⟩ := h.exists_tells
  cases s with
  | list before items =>
    obtain ⟨fuel, rest, rfl⟩ := htells
    exact (Json.isGenuine_of_mem_items fuel).1 true rest _ (List.of_mem_zip hentry).2
  | object before fields =>
    obtain ⟨fuel, rest, -, rfl⟩ := htells
    exact (Json.isGenuine_of_mem_fields fuel).1 true rest entry hentry
  | _ => cases hentry

/-! ## Choices -/

/-- The choice that a value is: its name, or an object with its name as the only key and null as
the value. -/
def Json.choice? {β : Type} (choices : List (Text × β)) : Json → Option β
  | .text word => choices.lookup word
  | .object [(word, .null)] => choices.lookup word
  | _ => none

namespace Json

/-- What can be read can be passed over. -/
theorem passText_of_readText {done s value rest : Text} (h : readText done s = .ok (value, rest)) :
    passText s = .ok rest := by
  fun_induction readText done s generalizing value rest
  case case2 =>
    cases h
    rw [passText]
  case case6 ih | case13 ih | case15 ih | case19 ih =>
    simp only [passText, *]
    simpa using ih h
  all_goals cases h

end Json

theorem of_readChoice {β : Type} {choices : List (Text × β)} {expected word after : Text}
    {choice : β} (h : readChoice choices expected word after = .ok choice) :
    choices.lookup word = some choice := by
  unfold readChoice at h
  split at h
  · next found hfound =>
    cases h
    exact hfound
  · cases h

/-- Where a name in quotes, a colon, null and a brace follow each other, the object has the name as
its only key. -/
theorem values_of_tagged {fuel room : Nat} {text quoted word after rest tail close last : Text}
    (hquote : Json.skipGap text = '"' :: quoted)
    (hword : Json.readText [] quoted = .ok (word, after))
    (hcolon : Json.skipGap after = ':' :: rest) (hnull : Json.skipGap rest = 'n' :: tail)
    (hread : Json.readWord "ull".toList tail = .ok close)
    (hclose : Json.skipGap close = '\x7d' :: last) {values : List (Text × Json)}
    (h : (Json.sketchFields fuel true text).1.values? room = some values) :
    values = [(word, .null)] := by
  obtain _ | fuel := fuel
  · cases h
  have hfirst : Json.sketchFields (fuel + 1) true text = Json.sketchField fuel ('"' :: quoted) := by
    unfold Json.sketchFields
    rw [hquote]
    rfl
  rw [hfirst] at h
  obtain _ | fuel := fuel
  · cases h
  unfold Json.sketchField at h
  simp only [hword, Json.passText_of_readText hword, hcolon] at h
  obtain _ | fuel := fuel
  · cases h
  have hvalue : Json.sketchValue (fuel + 1) rest = (.null close, .ok close) := by
    unfold Json.sketchValue
    simp only [hnull, Json.sketchWord, hread]
  simp only [hvalue] at h
  have hend : Json.sketchFields (fuel + 1) false close = (.closed last, .ok last) := by
    unfold Json.sketchFields
    rw [hclose]
    rfl
  rw [hend] at h
  cases h
  rfl

/-- A choice that is read from an object is the one that the value of the object is. -/
theorem choice?_of_readTagged {β : Type} {choices : List (Text × β)} {expected text : Text}
    {choice : β} {fuel room : Nat} {values : List (Text × Json)}
    (h : readTagged choices expected text = .ok choice)
    (hvalues : (Json.sketchFields fuel true text).1.values? room = some values) :
    (Json.ofFields values).choice? choices = some choice := by
  unfold readTagged at h
  split at h
  · next word after hname =>
    have htells := Json.tells_sketchValue (3 * text.length + 3) text
    rw [← Json.sketch, hname] at htells
    obtain ⟨quoted, hquote, hword⟩ := htells
    obtain ⟨found, hfound, h⟩ := ok_of_bind h
    split at h
    · cases h
    · next rest hcolon =>
      split at h
      · next close hnull =>
        have htells := Json.tells_sketchValue (3 * rest.length + 3) rest
        rw [← Json.sketch, hnull] at htells
        obtain ⟨tail, htail, hread⟩ := htells
        split at h
        · next last hclose =>
          cases h
          rw [values_of_tagged hquote hword hcolon htail hread hclose hvalues]
          exact of_readChoice hfound
        · cases h
        · cases h
      · cases h
    · cases h
  · cases h

/-- What a key for a choice changes is told by the value. -/
theorem change_choiceKey {β σ : Type} {name expected : Text} {choices : List (Text × β)}
    {set : β → σ → σ} {s : Sketch} {room : Nat} {value : Json} {change : σ → σ}
    (hgenuine : s.IsGenuine) (hvalue : s.value? room = some value)
    (h : (choiceKey name choices expected set).change s = .ok change) :
    (value.choice? choices = none ∧ change = id) ∨
      ∃ choice, value.choice? choices = some choice ∧ change = set choice := by
  obtain ⟨text, htells⟩ := hgenuine.exists_tells
  cases s with
  | null after =>
    cases h
    cases hvalue
    exact .inl ⟨rfl, rfl⟩
  | text word after =>
    obtain ⟨choice, hchoice, rfl⟩ := ok_of_map h
    cases hvalue
    exact .inr ⟨choice, of_readChoice hchoice, rfl⟩
  | object before fields =>
    obtain ⟨fuel, rest, rfl, rfl⟩ := htells
    obtain ⟨choice, hchoice, rfl⟩ := ok_of_map h
    obtain ⟨values, hvalues, rfl⟩ := Sketch.of_value?_object hvalue
    exact .inr ⟨choice, choice?_of_readTagged hchoice hvalues, rfl⟩
  | unreadable before reading passing => cases hvalue
  | _ => cases h

/-! ## Parts set by values -/

section Parts

variable {σ τ α β : Type} [Length α] {b : Block σ} {name : Text} {get : σ → β} {s : Sketch}
  {room : Nat} {value : Json} {change : σ → σ}

/-- A part of what a block changes is set by the value of the key of a name, however it is
written, and left by the other keys. -/
structure Block.SetsBy (b : Block σ) (name : Text) (get : σ → β) (set : Json → β → β) : Prop where
  own : ∃ key, b.key? name = some key ∧ ∀ s room value change, s.IsGenuine →
    s.value? room = some value → key.change s = .ok change →
      ∀ x, get (change x) = set value (get x)
  other : ∀ key ∈ b.keys, key.name ≠ name → ∀ v, key.Preserves (get · = v)

/-- What a name sets a part to, if a value has something for it. -/
def Block.settleBy (b : Block σ) (name : Text) (set : Json → β → β) (value : Json) (before : β) :
    β :=
  (b.valueFor? value name).elim before fun own => set own before

/-- A block that is read sets a part by what the value of the text has for its name. -/
theorem Block.get_of_value? {set : Json → β → β} (hnames : (b.keys.map Key.name).Nodup)
    (hsets : b.SetsBy name get set) (hgenuine : s.IsGenuine) (hvalue : s.value? room = some value)
    (h : b.read s = .ok change) (x : σ) : get (change x) = b.settleBy name set value (get x) := by
  obtain ⟨key, hkey, hset⟩ := hsets.own
  have hmakes := Block.makes_of_read hnames h
  have hname : (b.key? name).isSome := by rw [hkey]; rfl
  rw [settleBy]
  cases hentry : b.valueFor? value name with
  | none =>
    obtain ⟨inner, hrel⟩ := hmakes.exists_rel_valueFor? hvalue hname
    rw [hentry] at hrel
    cases hlookup : (b.entries s).lookup name with
    | none => exact hmakes.get_of_lookup_eq_none hsets.other hlookup x
    | some entry =>
      rw [hlookup] at hrel
      cases hrel
  | some ownValue =>
    obtain ⟨entry, inner, hlookup, hown⟩ := hmakes.exists_entry hvalue hname hentry
    have hgenuine' := b.isGenuine_of_mem_entries hgenuine (mem_of_lookup hlookup)
    obtain ⟨own, hchange, hpart⟩ := hmakes.exists_own hkey hlookup
    obtain ⟨y, hy, heq⟩ := hpart get hsets.other x
    rw [heq, hset entry inner ownValue own hgenuine' hown hchange, hy]
    rfl

/-- Where texts and values are taken alike, a part that is set is set by values. -/
theorem Block.Sets.by_value {set : Sketch → β → β} (h : b.Sets name get set)
    (hset : ∀ s room value, s.value? room = some value → set s = set value.toSketch) :
    b.SetsBy name get fun value => set value.toSketch where
  own := by
    obtain ⟨key, hkey, hown⟩ := h.own
    refine ⟨key, hkey, fun s room value change _ hvalue hchange x => ?_⟩
    rw [hown s change hchange, hset s room value hvalue]
  other := h.other

/-- What a value seen as a text settles is what the value settles. -/
theorem Block.settle_toSketch (b : Block σ) (name : Text) (set : Sketch → β → β) (value : Json)
    (before : β) : b.settle name set value.toSketch before =
      b.settleBy name (fun value => set value.toSketch) value before := by
  rw [settle, settleBy, b.lookup_entries_toSketch]
  cases b.valueFor? value name <;> rfl

/-- A part that a block sets by values within another block is set by them there. -/
theorem setsBy_of_blockKey {inner : Block τ} {lift : (τ → τ) → σ → σ} {part : τ → β} {get : σ → τ}
    {key : Text} {set : Json → β → β} (hnames : (b.keys.map Key.name).Nodup)
    (hkey : blockKey name inner lift ∈ b.keys) (hlift : ∀ f x, get (lift f x) = f (get x))
    (hinner : (inner.keys.map Key.name).Nodup) (hsets : inner.SetsBy key part set)
    (hother : ∀ key ∈ b.keys, key.name ≠ name → ∀ v, key.Preserves fun x => part (get x) = v) :
    b.SetsBy name (fun x => part (get x)) (inner.settleBy key set) where
  own := by
    refine ⟨_, Block.key?_name hnames hkey, fun s room value change hgenuine hvalue h x => ?_⟩
    rcases change_blockKey h with ⟨after, rfl, rfl⟩ | ⟨own, hown, rfl⟩
    · cases hvalue
      rfl
    · show part (get (lift own x)) = _
      rw [hlift, Block.get_of_value? hinner hsets hgenuine hvalue hown]
  other := hother

end Parts

/-- A text says of a length and of a count what its value says. -/
theorem setLength_setCount_eq (α : Type) [Length α] {s : Sketch} {room : Nat} {value : Json}
    (h : s.value? room = some value) :
    setLength (α := α) s = setLength value.toSketch ∧
      ∀ limit, setCount limit s = setCount limit value.toSketch := by
  cases s with
  | unreadable before reading passing => cases h
  | list before items =>
    obtain ⟨values, -, rfl⟩ := Sketch.of_value?_list h
    exact ⟨rfl, fun _ => rfl⟩
  | object before fields =>
    obtain ⟨values, -, rfl⟩ := Sketch.of_value?_object h
    exact ⟨rfl, fun _ => rfl⟩
  | _ =>
    cases h
    exact ⟨rfl, fun _ => rfl⟩

/-! ## The settings of a file -/

section Settings

variable {α β : Type} [Length α] {name : Text} {text : Text} {value : Json} {s : Settings α}

theorem setsBy_of_mem_gridLengths {part : Text × (GridSettings α → α)}
    (h : part ∈ gridLengths) : (gridBlock : Block (GridSettings α)).SetsBy part.1 part.2
      fun value => setLength value.toSketch :=
  (sets_of_mem_gridLengths part h).by_value fun _ _ _ h => (setLength_setCount_eq α h).1

/-- What happens to edges is set by the choice that the value is. -/
theorem setsBy_tidyBlock : tidyBlock.SetsBy "boundaryEdgePolicy".toList id
    fun value before => (value.choice? edgePolicyNames).getD before where
  own := by
    refine ⟨_, Block.key?_name nodup_tidyBlock List.mem_cons_self, ?_⟩
    intro s room value change hgenuine hvalue h x
    rcases change_choiceKey hgenuine hvalue h with ⟨hnone, rfl⟩ | ⟨choice, hchoice, rfl⟩
    · rw [hnone]
      rfl
    · rw [hchoice]
      rfl
  other := by
    intro key hkey hne
    obtain rfl := List.mem_singleton.1 hkey
    exact absurd rfl hne

/-- The value of a text is that of its sketch. -/
theorem value?_of_read? (h : Json.read? text = some value) :
    (Json.sketch text).1.value? Json.depthLimit = some value := by
  unfold Json.read? at h
  split at h
  · next found rest hsketch =>
    split at h
    · rw [hsketch]
      exact h
    · cases h
  · cases h

/-- The settings of a file that is JSON throughout are what its value says. -/
theorem get_of_read? {get : Settings α → β} {set : Json → β → β}
    (hsets : (fileBlock : Block (Settings α)).SetsBy name get set)
    (hread : Json.read? text = some value) (h : Settings.ofText text = .ok s) :
    get s = (fileBlock : Block (Settings α)).settleBy name set value (get .default) := by
  obtain ⟨change, hchange, rfl⟩ := exists_of_ofText h
  exact Block.get_of_value? nodup_fileBlock hsets ⟨_, text, rfl⟩ (value?_of_read? hread) hchange _

/-- The keys of a file set by values what their blocks do. -/
theorem setsBy_flowchart {part : LayoutSettings α → β} {set : Json → β → β}
    (h : (flowchartBlock : Block (LayoutSettings α)).SetsBy name part set)
    (hgrid : ∀ s grid, part { s with grid } = part s) :
    (fileBlock : Block (Settings α)).SetsBy "flowchart".toList (fun s => part s.layout)
      ((flowchartBlock : Block (LayoutSettings α)).settleBy name set) :=
  setsBy_of_blockKey nodup_fileBlock (List.mem_of_getElem? (i := 0) rfl) (fun _ _ => rfl)
    nodup_flowchartBlock h (preserves_of_ne_flowchart hgrid)

theorem setsBy_grid {part : GridSettings α → β} {set : Json → β → β}
    (h : (gridBlock : Block (GridSettings α)).SetsBy name part set) :
    (fileBlock : Block (Settings α)).SetsBy "grid".toList (fun s => part s.layout.grid)
      ((gridBlock : Block (GridSettings α)).settleBy name set) :=
  setsBy_of_blockKey nodup_fileBlock (List.mem_of_getElem? (i := 1) rfl) (fun _ _ => rfl)
    nodup_gridBlock h (preserves_of_ne_grid part)

theorem setsBy_normalize :
    (fileBlock : Block (Settings α)).SetsBy "normalize".toList (fun s => s.edgePolicy)
      (tidyBlock.settleBy "boundaryEdgePolicy".toList fun value before =>
        (value.choice? edgePolicyNames).getD before) :=
  setsBy_of_blockKey nodup_fileBlock (List.mem_of_getElem? (i := 2) rfl) (fun _ _ => rfl)
    nodup_tidyBlock setsBy_tidyBlock preserves_of_ne_normalize

end Settings

end Swimlane
