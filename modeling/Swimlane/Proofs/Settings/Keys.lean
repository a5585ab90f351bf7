import Swimlane.Proofs.Lookup
import Swimlane.Proofs.Reading
import Swimlane.Settings.Reading

/-!
# Initial settings key by key

The object with the initial settings of a flowchart is read as a block: its fields are taken one
after another, and the first whose value its key cannot take makes all of them void.  Where every
known key has a value that it can take, each setting is what its own key says, as far as that is a
value that counts, and nothing else matters (`withInitial_of_object`).

Of what a key changes, all that is proved elsewhere comes from one lemma for each kind of key
(`change_lengthKey`, `change_countKey`, `change_blockKey`).
-/

namespace Swimlane

open Json (Sketch)

/-! ## Values seen as texts -/

namespace Json

mutual

/-- A value can be passed over. -/
theorem passed_toSketch : ∀ value : Json, value.toSketch.passed = .ok []
  | .null | .bool _ | .number _ | .text _ => rfl
  | .list items => passed_itemSketches items
  | .object fields => passed_fieldSketches fields

theorem passed_itemSketches : ∀ items : List Json, (itemSketches items).passed = .ok []
  | [] => rfl
  | item :: rest => by
    rw [itemSketches, Items.passed, passed_toSketch item]
    exact passed_itemSketches rest

theorem passed_fieldSketches : ∀ fields : List (Text × Json),
    (fieldSketches fields).passed = .ok []
  | [] => rfl
  | (_, value) :: rest => by
    rw [fieldSketches, Fields.passed, passed_toSketch value]
    exact passed_fieldSketches rest

end

/-! ## Values that fit -/

/-- A length may be any number, or null. -/
inductive FitsLength : Json → Prop
  | null : FitsLength .null
  | number (n : Number) : FitsLength (.number n)

/-- A count may be a whole number from zero, or null. -/
inductive FitsCount : Json → Prop
  | null : FitsCount .null
  | whole {n : Int} (h : 0 ≤ n) : FitsCount (.number (.whole n))

instance (value : Json) : Decidable value.FitsLength :=
  match value with
  | .null => isTrue .null
  | .number n => isTrue (.number n)
  | .bool _ | .text _ | .list _ | .object _ => isFalse nofun

instance (value : Json) : Decidable value.FitsCount :=
  match value with
  | .null => isTrue .null
  | .number (.whole n) =>
      if h : 0 ≤ n then isTrue (.whole h) else isFalse fun hfits => by cases hfits; contradiction
  | .number (.double _) | .number (.single _) | .bool _ | .text _ | .list _ | .object _ =>
      isFalse nofun

/-- The length that a value is, if that is finite and at least zero. -/
def length? {α : Type} [Length α] (value : Json) : Option α :=
  let read : Option α :=
    match value with
    | .number (.whole k) => some (Length.ofInt k)
    | .number (.double x) => some (Length.ofDouble x)
    | _ => none
  read.filter fun v => Length.isFinite v && Length.atMost Length.zero v

/-- The count that a value is. -/
def count? : Json → Option Nat
  | .number (.whole n) => if 0 ≤ n then some n.toNat else none
  | _ => none

end Json

/-! ## Blocks -/

section Blocks

variable {σ : Type}

/-- What the fields of an object change as a block, one after another. -/
def Block.changeBy (b : Block σ) : List (Text × Json) → Except Misfit (σ → σ)
  | [] => .ok id
  | (name, value) :: rest =>
      match b.key? name with
      | none => b.changeBy rest
      | some key => do
          let change ← key.change value.toSketch
          let others ← b.changeBy rest
          return others ∘ change

theorem Block.changeBy_of_unknown {b : Block σ} {name : Text} (h : b.key? name = none)
    (value : Json) (rest : List (Text × Json)) :
    b.changeBy ((name, value) :: rest) = b.changeBy rest := by
  rw [changeBy, h]

theorem Block.changeBy_of_known {b : Block σ} {name : Text} {key : Key σ} {value : Json}
    {rest : List (Text × Json)} {own others : σ → σ} (h : b.key? name = some key)
    (hown : key.change value.toSketch = .ok own) (hothers : b.changeBy rest = .ok others) :
    b.changeBy ((name, value) :: rest) = .ok (others ∘ own) := by
  rw [changeBy, h]
  show (do let change ← key.change value.toSketch; _) = _
  rw [hown, hothers]
  rfl

/-- A name that was not there before names its key. -/
theorem Block.readName_of_not_mem (b : Block σ) {seen : List Text} {name : Text}
    (h : name ∉ seen) : b.readName seen ⟨.ok name, []⟩ = .ok (name, b.key? name) := by
  rw [readName]
  show Except.bind (.ok name) _ = _
  rw [Except.bind]
  cases b.key? name with
  | none => rfl
  | some key => exact if_neg (by simpa using h)

/-- An object is read field by field if each name is there once. -/
theorem readFields_eq_changeBy (b : Block σ) {fields : List (Text × Json)}
    (hnames : (fields.map Prod.fst).Nodup) {seen : List Text}
    (hseen : ∀ name ∈ fields.map Prod.fst, name ∉ seen) :
    readFields b seen (Json.fieldSketches fields) = b.changeBy fields := by
  induction fields generalizing seen with
  | nil => rfl
  | cons field rest ih =>
    obtain ⟨name, value⟩ := field
    rw [List.map_cons, List.nodup_cons] at hnames
    rw [List.map_cons, List.forall_mem_cons] at hseen
    rw [Json.fieldSketches, readFields, Block.changeBy, b.readName_of_not_mem hseen.1]
    cases b.key? name with
    | none =>
      show (do let _ ← value.toSketch.passed.mapError Misfit.ofBreak; _) = _
      rw [Json.passed_toSketch]
      exact ih hnames.2 hseen.2
    | some key =>
      have hlater : ∀ other ∈ rest.map Prod.fst, other ∉ name :: seen := by
        intro other hother hmem
        rcases List.mem_cons.1 hmem with rfl | hmem
        · exact hnames.1 hother
        · exact hseen.2 other hother hmem
      show (do let change ← key.change value.toSketch; _) = _
      rw [ih hnames.2 hlater]

/-- A key takes the values that fit, each of which makes a change of its own, and no others. -/
structure Key.Takes (k : Key σ) (Fits : Json → Prop) (set : Json → σ → σ) : Prop where
  change_eq : ∀ {value}, Fits value → k.change value.toSketch = .ok (set value)
  exists_misfit : ∀ {value}, ¬Fits value → ∃ misfit, k.change value.toSketch = .error misfit

theorem Key.Takes.congr {k : Key σ} {Fits Fits' : Json → Prop} {set set' : Json → σ → σ}
    (h : k.Takes Fits set) (hfits : ∀ value, Fits value ↔ Fits' value)
    (hset : ∀ value x, set value x = set' value x) : k.Takes Fits' set' where
  change_eq hvalue := (h.change_eq ((hfits _).2 hvalue)).trans (congrArg _ (funext (hset _)))
  exists_misfit hvalue := h.exists_misfit fun h => hvalue ((hfits _).1 h)

theorem takes_lengthKey {α : Type} [Length α] (name : Text) (set : α → σ → σ) :
    (lengthKey name set).Takes Json.FitsLength fun value x =>
      value.length?.elim x fun v => set v x where
  change_eq := by
    intro value hfits
    cases hfits with
    | null => rfl
    | number n =>
      cases n
      all_goals
        simp only [lengthKey, optionalKey, Json.toSketch, Json.length?]
        split
        · next hvalue => rw [hvalue]; rfl
        · next hvalue => rw [hvalue]; rfl
  exists_misfit := by
    intro value hfits
    cases value
    case null => exact absurd .null hfits
    case number n => exact absurd (.number n) hfits
    all_goals exact ⟨_, rfl⟩

theorem takes_countKey (name : Text) (set : Nat → σ → σ) :
    (countKey name set).Takes Json.FitsCount fun value x =>
      value.count?.elim x fun n => set n x where
  change_eq := by
    intro value hfits
    cases hfits with
    | null => rfl
    | whole h =>
      have hcount : (Json.number (.whole _)).count? = some _ := if_pos h
      simp only [hcount]
      exact if_pos h
  exists_misfit := by
    intro value hfits
    cases value
    case null => exact absurd .null hfits
    case number n =>
      cases n
      case whole n => exact ⟨_, if_neg fun h => hfits (.whole h)⟩
      all_goals exact ⟨_, rfl⟩
    all_goals exact ⟨_, rfl⟩

end Blocks

/-! ## What a key changes -/

section Keys

variable {σ τ β : Type} {name : Text} {s : Sketch} {change : σ → σ}

/-- The length that a value is, if that is finite and at least zero. -/
def Json.Sketch.length? {α : Type} [Length α] : Sketch → Option α
  | .number _ n _ => (Json.number n).length?
  | _ => none

/-- The count that a value is. -/
def Json.Sketch.count? : Sketch → Option Nat
  | .number _ n _ => (Json.number n).count?
  | _ => none

/-- A length that a value is has been checked. -/
theorem Json.Sketch.of_length? {α : Type} [Length α] {v : α} (h : s.length? = some v) :
    Length.isFinite v = true ∧ Length.atMost Length.zero v = true := by
  cases s with
  | number before n after => exact Bool.and_eq_true_iff.1 (Option.filter_eq_some_iff.1 h).2
  | _ => cases h

theorem change_lengthKey {α : Type} [Length α] {set : α → σ → σ}
    (h : (lengthKey name set).change s = .ok change) :
    (s.length? (α := α) = none ∧ change = id) ∨ ∃ v, s.length? = some v ∧ change = set v := by
  cases s with
  | null after =>
    cases h
    exact .inl ⟨rfl, rfl⟩
  | number before n after =>
    simp only [lengthKey, optionalKey] at h
    simp only [Json.Sketch.length?, Json.length?]
    cases n
    all_goals
      simp only at h
      split at h
      · next v hv =>
        cases h
        exact .inr ⟨v, hv, rfl⟩
      · next hv =>
        cases h
        exact .inl ⟨hv, rfl⟩
  | _ => cases h

theorem change_countKey {set : Nat → σ → σ} (h : (countKey name set).change s = .ok change) :
    (s.count? = none ∧ change = id) ∨ ∃ n, s.count? = some n ∧ change = set n := by
  cases s with
  | null after =>
    cases h
    exact .inl ⟨rfl, rfl⟩
  | number before n after =>
    cases n with
    | whole n =>
      simp only [countKey, optionalKey] at h
      split at h
      · next hn =>
        cases h
        exact .inr ⟨n.toNat, if_pos hn, rfl⟩
      · cases h
    | _ => cases h
  | _ => cases h

theorem change_blockKey {b : Block τ} {lift : (τ → τ) → σ → σ}
    (h : (blockKey name b lift).change s = .ok change) :
    (∃ after, s = .null after ∧ change = id) ∨
      ∃ inner, b.read s = .ok inner ∧ change = lift inner := by
  cases s with
  | null after =>
    cases h
    exact .inl ⟨after, rfl, rfl⟩
  | list before items | object before fields =>
    obtain ⟨inner, hinner, rfl⟩ := ok_of_map h
    exact .inr ⟨inner, hinner, rfl⟩
  | _ => cases h

end Keys

/-! ## Settings key by key -/

section Settings

variable {α β : Type}

/-- What a setting is after the fields of an object: what the value of its key says, or else what
it was. -/
def settingOf (read : Json → Option β) (fields : List (Text × Json)) (name : Text) (before : β) :
    β :=
  ((fields.lookup name).bind read).getD before

/-- Fields of other names do not matter to a setting. -/
theorem settingOf_append {read : Json → Option β} {front back : List (Text × Json)} {name : Text}
    (h : front.lookup name = none ∨ back.lookup name = none) (before : β) :
    settingOf read back name (settingOf read front name before) =
      settingOf read (front ++ back) name before := by
  rw [settingOf, settingOf, settingOf, List.lookup_append]
  rcases h with h | h <;> simp [h]

theorem settingOf_of_lookup_eq_none {read : Json → Option β} {fields : List (Text × Json)}
    {name : Text} (h : fields.lookup name = none) (before : β) :
    settingOf read fields name before = before := by
  rw [settingOf, h]
  rfl

/-- The names of the keys for lengths. -/
def lengthNames : List Text :=
  ["nodeSpacing".toList, "rankSpacing".toList, "nodePaddingX".toList, "nodePaddingY".toList,
    "fontSize".toList]

/-- The names of the keys for counts. -/
def countNames : List Text := ["orderPasses".toList, "maxLabelWidthChars".toList]

/-- A field fits the key of its name, if that is a known one. -/
structure FitsKey (name : Text) (value : Json) : Prop where
  length : name ∈ lengthNames → value.FitsLength
  count : name ∈ countNames → value.FitsCount

variable [Length α]

/-- The settings with each that has a key changed by the value of that key alone. -/
def LayoutSettings.setByKeys (s : LayoutSettings α) (fields : List (Text × Json)) :
    LayoutSettings α :=
  { s with
    nodeSpacing := settingOf Json.length? fields "nodeSpacing".toList s.nodeSpacing
    rankSpacing := settingOf Json.length? fields "rankSpacing".toList s.rankSpacing
    nodePaddingX := settingOf Json.length? fields "nodePaddingX".toList s.nodePaddingX
    nodePaddingY := settingOf Json.length? fields "nodePaddingY".toList s.nodePaddingY
    fontSize := settingOf Json.length? fields "fontSize".toList s.fontSize
    orderPasses := settingOf (fun value => value.count?.map (min · 32)) fields
      "orderPasses".toList s.orderPasses
    maxLabelWidthChars := settingOf Json.count? fields "maxLabelWidthChars".toList
      s.maxLabelWidthChars }

/-- Fields of different names are taken together as they are one after another. -/
theorem LayoutSettings.setByKeys_append (s : LayoutSettings α) {front back : List (Text × Json)}
    (h : ∀ name, front.lookup name = none ∨ back.lookup name = none) :
    (s.setByKeys front).setByKeys back = s.setByKeys (front ++ back) := by
  simp only [setByKeys, settingOf_append (h _)]

/-- Fields without known names change nothing. -/
theorem LayoutSettings.setByKeys_eq_self (s : LayoutSettings α) {fields : List (Text × Json)}
    (h : ∀ name ∈ lengthNames ++ countNames, fields.lookup name = none) :
    s.setByKeys fields = s := by
  simp only [lengthNames, countNames, List.cons_append, List.nil_append, List.forall_mem_cons] at h
  simp only [setByKeys, settingOf_of_lookup_eq_none, h]

theorem settingOf_self (read : Json → Option β) (name : Text) (value : Json) (before : β) :
    settingOf read [(name, value)] name before = (read value).getD before := by
  rw [settingOf, List.lookup_cons_self]
  rfl

theorem settingOf_of_ne (read : Json → Option β) {name other : Text} (h : other ≠ name)
    (value : Json) (before : β) : settingOf read [(name, value)] other before = before :=
  settingOf_of_lookup_eq_none (lookup_eq_none (by simpa using h)) before

/-- The key of a name is one of those of the block, with that name. -/
theorem Block.mem_of_key? {σ : Type} {b : Block σ} {name : Text} {key : Key σ}
    (h : b.key? name = some key) : key ∈ b.keys ∧ key.name = name := by
  rw [Block.key?] at h
  exact ⟨List.mem_of_find?_eq_some h, by simpa using List.find?_some h⟩

theorem takes_of_mem_lengthNames {name : Text} (hname : name ∈ lengthNames ∧ name ∉ countNames)
    {set : α → LayoutSettings α → LayoutSettings α}
    (hset : ∀ (value : Json) s,
      s.setByKeys [(name, value)] = value.length?.elim s fun v => set v s) :
    (lengthKey name set).Takes (FitsKey name) fun value s => s.setByKeys [(name, value)] := by
  refine (takes_lengthKey name set).congr (fun value => ⟨fun h => ⟨fun _ => h, ?_⟩, ?_⟩)
    fun value s => (hset value s).symm
  · exact fun hcount => absurd hcount hname.2
  · exact fun h => h.length hname.1

theorem takes_of_mem_countNames {name : Text} (hname : name ∉ lengthNames ∧ name ∈ countNames)
    {set : Nat → LayoutSettings α → LayoutSettings α}
    (hset : ∀ (value : Json) s,
      s.setByKeys [(name, value)] = value.count?.elim s fun n => set n s) :
    (countKey name set).Takes (FitsKey name) fun value s => s.setByKeys [(name, value)] := by
  refine (takes_countKey name set).congr (fun value => ⟨fun h => ⟨?_, fun _ => h⟩, ?_⟩)
    fun value s => (hset value s).symm
  · exact fun hlength => absurd hlength hname.1
  · exact fun h => h.count hname.2

/-- A known key takes the values that fit it, and changes its own setting by them. -/
theorem takes_flowchartBlock : ∀ key ∈ (flowchartBlock : Block (LayoutSettings α)).keys,
    key.Takes (FitsKey key.name) fun value s => s.setByKeys [(key.name, value)] := by
  unfold flowchartBlock
  simp only [List.forall_mem_cons]
  refine ⟨?_, ?_, ?_, ?_, ?_, ?_, ?_, List.forall_mem_nil _⟩
  case refine_3 | refine_7 =>
    refine takes_of_mem_countNames (by decide +kernel) fun value s => ?_
    simp (disch := decide +kernel) only [LayoutSettings.setByKeys, settingOf_self, settingOf_of_ne]
    cases value.count? <;> rfl
  all_goals
    refine takes_of_mem_lengthNames (by decide +kernel) fun value s => ?_
    simp (disch := decide +kernel) only [LayoutSettings.setByKeys, settingOf_self, settingOf_of_ne]
    cases (value.length? : Option α) <;> rfl

/-- A name without a key is no known one. -/
theorem not_mem_of_key?_eq_none {name : Text}
    (h : (flowchartBlock : Block (LayoutSettings α)).key? name = none) :
    name ∉ lengthNames ++ countNames := by
  intro hname
  have hperm : (lengthNames ++ countNames).Perm ["nodeSpacing".toList, "rankSpacing".toList,
      "orderPasses".toList, "nodePaddingX".toList, "nodePaddingY".toList, "fontSize".toList,
      "maxLabelWidthChars".toList] := by
    decide +kernel
  have hnames : name ∈ (flowchartBlock : Block (LayoutSettings α)).keys.map Key.name :=
    hperm.subset hname
  obtain ⟨key, hkey, rfl⟩ := List.mem_map.1 hnames
  exact List.find?_eq_none.1 h key hkey (decide_eq_true rfl)

/-- Fields of different names change the settings one after another as they do together. -/
theorem LayoutSettings.setByKeys_cons (s : LayoutSettings α) {name : Text} {value : Json}
    {rest : List (Text × Json)} (h : name ∉ rest.map Prod.fst) :
    (s.setByKeys [(name, value)]).setByKeys rest = s.setByKeys ((name, value) :: rest) := by
  refine s.setByKeys_append fun other => ?_
  by_cases hother : other = name
  · exact .inr (hother ▸ lookup_eq_none h)
  · exact .inl (lookup_eq_none (by simpa using hother))

/-- Where all fields fit their keys, each setting is changed by its own. -/
theorem exists_changeBy_flowchartBlock {fields : List (Text × Json)}
    (hnames : (fields.map Prod.fst).Nodup) (hfits : ∀ field ∈ fields, FitsKey field.1 field.2) :
    ∃ change, (flowchartBlock : Block (LayoutSettings α)).changeBy fields = .ok change ∧
      ∀ s, change s = s.setByKeys fields := by
  induction fields with
  | nil => exact ⟨id, rfl, fun _ => rfl⟩
  | cons field rest ih =>
    obtain ⟨name, value⟩ := field
    rw [List.map_cons, List.nodup_cons] at hnames
    rw [List.forall_mem_cons] at hfits
    obtain ⟨others, hothers, hset⟩ := ih hnames.2 hfits.2
    cases hkey : (flowchartBlock : Block (LayoutSettings α)).key? name with
    | none =>
      refine ⟨others, (Block.changeBy_of_unknown hkey value rest).trans hothers, fun s => ?_⟩
      have hunknown : s.setByKeys [(name, value)] = s := by
        refine s.setByKeys_eq_self fun other hother => lookup_eq_none fun hmem => ?_
        obtain rfl := List.mem_singleton.1 hmem
        exact not_mem_of_key?_eq_none hkey hother
      rw [hset, ← s.setByKeys_cons hnames.1, hunknown]
    | some key =>
      obtain ⟨hmem, rfl⟩ := Block.mem_of_key? hkey
      have hown := (takes_flowchartBlock key hmem).change_eq hfits.1
      refine ⟨_, Block.changeBy_of_known hkey hown hothers, fun s => ?_⟩
      show others (s.setByKeys [(key.name, value)]) = _
      rw [hset, s.setByKeys_cons hnames.1]

/-- Settings come from fields only if all of these fit their keys. -/
theorem fitsKey_of_changeBy {fields : List (Text × Json)}
    {change : LayoutSettings α → LayoutSettings α}
    (h : (flowchartBlock : Block (LayoutSettings α)).changeBy fields = .ok change) :
    ∀ field ∈ fields, FitsKey field.1 field.2 := by
  induction fields generalizing change with
  | nil => exact List.forall_mem_nil _
  | cons field rest ih =>
    obtain ⟨name, value⟩ := field
    cases hkey : (flowchartBlock : Block (LayoutSettings α)).key? name with
    | none =>
      rw [Block.changeBy_of_unknown hkey] at h
      have hname := not_mem_of_key?_eq_none hkey
      rw [List.mem_append, not_or] at hname
      exact List.forall_mem_cons.2
        ⟨⟨fun hl => absurd hl hname.1, fun hc => absurd hc hname.2⟩, ih h⟩
    | some key =>
      rw [Block.changeBy, hkey] at h
      obtain ⟨own, hown, h⟩ := ok_of_bind h
      obtain ⟨others, hothers, -⟩ := ok_of_bind h
      obtain ⟨hmem, rfl⟩ := Block.mem_of_key? hkey
      refine List.forall_mem_cons.2 ⟨?_, ih hothers⟩
      refine Classical.byContradiction fun hfits => ?_
      obtain ⟨misfit, hmisfit⟩ := (takes_flowchartBlock key hmem).exists_misfit hfits
      rw [hmisfit] at hown
      cases hown

/-- Initial settings whose fields all fit their keys set each setting by its own key alone: to the
value of the key if that counts, and to what it was otherwise.  One field that does not fit its
key makes all of them void. -/
theorem withInitial_of_object (s : LayoutSettings α) {initial : Json} {fields : List (Text × Json)}
    (hinitial : initial.field? "flowchart".toList = some (.object fields))
    (hnames : (fields.map Prod.fst).Nodup) :
    ((∀ field ∈ fields, FitsKey field.1 field.2) →
      s.withInitial initial = s.setByKeys fields) ∧
    ((∃ field ∈ fields, ¬FitsKey field.1 field.2) → s.withInitial initial = s) := by
  have hread : (flowchartBlock : Block (LayoutSettings α)).read (Json.object fields).toSketch =
      flowchartBlock.changeBy fields :=
    readFields_eq_changeBy _ hnames fun _ _ => List.not_mem_nil
  simp only [LayoutSettings.withInitial, hinitial, hread]
  refine ⟨fun hfits => ?_, fun hmisfit => ?_⟩
  · obtain ⟨change, hchange, hset⟩ := exists_changeBy_flowchartBlock (α := α) hnames hfits
    simp only [hchange]
    exact hset s
  · cases hchange : (flowchartBlock : Block (LayoutSettings α)).changeBy fields with
    | error misfit => rfl
    | ok change =>
      obtain ⟨field, hfield, hnot⟩ := hmisfit
      exact absurd (fitsKey_of_changeBy hchange field hfield) hnot

end Settings

/-- Initial settings in which every known key has a value that it takes. -/
def mixedInitial : List (Text × Json) :=
  [("fontSize".toList, .null), ("nodeSpacing".toList, .number (.whole 7)),
    ("orderPasses".toList, .number (.whole 40)), ("rankSpacing".toList, .number (.whole (-1))),
    ("theme".toList, .text "dark".toList)]

theorem withInitial_mixedInitial :
    let initial : Json := .object [("flowchart".toList, .object mixedInitial)]
    let s : LayoutSettings Rat := LayoutSettings.default.withInitial initial
    initial.field? "flowchart".toList = some (.object mixedInitial) ∧
      (mixedInitial.map Prod.fst).Nodup ∧
      s.fontSize = 14 ∧ s.nodeSpacing = 7 ∧ s.orderPasses = 32 ∧ s.rankSpacing = 50 := by
  intro initial s
  have hinitial : initial.field? "flowchart".toList = some (.object mixedInitial) := rfl
  have hnames : (mixedInitial.map Prod.fst).Nodup := by
    decide +kernel
  have hfits : ∀ field ∈ mixedInitial, (field.1 ∈ lengthNames → field.2.FitsLength) ∧
      (field.1 ∈ countNames → field.2.FitsCount) := by
    decide +kernel
  have hs : s = LayoutSettings.default.setByKeys mixedInitial :=
    (withInitial_of_object .default hinitial hnames).1 fun field hfield =>
      ⟨(hfits field hfield).1, (hfits field hfield).2⟩
  refine ⟨hinitial, hnames, ?_⟩
  rw [hs]
  decide +kernel

/-- Initial settings with a number and a word for lengths. -/
def mistypedInitial : List (Text × Json) :=
  [("nodeSpacing".toList, .number (.whole 10)), ("rankSpacing".toList, .text "wide".toList)]

/-- A key with a misfit makes another void. -/
theorem withInitial_mistypedInitial_ne : (mistypedInitial.map Prod.fst).Nodup ∧
    (LayoutSettings.default : LayoutSettings Rat).withInitial
        (.object [("flowchart".toList, .object mistypedInitial)]) ≠
      LayoutSettings.default.setByKeys mistypedInitial := by
  refine ⟨by decide +kernel, fun h => ?_⟩
  have hspacing := congrArg LayoutSettings.nodeSpacing h
  exact absurd hspacing (by decide +kernel)

end Swimlane
