import Mathlib
import Swimlane.Proofs.Settings.Measured
import Swimlane.Proofs.Settings.Values

/-!
# Files and initial settings agree

What a settings file says of nodes and ranks sets them as the same value would in initial settings:
where the file is read, so is the value, and both set every part by the same entry
(`agrees_of_ofText`).  The grid, and what happens to edges, are not touched by it.
-/

namespace Swimlane

open Json (Sketch Items Fields)

/-! ## Values that are read -/

section Blocks

variable {σ : Type} {b : Block σ} {s : Sketch} {room : Nat} {value : Json} {change : σ → σ}

/-- A key that takes a text takes the value of the text. -/
def Key.TakesValues (key : Key σ) : Prop :=
  ∀ s room value change, s.value? room = some value → key.change s = .ok change →
    ∃ change', key.change value.toSketch = .ok change'

/-- Where the items of a list are read, their values are. -/
theorem exists_readItems {listTitle : Text} {keys : List (Key σ)}
    (hkeys : ∀ key ∈ keys, key.TakesValues) {done : Nat} {rest : Text} {items : Items}
    {values : List Json} (h : readItems listTitle done rest keys items = .ok change)
    (hvalues : items.values? room = some values) (rest' : Text) :
    ∃ change', readItems listTitle done rest' keys (Json.itemSketches values) = .ok change' := by
  induction keys generalizing done rest items values change rest' with
  | nil =>
    cases items with
    | closed after =>
      cases hvalues
      exact ⟨id, rfl⟩
    | cut reading passing => cases hvalues
    | item item next => cases h
  | cons key keys ih =>
    rw [List.forall_mem_cons] at hkeys
    cases items with
    | closed after => cases h
    | cut reading passing => cases hvalues
    | item item next =>
      rw [Items.values?] at hvalues
      split at hvalues
      · next own others hown hothers =>
        cases hvalues
        obtain ⟨first, hfirst, h⟩ := ok_of_bind h
        obtain ⟨passed, -, h⟩ := ok_of_bind h
        obtain ⟨later, hlater, -⟩ := ok_of_bind h
        obtain ⟨first', hfirst'⟩ := hkeys.1 item room own first hown hfirst
        obtain ⟨later', hlater'⟩ := ih hkeys.2 hlater hothers []
        refine ⟨later' ∘ first', ?_⟩
        rw [Json.itemSketches, readItems, hfirst', Json.passed_toSketch]
        show (do let others ← readItems listTitle (done + 1) [] keys _; _) = _
        rw [hlater']
        rfl
      · cases hvalues

/-- Fields are read if each known one is taken. -/
theorem Block.exists_changeBy {fields : List (Text × Json)}
    (h : ∀ field ∈ fields, ∀ key, b.key? field.1 = some key →
      ∃ own, key.change field.2.toSketch = .ok own) : ∃ change, b.changeBy fields = .ok change := by
  induction fields with
  | nil => exact ⟨id, rfl⟩
  | cons field rest ih =>
    rw [List.forall_mem_cons] at h
    obtain ⟨name, value⟩ := field
    obtain ⟨others, hothers⟩ := ih h.2
    cases hkey : b.key? name with
    | none => exact ⟨others, (Block.changeBy_of_unknown hkey value rest).trans hothers⟩
    | some key =>
      obtain ⟨own, hown⟩ := h.1 key hkey
      exact ⟨others ∘ own, Block.changeBy_of_known hkey hown hothers⟩

/-- Where a text is read, its value is. -/
theorem Block.exists_read_toSketch (hnames : (b.keys.map Key.name).Nodup)
    (hkeys : ∀ key ∈ b.keys, key.TakesValues) (h : b.read s = .ok change)
    (hvalue : s.value? room = some value) : ∃ change', b.read value.toSketch = .ok change' := by
  have hmakes := Block.makes_of_read hnames h
  cases s with
  | list before items =>
    obtain ⟨values, hvalues, rfl⟩ := Sketch.of_value?_list hvalue
    exact exists_readItems hkeys h hvalues []
  | object before fields =>
    obtain ⟨values, hvalues, rfl⟩ := Sketch.of_value?_object hvalue
    have hdifferent := nodup_foldl_putField values
    have hread := readFields_eq_changeBy b hdifferent fun _ _ => List.not_mem_nil
    rw [Json.ofFields, Json.toSketch, Block.read, hread]
    refine Block.exists_changeBy fun field hfield key hkey => ?_
    -- The value of a name is that of the entry that the text was read with.
    have hvalueFor : b.valueFor? (Json.ofFields values) field.1 = some field.2 :=
      lookup_of_mem hdifferent hfield
    obtain ⟨entry, inner, hlookup, hsame⟩ :=
      hmakes.exists_entry hvalue (by rw [hkey]; rfl) hvalueFor
    obtain ⟨own, hown, -⟩ := hmakes.exists_own (β := Unit) hkey hlookup
    obtain ⟨hmem, -⟩ := Block.mem_of_key? hkey
    exact hkeys key hmem entry inner _ own hsame hown
  | _ => cases h

theorem takesValues_lengthKey {α : Type} [Length α] (name : Text) (set : α → σ → σ) :
    (lengthKey name set).TakesValues := by
  intro s room value change hvalue h
  cases s with
  | null after | number before n after =>
    cases hvalue
    exact ⟨change, h⟩
  | _ => cases h

theorem takesValues_countKey (name : Text) (set : Nat → σ → σ) :
    (countKey name set).TakesValues := by
  intro s room value change hvalue h
  cases s with
  | null after =>
    cases hvalue
    exact ⟨change, h⟩
  | number before n after =>
    cases hvalue
    cases n with
    | whole n =>
      by_cases hn : 0 ≤ n
      · exact ⟨set n.toNat, if_pos hn⟩
      · simp only [countKey, optionalKey, if_neg hn] at h
        cases h
    | _ => cases h
  | _ => cases h

end Blocks

section Settings

variable {α : Type} [Length α]

theorem takesValues_flowchartBlock :
    ∀ key ∈ (flowchartBlock : Block (LayoutSettings α)).keys, key.TakesValues := by
  unfold flowchartBlock
  simp only [List.forall_mem_cons]
  refine ⟨?_, ?_, ?_, ?_, ?_, ?_, ?_, List.forall_mem_nil _⟩
  case refine_3 | refine_7 => exact takesValues_countKey _ _
  all_goals exact takesValues_lengthKey _ _

/-! ## Agreement -/

/-- What the value of a settings file has for a name, by name or in the order of the names. -/
def fileValue? (value : Json) (name : Text) : Option Json :=
  match value with
  | .object fields => fields.lookup name
  | .list items =>
      (["flowchart".toList, "grid".toList, "normalize".toList].zip items).lookup name
  | _ => none

theorem valueFor?_fileBlock (value : Json) (name : Text) :
    (fileBlock : Block (Settings α)).valueFor? value name = fileValue? value name := by
  cases value <;> rfl

/-- Initial settings with what a file says of nodes and ranks. -/
def initialOf (value : Json) : Json :=
  match fileValue? value "flowchart".toList with
  | none => .object []
  | some flowchart => .object [("flowchart".toList, flowchart)]

omit [Length α] in
theorem field?_initialOf (value : Json) :
    (initialOf value).field? "flowchart".toList = fileValue? value "flowchart".toList := by
  unfold initialOf
  cases fileValue? value "flowchart".toList with
  | none => rfl
  | some flowchart =>
    have hself : List.lookup "flowchart".toList [("flowchart".toList, flowchart)] =
      some flowchart := List.lookup_cons_self
    exact hself

variable {β : Type} {name text : Text} {value : Json} {s : Settings α}

/-- What a file that is read has for nodes and ranks is null or can be read as initial settings. -/
theorem null_or_exists_read {flowchart : Json} (hread : Json.read? text = some value)
    (h : Settings.ofText text = .ok s)
    (hentry : fileValue? value "flowchart".toList = some flowchart) :
    flowchart = .null ∨ ∃ change, (flowchartBlock : Block (LayoutSettings α)).read
      flowchart.toSketch = .ok change := by
  obtain ⟨change, hchange, -⟩ := exists_of_ofText h
  have hmakes := Block.makes_of_read nodup_fileBlock hchange
  have hkey : (fileBlock : Block (Settings α)).key? "flowchart".toList =
      some (blockKey "flowchart".toList flowchartBlock _) :=
    Block.key?_name nodup_fileBlock (List.mem_of_getElem? (i := 0) rfl)
  rw [← valueFor?_fileBlock (α := α)] at hentry
  obtain ⟨entry, room, hlookup, hsame⟩ :=
    hmakes.exists_entry (value?_of_read? hread) (by rw [hkey]; rfl) hentry
  obtain ⟨own, hown, -⟩ := hmakes.exists_own (β := Unit) hkey hlookup
  rcases change_blockKey hown with ⟨after, rfl, -⟩ | ⟨inner, hinner, -⟩
  · cases hsame
    exact .inl rfl
  · exact .inr (Block.exists_read_toSketch nodup_flowchartBlock takesValues_flowchartBlock
      hinner hsame)

/-- A part of the settings for nodes and ranks is the same from a file and from initial
settings. -/
theorem part_eq_of_read? {part : LayoutSettings α → β} {set : Sketch → β → β}
    (hsets : (flowchartBlock : Block (LayoutSettings α)).Sets name part set)
    (hset : ∀ s room value, s.value? room = some value → set s = set value.toSketch)
    (hgrid : ∀ s grid, part { s with grid } = part s) (hread : Json.read? text = some value)
    (h : Settings.ofText text = .ok s) :
    part s.layout = part (LayoutSettings.default.withInitial (initialOf value)) := by
  have hfile := get_of_read? (setsBy_flowchart (hsets.by_value hset) hgrid) hread h
  rw [Block.settleBy, valueFor?_fileBlock] at hfile
  cases hentry : fileValue? value "flowchart".toList with
  | none =>
    rw [hentry] at hfile
    rw [initialOf, hentry]
    exact hfile
  | some flowchart =>
    rw [hentry] at hfile
    have hfield := (field?_initialOf value).trans hentry
    rcases null_or_exists_read hread h hentry with rfl | ⟨change, hchange⟩
    · rw [LayoutSettings.withInitial, hfield]
      exact hfile
    · have hinitial := Block.get_of_read nodup_flowchartBlock hsets hchange .default
      rw [Block.settle_toSketch] at hinitial
      rw [withInitial_of_read _ hfield hchange]
      exact hfile.trans hinitial.symm

omit [Length α] in
/-- Settings are known by their parts. -/
theorem LayoutSettings.eq_of_parts {s t : LayoutSettings α}
    (hlengths : ∀ part ∈ flowchartLengths, part.2 s = part.2 t)
    (hpasses : s.orderPasses = t.orderPasses)
    (hchars : s.maxLabelWidthChars = t.maxLabelWidthChars)
    (hfixed : s.fixedSizes = t.fixedSizes) (hgrid : s.grid = t.grid) : s = t := by
  cases s
  cases t
  simp only [flowchartLengths, List.forall_mem_cons, fixedSizes] at *
  simp_all

omit [Length α] in
theorem GridSettings.eq_of_parts {s t : GridSettings α}
    (hlengths : ∀ part ∈ gridLengths, part.2 s = part.2 t) : s = t := by
  cases s
  cases t
  simp only [gridLengths, List.forall_mem_cons] at *
  simp_all

/-- What a file has for nodes and ranks sets these as it would in initial settings, whatever it is,
and neither the grid nor what happens to edges. -/
theorem agrees_of_ofText (hread : Json.read? text = some value)
    (h : Settings.ofText text = .ok s) :
    { s.layout with grid := .default } =
        (LayoutSettings.default : LayoutSettings α).withInitial (initialOf value) ∧
      ∀ {text' : Text} {value' : Json} {s' : Settings α}, Json.read? text' = some value' →
        Settings.ofText text' = .ok s' →
          (∀ name, name ≠ "flowchart".toList → fileValue? value' name = fileValue? value name) →
            s'.layout.grid = s.layout.grid ∧ s'.edgePolicy = s.edgePolicy := by
  constructor
  · obtain ⟨hfixed, hgrid⟩ :=
      fixedSizes_grid_withInitial (LayoutSettings.default : LayoutSettings α) (initialOf value)
    apply LayoutSettings.eq_of_parts
    · intro part hpart
      rw [part_with_grid part hpart]
      exact part_eq_of_read? (sets_of_mem_flowchartLengths part hpart)
        (fun _ _ _ h => (setLength_setCount_eq α h).1) (part_with_grid part hpart) hread h
    · exact part_eq_of_read? sets_counts.1 (fun _ _ _ h => (setLength_setCount_eq α h).2 _)
        (fun _ _ => rfl) hread h
    · exact part_eq_of_read? sets_counts.2 (fun _ _ _ h => (setLength_setCount_eq α h).2 _)
        (fun _ _ => rfl) hread h
    · exact (fixedSizes_of_ofText h).trans hfixed.symm
    · exact hgrid.symm
  · intro text' value' s' hread' h' hentries
    constructor
    · refine GridSettings.eq_of_parts fun part hpart => ?_
      have hsets := setsBy_grid (setsBy_of_mem_gridLengths hpart)
      rw [get_of_read? hsets hread h, get_of_read? hsets hread' h']
      simp only [Block.settleBy, valueFor?_fileBlock, hentries _ (show "grid".toList ≠ _ by decide)]
    · rw [get_of_read? setsBy_normalize hread h, get_of_read? setsBy_normalize hread' h']
      simp only [Block.settleBy, valueFor?_fileBlock,
        hentries _ (show "normalize".toList ≠ _ by decide)]

end Settings

/-- A file for nodes and ranks and for the grid. -/
def spacedText : Text :=
  "\x7b\"flowchart\":\x7b\"nodeSpacing\":7\x7d,\"grid\":\x7b\"rowGap\":5\x7d\x7d".toList

/-- A file for the grid alone. -/
def gridText : Text := "\x7b\"grid\":\x7b\"rowGap\":5\x7d\x7d".toList

/-- What the first file has for nodes and ranks. -/
def spacedFlowchart : Json :=
  .object [("nodeSpacing".toList, .number (.whole 7))]

/-- What both files have for the grid. -/
def fiveGrid : Json := .object [("rowGap".toList, .number (.whole 5))]

theorem agrees_of_spacedText : ∃ s s' : Settings Float32,
    Settings.ofText spacedText = .ok s ∧ Settings.ofText gridText = .ok s' ∧
      s.layout.nodeSpacing = 7 ∧ s'.layout.grid = s.layout.grid := by
  have hread : Json.read? spacedText =
      some (.object [("flowchart".toList, spacedFlowchart), ("grid".toList, fiveGrid)]) := by
    cbv
  have hread' : Json.read? gridText = some (.object [("grid".toList, fiveGrid)]) := by
    cbv
  have hok : (Settings.ofText spacedText : Except SettingsError (Settings Float32)).isOk = true ∧
      (Settings.ofText gridText : Except SettingsError (Settings Float32)).isOk = true := by
    decide +kernel
  cases h : (Settings.ofText spacedText : Except SettingsError (Settings Float32)) with
  | error misfit =>
    rw [h] at hok
    cases hok.1
  | ok s =>
    cases h' : (Settings.ofText gridText : Except SettingsError (Settings Float32)) with
    | error misfit =>
      rw [h'] at hok
      cases hok.2
    | ok s' =>
      obtain ⟨hlayout, hothers⟩ := agrees_of_ofText hread h
      have hspacing := congrArg LayoutSettings.nodeSpacing hlayout
      have hgrid := (hothers hread' h' fun name hname => (lookup_cons_of_ne hname _ _).symm).1
      refine ⟨s, s', rfl, rfl, hspacing.trans ?_, hgrid⟩
      decide +kernel

end Swimlane
