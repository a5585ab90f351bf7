import Swimlane.Proofs.Settings

/-!
# Settings part by part

A text gives values to the keys of a block, by their names or by their places.  A text that is read
gives no key two values, and what it changes is made of the changes of the keys one after another
(`Block.makes_of_read`).  So a part of the settings that one key sets and the others leave is set by
the value of this key alone, whatever else there is in the text (`Block.get_of_read`).
-/

namespace Swimlane

open Json (Sketch Items Fields)

/-! ## Entries -/

/-- The values of items, in order. -/
def Json.Items.sketches : Items → List Sketch
  | .closed _ | .cut _ _ => []
  | .item value next => value :: next.sketches

/-- The values of fields with their names. -/
def Json.Fields.entries : Fields → List (Text × Sketch)
  | .closed _ | .cut _ _ | .bare _ _ => []
  | .field name value next =>
      match name.value with
      | .ok key => (key, value) :: next.entries
      | .error _ => next.entries

section Blocks

variable {σ β : Type} {b : Block σ} {s : Sketch} {name : Text} {change : σ → σ}
  {table : List (Text × Sketch)}

/-- The values that a text gives to names, by name or in the order of the keys. -/
def Block.entries (b : Block σ) : Sketch → List (Text × Sketch)
  | .object _ fields => fields.entries
  | .list _ items => (b.keys.map Key.name).zip items.sketches
  | _ => []

/-- The changes that entries make, each known name at most once. -/
inductive Block.Makes (b : Block σ) : List (Text × Sketch) → (σ → σ) → Prop
  | nil : b.Makes [] id
  | unknown {name : Text} {s : Sketch} {rest : List (Text × Sketch)} {change : σ → σ}
      (hkey : b.key? name = none) (hrest : b.Makes rest change) : b.Makes ((name, s) :: rest) change
  | known {name : Text} {s : Sketch} {rest : List (Text × Sketch)} {key : Key σ}
      {own others : σ → σ} (hkey : b.key? name = some key) (hown : key.change s = .ok own)
      (hlater : name ∉ rest.map Prod.fst) (hrest : b.Makes rest others) :
      b.Makes ((name, s) :: rest) (others ∘ own)

/-- Where no name repeats, the key of a name is the one with the name. -/
theorem Block.key?_name (hnames : (b.keys.map Key.name).Nodup) {key : Key σ} (h : key ∈ b.keys) :
    b.key? key.name = some key := by
  rw [key?, List.find?_eq_some_iff_append]
  obtain ⟨front, back, hkeys⟩ := List.append_of_mem h
  rw [hkeys, List.map_append, List.map_cons, List.nodup_append] at hnames
  refine ⟨decide_eq_true rfl, front, back, hkeys, fun other hother => ?_⟩
  simpa using hnames.2.2 _ (List.mem_map_of_mem hother) _ List.mem_cons_self

/-- The change of the items of a list is made of those of the keys. -/
theorem makes_of_readItems {listTitle : Text} {keys : List (Key σ)}
    (hnames : (keys.map Key.name).Nodup) (hkeys : ∀ key ∈ keys, b.key? key.name = some key)
    {done : Nat} {rest : Text} {items : Items}
    (h : readItems listTitle done rest keys items = .ok change) :
    b.Makes ((keys.map Key.name).zip items.sketches) change := by
  induction keys generalizing done rest items change with
  | nil =>
    cases items <;> simp only [readItems] at h <;> cases h
    exact .nil
  | cons key keys ih =>
    rw [List.map_cons, List.nodup_cons] at hnames
    rw [List.forall_mem_cons] at hkeys
    cases items with
    | closed after => simp only [readItems] at h; cases h
    | cut reading passing => simp only [readItems] at h; cases h
    | item value next =>
      simp only [readItems] at h
      obtain ⟨own, hown, h⟩ := ok_of_bind h
      obtain ⟨passed, -, h⟩ := ok_of_bind h
      obtain ⟨others, hothers, h⟩ := ok_of_bind h
      cases h
      refine .known hkeys.1 hown (fun hmem => hnames.1 ?_) (ih hnames.2 hkeys.2 hothers)
      obtain ⟨entry, hentry, heq⟩ := List.mem_map.1 hmem
      exact heq ▸ (List.of_mem_zip hentry).1

/-- A field that is read has a name, and if this is a known one, then it was not there before. -/
theorem of_readName {seen : List Text} {fieldName : Json.FieldName} {key? : Option (Key σ)}
    (h : b.readName seen fieldName = .ok (name, key?)) :
    fieldName.value = .ok name ∧ b.key? name = key? ∧ (key?.isSome → name ∉ seen) := by
  unfold Block.readName at h
  obtain ⟨text, htext, h⟩ := ok_of_bind h
  have hvalue := ok_of_mapError htext
  split at h
  · next key hkey =>
    split at h
    · cases h
    · next hseen =>
      cases h
      exact ⟨hvalue, hkey, fun _ => by simpa using hseen⟩
  · next hkey =>
    cases h
    exact ⟨hvalue, hkey, fun h => by cases h⟩

/-- The change of the fields of an object is made of those of the keys, and no known name occurs
again. -/
theorem makes_of_readFields : ∀ {fields : Fields} {seen : List Text} {change : σ → σ},
    readFields b seen fields = .ok change → b.Makes fields.entries change ∧
      ∀ name ∈ seen, (b.key? name).isSome → name ∉ fields.entries.map Prod.fst
  | .closed _, _, _, h => by
    simp only [readFields] at h
    cases h
    exact ⟨.nil, fun _ _ _ => List.not_mem_nil⟩
  | .cut _ _, _, _, h => by
    simp only [readFields] at h
    cases h
  | .bare _ _, _, _, h => by
    simp only [readFields] at h
    obtain ⟨_, -, h⟩ := ok_of_bind h
    cases h
  | .field fieldName value next, seen, change, h => by
    simp only [readFields] at h
    obtain ⟨⟨text, key?⟩, hname, h⟩ := ok_of_bind h
    obtain ⟨hvalue, hkey, hfresh⟩ := of_readName hname
    simp only [Fields.entries, hvalue]
    cases key? with
    | none =>
      obtain ⟨passed, -, h⟩ := ok_of_bind h
      obtain ⟨hmakes, hseen⟩ := makes_of_readFields h
      refine ⟨.unknown hkey hmakes, fun name hmem hknown => ?_⟩
      rw [List.map_cons, List.mem_cons, not_or]
      refine ⟨?_, hseen name hmem hknown⟩
      rintro rfl
      rw [hkey] at hknown
      cases hknown
    | some key =>
      obtain ⟨own, hown, h⟩ := ok_of_bind h
      obtain ⟨others, hothers, h⟩ := ok_of_bind h
      cases h
      obtain ⟨hmakes, hseen⟩ := makes_of_readFields hothers
      have hlater := hseen text List.mem_cons_self (by rw [hkey]; rfl)
      refine ⟨.known hkey hown hlater hmakes, fun name hmem hknown => ?_⟩
      rw [List.map_cons, List.mem_cons, not_or]
      refine ⟨?_, hseen name (List.mem_cons_of_mem text hmem) hknown⟩
      rintro rfl
      exact hfresh rfl hmem

/-- A block that is read changes what the entries make. -/
theorem Block.makes_of_read (hnames : (b.keys.map Key.name).Nodup) (h : b.read s = .ok change) :
    b.Makes (b.entries s) change := by
  cases s <;> simp only [Block.read] at h
  case list _ items =>
    exact makes_of_readItems hnames (fun key hkey => Block.key?_name hnames hkey) h
  case object _ fields => exact (makes_of_readFields h).1
  all_goals cases h

/-! ## Entries of values -/

/-- The value that a value gives to a name, by name or in the order of the keys. -/
def Block.valueFor? (b : Block σ) (value : Json) (name : Text) : Option Json :=
  match value with
  | .object fields => fields.lookup name
  | .list items => ((b.keys.map Key.name).zip items).lookup name
  | _ => none

theorem sketches_itemSketches (items : List Json) :
    (Json.itemSketches items).sketches = items.map Json.toSketch := by
  induction items with
  | nil => rfl
  | cons item rest ih => rw [Json.itemSketches, Items.sketches, ih, List.map_cons]

theorem lookup_fieldSketches (fields : List (Text × Json)) (name : Text) :
    (Json.fieldSketches fields).entries.lookup name = (fields.lookup name).map Json.toSketch := by
  induction fields with
  | nil => rfl
  | cons field rest ih =>
    obtain ⟨other, value⟩ := field
    rw [Json.fieldSketches, Fields.entries, List.lookup_cons, List.lookup_cons, ih]
    cases name == other <;> rfl

theorem lookup_zip_map (f : Json → Sketch) (names : List Text) (values : List Json) (name : Text) :
    (names.zip (values.map f)).lookup name = ((names.zip values).lookup name).map f := by
  induction names generalizing values with
  | nil => rfl
  | cons other names ih =>
    cases values with
    | nil => rfl
    | cons value values =>
      rw [List.map_cons, List.zip_cons_cons, List.zip_cons_cons, List.lookup_cons,
        List.lookup_cons, ih]
      cases name == other <;> rfl

/-- What a value seen as a text gives to a name is what the value gives to it. -/
theorem Block.lookup_entries_toSketch (b : Block σ) (value : Json) (name : Text) :
    (b.entries value.toSketch).lookup name = (b.valueFor? value name).map Json.toSketch := by
  cases value with
  | object fields => exact lookup_fieldSketches fields name
  | list items =>
    show (List.zip _ (Json.itemSketches items).sketches).lookup name = _
    rw [sketches_itemSketches]
    exact lookup_zip_map _ _ _ _
  | _ => rfl

/-! ## Parts -/

/-- A part of what a block changes is set by the key of a name, and left by the other keys. -/
structure Block.Sets (b : Block σ) (name : Text) (get : σ → β) (set : Sketch → β → β) : Prop where
  own : ∃ key, b.key? name = some key ∧
    ∀ s change, key.change s = .ok change → ∀ x, get (change x) = set s (get x)
  other : ∀ key ∈ b.keys, key.name ≠ name → ∀ v, key.Preserves (get · = v)

/-- What a name sets a part to, if a text has a value for it. -/
def Block.settle (b : Block σ) (name : Text) (set : Sketch → β → β) (s : Sketch) (before : β) : β :=
  ((b.entries s).lookup name).elim before fun value => set value before

variable {get : σ → β} {set : Sketch → β → β}

/-- Entries of other names leave a part as it is. -/
theorem Block.Makes.get_of_lookup_eq_none (h : b.Makes table change)
    (hother : ∀ key ∈ b.keys, key.name ≠ name → ∀ v, key.Preserves (get · = v))
    (hnone : table.lookup name = none) (x : σ) : get (change x) = get x := by
  induction h generalizing x with
  | nil => rfl
  | @unknown other s rest change hkey hrest ih =>
    rw [List.lookup_cons] at hnone
    split at hnone
    · cases hnone
    · exact ih hnone x
  | @known other s rest key own others hkey hown hlater hrest ih =>
    rw [List.lookup_cons] at hnone
    split at hnone
    · cases hnone
    · next hne =>
      obtain ⟨hmem, rfl⟩ := Block.mem_of_key? hkey
      have hne : key.name ≠ name := fun heq => by simp [heq] at hne
      show get (others (own x)) = get x
      rw [ih hnone, hother key hmem hne _ s own hown x rfl]

/-- The value of a name is taken by its key, and where only this key sets a part, the part is what
it was until then. -/
theorem Block.Makes.exists_own (h : b.Makes table change) {key : Key σ}
    (hkey : b.key? name = some key) (hlookup : table.lookup name = some s) :
    ∃ own, key.change s = .ok own ∧
      ∀ get : σ → β, (∀ other ∈ b.keys, other.name ≠ name → ∀ v, other.Preserves (get · = v)) →
        ∀ x, ∃ y, get y = get x ∧ get (change x) = get (own y) := by
  induction h with
  | nil => cases hlookup
  | @unknown first t rest change hfirst hrest ih =>
    have hne : name ≠ first := by
      rintro rfl
      rw [hkey] at hfirst
      cases hfirst
    rw [lookup_cons_of_ne hne] at hlookup
    exact ih hlookup
  | @known first t rest other own others hfirst hown hlater hrest ih =>
    by_cases hname : name = first
    · -- no entry after this one has its name
      subst hname
      obtain rfl : key = other := Option.some.inj (hkey.symm.trans hfirst)
      rw [List.lookup_cons_self] at hlookup
      cases hlookup
      refine ⟨own, hown, fun get hother x => ⟨x, rfl, ?_⟩⟩
      exact hrest.get_of_lookup_eq_none hother (lookup_eq_none hlater) (own x)
    · rw [lookup_cons_of_ne hname] at hlookup
      obtain ⟨own', hown', hpart⟩ := ih hlookup
      obtain ⟨hmem, rfl⟩ := Block.mem_of_key? hfirst
      refine ⟨own', hown', fun get hother x => ?_⟩
      obtain ⟨y, hy, heq⟩ := hpart get hother (own x)
      exact ⟨y, hy.trans (hother other hmem (Ne.symm hname) _ t own hown x rfl), heq⟩

/-- Entries set a part to what the value of its name says. -/
theorem Block.Makes.get_eq (h : b.Makes table change) (hsets : b.Sets name get set) (x : σ) :
    get (change x) = (table.lookup name).elim (get x) fun value => set value (get x) := by
  cases hlookup : table.lookup name with
  | none => exact h.get_of_lookup_eq_none hsets.other hlookup x
  | some value =>
    obtain ⟨key, hkey, hset⟩ := hsets.own
    obtain ⟨own, hown, hpart⟩ := h.exists_own hkey hlookup
    obtain ⟨y, hy, heq⟩ := hpart get hsets.other x
    rw [heq, hset value own hown, hy]
    rfl

/-- A block that is read sets a part by the value of its name alone. -/
theorem Block.get_of_read (hnames : (b.keys.map Key.name).Nodup) (hsets : b.Sets name get set)
    (h : b.read s = .ok change) (x : σ) : get (change x) = b.settle name set s (get x) :=
  (Block.makes_of_read hnames h).get_eq hsets x

/-- A part that every key leaves a block leaves. -/
theorem Block.get_of_read_of_preserves (get : σ → β)
    (hkeys : ∀ key ∈ b.keys, ∀ v, key.Preserves (get · = v)) (h : b.read s = .ok change) (x : σ) :
    get (change x) = get x :=
  Block.preserves_of_read (P := (get · = get x)) (fun key hkey => hkeys key hkey (get x)) h rfl

end Blocks

/-! ## What sets a part -/

section Parts

variable {σ τ α β : Type} [Length α] {b : Block σ} {name : Text} {get : σ → β}

/-- A length as a value sets it. -/
def setLength (s : Sketch) (before : α) : α := s.length?.getD before

/-- A count as a value sets it, with a limit to it. -/
def setCount (limit : Nat → Nat) (s : Sketch) (before : Nat) : Nat :=
  (s.count?.map limit).getD before

theorem sets_of_lengthKey {get : σ → α} {set : α → σ → σ}
    (hnames : (b.keys.map Key.name).Nodup) (hkey : lengthKey name set ∈ b.keys)
    (hset : ∀ v x, get (set v x) = v)
    (hother : ∀ key ∈ b.keys, key.name ≠ name → ∀ v, key.Preserves (get · = v)) :
    b.Sets name get setLength where
  own := by
    refine ⟨_, Block.key?_name hnames hkey, fun s change h x => ?_⟩
    rcases change_lengthKey h with ⟨hnone, rfl⟩ | ⟨v, hv, rfl⟩
    · rw [setLength, hnone]
      rfl
    · rw [setLength, hv, hset]
      rfl
  other := hother

theorem sets_of_countKey {get : σ → Nat} {limit : Nat → Nat} {set : Nat → σ → σ}
    (hnames : (b.keys.map Key.name).Nodup) (hkey : countKey name set ∈ b.keys)
    (hset : ∀ n x, get (set n x) = limit n)
    (hother : ∀ key ∈ b.keys, key.name ≠ name → ∀ v, key.Preserves (get · = v)) :
    b.Sets name get (setCount limit) where
  own := by
    refine ⟨_, Block.key?_name hnames hkey, fun s change h x => ?_⟩
    rcases change_countKey h with ⟨hnone, rfl⟩ | ⟨n, hn, rfl⟩
    · rw [setCount, hnone]
      rfl
    · rw [setCount, hn, hset]
      rfl
  other := hother

/-- A part that a block sets within another block is set by the value within the value. -/
theorem sets_of_blockKey {inner : Block τ} {lift : (τ → τ) → σ → σ} {part : τ → β} {get : σ → τ}
    {key : Text} {set : Sketch → β → β} (hnames : (b.keys.map Key.name).Nodup)
    (hkey : blockKey name inner lift ∈ b.keys) (hlift : ∀ f x, get (lift f x) = f (get x))
    (hinner : (inner.keys.map Key.name).Nodup) (hsets : inner.Sets key part set)
    (hother : ∀ key ∈ b.keys, key.name ≠ name → ∀ v, key.Preserves fun x => part (get x) = v) :
    b.Sets name (fun x => part (get x)) (inner.settle key set) where
  own := by
    refine ⟨_, Block.key?_name hnames hkey, fun s change h x => ?_⟩
    rcases change_blockKey h with ⟨after, rfl, rfl⟩ | ⟨own, hown, rfl⟩
    · rfl
    · show part (get (lift own x)) = _
      rw [hlift, Block.get_of_read hinner hsets hown]
  other := hother

end Parts

/-! ## The parts of the settings -/

section Settings

variable {α : Type} [Length α]

theorem nodup_flowchartBlock :
    ((flowchartBlock : Block (LayoutSettings α)).keys.map Key.name).Nodup := by
  show List.Nodup ["nodeSpacing".toList, "rankSpacing".toList, "orderPasses".toList,
    "nodePaddingX".toList, "nodePaddingY".toList, "fontSize".toList, "maxLabelWidthChars".toList]
  decide +kernel

theorem nodup_gridBlock : ((gridBlock : Block (GridSettings α)).keys.map Key.name).Nodup := by
  show List.Nodup ["cellPadding".toList, "rowGap".toList, "columnGap".toList,
    "minCellWidth".toList, "minCellHeight".toList, "boundaryPadding".toList, "badgeWidth".toList,
    "badgeHeight".toList, "badgeGap".toList]
  decide +kernel

theorem nodup_tidyBlock : (tidyBlock.keys.map Key.name).Nodup := List.nodup_singleton _

theorem nodup_fileBlock : ((fileBlock : Block (Settings α)).keys.map Key.name).Nodup := by
  show List.Nodup ["flowchart".toList, "grid".toList, "normalize".toList]
  decide +kernel

/-- The lengths of nodes and ranks, with the names of their keys. -/
def flowchartLengths : List (Text × (LayoutSettings α → α)) :=
  [("nodeSpacing".toList, fun s => s.nodeSpacing),
   ("rankSpacing".toList, fun s => s.rankSpacing),
   ("nodePaddingX".toList, fun s => s.nodePaddingX),
   ("nodePaddingY".toList, fun s => s.nodePaddingY),
   ("fontSize".toList, fun s => s.fontSize)]

/-- The lengths of the grid, with the names of their keys. -/
def gridLengths : List (Text × (GridSettings α → α)) :=
  [("cellPadding".toList, fun s => s.cellPadding),
   ("rowGap".toList, fun s => s.rowGap),
   ("columnGap".toList, fun s => s.columnGap),
   ("minCellWidth".toList, fun s => s.minCellWidth),
   ("minCellHeight".toList, fun s => s.minCellHeight),
   ("boundaryPadding".toList, fun s => s.boundaryPadding),
   ("badgeWidth".toList, fun s => s.badgeWidth),
   ("badgeHeight".toList, fun s => s.badgeHeight),
   ("badgeGap".toList, fun s => s.badgeGap)]

/-- Each of the lengths of nodes and ranks has its own key. -/
theorem sets_of_mem_flowchartLengths : ∀ part ∈ (flowchartLengths : List (Text × _)),
    (flowchartBlock : Block (LayoutSettings α)).Sets part.1 part.2 setLength := by
  unfold flowchartLengths
  simp only [List.forall_mem_cons]
  have hkeys := nodup_flowchartBlock (α := α)
  refine ⟨sets_of_lengthKey hkeys (List.mem_of_getElem? (i := 0) rfl) (fun _ _ => rfl) ?_,
    sets_of_lengthKey hkeys (List.mem_of_getElem? (i := 1) rfl) (fun _ _ => rfl) ?_,
    sets_of_lengthKey hkeys (List.mem_of_getElem? (i := 3) rfl) (fun _ _ => rfl) ?_,
    sets_of_lengthKey hkeys (List.mem_of_getElem? (i := 4) rfl) (fun _ _ => rfl) ?_,
    sets_of_lengthKey hkeys (List.mem_of_getElem? (i := 5) rfl) (fun _ _ => rfl) ?_,
    List.forall_mem_nil _⟩
  all_goals
    unfold flowchartBlock
    simp only [List.forall_mem_cons]
    refine ⟨?_, ?_, ?_, ?_, ?_, ?_, ?_, List.forall_mem_nil _⟩
    all_goals
      first
      | exact fun h => absurd rfl h
      | exact fun _ v => Key.preserves_length fun v x _ _ hx => hx
      | exact fun _ v => preserves_countKey fun n x hx => hx

/-- The two counts have keys of their own. -/
theorem sets_counts :
    (flowchartBlock : Block (LayoutSettings α)).Sets "orderPasses".toList (fun s => s.orderPasses)
        (setCount fun n => min n mostOrderPasses) ∧
      (flowchartBlock : Block (LayoutSettings α)).Sets "maxLabelWidthChars".toList
        (fun s => s.maxLabelWidthChars) (setCount id) := by
  have hkeys := nodup_flowchartBlock (α := α)
  refine ⟨sets_of_countKey hkeys (List.mem_of_getElem? (i := 2) rfl) (fun _ _ => rfl) ?_,
    sets_of_countKey hkeys (List.mem_of_getElem? (i := 6) rfl) (fun _ _ => rfl) ?_⟩
  all_goals
    unfold flowchartBlock
    simp only [List.forall_mem_cons]
    refine ⟨?_, ?_, ?_, ?_, ?_, ?_, ?_, List.forall_mem_nil _⟩
    all_goals
      first
      | exact fun h => absurd rfl h
      | exact fun _ v => Key.preserves_length fun v x _ _ hx => hx
      | exact fun _ v => preserves_countKey fun n x hx => hx

/-- Each of the lengths of the grid has its own key. -/
theorem sets_of_mem_gridLengths : ∀ part ∈ (gridLengths : List (Text × _)),
    (gridBlock : Block (GridSettings α)).Sets part.1 part.2 setLength := by
  unfold gridLengths
  simp only [List.forall_mem_cons]
  have hkeys := nodup_gridBlock (α := α)
  refine ⟨sets_of_lengthKey hkeys (List.mem_of_getElem? (i := 0) rfl) (fun _ _ => rfl) ?_,
    sets_of_lengthKey hkeys (List.mem_of_getElem? (i := 1) rfl) (fun _ _ => rfl) ?_,
    sets_of_lengthKey hkeys (List.mem_of_getElem? (i := 2) rfl) (fun _ _ => rfl) ?_,
    sets_of_lengthKey hkeys (List.mem_of_getElem? (i := 3) rfl) (fun _ _ => rfl) ?_,
    sets_of_lengthKey hkeys (List.mem_of_getElem? (i := 4) rfl) (fun _ _ => rfl) ?_,
    sets_of_lengthKey hkeys (List.mem_of_getElem? (i := 5) rfl) (fun _ _ => rfl) ?_,
    sets_of_lengthKey hkeys (List.mem_of_getElem? (i := 6) rfl) (fun _ _ => rfl) ?_,
    sets_of_lengthKey hkeys (List.mem_of_getElem? (i := 7) rfl) (fun _ _ => rfl) ?_,
    sets_of_lengthKey hkeys (List.mem_of_getElem? (i := 8) rfl) (fun _ _ => rfl) ?_,
    List.forall_mem_nil _⟩
  all_goals
    unfold gridBlock
    simp only [List.forall_mem_cons]
    refine ⟨?_, ?_, ?_, ?_, ?_, ?_, ?_, ?_, ?_, List.forall_mem_nil _⟩
    all_goals
      first
      | exact fun h => absurd rfl h
      | exact fun _ v => Key.preserves_length fun v x _ _ hx => hx

/-- The sizes that no key sets: the height of a line and the bounds of the sizes of nodes. -/
def LayoutSettings.fixedSizes (s : LayoutSettings α) : List α :=
  [s.labelLineHeight, s.minNodeWidth, s.maxNodeWidth, s.minNodeHeight]

/-- The keys for nodes and ranks leave the fixed sizes and the grid. -/
theorem preserves_fixedSizes_grid : ∀ key ∈ (flowchartBlock : Block (LayoutSettings α)).keys,
    ∀ v, key.Preserves fun s => (s.fixedSizes, s.grid) = v := by
  unfold flowchartBlock
  simp only [List.forall_mem_cons]
  refine ⟨?_, ?_, ?_, ?_, ?_, ?_, ?_, List.forall_mem_nil _⟩
  case refine_3 | refine_7 => exact fun v => preserves_countKey fun n x hx => hx
  all_goals exact fun v => Key.preserves_length fun v x _ _ hx => hx

/-! ## The parts of a file -/

variable {β : Type} {name : Text} {set : Sketch → β → β} {text : Text} {s : Settings α}

/-- The other keys of a file leave what is set for nodes and ranks. -/
theorem preserves_of_ne_flowchart {part : LayoutSettings α → β}
    (hgrid : ∀ s grid, part { s with grid } = part s) :
    ∀ key ∈ (fileBlock : Block (Settings α)).keys, key.name ≠ "flowchart".toList →
      ∀ v, key.Preserves fun s => part s.layout = v := by
  unfold fileBlock
  simp only [List.forall_mem_cons]
  refine ⟨fun h => absurd rfl h, fun _ v => ?_, fun _ v => ?_, List.forall_mem_nil _⟩
  · refine preserves_blockKey (Q := fun _ => True) (fun _ _ _ _ _ _ _ => trivial) ?_
    exact fun change _ x hx => (hgrid x.layout _).trans hx
  · refine preserves_blockKey (Q := fun _ => True) (fun _ _ _ _ _ _ _ => trivial) ?_
    exact fun change _ x hx => hx

/-- The other keys of a file leave the grid. -/
theorem preserves_of_ne_grid (part : GridSettings α → β) :
    ∀ key ∈ (fileBlock : Block (Settings α)).keys, key.name ≠ "grid".toList →
      ∀ v, key.Preserves fun s => part s.layout.grid = v := by
  unfold fileBlock
  simp only [List.forall_mem_cons]
  refine ⟨fun _ v => ?_, fun h => absurd rfl h, fun _ v => ?_, List.forall_mem_nil _⟩
  · refine preserves_blockKey (Q := fun s => part s.grid = v) (fun key hkey s change h x hx => ?_)
      fun change h x hx => h x.layout hx
    have hsame := congrArg Prod.snd (preserves_fixedSizes_grid key hkey _ s change h x rfl)
    exact (congrArg part hsame).trans hx
  · refine preserves_blockKey (Q := fun _ => True) (fun _ _ _ _ _ _ _ => trivial) ?_
    exact fun change _ x hx => hx

/-- The other keys of a file leave what happens to edges. -/
theorem preserves_of_ne_normalize :
    ∀ key ∈ (fileBlock : Block (Settings α)).keys, key.name ≠ "normalize".toList →
      ∀ v, key.Preserves fun s => s.edgePolicy = v := by
  unfold fileBlock
  simp only [List.forall_mem_cons]
  refine ⟨fun _ v => ?_, fun _ v => ?_, fun h => absurd rfl h, List.forall_mem_nil _⟩
  all_goals
    refine preserves_blockKey (Q := fun _ => True) (fun _ _ _ _ _ _ _ => trivial) ?_
    exact fun change _ x hx => hx

/-- The key of a file for nodes and ranks sets what this block sets, and not the grid. -/
theorem sets_flowchart {part : LayoutSettings α → β}
    (h : (flowchartBlock : Block (LayoutSettings α)).Sets name part set)
    (hgrid : ∀ s grid, part { s with grid } = part s) :
    fileBlock.Sets "flowchart".toList (fun s : Settings α => part s.layout)
      ((flowchartBlock : Block (LayoutSettings α)).settle name set) :=
  sets_of_blockKey nodup_fileBlock (List.mem_of_getElem? (i := 0) rfl) (fun _ _ => rfl)
    nodup_flowchartBlock h (preserves_of_ne_flowchart hgrid)

/-- The key of a file for the grid sets what this block sets. -/
theorem sets_grid {part : GridSettings α → β}
    (h : (gridBlock : Block (GridSettings α)).Sets name part set) :
    fileBlock.Sets "grid".toList (fun s : Settings α => part s.layout.grid)
      ((gridBlock : Block (GridSettings α)).settle name set) :=
  sets_of_blockKey nodup_fileBlock (List.mem_of_getElem? (i := 1) rfl) (fun _ _ => rfl)
    nodup_gridBlock h (preserves_of_ne_grid part)

/-- A part of the settings of a file is set by the value of its name. -/
theorem get_of_ofText {get : Settings α → β} (hsets : fileBlock.Sets name get set)
    (h : Settings.ofText text = .ok s) :
    get s = (fileBlock : Block (Settings α)).settle name set (Json.sketch text).1
      (get .default) := by
  obtain ⟨change, hread, rfl⟩ := exists_of_ofText h
  exact Block.get_of_read nodup_fileBlock hsets hread _

/-- No file sets the fixed sizes. -/
theorem fixedSizes_of_ofText (h : Settings.ofText text = .ok s) :
    s.layout.fixedSizes = (LayoutSettings.default : LayoutSettings α).fixedSizes := by
  obtain ⟨change, hread, rfl⟩ := exists_of_ofText h
  refine Block.get_of_read_of_preserves (fun s : Settings α => s.layout.fixedSizes) ?_ hread _
  unfold fileBlock
  simp only [List.forall_mem_cons]
  refine ⟨fun v => ?_, fun v => ?_, fun v => ?_, List.forall_mem_nil _⟩
  · refine preserves_blockKey (Q := fun s : LayoutSettings α => s.fixedSizes = v)
      (fun key hkey s change h x hx => ?_) fun change h x hx => h x.layout hx
    exact (congrArg Prod.fst (preserves_fixedSizes_grid key hkey _ s change h x rfl)).trans hx
  all_goals
    refine preserves_blockKey (Q := fun _ => True) (fun _ _ _ _ _ _ _ => trivial) ?_
    exact fun change _ x hx => hx

end Settings

end Swimlane
