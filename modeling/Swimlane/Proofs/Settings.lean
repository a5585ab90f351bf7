import Swimlane.Proofs.Length
import Swimlane.Proofs.Reading
import Swimlane.Proofs.Settings.Keys
import Swimlane.Settings.Reading

/-!
# Settings that were read are sensible

A key of a block changes the settings by a value that it has checked.  What every key of a
block preserves the block preserves as a whole, whichever of its keys a text sets and in
which order; in this way every length stays at least zero, and the least size of a node,
which no text can set, stays positive.
-/

namespace Swimlane

/-! ## What blocks preserve -/

section Blocks

variable {σ : Type} {P : σ → Prop}

/-- Whatever change a key makes preserves a property. -/
def Key.Preserves (k : Key σ) (P : σ → Prop) : Prop :=
  ∀ sketch change, k.change sketch = .ok change → ∀ x, P x → P (change x)

/-- The change of the items of a list preserves what the keys preserve. -/
theorem preserves_of_readItems {listTitle : Text} {keys : List (Key σ)}
    (hkeys : ∀ k ∈ keys, k.Preserves P) {done : Nat} {rest : Text} :
    ∀ {items : Json.Items} {change : σ → σ}, readItems listTitle done rest keys items = .ok change →
      ∀ x, P x → P (change x) := by
  induction keys generalizing done rest with
  | nil =>
    intro items change h x hx
    cases items <;> simp only [readItems] at h <;> cases h
    exact hx
  | cons key keys ih =>
    intro items change h x hx
    cases items with
    | closed after => simp only [readItems] at h; cases h
    | cut reading passing => simp only [readItems] at h; cases h
    | item value next =>
      simp only [readItems] at h
      obtain ⟨own, hown, h⟩ := ok_of_bind h
      obtain ⟨passed, -, h⟩ := ok_of_bind h
      obtain ⟨others, hothers, h⟩ := ok_of_bind h
      cases h
      exact ih (fun k hk => hkeys k (List.mem_cons_of_mem key hk)) hothers _
        (hkeys key List.mem_cons_self value own hown x hx)

/-- The key that a field names is one of the block. -/
theorem mem_keys_of_readName {b : Block σ} {seen : List Text} {name : Json.FieldName}
    {text : Text} {key : Key σ} (h : b.readName seen name = .ok (text, some key)) :
    key ∈ b.keys := by
  unfold Block.readName at h
  obtain ⟨value, -, h⟩ := ok_of_bind h
  split at h
  · next found hfound =>
    split at h
    · cases h
    · cases h
      exact List.mem_of_find?_eq_some hfound
  · cases h

/-- The change of the fields of an object preserves what the keys preserve. -/
theorem preserves_of_readFields {b : Block σ} (hkeys : ∀ k ∈ b.keys, k.Preserves P) :
    ∀ {fields : Json.Fields} {seen : List Text} {change : σ → σ},
      readFields b seen fields = .ok change → ∀ x, P x → P (change x)
  | .closed _, _, _, h, x, hx => by
    simp only [readFields] at h
    cases h
    exact hx
  | .cut _ _, _, _, h, _, _ => by
    simp only [readFields] at h
    cases h
  | .bare _ _, _, _, h, _, _ => by
    simp only [readFields] at h
    obtain ⟨_, -, h⟩ := ok_of_bind h
    cases h
  | .field name value next, seen, change, h, x, hx => by
    simp only [readFields] at h
    obtain ⟨⟨text, key?⟩, hname, h⟩ := ok_of_bind h
    cases key? with
    | none =>
      obtain ⟨passed, -, h⟩ := ok_of_bind h
      exact preserves_of_readFields hkeys h x hx
    | some key =>
      obtain ⟨own, hown, h⟩ := ok_of_bind h
      obtain ⟨others, hothers, h⟩ := ok_of_bind h
      cases h
      have hkey : key ∈ b.keys := mem_keys_of_readName hname
      exact preserves_of_readFields hkeys hothers _ (hkeys key hkey value own hown x hx)

/-- A block preserves what its keys preserve. -/
theorem Block.preserves_of_read {b : Block σ} (hkeys : ∀ k ∈ b.keys, k.Preserves P)
    {sketch : Json.Sketch} {change : σ → σ} (h : b.read sketch = .ok change) {x : σ} (hx : P x) :
    P (change x) := by
  cases sketch <;> simp only [Block.read] at h
  case list _ items => exact preserves_of_readItems hkeys h x hx
  case object _ fields => exact preserves_of_readFields hkeys h x hx
  all_goals cases h

/-- A key for a length preserves what the lengths preserve that have been checked. -/
theorem Key.preserves_length {α : Type} [Length α] {name : Text} {set : α → σ → σ}
    (h : ∀ v x, Length.isFinite v = true → Length.atMost Length.zero v = true → P x → P (set v x)) :
    (lengthKey name set).Preserves P := by
  intro s change hchange x hx
  rcases change_lengthKey hchange with ⟨-, rfl⟩ | ⟨v, hv, rfl⟩
  · exact hx
  · exact h v x (Json.Sketch.of_length? hv).1 (Json.Sketch.of_length? hv).2 hx

/-- A key for a length sets no length that is less than zero. -/
theorem preserves_lengthKey {name : Text} {set : Rat → σ → σ}
    (h : ∀ v x, 0 ≤ v → P x → P (set v x)) : (lengthKey name set).Preserves P := by
  refine Key.preserves_length fun v x _ hv hx => h v x ?_ hx
  rw [Length.atMost_eq, Length.zero_eq] at hv
  exact of_decide_eq_true hv

theorem preserves_countKey {name : Text} {set : Nat → σ → σ} (h : ∀ n x, P x → P (set n x)) :
    (countKey name set).Preserves P := by
  intro s change hchange x hx
  rcases change_countKey hchange with ⟨-, rfl⟩ | ⟨n, -, rfl⟩
  · exact hx
  · exact h n x hx

/-- A key for a block preserves what the changes do that the block can make. -/
theorem preserves_blockKey {τ : Type} {Q : τ → Prop} {name : Text} {b : Block τ}
    {lift : (τ → τ) → σ → σ} (hkeys : ∀ k ∈ b.keys, k.Preserves Q)
    (h : ∀ change, (∀ y, Q y → Q (change y)) → ∀ x, P x → P (lift change x)) :
    (blockKey name b lift).Preserves P := by
  intro s change hchange x hx
  rcases change_blockKey hchange with ⟨-, -, rfl⟩ | ⟨inner, hinner, rfl⟩
  · exact hx
  · exact h inner (fun y hy => Block.preserves_of_read hkeys hinner hy) x hx

end Blocks

/-! ## Sensible settings -/

/-- No length of the grid is less than zero. -/
structure GridSettings.IsSensible (s : GridSettings Rat) : Prop where
  cellPadding : 0 ≤ s.cellPadding
  rowGap : 0 ≤ s.rowGap
  columnGap : 0 ≤ s.columnGap
  minCellWidth : 0 ≤ s.minCellWidth
  minCellHeight : 0 ≤ s.minCellHeight
  boundaryPadding : 0 ≤ s.boundaryPadding
  badgeWidth : 0 ≤ s.badgeWidth
  badgeHeight : 0 ≤ s.badgeHeight
  badgeGap : 0 ≤ s.badgeGap

/-- No length is less than zero, and every node takes up space. -/
structure LayoutSettings.IsSensible (s : LayoutSettings Rat) : Prop where
  nodeSpacing : 0 ≤ s.nodeSpacing
  rankSpacing : 0 ≤ s.rankSpacing
  nodePaddingX : 0 ≤ s.nodePaddingX
  nodePaddingY : 0 ≤ s.nodePaddingY
  fontSize : 0 ≤ s.fontSize
  labelLineHeight : 0 ≤ s.labelLineHeight
  minNodeWidth : 0 < s.minNodeWidth
  maxNodeWidth : 0 ≤ s.maxNodeWidth
  minNodeHeight : 0 < s.minNodeHeight
  grid : s.grid.IsSensible

theorem GridSettings.isSensible_default : (GridSettings.default : GridSettings Rat).IsSensible := by
  constructor <;> decide +kernel

theorem LayoutSettings.isSensible_default :
    (LayoutSettings.default : LayoutSettings Rat).IsSensible := by
  constructor
  case grid => exact GridSettings.isSensible_default
  all_goals decide +kernel

/-- The keys for the lengths of nodes and ranks keep settings sensible. -/
theorem preserves_flowchartBlock :
    ∀ k ∈ (flowchartBlock : Block (LayoutSettings Rat)).keys,
      k.Preserves LayoutSettings.IsSensible := by
  unfold flowchartBlock
  simp only [List.forall_mem_cons]
  refine ⟨?_, ?_, ?_, ?_, ?_, ?_, ?_, List.forall_mem_nil _⟩
  · exact preserves_lengthKey fun v x hv hx => { hx with nodeSpacing := hv }
  · exact preserves_lengthKey fun v x hv hx => { hx with rankSpacing := hv }
  · exact preserves_countKey fun n x hx => { hx with }
  · exact preserves_lengthKey fun v x hv hx => { hx with nodePaddingX := hv }
  · exact preserves_lengthKey fun v x hv hx => { hx with nodePaddingY := hv }
  · exact preserves_lengthKey fun v x hv hx => { hx with fontSize := hv }
  · exact preserves_countKey fun n x hx => { hx with }

/-- The keys for the lengths of the grid keep them sensible. -/
theorem preserves_gridBlock :
    ∀ k ∈ (gridBlock : Block (GridSettings Rat)).keys, k.Preserves GridSettings.IsSensible := by
  unfold gridBlock
  simp only [List.forall_mem_cons]
  refine ⟨?_, ?_, ?_, ?_, ?_, ?_, ?_, ?_, ?_, List.forall_mem_nil _⟩
  · exact preserves_lengthKey fun v x hv hx => { hx with cellPadding := hv }
  · exact preserves_lengthKey fun v x hv hx => { hx with rowGap := hv }
  · exact preserves_lengthKey fun v x hv hx => { hx with columnGap := hv }
  · exact preserves_lengthKey fun v x hv hx => { hx with minCellWidth := hv }
  · exact preserves_lengthKey fun v x hv hx => { hx with minCellHeight := hv }
  · exact preserves_lengthKey fun v x hv hx => { hx with boundaryPadding := hv }
  · exact preserves_lengthKey fun v x hv hx => { hx with badgeWidth := hv }
  · exact preserves_lengthKey fun v x hv hx => { hx with badgeHeight := hv }
  · exact preserves_lengthKey fun v x hv hx => { hx with badgeGap := hv }

/-- The keys of a settings file keep the settings of the layout sensible. -/
theorem preserves_fileBlock :
    ∀ k ∈ (fileBlock : Block (Settings Rat)).keys,
      k.Preserves fun s => s.layout.IsSensible := by
  unfold fileBlock
  simp only [List.forall_mem_cons]
  refine ⟨?_, ?_, ?_, List.forall_mem_nil _⟩
  · exact preserves_blockKey preserves_flowchartBlock fun change h x hx => h x.layout hx
  · refine preserves_blockKey preserves_gridBlock fun change h x hx => ?_
    exact { hx with grid := h x.layout.grid hx.grid }
  · refine preserves_blockKey (Q := fun _ => True) (fun k _ sketch change _ _ _ => trivial) ?_
    exact fun change _ x hx => hx

/-! ## Settings that were read -/

section Read

variable {α : Type} [Length α]

/-- A file that is read is a block whose change is made to the default settings. -/
theorem exists_of_ofText {text : Text} {s : Settings α} (h : Settings.ofText text = .ok s) :
    ∃ change, fileBlock.read (Json.sketch text).1 = .ok change ∧ s = change .default := by
  unfold Settings.ofText at h
  split at h
  · next change hread =>
    cases h
    obtain ⟨own, hown, hread⟩ := ok_of_bind hread
    obtain ⟨rest, -, hread⟩ := ok_of_bind hread
    split at hread
    · cases hread
      exact ⟨_, hown, rfl⟩
    · cases hread
  · cases h

/-- Initial settings that are read change the settings as their block says. -/
theorem withInitial_of_read (s : LayoutSettings α) {initial flowchart : Json}
    {change : LayoutSettings α → LayoutSettings α}
    (hfield : initial.field? "flowchart".toList = some flowchart)
    (hread : flowchartBlock.read flowchart.toSketch = .ok change) :
    s.withInitial initial = change s := by
  simp only [LayoutSettings.withInitial, hfield, hread]

/-- Initial settings are read as a whole or change nothing. -/
theorem withInitial_cases (s : LayoutSettings α) (initial : Json) :
    s.withInitial initial = s ∨ ∃ value change, initial.field? "flowchart".toList = some value ∧
      flowchartBlock.read value.toSketch = .ok change ∧ s.withInitial initial = change s := by
  unfold LayoutSettings.withInitial
  split
  · exact .inl rfl
  · next value hvalue =>
    split
    · next change hread => exact .inr ⟨value, change, hvalue, hread, rfl⟩
    · exact .inl rfl

end Read

/-- The settings of a file are sensible. -/
theorem isSensible_of_ofText {text : Text} {s : Settings Rat} (h : Settings.ofText text = .ok s) :
    s.layout.IsSensible := by
  obtain ⟨change, hread, rfl⟩ := exists_of_ofText h
  exact Block.preserves_of_read preserves_fileBlock hread LayoutSettings.isSensible_default

/-- Initial settings keep the settings sensible. -/
theorem LayoutSettings.IsSensible.withInitial {s : LayoutSettings Rat} (h : s.IsSensible)
    (initial : Json) : (s.withInitial initial).IsSensible := by
  rcases withInitial_cases s initial with heq | ⟨value, change, -, hread, heq⟩
  · rw [heq]
    exact h
  · rw [heq]
    exact Block.preserves_of_read preserves_flowchartBlock hread h

/-- The settings that the program works with: the default ones, those of a file, and any of
these after the initial settings of a flowchart. -/
inductive LayoutSettings.IsLoaded : LayoutSettings Rat → Prop
  | default : IsLoaded .default
  | ofText {text : Text} {s : Settings Rat} (h : Settings.ofText text = .ok s) : IsLoaded s.layout
  | withInitial {s : LayoutSettings Rat} (h : IsLoaded s) (initial : Json) :
      IsLoaded (s.withInitial initial)

/-- All settings that the program works with are sensible. -/
theorem LayoutSettings.IsLoaded.isSensible {s : LayoutSettings Rat} (h : s.IsLoaded) :
    s.IsSensible := by
  induction h with
  | default => exact isSensible_default
  | ofText h => exact isSensible_of_ofText h
  | withInitial _ initial ih => exact ih.withInitial initial

end Swimlane
