import Swimlane.Proofs.Settings.Parts

/-!
# Settings stay measured

Whatever a settings file and then any number of initial settings say, every length is finite and at
least zero, the passes are limited, and what no key sets is as it was (`isMeasured_of_ofText`).  A
number that is too great for a length counts for nothing.
-/

namespace Swimlane

open Json (Sketch)

section Measured

variable {α σ : Type} [Length α] {s : LayoutSettings α}

/-- A length that is finite and at least zero. -/
structure IsMeasure (v : α) : Prop where
  finite : Length.isFinite v = true
  nonneg : Length.atMost Length.zero v = true

/-- All lengths are finite and at least zero, the passes are limited, and the sizes that no key sets
are the default ones. -/
structure LayoutSettings.IsMeasured (s : LayoutSettings α) : Prop where
  lengths : ∀ part ∈ flowchartLengths, IsMeasure (part.2 s)
  grid : ∀ part ∈ gridLengths, IsMeasure (part.2 s.grid)
  orderPasses : s.orderPasses ≤ mostOrderPasses
  fixedSizes : s.fixedSizes = (LayoutSettings.default : LayoutSettings α).fixedSizes

/-! ## Parts that are set -/

/-- What every value leaves true of a part, a text does. -/
theorem Block.settle_induction {σ β : Type} {P : β → Prop} {b : Block σ} {name : Text}
    {set : Sketch → β → β} (hset : ∀ value before, P before → P (set value before))
    (value : Sketch) {before : β} (h : P before) : P (b.settle name set value before) := by
  rw [settle]
  cases (b.entries value).lookup name with
  | none => exact h
  | some own => exact hset own before h

theorem IsMeasure.setLength {before : α} (h : IsMeasure before) (value : Sketch) :
    IsMeasure (setLength value before) := by
  rw [Swimlane.setLength]
  cases hvalue : value.length? (α := α) with
  | none => exact h
  | some v => exact ⟨(Sketch.of_length? hvalue).1, (Sketch.of_length? hvalue).2⟩

theorem setCount_le {most before : Nat} (h : before ≤ most) (value : Sketch) :
    setCount (fun n => min n most) value before ≤ most := by
  rw [setCount]
  cases value.count? with
  | none => exact h
  | some n => exact Nat.min_le_right n most

/-! ## Initial settings -/

/-- Initial settings leave the fixed sizes and the grid. -/
theorem fixedSizes_grid_withInitial (s : LayoutSettings α) (initial : Json) :
    (s.withInitial initial).fixedSizes = s.fixedSizes ∧ (s.withInitial initial).grid = s.grid := by
  rcases withInitial_cases s initial with heq | ⟨value, change, -, hread, heq⟩
  · rw [heq]
    exact ⟨rfl, rfl⟩
  · rw [heq]
    exact Prod.mk.inj (Block.get_of_read_of_preserves (fun s => (s.fixedSizes, s.grid))
      preserves_fixedSizes_grid hread s)

/-- Initial settings set a part by the value of its name, or leave it. -/
theorem get_withInitial {β : Type} {name : Text} {get : LayoutSettings α → β}
    {set : Sketch → β → β} (hsets : (flowchartBlock : Block (LayoutSettings α)).Sets name get set)
    (s : LayoutSettings α) (initial : Json) :
    get (s.withInitial initial) = get s ∨ ∃ value,
      initial.field? "flowchart".toList = some value ∧ get (s.withInitial initial) =
        (flowchartBlock : Block (LayoutSettings α)).settle name set value.toSketch (get s) := by
  rcases withInitial_cases s initial with heq | ⟨value, change, hvalue, hread, heq⟩
  · exact .inl (congrArg get heq)
  · exact .inr ⟨value, hvalue,
      (congrArg get heq).trans (Block.get_of_read nodup_flowchartBlock hsets hread s)⟩

/-- What the values leave true of a part, initial settings do. -/
theorem withInitial_induction {β : Type} {P : β → Prop} {name : Text}
    {get : LayoutSettings α → β} {set : Sketch → β → β}
    (hsets : (flowchartBlock : Block (LayoutSettings α)).Sets name get set)
    (hset : ∀ value before, P before → P (set value before)) (initial : Json) (h : P (get s)) :
    P (get (s.withInitial initial)) := by
  rcases get_withInitial hsets s initial with heq | ⟨value, -, heq⟩
  · exact heq ▸ h
  · rw [heq]
    exact Block.settle_induction hset _ h

/-- Initial settings keep settings measured. -/
theorem LayoutSettings.IsMeasured.withInitial (h : s.IsMeasured) (initial : Json) :
    (s.withInitial initial).IsMeasured := by
  obtain ⟨hfixed, hgrid⟩ := fixedSizes_grid_withInitial s initial
  constructor
  case lengths =>
    intro part hpart
    exact withInitial_induction (sets_of_mem_flowchartLengths part hpart)
      (fun value _ hbefore => hbefore.setLength value) initial (h.lengths part hpart)
  case grid =>
    rw [hgrid]
    exact h.grid
  case orderPasses =>
    exact withInitial_induction (P := (· ≤ mostOrderPasses)) sets_counts.1
      (fun value _ hbefore => setCount_le hbefore value) initial h.orderPasses
  case fixedSizes => exact hfixed.trans h.fixedSizes

/-! ## Files -/

omit [Length α] in
/-- The lengths of nodes and ranks are no part of the grid. -/
theorem part_with_grid : ∀ part ∈ (flowchartLengths : List (Text × (LayoutSettings α → α))),
    ∀ s grid, part.2 { s with grid } = part.2 s := by
  intro part hpart s grid
  simp only [flowchartLengths, List.mem_cons, List.not_mem_nil, or_false] at hpart
  rcases hpart with rfl | rfl | rfl | rfl | rfl <;> rfl

/-- What the values leave true of a part of the default settings, files do. -/
theorem ofText_induction {β : Type} {P : β → Prop} {outer name : Text} {text : Text}
    {s : Settings α} {get : Settings α → β} {inner : Block σ} {set : Sketch → β → β}
    (hsets : fileBlock.Sets outer get (inner.settle name set))
    (hset : ∀ value before, P before → P (set value before)) (h : Settings.ofText text = .ok s)
    (hdefault : P (get .default)) : P (get s) := by
  rw [get_of_ofText hsets h]
  exact Block.settle_induction (P := P)
    (fun value _ hbefore => Block.settle_induction hset value hbefore) _ hdefault

/-- The settings of a file are measured if the default ones are. -/
theorem isMeasured_layout_of_ofText {text : Text} {s : Settings α}
    (hdefault : (LayoutSettings.default : LayoutSettings α).IsMeasured)
    (h : Settings.ofText text = .ok s) : s.layout.IsMeasured := by
  constructor
  case lengths =>
    intro part hpart
    have hsets := sets_flowchart (sets_of_mem_flowchartLengths part hpart)
      (part_with_grid part hpart)
    exact ofText_induction hsets (fun value _ hbefore => hbefore.setLength value) h
      (hdefault.lengths part hpart)
  case grid =>
    intro part hpart
    exact ofText_induction (sets_grid (sets_of_mem_gridLengths part hpart))
      (fun value _ hbefore => hbefore.setLength value) h (hdefault.grid part hpart)
  case orderPasses =>
    exact ofText_induction (P := (· ≤ mostOrderPasses))
      (sets_flowchart sets_counts.1 fun _ _ => rfl)
      (fun value _ hbefore => setCount_le hbefore value) h hdefault.orderPasses
  case fixedSizes => exact fixedSizes_of_ofText h

/-- Settings stay measured from a file on, whatever initial settings come after it. -/
theorem isMeasured_foldl (h : s.IsMeasured) (inits : List Json) :
    (inits.foldl LayoutSettings.withInitial s).IsMeasured := by
  induction inits generalizing s with
  | nil => exact h
  | cons initial rest ih => exact ih (h.withInitial initial)

end Measured

/-! ## Single precision -/

/-- A number in single precision, infinite if it is too great. -/
def Json.Number.toSingle : Number → Float32
  | .whole k => singleOfInt k
  | .double x => singleOfDouble x
  | .single x => x

/-- A number that is too great sets no length. -/
theorem setLength_of_not_isFinite {before after : Text} {n : Json.Number}
    (h : n.toSingle.isFinite = false) (old : Float32) :
    setLength (.number before n after) old = old := by
  have hfilter : ∀ v : Float32, v.isFinite = false →
      (some v).filter (fun v => Length.isFinite v && Length.atMost Length.zero v) = none := by
    intro v hv
    have hinfinite : Length.isFinite v = false := hv
    simp [Option.filter, hinfinite]
  have hnone : (Sketch.number before n after).length? (α := Float32) = none := by
    cases n with
    | whole k => exact hfilter _ h
    | double x => exact hfilter _ h
    | single x => rfl
  rw [setLength, hnone]
  rfl

/-- Is a value a number that is too great? -/
def Json.Sketch.isTooGreat : Sketch → Bool
  | .number _ n _ => !n.toSingle.isFinite
  | _ => false

/-- Does a text give a number to a name that is too great? -/
def Block.overflows {σ : Type} (b : Block σ) (name : Text) (value : Sketch) : Bool :=
  ((b.entries value).lookup name).any Sketch.isTooGreat

theorem Block.settle_of_overflows {σ : Type} {b : Block σ} {name : Text} {value : Sketch}
    (h : b.overflows name value = true) (old : Float32) :
    b.settle name setLength value old = old := by
  obtain ⟨own, hlookup, hgreat⟩ := (Option.any_eq_true _ _).1 h
  rw [settle, hlookup]
  cases own with
  | number before n after =>
    have hn : n.toSingle.isFinite = false := by simpa [Sketch.isTooGreat] using hgreat
    exact setLength_of_not_isFinite hn old
  | _ => cases hgreat

/-- Does a file give a number that is too great to a name within the block of another name? -/
def fileOverflows {σ : Type} (outer : Text) (b : Block σ) (name text : Text) : Bool :=
  (((fileBlock : Block (Settings Float32)).entries (Json.sketch text).1).lookup outer).any
    (b.overflows name)

/-- Do initial settings give a number that is too great to a name? -/
def initialOverflows (name : Text) (initial : Json) : Bool :=
  (initial.field? "flowchart".toList).any fun value =>
    (flowchartBlock : Block (LayoutSettings Float32)).overflows name value.toSketch

theorem get_of_fileOverflows {σ : Type} {outer name text : Text} {s : Settings Float32}
    {get : Settings Float32 → Float32} {b : Block σ}
    (hsets : fileBlock.Sets outer get (b.settle name setLength))
    (h : Settings.ofText text = .ok s) (hoverflows : fileOverflows outer b name text = true) :
    get s = get .default := by
  obtain ⟨value, hvalue, hvalue'⟩ := (Option.any_eq_true _ _).1 hoverflows
  have hget := get_of_ofText hsets h
  rw [Block.settle, hvalue] at hget
  exact hget.trans (Block.settle_of_overflows hvalue' _)

theorem get_of_initialOverflows {name : Text} {initial : Json}
    {get : LayoutSettings Float32 → Float32}
    (hsets : (flowchartBlock : Block (LayoutSettings Float32)).Sets name get setLength)
    (s : LayoutSettings Float32) (hoverflows : initialOverflows name initial = true) :
    get (s.withInitial initial) = get s := by
  obtain ⟨value, hvalue, hvalue'⟩ := (Option.any_eq_true _ _).1 hoverflows
  rcases get_withInitial hsets s initial with heq | ⟨found, hfound, heq⟩
  · exact heq
  · obtain rfl := Option.some.inj (hvalue.symm.trans hfound)
    exact heq.trans (Block.settle_of_overflows hvalue' _)

theorem isMeasured_default : (LayoutSettings.default : LayoutSettings Float32).IsMeasured := by
  constructor
  case lengths =>
    have hlengths : ∀ part ∈ flowchartLengths, Length.isFinite
        (part.2 (LayoutSettings.default : LayoutSettings Float32)) = true ∧
        Length.atMost Length.zero (part.2 LayoutSettings.default) = true := by
      decide +kernel
    exact fun part hpart => ⟨(hlengths part hpart).1, (hlengths part hpart).2⟩
  case grid =>
    have hgrid : ∀ part ∈ gridLengths, Length.isFinite
        (part.2 (GridSettings.default : GridSettings Float32)) = true ∧
        Length.atMost Length.zero (part.2 GridSettings.default) = true := by
      decide +kernel
    exact fun part hpart => ⟨(hgrid part hpart).1, (hgrid part hpart).2⟩
  case orderPasses => decide
  case fixedSizes => rfl

theorem IsMeasure.single {v : Float32} (h : IsMeasure v) : v.isFinite = true ∧ 0 ≤ v :=
  ⟨h.finite, of_decide_eq_true h.nonneg⟩

/-- From a settings file on, and whatever initial settings come after it, all lengths stay finite
and at least zero, the passes at most thirty-two and the sizes that no key sets the default ones.
A number that is too great for a length leaves it as it was, in a file and in initial settings. -/
theorem isMeasured_of_ofText {text : Text} {s : Settings Float32}
    (h : Settings.ofText text = .ok s) :
    (∀ inits : List Json,
      let final := inits.foldl LayoutSettings.withInitial s.layout
      (∀ part ∈ flowchartLengths, (part.2 final).isFinite = true ∧ 0 ≤ part.2 final) ∧
        (∀ part ∈ gridLengths, (part.2 final.grid).isFinite = true ∧ 0 ≤ part.2 final.grid) ∧
        final.orderPasses ≤ 32 ∧
        final.fixedSizes = (LayoutSettings.default : LayoutSettings Float32).fixedSizes) ∧
      (∀ part ∈ flowchartLengths,
        fileOverflows "flowchart".toList (flowchartBlock : Block (LayoutSettings Float32)) part.1
            text = true →
          part.2 s.layout = part.2 LayoutSettings.default) ∧
      (∀ part ∈ gridLengths,
        fileOverflows "grid".toList (gridBlock : Block (GridSettings Float32)) part.1 text = true →
          part.2 s.layout.grid = part.2 GridSettings.default) ∧
      ∀ (t : LayoutSettings Float32) (initial : Json), ∀ part ∈ flowchartLengths,
        initialOverflows part.1 initial = true → part.2 (t.withInitial initial) = part.2 t := by
  refine ⟨fun inits => ?_, ?_, ?_, ?_⟩
  · have hfile := isMeasured_layout_of_ofText isMeasured_default h
    have hfinal := isMeasured_foldl hfile inits
    exact ⟨fun part hpart => (hfinal.lengths part hpart).single,
      fun part hpart => (hfinal.grid part hpart).single, hfinal.orderPasses, hfinal.fixedSizes⟩
  · intro part hpart hoverflows
    have hsets := sets_flowchart (sets_of_mem_flowchartLengths part hpart)
      (part_with_grid part hpart)
    exact get_of_fileOverflows hsets h hoverflows
  · intro part hpart hoverflows
    exact get_of_fileOverflows (sets_grid (sets_of_mem_gridLengths part hpart)) h hoverflows
  · intro t initial part hpart hoverflows
    exact get_of_initialOverflows (sets_of_mem_flowchartLengths part hpart) t hoverflows

/-- A file with numbers that are too great for lengths. -/
def greatText : Text :=
  "\x7b\"flowchart\":\x7b\"nodeSpacing\":1e39\x7d,\"grid\":\x7b\"cellPadding\":4e38\x7d\x7d".toList

/-- Initial settings with such a number. -/
def greatInitial : Json :=
  .object [("flowchart".toList, .object [("nodeSpacing".toList, .number (.double 1e39)),
    ("rankSpacing".toList, .number (.whole 8))])]

theorem isMeasured_of_greatText : ∃ s : Settings Float32, Settings.ofText greatText = .ok s ∧
    s.layout.nodeSpacing = (LayoutSettings.default : LayoutSettings Float32).nodeSpacing ∧
    s.layout.grid.cellPadding = (GridSettings.default : GridSettings Float32).cellPadding ∧
    (s.layout.withInitial greatInitial).nodeSpacing = s.layout.nodeSpacing ∧
    ([greatInitial].foldl LayoutSettings.withInitial s.layout).orderPasses ≤ 32 := by
  have hok : (Settings.ofText greatText : Except SettingsError (Settings Float32)).isOk = true := by
    decide +kernel
  cases h : (Settings.ofText greatText : Except SettingsError (Settings Float32)) with
  | error misfit =>
    rw [h] at hok
    cases hok
  | ok s =>
    obtain ⟨hinits, hlengths, hgrid, hinitial⟩ := isMeasured_of_ofText h
    refine ⟨s, rfl, ?_, ?_, ?_, (hinits [greatInitial]).2.2.1⟩
    · exact hlengths ("nodeSpacing".toList, fun s => s.nodeSpacing) List.mem_cons_self
        (by decide +kernel)
    · exact hgrid ("cellPadding".toList, fun s => s.cellPadding) List.mem_cons_self
        (by decide +kernel)
    · have hstays := hinitial s.layout greatInitial ("nodeSpacing".toList, fun s => s.nodeSpacing)
        List.mem_cons_self (by decide +kernel)
      simpa only using hstays

end Swimlane
