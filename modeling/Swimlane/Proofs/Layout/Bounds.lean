import Swimlane.Layout.Box
import Swimlane.Proofs.Length

/-!
# Boxes that enclose others

One box encloses another with a margin if each of its sides is at least so far outside of
the other's.  Bounds that are joined are the least that enclose all of them: to enclose the
join is to enclose each of them (`encloses_joinAll?_iff`), and padding trades bounds for a
margin (`encloses_padded_iff`).  So what encloses a box that was made of others is known
without a look at how it was made.
-/

namespace Swimlane

namespace Bounds

/-- Every side of the first bounds is outside of that of the second, with some margin. -/
structure Encloses (margin : Rat) (a b : Bounds Rat) : Prop where
  left : a.left + margin ≤ b.left
  top : a.top + margin ≤ b.top
  right : b.right + margin ≤ a.right
  bottom : b.bottom + margin ≤ a.bottom

variable {margin other : Rat} {a b c : Bounds Rat}

theorem Encloses.refl (a : Bounds Rat) : a.Encloses 0 a := by
  constructor <;> rw [add_zero]

/-- Margins add up. -/
theorem Encloses.trans (hab : a.Encloses margin b) (hbc : b.Encloses other c) :
    a.Encloses (margin + other) c where
  left := by linarith [hab.left, hbc.left]
  top := by linarith [hab.top, hbc.top]
  right := by linarith [hab.right, hbc.right]
  bottom := by linarith [hab.bottom, hbc.bottom]

theorem Encloses.weaken (h : a.Encloses margin b) (hle : other ≤ margin) :
    a.Encloses other b where
  left := by linarith [h.left]
  top := by linarith [h.top]
  right := by linarith [h.right]
  bottom := by linarith [h.bottom]

/-! ## Bounds that are made of others -/

/-- What encloses two bounds encloses them together, and the other way round. -/
theorem encloses_join_iff :
    c.Encloses margin (a.join b) ↔ c.Encloses margin a ∧ c.Encloses margin b := by
  simp only [join, Length.smaller_eq, Length.larger_eq]
  constructor
  · rintro ⟨hleft, htop, hright, hbottom⟩
    constructor
    · exact ⟨hleft.trans (min_le_left _ _), htop.trans (min_le_left _ _),
        (add_le_add_left (le_max_left _ _) _).trans hright,
        (add_le_add_left (le_max_left _ _) _).trans hbottom⟩
    · exact ⟨hleft.trans (min_le_right _ _), htop.trans (min_le_right _ _),
        (add_le_add_left (le_max_right _ _) _).trans hright,
        (add_le_add_left (le_max_right _ _) _).trans hbottom⟩
  · rintro ⟨ha, hb⟩
    refine ⟨le_min ha.left hb.left, le_min ha.top hb.top, ?_, ?_⟩
    · rw [← max_add_add_right]
      exact max_le ha.right hb.right
    · rw [← max_add_add_right]
      exact max_le ha.bottom hb.bottom

/-- What encloses all bounds of a list encloses them together, and the other way round. -/
theorem encloses_joinAll?_iff {bs : List (Bounds Rat)} {joined : Bounds Rat}
    (h : joinAll? bs = some joined) :
    c.Encloses margin joined ↔ ∀ b ∈ bs, c.Encloses margin b := by
  have hfold (rest : List (Bounds Rat)) (first : Bounds Rat) :
      c.Encloses margin (rest.foldl join first) ↔
        c.Encloses margin first ∧ ∀ b ∈ rest, c.Encloses margin b := by
    induction rest generalizing first with
    | nil => simp
    | cons b rest ih => rw [List.foldl_cons, ih, encloses_join_iff, List.forall_mem_cons, and_assoc]
  cases bs with
  | nil => cases h
  | cons first rest =>
    cases h
    rw [hfold, List.forall_mem_cons]

/-- There are bounds of a list if there is something in it. -/
theorem isSome_joinAll? {α : Type} [Length α] (bs : List (Bounds α)) :
    (joinAll? bs).isSome = true ↔ bs ≠ [] := by
  cases bs <;> simp [joinAll?]

/-- What encloses padded bounds encloses the bounds with so much more margin. -/
theorem encloses_padded_iff {pad : Rat} :
    c.Encloses margin (b.padded pad) ↔ c.Encloses (margin + pad) b := by
  constructor
  · rintro ⟨hleft, htop, hright, hbottom⟩
    simp only [padded] at hleft htop hright hbottom
    constructor <;> linarith
  · rintro ⟨hleft, htop, hright, hbottom⟩
    constructor <;> simp only [padded] <;> linarith

/-! ## Boxes by their sides -/

/-- The box with some sides has these sides. -/
@[simp] theorem bounds_box (b : Bounds Rat) : b.box.bounds = b := by
  simp only [box, Box.bounds, Box.right, Box.bottom, add_sub_cancel]

end Bounds

/-- Every side of the first box is outside of that of the second, with some margin. -/
def Box.Encloses (margin : Rat) (a b : Box Rat) : Prop := a.bounds.Encloses margin b.bounds

end Swimlane
