import Swimlane.Icon
import Swimlane.Proofs.ComponentType
import Swimlane.Proofs.Text.Scan

/-!
# The keys of types and the keys of icons

The key under which a component type is looked up is the key of any text, though the type is
trimmed first: both are what one pass over the text writes, and neither begins or ends with an
underscore.  So a type that stands for no other is its own key, and an icon is found for it as for
the text that it was made from.  The exception is again the dotted capital: the mark that it leaves
in the type is no letter, and gets lost when the key of the type is made (`icon_of_dottedCapital`).
-/

namespace Swimlane

/-! ## Keys that stand for no other type -/

/-- The key is not empty, and not another name of a type. -/
def IsUnaliased (key : Text) : Prop := key ≠ [] ∧ ∀ entry ∈ typeAliases, key ∉ entry.2

instance (key : Text) : Decidable (IsUnaliased key) := inferInstanceAs (Decidable (_ ∧ _))

theorem IsUnaliased.typeOfKey_eq {key : Text} (h : IsUnaliased key) : typeOfKey key = key := by
  obtain ⟨hne, halias⟩ := h
  unfold typeOfKey
  split
  · exact absurd rfl hne
  · split
    · next entry hfound =>
      have hnames : key = entry.1 ∨ key ∈ entry.2 := by simpa using List.find?_some hfound
      exact (hnames.resolve_right (halias entry (List.mem_of_find?_eq_some hfound))).symm
    · rfl

/-! ## Icons -/

/-- Only the key of a type counts for its icon. -/
theorem findIcon_congr {α : Type} [Length α] {t s : Text} (h : nameKey t = nameKey s)
    (label : Option Text) (stage : Option α) :
    findIcon (some t) label stage = findIcon (some s) label stage := by
  have hkeys : ([some t, label].filterMap fun x => x).map nameKey =
      ([some s, label].filterMap fun x => x).map nameKey := by
    simp [List.filterMap_cons, h]
  rw [findIcon, hkeys, ← findIcon]

/-- The key of a type is that of its text, and is written in one pass.  A type that stands for no
other is this key, and is looked up under the same key again exactly if the text has no dotted
capital; then it has the icon of the text. -/
theorem types_keyed_as_texts {α : Type} [Length α] (s : Text) :
    typeKey s = nameKey s ∧ typeKey s = scanKey (trim s) ∧ nameKey s = scanKey s ∧
      (nameKey s).head? ≠ some '_' ∧ (nameKey s).getLast? ≠ some '_' ∧
      (IsUnaliased (typeKey s) → canonicalType s = nameKey s ∧
        (nameKey (canonicalType s) = nameKey s ↔ dottedCapital ∉ s) ∧
        (dottedCapital ∉ s → ∀ (label : Option Text) (stage : Option α),
          findIcon (some (canonicalType s)) label stage = findIcon (some s) label stage)) := by
  have hwords : ∀ w ∈ nameWords s, IsKeyPart w := fun _ => isKeyPart_of_mem_nameWords
  refine ⟨typeKey_eq s, (scanKey_eq (trim s)).symm, (scanKey_eq s).symm, head?_joinWith_ne hwords,
    getLast?_joinWith_ne hwords, fun halias => ?_⟩
  have htype : canonicalType s = nameKey s := by
    rw [canonicalType_eq, halias.typeOfKey_eq, typeKey_eq]
  rw [htype]
  refine ⟨rfl, nameKey_nameKey_iff, fun hs label stage => ?_⟩
  exact findIcon_congr (nameKey_nameKey hs) label stage

/-- A type with a blank at either end, and with a capital that is not of ASCII. -/
def blankedType : Text := " \u00c9tat kafka\u00a0".toList

theorem findIcon_of_blankedType : IsUnaliased (typeKey blankedType) ∧ dottedCapital ∉ blankedType ∧
    canonicalType blankedType = nameKey blankedType ∧
    findIcon (some (canonicalType blankedType)) none (none : Option Rat) =
      findIcon (some blankedType) none (none : Option Rat) := by
  have halias : IsUnaliased (typeKey blankedType) := by decide +kernel
  have hplain : dottedCapital ∉ blankedType := by decide +kernel
  obtain ⟨-, -, -, -, -, htype⟩ := @types_keyed_as_texts Rat _ blankedType
  obtain ⟨hself, -, hicon⟩ := htype halias
  exact ⟨halias, hplain, hself, hicon hplain none none⟩

/-- The capital leaves a mark in the type, which ends the word when the type is looked up; so the
type has the icon of dashboards, and the text has none. -/
theorem icon_of_dottedCapital : IsUnaliased (typeKey "b\u0130".toList) ∧
    canonicalType "b\u0130".toList = "bi\u0307".toList ∧
    nameKey "b\u0130".toList = "bi\u0307".toList ∧
    nameKey (canonicalType "b\u0130".toList) = "bi".toList ∧
    findIcon (some "b\u0130".toList) none (none : Option Rat) = ⟨genericIcon, .generic⟩ ∧
    findIcon (some (canonicalType "b\u0130".toList)) none (none : Option Rat) =
      ⟨"dashboard".toList, .exact⟩ := by
  decide +kernel

end Swimlane
