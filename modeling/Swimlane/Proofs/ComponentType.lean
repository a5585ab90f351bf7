import Swimlane.ComponentType
import Swimlane.Proofs.Text.Words

/-!
# Canonical types of canonical types

The canonical type for a name is the one that its key stands for, or the key itself.  To make it
canonical again changes nothing, unless the name has the dotted capital
(`canonicalType_canonicalType_iff`): this letter leaves a mark in the key, and where the mark is the
key is cut when its own key is made.
-/

namespace Swimlane

/-! ## Keys of types -/

/-- The key of a type is the key of its name, trimmed or not. -/
theorem typeKey_eq (t : Text) : typeKey t = nameKey t := nameKey_trim t

/-- Without a dotted capital the key of a type is its own key. -/
theorem typeKey_typeKey {t : Text} (ht : dottedCapital ∉ t) : typeKey (typeKey t) = typeKey t := by
  rw [typeKey_eq, typeKey_eq]
  exact nameKey_nameKey ht

/-- The key of a type has the mark exactly if the type has the dotted capital. -/
theorem dotAbove_mem_typeKey_iff {t : Text} : dotAbove ∈ typeKey t ↔ dottedCapital ∈ t := by
  rw [typeKey_eq]
  exact dotAbove_mem_nameKey_iff

/-! ## Canonical types -/

/-- The canonical type for a key. -/
def typeOfKey (key : Text) : Text :=
  match key with
  | [] => defaultComponentType
  | key =>
      match typeAliases.find? fun entry => key = entry.1 || entry.2.contains key with
      | some entry => entry.1
      | none => key

theorem canonicalType_eq (t : Text) : canonicalType t = typeOfKey (typeKey t) := rfl

/-- The types that keys stand for, and the keys that stand for them. -/
def namedTypes : List Text := defaultComponentType :: typeAliases.map (·.1)

def namedKeys : List Text := [] :: typeAliases.flatMap fun entry => entry.1 :: entry.2

/-- A key is a type itself, or it stands for a type with a name. -/
theorem typeOfKey_cases (key : Text) :
    typeOfKey key = key ∨ key ∈ namedKeys ∧ typeOfKey key ∈ namedTypes := by
  unfold typeOfKey
  split
  · exact Or.inr ⟨List.mem_cons_self, List.mem_cons_self⟩
  · split
    · next entry hfound =>
      have hentry := List.mem_of_find?_eq_some hfound
      have hnames : key = entry.1 ∨ key ∈ entry.2 := by simpa using List.find?_some hfound
      refine Or.inr ⟨List.mem_cons_of_mem _ ?_, List.mem_cons_of_mem _ (List.mem_map_of_mem hentry)⟩
      exact List.mem_flatMap.2 ⟨entry, hentry, List.mem_cons.2 hnames⟩
    · exact Or.inl rfl

/-- A type has the mark exactly if the name that it was made from has the dotted capital. -/
theorem dotAbove_mem_canonicalType_iff {t : Text} :
    dotAbove ∈ canonicalType t ↔ dottedCapital ∈ t := by
  have hkeys : ∀ key ∈ namedKeys, dotAbove ∉ key := by decide +kernel
  have htypes : ∀ type ∈ namedTypes, dotAbove ∉ type := by decide +kernel
  rw [canonicalType_eq, ← dotAbove_mem_typeKey_iff]
  rcases typeOfKey_cases (typeKey t) with hself | ⟨hkey, htype⟩
  · rw [hself]
  · exact iff_of_false (htypes _ htype) (hkeys _ hkey)

/-- No canonical type has the dotted capital. -/
theorem dottedCapital_not_mem_canonicalType (t : Text) : dottedCapital ∉ canonicalType t := by
  have htypes : ∀ type ∈ namedTypes, dottedCapital ∉ type := by decide +kernel
  rw [canonicalType_eq]
  rcases typeOfKey_cases (typeKey t) with hself | ⟨-, htype⟩
  · rw [hself]
    exact dottedCapital_not_mem_nameKey _
  · exact htypes _ htype

/-- A canonical type is its own, unless the name that it was made from has a dotted capital. -/
theorem canonicalType_canonicalType_iff (t : Text) :
    canonicalType (canonicalType t) = canonicalType t ↔ dottedCapital ∉ t := by
  constructor
  · intro hself ht
    rw [← dotAbove_mem_canonicalType_iff, ← hself, dotAbove_mem_canonicalType_iff] at ht
    exact dottedCapital_not_mem_canonicalType t ht
  · intro ht
    have hnamed : ∀ type ∈ namedTypes, canonicalType type = type := by decide +kernel
    rw [canonicalType_eq t]
    rcases typeOfKey_cases (typeKey t) with hself | ⟨-, htype⟩
    · rw [hself, canonicalType_eq, typeKey_typeKey ht, hself]
    · exact hnamed _ htype

/-- With a dotted capital in the name the mark makes a difference: it is part of the type, but its
place is between words when the type is read again. -/
theorem canonicalType_of_dottedCapital :
    canonicalType "\u0130x".toList = "i\u0307x".toList ∧
      canonicalType (canonicalType "\u0130x".toList) = "i_x".toList ∧
      canonicalType (canonicalType "\u0130x".toList) ≠ canonicalType "\u0130x".toList := by
  decide +kernel

end Swimlane
