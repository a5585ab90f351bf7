import Mathlib.Data.List.Basic
import Swimlane.Text.Slice

/-!
# Slices that exist

A slice exists exactly where its ends are counts of whole characters (`slice?_eq_some_iff`): the
text consists of a part before it, the slice, and a part after it.
-/

namespace Swimlane

/-! ## Counting bytes -/

@[simp] theorem byteCount_nil : byteCount [] = 0 := rfl

@[simp] theorem byteCount_append (s t : Text) : byteCount (s ++ t) = byteCount s + byteCount t := by
  have hstart (n : Nat) : t.foldl (fun n c => n + c.utf8Size) n = n + byteCount t := by
    rw [byteCount]
    induction t generalizing n with
    | nil => rfl
    | cons c t ih =>
      rw [List.foldl_cons, List.foldl_cons, ih, ih (0 + _), Nat.zero_add, Nat.add_assoc]
  rw [byteCount, List.foldl_append, hstart]
  rfl

@[simp] theorem byteCount_cons (c : Char) (s : Text) :
    byteCount (c :: s) = c.utf8Size + byteCount s := by
  rw [← List.singleton_append, byteCount_append]
  exact congrArg (· + byteCount s) (Nat.zero_add _)

theorem byteCount_replicate {c : Char} (hc : c.utf8Size = 1) (n : Nat) :
    byteCount (List.replicate n c) = n := by
  induction n with
  | zero => rfl
  | succ n ih => rw [List.replicate_succ, byteCount_cons, ih, hc, Nat.add_comm]

/-! ## Cutting at offsets -/

theorem dropBytes?_cons {n : Nat} (hn : 0 < n) (c : Char) (rest : Text) :
    dropBytes? n (c :: rest) =
      if c.utf8Size ≤ n then dropBytes? (n - c.utf8Size) rest else none := by
  cases n with
  | zero => exact absurd hn (Nat.lt_irrefl 0)
  | succ n => rfl

theorem takeBytes?_cons {n : Nat} (hn : 0 < n) (c : Char) (rest : Text) :
    takeBytes? n (c :: rest) =
      if c.utf8Size ≤ n then (takeBytes? (n - c.utf8Size) rest).map (c :: ·) else none := by
  cases n with
  | zero => exact absurd hn (Nat.lt_irrefl 0)
  | succ n => rfl

theorem dropBytes?_eq_some_iff {n : Nat} {s t : Text} :
    dropBytes? n s = some t ↔ ∃ p, s = p ++ t ∧ byteCount p = n := by
  constructor
  · intro h
    induction s generalizing n with
    | nil =>
      cases n with
      | zero =>
        cases h
        exact ⟨[], rfl, rfl⟩
      | succ n => cases h
    | cons c s ih =>
      rcases Nat.eq_zero_or_pos n with rfl | hn
      · cases h
        exact ⟨[], rfl, rfl⟩
      · rw [dropBytes?_cons hn] at h
        split at h
        · next hle =>
          obtain ⟨p, rfl, hp⟩ := ih h
          exact ⟨c :: p, rfl, by rw [byteCount_cons, hp, Nat.add_sub_cancel' hle]⟩
        · cases h
  · rintro ⟨p, rfl, rfl⟩
    induction p with
    | nil => cases t <;> rfl
    | cons c p ih =>
      have hpos : 0 < byteCount (c :: p) := by
        rw [byteCount_cons]
        exact Nat.add_pos_left c.utf8Size_pos _
      rw [List.cons_append, dropBytes?_cons hpos, byteCount_cons,
        if_pos (Nat.le_add_right _ _), Nat.add_sub_cancel_left, ih]

theorem takeBytes?_eq_some_iff {n : Nat} {s t : Text} :
    takeBytes? n s = some t ↔ ∃ r, s = t ++ r ∧ byteCount t = n := by
  constructor
  · intro h
    induction s generalizing n t with
    | nil =>
      cases n with
      | zero =>
        cases h
        exact ⟨[], rfl, rfl⟩
      | succ n => cases h
    | cons c s ih =>
      rcases Nat.eq_zero_or_pos n with rfl | hn
      · cases h
        exact ⟨c :: s, rfl, rfl⟩
      · rw [takeBytes?_cons hn] at h
        split at h
        · next hle =>
          obtain ⟨u, hu, rfl⟩ := Option.map_eq_some_iff.1 h
          obtain ⟨r, rfl, hcount⟩ := ih hu
          exact ⟨r, rfl, by rw [byteCount_cons, hcount, Nat.add_sub_cancel' hle]⟩
        · cases h
  · rintro ⟨r, rfl, rfl⟩
    induction t with
    | nil => cases r <;> rfl
    | cons c t ih =>
      have hpos : 0 < byteCount (c :: t) := by
        rw [byteCount_cons]
        exact Nat.add_pos_left c.utf8Size_pos _
      rw [List.cons_append, takeBytes?_cons hpos, byteCount_cons,
        if_pos (Nat.le_add_right _ _), Nat.add_sub_cancel_left, ih, Option.map_some]

/-- A slice exists between the characters of a text, and nowhere else. -/
theorem slice?_eq_some_iff {start stop : Nat} {s t : Text} : slice? start stop s = some t ↔
    ∃ p r, s = p ++ (t ++ r) ∧ byteCount p = start ∧ start + byteCount t = stop := by
  rw [slice?]
  constructor
  · intro h
    split at h
    · next hle =>
      obtain ⟨rest, hdrop, htake⟩ := Option.bind_eq_some_iff.1 h
      obtain ⟨p, rfl, hp⟩ := dropBytes?_eq_some_iff.1 hdrop
      obtain ⟨r, rfl, hcount⟩ := takeBytes?_eq_some_iff.1 htake
      exact ⟨p, r, rfl, hp, by rw [hcount, Nat.add_sub_cancel' hle]⟩
    · cases h
  · rintro ⟨p, r, rfl, rfl, rfl⟩
    rw [if_pos (Nat.le_add_right _ _), dropBytes?_eq_some_iff.2 ⟨p, rfl, rfl⟩, Option.bind_some,
      Nat.add_sub_cancel_left]
    exact takeBytes?_eq_some_iff.2 ⟨r, rfl, rfl⟩

/-- What stands between two parts of a text is its slice there. -/
theorem slice?_append (p t r : Text) :
    slice? (byteCount p) (byteCount p + byteCount t) (p ++ (t ++ r)) = some t :=
  slice?_eq_some_iff.2 ⟨p, r, rfl, rfl, rfl⟩

/-- What stands after a part of a text is its slice to the end. -/
theorem slice?_end (p t : Text) : slice? (byteCount p) (byteCount (p ++ t)) (p ++ t) = some t := by
  rw [byteCount_append]
  exact slice?_eq_some_iff.2 ⟨p, [], by rw [List.append_nil], rfl, rfl⟩

/-- What stands before a part of a text is its slice from the beginning. -/
theorem slice?_start (t r : Text) : slice? 0 (byteCount t) (t ++ r) = some t :=
  slice?_eq_some_iff.2 ⟨[], r, rfl, rfl, Nat.zero_add _⟩

end Swimlane
