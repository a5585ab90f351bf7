import Mathlib.Data.List.Forall2
import Mathlib.Data.List.Nodup
import Mathlib.Data.List.Perm.Basic
import Swimlane.Layout.Cell
import Swimlane.Proofs.Lookup

/-!
# Ranks keep their members

The members of a cell are put into ranks, and the ranks are untangled.  Putting things into
buckets by a key loses nothing if every key has a bucket (`flatMap_filter_perm`), and
untangling only moves nodes within their ranks (`untangle_perm`); so the ranks hold every
member once, and those that stand in one rank are those that were given it.
-/

namespace Swimlane

/-! ## Buckets -/

/-- Things put into buckets by their keys are all there, and once. -/
theorem flatMap_filter_perm {β κ : Type} [DecidableEq κ] {keys : List κ} (hkeys : keys.Nodup)
    {l : List β} {key : β → κ} (hcover : ∀ b ∈ l, key b ∈ keys) :
    (keys.flatMap fun k => l.filter fun b => decide (key b = k)).Perm l := by
  induction keys generalizing l with
  | nil =>
    have hnil : l = [] := List.eq_nil_iff_forall_not_mem.2 fun b hb =>
      List.not_mem_nil (hcover b hb)
    rw [hnil, List.flatMap_nil]
  | cons k keys ih =>
    rw [List.nodup_cons] at hkeys
    have hothers : ∀ b ∈ l.filter (fun b => !decide (key b = k)), key b ∈ keys := by
      intro b hb
      rw [List.mem_filter, Bool.not_eq_true', decide_eq_false_iff_not] at hb
      exact (List.mem_cons.1 (hcover b hb.1)).resolve_left hb.2
    have hsame : (keys.flatMap fun k' => l.filter fun b => decide (key b = k')) =
        keys.flatMap fun k' =>
          (l.filter fun b => !decide (key b = k)).filter fun b => decide (key b = k') := by
      refine List.flatMap_congr fun k' hk' => ?_
      rw [List.filter_filter]
      refine List.filter_congr fun b _ => ?_
      by_cases hb : key b = k'
      · have hne : key b ≠ k := fun heq => hkeys.1 (heq ▸ hb ▸ hk')
        simp [hb, hb ▸ hne]
      · simp [hb]
    rw [List.flatMap_cons, hsame]
    exact ((List.Perm.refl _).append (ih hkeys.2 hothers)).trans (List.filter_append_perm _ l)

/-! ## Ranks -/

theorem le_foldl_max {x : Nat} {xs : List Nat} (floor : Nat) (h : x ∈ xs) :
    x ≤ xs.foldl max floor := by
  have hfloor (ys : List Nat) (floor : Nat) : floor ≤ ys.foldl max floor := by
    induction ys generalizing floor with
    | nil => exact Nat.le_refl floor
    | cons y ys ih => exact Nat.le_trans (Nat.le_max_left floor y) (ih _)
  induction xs generalizing floor with
  | nil => exact absurd h List.not_mem_nil
  | cons y xs ih =>
    rcases List.mem_cons.1 h with rfl | h
    · exact Nat.le_trans (Nat.le_max_right floor x) (hfloor xs _)
    · exact ih (max floor y) h

/-- The rank of a node among these. -/
def rankAmong (ranks : List (Text × Nat)) (id : Text) : Nat := (ranks.lookup id).getD 0

theorem rankAmong_le (ranks : List (Text × Nat)) (id : Text) :
    rankAmong ranks id ≤ (ranks.map (·.2)).foldl max 0 := by
  rw [rankAmong]
  cases hlookup : ranks.lookup id with
  | none => exact Nat.zero_le _
  | some r => exact le_foldl_max 0 (List.mem_map.2 ⟨(id, r), mem_of_lookup hlookup, rfl⟩)

/-- The ranks hold every node once. -/
theorem flatten_rankRows_perm (ranks : List (Text × Nat)) (ids : List Text) :
    (rankRows ranks ids).flatten.Perm ids := by
  rw [rankRows, ← List.flatMap_def]
  exact flatMap_filter_perm List.nodup_range fun id _ =>
    List.mem_range.2 (Nat.lt_succ_of_le (rankAmong_le ranks id))

/-! ## Untangling -/

/-- A rank is rearranged, nothing else. -/
theorem rearrange_perm (ranks : List (List Text)) (neighbours : Text → List Text)
    (rank : List Text) : (rearrange ranks neighbours rank).Perm rank := by
  have hfst : (rank.mapIdx fun own id => (id, pull ranks (neighbours id) own)).map (·.1) = rank := by
    refine List.ext_getElem (by simp) fun i h _ => ?_
    simp
  rw [rearrange]
  refine ((List.mergeSort_perm _ _).map _).trans ?_
  rw [hfst]

theorem forall₂_perm_refl (ranks : List (List Text)) : List.Forall₂ List.Perm ranks ranks :=
  List.forall₂_same.2 fun rank _ => List.Perm.refl rank

theorem forall₂_perm_trans {a b c : List (List Text)} (hab : List.Forall₂ List.Perm a b)
    (hbc : List.Forall₂ List.Perm b c) : List.Forall₂ List.Perm a c := by
  induction hab generalizing c with
  | nil => exact hbc
  | cons h _ ih =>
    cases hbc with
    | cons h' hrest => exact .cons (h.trans h') (ih hrest)

/-- Changing one rank within itself changes each rank only within itself. -/
theorem modify_perm {f : List Text → List Text} (hf : ∀ rank, (f rank).Perm rank)
    (ranks : List (List Text)) (r : Nat) : List.Forall₂ List.Perm (ranks.modify r f) ranks := by
  induction ranks generalizing r with
  | nil => rw [List.modify_nil]; exact .nil
  | cons rank ranks ih =>
    cases r with
    | zero => rw [List.modify_zero_cons]; exact .cons (hf rank) (forall₂_perm_refl ranks)
    | succ r => rw [List.modify_succ_cons]; exact .cons (List.Perm.refl rank) (ih r)

theorem sweep_perm (neighbours : Text → List Text) (ranks : List (List Text)) (order : List Nat) :
    List.Forall₂ List.Perm (sweep neighbours ranks order) ranks := by
  rw [sweep]
  induction order generalizing ranks with
  | nil => exact forall₂_perm_refl ranks
  | cons r order ih =>
    exact forall₂_perm_trans (ih _) (modify_perm (rearrange_perm ranks neighbours) ranks r)

/-- Untangling moves nodes only within their ranks. -/
theorem untangle_perm (edges : List Edge) (passes : Nat) (ranks : List (List Text)) :
    List.Forall₂ List.Perm (untangle edges passes ranks) ranks := by
  have hboth (ranks : List (List Text)) : List.Forall₂ List.Perm (sweepBoth edges ranks) ranks :=
    forall₂_perm_trans (sweep_perm _ _ _) (sweep_perm _ _ _)
  rw [untangle]
  generalize List.range (max 1 passes) = rounds
  induction rounds generalizing ranks with
  | nil => exact forall₂_perm_refl ranks
  | cons _ rounds ih => exact forall₂_perm_trans (ih _) (hboth ranks)

/-! ## The ranks of a cell -/

/-- The rank of a member of a cell along the flow of the edges between its members. -/
def rankIn (edges : List Edge) (members : List Text) (id : Text) : Nat :=
  let inner := edges.filter (·.isWithin members)
  rankAmong (flowRanks (fun id => members.idxOf id) members inner) id

/-- The ranks of a cell hold every member once. -/
theorem flatten_cellRanks_perm (passes : Nat) (edges : List Edge) (members : List Text) :
    (cellRanks passes edges members).flatten.Perm members :=
  (List.Perm.flatten_congr (untangle_perm _ _ _)).trans (flatten_rankRows_perm _ _)

/-- The ranks of a cell are numbered as they stand. -/
theorem forall₂_cellRanks (passes : Nat) (edges : List Edge) (members : List Text) :
    ∃ count, List.Forall₂ (fun row r => ∀ id ∈ row, rankIn edges members id = r)
      (cellRanks passes edges members) (List.range count) := by
  have hperm := untangle_perm (edges.filter (·.isWithin members)) passes
    (rankRows (flowRanks (fun id => members.idxOf id) members
      (edges.filter (·.isWithin members))) members)
  rw [rankRows, List.forall₂_map_right_iff] at hperm
  refine ⟨_, hperm.imp fun row r hrow id hid => ?_⟩
  exact of_decide_eq_true (List.mem_filter.1 (hrow.subset hid)).2

/-- Members in one rank of a cell have one rank. -/
theorem rankIn_eq_of_mem {passes : Nat} {edges : List Edge} {members row : List Text}
    (hrow : row ∈ cellRanks passes edges members) {a b : Text} (ha : a ∈ row) (hb : b ∈ row) :
    rankIn edges members a = rankIn edges members b := by
  obtain ⟨count, hranks⟩ := forall₂_cellRanks passes edges members
  have hone {rows : List (List Text)} {numbers : List Nat}
      (h : List.Forall₂ (fun row r => ∀ id ∈ row, rankIn edges members id = r) rows numbers)
      (hrow : row ∈ rows) : rankIn edges members a = rankIn edges members b := by
    induction h with
    | nil => exact absurd hrow List.not_mem_nil
    | cons h _ ih =>
      rcases List.mem_cons.1 hrow with rfl | hrow
      · rw [h a ha, h b hb]
      · exact ih hrow
  exact hone hranks hrow

/-- The ranks of a cell stand in the order of their numbers. -/
theorem cellRanks_pairwise (passes : Nat) (edges : List Edge) (members : List Text) :
    (cellRanks passes edges members).Pairwise fun upper lower =>
      ∀ a ∈ upper, ∀ b ∈ lower, rankIn edges members a < rankIn edges members b := by
  obtain ⟨count, hranks⟩ := forall₂_cellRanks passes edges members
  have hnumbers := List.pairwise_lt_range (n := count)
  generalize cellRanks passes edges members = rows at hranks ⊢
  generalize List.range count = numbers at hranks hnumbers
  have hmem {rows : List (List Text)} {numbers : List Nat}
      (h : List.Forall₂ (fun row r => ∀ id ∈ row, rankIn edges members id = r) rows numbers)
      {row : List Text} (hrow : row ∈ rows) :
      ∃ r ∈ numbers, ∀ id ∈ row, rankIn edges members id = r := by
    induction h with
    | nil => exact absurd hrow List.not_mem_nil
    | cons h _ ih =>
      rcases List.mem_cons.1 hrow with rfl | hrow
      · exact ⟨_, List.mem_cons_self, h⟩
      · obtain ⟨r, hr, hrank⟩ := ih hrow
        exact ⟨r, List.mem_cons_of_mem _ hr, hrank⟩
  induction hranks with
  | nil => exact List.Pairwise.nil
  | cons h hrest ih =>
    obtain ⟨hfirst, hothers⟩ := List.pairwise_cons.1 hnumbers
    refine List.pairwise_cons.2 ⟨fun lower hlower a ha b hb => ?_, ih hothers⟩
    obtain ⟨r, hr, hrank⟩ := hmem hrest hlower
    rw [h a ha, hrank b hb]
    exact hfirst r hr

end Swimlane
