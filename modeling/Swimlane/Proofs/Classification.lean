import Mathlib.Data.List.Enum
import Mathlib.Data.List.Perm.Subperm
import Mathlib.Data.List.Sort
import Mathlib.Order.RelIso.Basic
import Swimlane.Classification.Classification
import Swimlane.Proofs.Passes

/-!
# The groups of a role are numbered in the order of the text

The classification is made group by group, with a count for every role, and keeps its entries
in the order of the identifiers.  Sorted by their numbers the entries of a role are the groups
that the rules give the role to, in the order of the text and numbered from zero
(`withRole_ofGraph`); nothing is lost on the way, because the identifiers of the groups differ.
-/

namespace Swimlane

/-! ## Groups by their roles -/

namespace Graph

/-- The role that the rules give to a group. -/
def roleOf? (g : Graph) (x : Group) : Option Role := (GroupFacts.of g x).rule?.map (·.role)

/-- What is known of a group with a role, of which `index` groups before it have the same. -/
def roleInfo (g : Graph) (role : Role) (x : Group) (index : Nat) : RoleInfo :=
  ⟨role, index, (GroupFacts.of g x).badgeLabel,
    if role = .boundary then (GroupFacts.of g x).provider? else none⟩

@[simp]
theorem roleInfo_role (g : Graph) (role : Role) (x : Group) (index : Nat) :
    (g.roleInfo role x index).role = role := rfl

/-- The groups among these that have a role. -/
def groupsOf (g : Graph) (role : Role) (groups : List Group) : List Group :=
  groups.filter fun x => g.roleOf? x = some role

/-- The entries of the groups among these that have a role, numbered from zero. -/
def entriesOf (g : Graph) (role : Role) (groups : List Group) : List (Text × RoleInfo) :=
  (g.groupsOf role groups).zipIdx.map fun entry => (entry.1.id, g.roleInfo role entry.1 entry.2)

variable {g : Graph} {role : Role} {x : Group} {groups : List Group}

theorem groupsOf_concat_same (h : g.roleOf? x = some role) :
    g.groupsOf role (groups ++ [x]) = g.groupsOf role groups ++ [x] := by
  have hx : decide (g.roleOf? x = some role) = true := decide_eq_true h
  rw [groupsOf, List.filter_append, List.filter_singleton, hx]
  rfl

theorem groupsOf_concat_other (h : g.roleOf? x ≠ some role) :
    g.groupsOf role (groups ++ [x]) = g.groupsOf role groups := by
  rw [groupsOf, List.filter_append, List.filter_singleton, decide_eq_false h]
  exact List.append_nil _

theorem entriesOf_concat_same (h : g.roleOf? x = some role) :
    g.entriesOf role (groups ++ [x]) =
      g.entriesOf role groups ++ [(x.id, g.roleInfo role x (g.groupsOf role groups).length)] := by
  rw [entriesOf, groupsOf_concat_same h, List.zipIdx_append, List.map_append, Nat.zero_add]
  rfl

theorem entriesOf_concat_other (h : g.roleOf? x ≠ some role) :
    g.entriesOf role (groups ++ [x]) = g.entriesOf role groups := by
  rw [entriesOf, groupsOf_concat_other h, entriesOf]

/-- The numbers of the groups of a role are 0, 1 and so on. -/
theorem map_index_entriesOf (g : Graph) (role : Role) (groups : List Group) :
    (g.entriesOf role groups).map (·.2.index) = List.range (g.groupsOf role groups).length := by
  rw [entriesOf, List.map_map, List.range_eq_range']
  exact List.zipIdx_map_snd 0 _

/-- Each number goes with the identifier at its place. -/
theorem map_number_entriesOf (g : Graph) (role : Role) (groups : List Group) :
    (g.entriesOf role groups).map (fun entry => (entry.1, entry.2.index)) =
      ((g.groupsOf role groups).map (·.id)).zipIdx := by
  rw [entriesOf, List.map_map, List.zipIdx_map]
  rfl

end Graph

/-! ## Adding entries -/

/-- An entry whose identifier is new joins the others, somewhere among them. -/
theorem insertEntry_perm (info : RoleInfo) {id : Text} {entries : List (Text × RoleInfo)}
    (h : id ∉ entries.map (·.1)) : (insertEntry id info entries).Perm ((id, info) :: entries) := by
  induction entries with
  | nil => exact List.Perm.refl _
  | cons entry rest ih =>
    rw [List.map_cons, List.mem_cons, not_or] at h
    rw [insertEntry]
    split
    · exact List.Perm.refl _
    · rw [if_neg h.1]
      exact ((ih h.2).cons entry).trans (List.Perm.swap _ _ _)

theorem Classification.Counts.get_add_same (n : Counts) (role : Role) :
    (n.add role).get role = n.get role + 1 := by
  cases role <;> rfl

theorem Classification.Counts.get_add_other (n : Counts) {role other : Role} (h : other ≠ role) :
    (n.add role).get other = n.get other := by
  cases role <;> cases other <;> first | rfl | exact absurd rfl h

/-! ## One group after another -/

namespace Classification

/-- What holds of the classification of the groups that were seen so far. -/
structure Numbers (g : Graph) (state : Classification × Counts) (seen : List Group) : Prop where
  ids : ∀ entry ∈ state.1.entries, entry.1 ∈ seen.map (·.id)
  counts : ∀ role, state.2.get role = (g.groupsOf role seen).length
  entries : ∀ role,
    (state.1.entries.filter (·.2.role = role)).Perm (g.entriesOf role seen)

variable {g : Graph} {state : Classification × Counts} {seen : List Group} {x : Group}

/-- A group without a role changes nothing. -/
theorem Numbers.skip (h : Numbers g state seen) (hx : g.roleOf? x = none) :
    Numbers g state (seen ++ [x]) where
  ids entry hentry := by
    rw [List.map_append]
    exact List.mem_append_left _ (h.ids entry hentry)
  counts role := by
    rw [Graph.groupsOf_concat_other (by simp [hx]), h.counts]
  entries role := by
    rw [Graph.entriesOf_concat_other (by simp [hx])]
    exact h.entries role

/-- A group with a role gets the number of those before it. -/
theorem Numbers.add (h : Numbers g state seen) (hid : x.id ∉ seen.map (·.id)) {role : Role}
    (hx : g.roleOf? x = some role) :
    Numbers g (state.1.insert x.id (g.roleInfo role x (state.2.get role)), state.2.add role)
      (seen ++ [x]) where
  ids entry hentry := by
    rw [List.map_append, List.map_singleton, List.mem_append, List.mem_singleton]
    rcases mem_insertEntry hentry with rfl | hbefore
    · exact Or.inr rfl
    · exact Or.inl (h.ids entry hbefore)
  counts other := by
    by_cases hsame : other = role
    · rw [hsame, Graph.groupsOf_concat_same hx, Counts.get_add_same, h.counts, List.length_append,
        List.length_singleton]
    · have hother : g.roleOf? x ≠ some other := by
        rw [hx]
        exact fun heq => hsame (Option.some.inj heq).symm
      rw [Graph.groupsOf_concat_other hother, Counts.get_add_other _ hsame, h.counts]
  entries other := by
    have hnew : x.id ∉ state.1.entries.map (·.1) := by
      intro hmem
      obtain ⟨entry, hentry, heq⟩ := List.mem_map.1 hmem
      exact hid (heq ▸ h.ids entry hentry)
    have hinserted := (insertEntry_perm (g.roleInfo role x (state.2.get role)) hnew).filter
      fun entry => decide (entry.2.role = other)
    refine hinserted.trans ?_
    by_cases hsame : other = role
    · subst hsame
      rw [List.filter_cons_of_pos (by simp), Graph.entriesOf_concat_same hx, ← h.counts]
      exact ((h.entries other).cons _).trans (List.perm_append_singleton _ _).symm
    · have hother : g.roleOf? x ≠ some other := by
        rw [hx]
        exact fun heq => hsame (Option.some.inj heq).symm
      rw [List.filter_cons_of_neg (by simp [Ne.symm hsame]),
        Graph.entriesOf_concat_other hother]
      exact h.entries other

/-- Classifying one more group goes on to number the groups. -/
theorem Numbers.addGroup (h : Numbers g state seen) (hid : x.id ∉ seen.map (·.id)) :
    Numbers g (addGroup g state x) (seen ++ [x]) := by
  cases hrule : (GroupFacts.of g x).rule? with
  | none =>
    have hx : g.roleOf? x = none := by rw [Graph.roleOf?, hrule, Option.map_none]
    simpa only [Classification.addGroup, hrule] using h.skip hx
  | some rule =>
    have hx : g.roleOf? x = some rule.role := by rw [Graph.roleOf?, hrule, Option.map_some]
    simpa only [Classification.addGroup, hrule, Graph.roleInfo] using h.add hid hx

/-- Classifying the groups of a graph one after another numbers them. -/
theorem numbers_ofGraph (hids : (g.groups.map (·.id)).Nodup) :
    Numbers g (g.groups.foldl (Classification.addGroup g) (.empty, ⟨0, 0, 0⟩)) g.groups := by
  refine foldl_of_nodup_keys ?_ hids fun state seen h x _ hid => h.addGroup hid
  refine ⟨fun entry hentry => absurd hentry List.not_mem_nil, fun role => ?_, fun role => ?_⟩
  · cases role <;> rfl
  · exact List.Perm.refl _

/-- The groups with a role stand in the order of their numbers. -/
theorem withRole_pairwise (c : Classification) (role : Role) :
    (c.withRole role).Pairwise fun a b => a.2.index ≤ b.2.index :=
  List.pairwise_mergeSort'
    (Order.Preimage (fun entry : Text × RoleInfo => entry.2.index) (· ≤ ·)) _

/-- The groups of a role by their numbers are those that the rules give the role to, in the order
of the text. -/
theorem withRole_ofGraph (hids : (g.groups.map (·.id)).Nodup) (role : Role) :
    (ofGraph g).withRole role = g.entriesOf role g.groups := by
  have hindexes := g.map_index_entriesOf role g.groups
  have hnumbered : (g.entriesOf role g.groups).Pairwise fun a b => a.2.index ≤ b.2.index := by
    apply List.Pairwise.of_map (S := (· < ·)) _ fun _ _ => Nat.le_of_lt
    rw [hindexes]
    exact List.pairwise_lt_range
  have hperm : ((ofGraph g).withRole role).Perm (g.entriesOf role g.groups) :=
    (List.mergeSort_perm _ _).trans ((numbers_ofGraph hids).entries role)
  refine List.Perm.eq_of_pairwise (fun a b ha hb hab hba => ?_)
    ((ofGraph g).withRole_pairwise role) hnumbered hperm
  -- the numbers tell the entries apart
  have hnodup : ((g.entriesOf role g.groups).map (·.2.index)).Nodup := by
    rw [hindexes]
    exact List.nodup_range
  exact List.inj_on_of_nodup_map hnodup (hperm.subset ha) hb (Nat.le_antisymm hab hba)

/-- An entry of a role is that of a group to which the rules give the role. -/
theorem exists_group_of_mem_withRole (hids : (g.groups.map (·.id)).Nodup) {role : Role}
    {entry : Text × RoleInfo} (hentry : entry ∈ (ofGraph g).withRole role) :
    ∃ x ∈ g.groups, ∃ index, g.roleOf? x = some role ∧
      entry = (x.id, g.roleInfo role x index) := by
  rw [withRole_ofGraph hids, Graph.entriesOf] at hentry
  obtain ⟨⟨x, index⟩, hx, rfl⟩ := List.mem_map.1 hentry
  obtain ⟨hmem, hrole⟩ := List.mem_filter.1 (List.fst_mem_of_mem_zipIdx hx)
  exact ⟨x, hmem, index, of_decide_eq_true hrole, rfl⟩

end Classification

end Swimlane
