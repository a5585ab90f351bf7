import Swimlane.Classification.Rule

/-!
# Classifications

The classification of a graph gives each group with a role its place among the groups of
that role.  The entries are kept in ascending order of the identifiers, each identifier
once; of groups with one identifier the last counts.
-/

namespace Swimlane

/-- What is known of a group with a role. -/
structure RoleInfo where
  role : Role
  /-- The number of groups before this one that were given the same role. -/
  index : Nat
  badgeLabel : Text
  /-- The provider of a boundary, if its names mention one. -/
  provider : Option Text
deriving DecidableEq

/-- The entries with one added or replaced, in ascending order. -/
def insertEntry (id : Text) (info : RoleInfo) : List (Text × RoleInfo) → List (Text × RoleInfo)
  | [] => [(id, info)]
  | (k, v) :: rest =>
      if id < k then (id, info) :: (k, v) :: rest
      else if id = k then (id, info) :: rest
      else (k, v) :: insertEntry id info rest

/-- The roles of groups, by their identifiers. -/
structure Classification where
  entries : List (Text × RoleInfo)
  /-- The identifiers ascend. -/
  ascending : entries.Pairwise (·.1 < ·.1)

/-- An entry after adding one is the one added or was there before. -/
theorem mem_insertEntry {id : Text} {info : RoleInfo} {entries : List (Text × RoleInfo)}
    {x : Text × RoleInfo} (h : x ∈ insertEntry id info entries) : x = (id, info) ∨ x ∈ entries := by
  induction entries with
  | nil => simpa [insertEntry] using h
  | cons e rest ih =>
    obtain ⟨k, v⟩ := e
    unfold insertEntry at h
    split at h
    · simpa using h
    · split at h
      · rcases List.mem_cons.1 h with h | h
        · exact Or.inl h
        · exact Or.inr (List.mem_cons_of_mem _ h)
      · rcases List.mem_cons.1 h with h | h
        · exact Or.inr (h ▸ List.mem_cons_self ..)
        · exact (ih h).imp (fun h => h) (List.mem_cons_of_mem _)

/-- Adding an entry keeps the identifiers ascending. -/
theorem insertEntry_ascending (id : Text) (info : RoleInfo) {entries : List (Text × RoleInfo)}
    (h : entries.Pairwise (·.1 < ·.1)) : (insertEntry id info entries).Pairwise (·.1 < ·.1) := by
  induction entries with
  | nil => simp [insertEntry]
  | cons e rest ih =>
    obtain ⟨k, v⟩ := e
    obtain ⟨hk, hrest⟩ := List.pairwise_cons.1 h
    unfold insertEntry
    split
    · next hlt =>
      refine List.pairwise_cons.2 ⟨fun x hx => ?_, h⟩
      rcases List.mem_cons.1 hx with rfl | hx
      · exact hlt
      · exact List.lt_trans hlt (hk x hx)
    · split
      · next heq => exact List.pairwise_cons.2 ⟨fun x hx => heq ▸ hk x hx, hrest⟩
      · next hlt hne =>
        refine List.pairwise_cons.2 ⟨fun x hx => ?_, ih hrest⟩
        rcases mem_insertEntry hx with rfl | hx
        · exact (List.le_iff_lt_or_eq.1 (List.not_lt.1 hlt)).resolve_right (fun h => hne h.symm)
        · exact hk x hx

namespace Classification

/-- No group has a role. -/
def empty : Classification := ⟨[], List.Pairwise.nil⟩

/-- Adds or replaces the entry of a group. -/
def insert (c : Classification) (id : Text) (info : RoleInfo) : Classification :=
  ⟨insertEntry id info c.entries, insertEntry_ascending id info c.ascending⟩

/-- What is known of a group. -/
def get? (c : Classification) (id : Text) : Option RoleInfo := c.entries.lookup id

/-- The role of a group. -/
def role? (c : Classification) (id : Text) : Option Role := (c.get? id).map (·.role)

/-- The groups with a role, in the order of their indexes. -/
def withRole (c : Classification) (role : Role) : List (Text × RoleInfo) :=
  (c.entries.filter (·.2.role = role)).mergeSort (fun a b => decide (a.2.index ≤ b.2.index))

/-- The lanes, in the order of their indexes. -/
def lanes (c : Classification) : List (Text × RoleInfo) := c.withRole .laneBand

/-- The sections, in the order of their indexes. -/
def sections (c : Classification) : List (Text × RoleInfo) := c.withRole .sectionBand

/-- The boundaries, in the order of their indexes. -/
def boundaries (c : Classification) : List (Text × RoleInfo) := c.withRole .boundary

/-- Does some group have a role? -/
def hasRoles (c : Classification) : Bool := !c.entries.isEmpty

/-! ## Classifying a graph -/

/-- How many groups were given each role so far. -/
structure Counts where
  lanes : Nat
  sections : Nat
  boundaries : Nat

/-- The count of a role. -/
def Counts.get (n : Counts) : Role → Nat
  | .laneBand => n.lanes
  | .sectionBand => n.sections
  | .boundary => n.boundaries

/-- One more of a role. -/
def Counts.add (n : Counts) : Role → Counts
  | .laneBand => { n with lanes := n.lanes + 1 }
  | .sectionBand => { n with sections := n.sections + 1 }
  | .boundary => { n with boundaries := n.boundaries + 1 }

/-- Classifies one more group of a graph. -/
def addGroup (g : Graph) (state : Classification × Counts) (x : Group) :
    Classification × Counts :=
  let facts := GroupFacts.of g x
  match facts.rule? with
  | none => state
  | some rule =>
      let provider := if rule.role = .boundary then facts.provider? else none
      let info : RoleInfo := ⟨rule.role, state.2.get rule.role, facts.badgeLabel, provider⟩
      (state.1.insert x.id info, state.2.add rule.role)

/-- The classification of a graph. -/
def ofGraph (g : Graph) : Classification :=
  (g.groups.foldl (addGroup g) (.empty, ⟨0, 0, 0⟩)).1

end Classification

end Swimlane
