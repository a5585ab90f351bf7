import Swimlane.Proofs.Flowchart.Nesting

/-!
# The groups around a group

`Graph.enclosing` follows the names of parents, with a bound on the number of groups and an
eye on repetitions.  In a consistent graph neither ever matters, because a parent comes
before its children: the chain of a group is the group followed by the chain of its parent
(`enclosing_group`).  So what the chain has is what lies around the group by the names of
parents alone, `Graph.LiesIn`, and where a group occurs in a chain, its own chain begins.
-/

namespace Swimlane

namespace Graph

/-- From the group with the first name, if there is one, the names of parents lead to the group
with the second. -/
inductive LiesIn (g : Graph) : Option Text → Text → Prop
  | self {x : Group} (hx : x ∈ g.groups) : LiesIn g (some x.id) x.id
  | parent {x : Group} {id : Text} (hx : x ∈ g.groups) (h : LiesIn g x.parentId id) :
      LiesIn g (some x.id) id

/-- The first group lies in the second, at any depth. -/
def IsInside (g : Graph) (inner outer : Text) : Prop :=
  ∃ x ∈ g.groups, x.id = inner ∧ g.LiesIn x.parentId outer

variable {g : Graph}

/-- What lies in something is a group. -/
theorem LiesIn.start_known {start : Option Text} {id : Text} (h : g.LiesIn start id) :
    ∃ x ∈ g.groups, start = some x.id := by
  cases h with
  | self hx => exact ⟨_, hx, rfl⟩
  | parent hx _ => exact ⟨_, hx, rfl⟩

/-! ## Chains -/

/-- A chain that begins at no group is empty. -/
theorem chain_eq_nil {fuel : Nat} {seen : List Text} {start : Option Text}
    (h : ∀ x ∈ g.groups, start ≠ some x.id) : g.chain fuel seen start = [] := by
  cases fuel with
  | zero => rfl
  | succ fuel =>
    cases start with
    | none => rfl
    | some id =>
      rw [chain]
      split
      · rfl
      · split
        · next x hx =>
          obtain ⟨hmem, rfl⟩ := mem_of_group? hx
          exact absurd rfl (h x hmem)
        · rfl

/-- The bound is no less than the number of the group that a chain begins at, and the groups
that were seen come after that. -/
def IsAmple (g : Graph) (fuel : Nat) (seen : List Text) (start : Option Text) : Prop :=
  ∀ x ∈ g.groups, start = some x.id →
    x.order < fuel ∧ ∀ y ∈ g.groups, y.id ∈ seen → x.order < y.order

theorem IsConsistent.isAmple (h : g.IsConsistent) (start : Option Text) :
    g.IsAmple g.groups.length [] start :=
  fun _ hx _ => ⟨h.order_lt hx, fun _ _ hseen => absurd hseen List.not_mem_nil⟩

/-- The parent comes earlier than the group, so its chain has the room that the group's has. -/
theorem IsConsistent.isAmple_parent (h : g.IsConsistent) {fuel : Nat} {seen : List Text}
    {x : Group} (hx : x ∈ g.groups) (hample : g.IsAmple (fuel + 1) seen (some x.id)) :
    g.IsAmple fuel (x.id :: seen) x.parentId := by
  intro y hy hparent
  obtain ⟨hfuel, hseen⟩ := hample x hx rfl
  obtain ⟨z, hz, hid, horder, -⟩ := h.parent_of hx hparent
  rw [List.inj_on_of_nodup_map h.group_ids hz hy hid] at horder
  refine ⟨by omega, fun w hw hmem => ?_⟩
  rcases List.mem_cons.1 hmem with hsame | hmem
  · rw [List.inj_on_of_nodup_map h.group_ids hw hx hsame]
    exact horder
  · exact horder.trans (hseen w hw hmem)

/-- With room enough the chain of a group is the group and the chain of its parent. -/
theorem IsConsistent.chain_group (h : g.IsConsistent) {fuel : Nat} {seen : List Text} {x : Group}
    (hx : x ∈ g.groups) (hample : g.IsAmple (fuel + 1) seen (some x.id)) :
    g.chain (fuel + 1) seen (some x.id) = x.id :: g.chain fuel (x.id :: seen) x.parentId := by
  have hnew : ¬ seen.contains x.id = true := by
    rw [List.contains_iff_mem]
    exact fun hmem => Nat.lt_irrefl _ ((hample x hx rfl).2 x hx hmem)
  rw [chain, if_neg hnew, group?_of_mem h.group_ids hx]

/-- With room enough the room makes no difference. -/
theorem IsConsistent.chain_eq_chain (h : g.IsConsistent) {fuel fuel' : Nat}
    {seen seen' : List Text} {start : Option Text} (hample : g.IsAmple fuel seen start)
    (hample' : g.IsAmple fuel' seen' start) :
    g.chain fuel seen start = g.chain fuel' seen' start := by
  by_cases hstart : ∃ x ∈ g.groups, start = some x.id
  · obtain ⟨x, hx, rfl⟩ := hstart
    obtain ⟨fuel, rfl⟩ : ∃ n, fuel = n + 1 :=
      Nat.exists_eq_succ_of_ne_zero (Nat.ne_zero_of_lt (hample x hx rfl).1)
    obtain ⟨fuel', rfl⟩ : ∃ n, fuel' = n + 1 :=
      Nat.exists_eq_succ_of_ne_zero (Nat.ne_zero_of_lt (hample' x hx rfl).1)
    rw [h.chain_group hx hample, h.chain_group hx hample',
      h.chain_eq_chain (h.isAmple_parent hx hample) (h.isAmple_parent hx hample')]
  · have hnone : ∀ x ∈ g.groups, start ≠ some x.id := fun x hx heq => hstart ⟨x, hx, heq⟩
    rw [chain_eq_nil hnone, chain_eq_nil hnone]
termination_by fuel

/-! ## The chain of a group -/

/-- The chain of a group is the group and the chain of its parent. -/
theorem IsConsistent.enclosing_group (h : g.IsConsistent) {x : Group} (hx : x ∈ g.groups) :
    g.enclosing (some x.id) = x.id :: g.enclosing x.parentId := by
  have hample := h.isAmple (some x.id)
  obtain ⟨n, hn⟩ : ∃ n, g.groups.length = n + 1 :=
    Nat.exists_eq_succ_of_ne_zero (Nat.ne_zero_of_lt (hample x hx rfl).1)
  have hparent := h.isAmple_parent hx (hn ▸ hample)
  rw [enclosing, hn, h.chain_group hx (hn ▸ hample), enclosing,
    h.chain_eq_chain hparent (h.isAmple x.parentId)]

theorem enclosing_none : g.enclosing none = [] :=
  chain_eq_nil fun _ _ heq => by cases heq

/-- What holds of no group, of a name that no group has, and of a group if it holds of its
parent, holds of every beginning of a chain. -/
theorem IsConsistent.enclosing_induction (h : g.IsConsistent) {P : Option Text → Prop}
    (unknown : ∀ start, (∀ x ∈ g.groups, start ≠ some x.id) → P start)
    (group : ∀ x ∈ g.groups, P x.parentId → P (some x.id)) (start : Option Text) : P start := by
  have hgroup (n : Nat) : ∀ x ∈ g.groups, x.order < n → P (some x.id) := by
    induction n with
    | zero => exact fun x _ hlt => absurd hlt (Nat.not_lt_zero _)
    | succ n ih =>
      intro x hx hlt
      refine group x hx ?_
      by_cases hparent : ∃ y ∈ g.groups, x.parentId = some y.id
      · obtain ⟨y, hy, hp⟩ := hparent
        obtain ⟨z, hz, hid, horder, -⟩ := h.parent_of hx hp
        rw [List.inj_on_of_nodup_map h.group_ids hz hy hid] at horder
        rw [hp]
        exact ih y hy (by omega)
      · exact unknown _ fun y hy heq => hparent ⟨y, hy, heq⟩
  by_cases hstart : ∃ x ∈ g.groups, start = some x.id
  · obtain ⟨x, hx, rfl⟩ := hstart
    exact hgroup (x.order + 1) x hx (Nat.lt_succ_self _)
  · exact unknown start fun x hx heq => hstart ⟨x, hx, heq⟩

/-- A chain has what lies around its beginning. -/
theorem IsConsistent.mem_enclosing_iff (h : g.IsConsistent) {start : Option Text} {id : Text} :
    id ∈ g.enclosing start ↔ g.LiesIn start id := by
  refine h.enclosing_induction (P := fun start => id ∈ g.enclosing start ↔ g.LiesIn start id)
    (fun start hnone => ?_) (fun x hx ih => ?_) start
  · rw [enclosing, chain_eq_nil hnone]
    refine iff_of_false List.not_mem_nil fun hlies => ?_
    obtain ⟨x, hx, heq⟩ := hlies.start_known
    exact hnone x hx heq
  · rw [h.enclosing_group hx, List.mem_cons, ih]
    constructor
    · rintro (rfl | hlies)
      · exact .self hx
      · exact .parent hx hlies
    · intro hlies
      generalize hstart : some x.id = start at hlies
      cases hlies with
      | self hy => exact Or.inl (Option.some.inj hstart).symm
      | parent hy hlies =>
        rw [List.inj_on_of_nodup_map h.group_ids hx hy (Option.some.inj hstart)]
        exact Or.inr hlies

/-- What lies around a group is the group itself or lies around its parent. -/
theorem IsConsistent.liesIn_group_iff (h : g.IsConsistent) {x : Group} (hx : x ∈ g.groups)
    {id : Text} : g.LiesIn (some x.id) id ↔ id = x.id ∨ g.LiesIn x.parentId id := by
  rw [← h.mem_enclosing_iff, ← h.mem_enclosing_iff, h.enclosing_group hx, List.mem_cons]

/-- Where a group occurs in a chain, its own chain begins. -/
theorem IsConsistent.enclosing_suffix (h : g.IsConsistent) {start : Option Text} {id : Text}
    (hmem : id ∈ g.enclosing start) : g.enclosing (some id) <:+ g.enclosing start := by
  induction start using h.enclosing_induction with
  | unknown start hnone =>
    rw [enclosing, chain_eq_nil hnone] at hmem
    exact absurd hmem List.not_mem_nil
  | group y hy ih =>
    rw [h.enclosing_group hy, List.mem_cons] at hmem
    rcases hmem with hsame | hmem
    · exact hsame ▸ List.suffix_refl _
    · rw [h.enclosing_group hy]
      exact (ih hmem).trans (List.suffix_cons _ _)

/-- What a chain has are groups. -/
theorem IsConsistent.group_of_mem_enclosing (h : g.IsConsistent) {start : Option Text} {id : Text}
    (hmem : id ∈ g.enclosing start) : ∃ x ∈ g.groups, x.id = id := by
  have hlies := h.mem_enclosing_iff.1 hmem
  induction hlies with
  | self hx => exact ⟨_, hx, rfl⟩
  | parent _ hlies ih => exact ih (h.mem_enclosing_iff.2 hlies)

/-- A group lies in all groups of its parent's chain. -/
theorem IsConsistent.isInside_of_mem_enclosing (h : g.IsConsistent) {x : Group} (hx : x ∈ g.groups)
    {outer : Text} (hmem : outer ∈ g.enclosing x.parentId) : g.IsInside x.id outer :=
  ⟨x, hx, rfl, h.mem_enclosing_iff.1 hmem⟩

/-- What lies in a group is deeper than the group. -/
theorem IsConsistent.depth_lt_of_liesIn (h : g.IsConsistent) {x y : Group} (hx : x ∈ g.groups)
    (hy : y ∈ g.groups) (hlies : g.LiesIn y.parentId x.id) : x.depth < y.depth := by
  generalize hstart : y.parentId = start at hlies
  generalize hid : x.id = id at hlies
  induction hlies generalizing y with
  | self hz =>
    obtain ⟨w, hw, hwid, -, hdepth⟩ := h.parent_of hy hstart
    rw [← hid] at hwid
    rw [List.inj_on_of_nodup_map h.group_ids hw hx hwid] at hdepth
    omega
  | parent hz _ ih =>
    obtain ⟨w, hw, hwid, -, hdepth⟩ := h.parent_of hy hstart
    rw [List.inj_on_of_nodup_map h.group_ids hw hz hwid] at hdepth
    have hlt := ih hz rfl hid
    omega

/-- Two groups that lie in each other are one. -/
theorem IsConsistent.liesIn_antisymm (h : g.IsConsistent) {a b : Text}
    (hab : g.LiesIn (some a) b) (hba : g.LiesIn (some b) a) : a = b := by
  obtain ⟨x, hx, hax⟩ := hab.start_known
  obtain ⟨y, hy, hby⟩ := hba.start_known
  cases hax
  cases hby
  by_contra hne
  have houter := ((h.liesIn_group_iff hx).1 hab).resolve_left fun heq => hne heq.symm
  have hinner := ((h.liesIn_group_iff hy).1 hba).resolve_left hne
  have hlt := h.depth_lt_of_liesIn hy hx houter
  have hgt := h.depth_lt_of_liesIn hx hy hinner
  omega

/-- No group is twice in a chain. -/
theorem IsConsistent.nodup_enclosing (h : g.IsConsistent) (start : Option Text) :
    (g.enclosing start).Nodup := by
  induction start using h.enclosing_induction with
  | unknown start hnone =>
    rw [enclosing, chain_eq_nil hnone]
    exact List.nodup_nil
  | group x hx ih =>
    rw [h.enclosing_group hx]
    refine List.nodup_cons.2 ⟨fun hmem => ?_, ih⟩
    exact Nat.lt_irrefl _ (h.depth_lt_of_liesIn hx hx (h.mem_enclosing_iff.1 hmem))

end Graph

end Swimlane
