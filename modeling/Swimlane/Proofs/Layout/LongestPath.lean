import Mathlib.Data.List.Chain
import Mathlib.Order.Bounds.Basic
import Swimlane.Proofs.Layout.Order
import Swimlane.Proofs.Layout.Rank
import Swimlane.Proofs.Lookup

/-!
# Ranks are longest paths

`rankAll` takes the identifiers in order and gives each a rank from the ranks before it only,
so that no rank changes once it is given.  What the rank of an identifier means is said here
without that order of work: it is the number of edges of the longest path to it over edges that
run forward (`isLayering_flowRanks`).  Two steps carry the proof.  A forward edge increases the
rank (`IsRanked.lt`), which bounds every path; and whatever has a rank above zero has a forward
edge from the rank below (`IsRanked.exists_source`), which gives a path of that length and
leaves no rank out.
-/

namespace Swimlane

/-! ## Forward edges -/

/-- An edge leads from the first to the second, and the second is listed later. -/
def LeadsForward (edges : List Edge) (order : List Text) (a b : Text) : Prop :=
  (∃ e ∈ edges, e.source = a ∧ e.target = b) ∧ [a, b].Sublist order

/-- A path over forward edges that ends at an identifier, as the list of all that it visits. -/
structure IsPathTo (edges : List Edge) (order : List Text) (id : Text) (path : List Text) :
    Prop where
  leads : path.IsChain (LeadsForward edges order)
  ends : path.getLast? = some id

/-- The ranks put identifiers that run in a given order into layers. -/
structure IsLayering (ids : List Text) (edges : List Edge) (order : List Text)
    (ranks : List (Text × Nat)) : Prop where
  /-- Every identifier has one rank. -/
  nodup : (ranks.map (·.1)).Nodup
  mem_iff : ∀ id, (∃ r, (id, r) ∈ ranks) ↔ id ∈ ids
  /-- A path that visits one identifier more than it has edges is as long as its rank. -/
  longest : ∀ id r, (id, r) ∈ ranks →
    IsGreatest {n | ∃ path, IsPathTo edges order id path ∧ path.length = n + 1} r
  increases : ∀ a b r r', LeadsForward edges order a b → (a, r) ∈ ranks → (b, r') ∈ ranks → r < r'
  has_source : ∀ id r, (id, r + 1) ∈ ranks → ∃ a, LeadsForward edges order a id ∧ (a, r) ∈ ranks
  /-- No rank below one that is used is left out. -/
  no_gap : ∀ id r, (id, r) ∈ ranks → ∀ k ≤ r, ∃ other, (other, k) ∈ ranks

/-! ## One rank after the other -/

/-- The greatest of some numbers and a floor is the floor or one of them. -/
theorem foldl_max_eq_or_mem (floor : Nat) (xs : List Nat) :
    xs.foldl max floor = floor ∨ xs.foldl max floor ∈ xs := by
  induction xs generalizing floor with
  | nil => exact Or.inl rfl
  | cons x xs ih =>
    rw [List.foldl_cons]
    rcases ih (max floor x) with h | h
    · rw [h, List.mem_cons]
      omega
    · exact Or.inr (List.mem_cons_of_mem x h)

/-- Every entry has the rank that follows from the entries before it. -/
def IsRanked (edges : List Edge) (ranks : List (Text × Nat)) : Prop :=
  ∀ before id r after, ranks = before ++ (id, r) :: after → r = nextRank edges before id

section Ranked

variable {edges : List Edge} {ranks ranked : List (Text × Nat)}

/-- One more identifier keeps the ranks of those before it. -/
theorem IsRanked.concat (h : IsRanked edges ranked) (id : Text) :
    IsRanked edges (ranked ++ [(id, nextRank edges ranked id)]) := by
  intro before other r after hsplit
  rcases List.eq_nil_or_concat after with rfl | ⟨after, last, rfl⟩
  · obtain ⟨rfl, hlast⟩ := List.append_inj' hsplit rfl
    cases hlast
    rfl
  · rw [List.concat_eq_append, ← List.cons_append, ← List.append_assoc] at hsplit
    exact h before other r after (List.append_inj' hsplit rfl).1

theorem isRanked_rankAll (h : IsRanked edges ranked) (order : List Text) :
    IsRanked edges (rankAll edges ranked order) := by
  induction order generalizing ranked with
  | nil => exact h
  | cons id order ih => exact ih (h.concat id)

theorem map_fst_rankAll (edges : List Edge) (ranked : List (Text × Nat)) (order : List Text) :
    (rankAll edges ranked order).map (·.1) = ranked.map (·.1) ++ order := by
  induction order generalizing ranked with
  | nil => simp [rankAll]
  | cons id order ih => simp [rankAll, ih]

/-- Among what has a rank already, the source of an edge has a smaller rank. -/
theorem lt_nextRank {id source : Text} {r : Nat}
    (hsource : ∃ e ∈ edges, e.source = source ∧ e.target = id)
    (hlookup : ranked.lookup source = some r) : r < nextRank edges ranked id := by
  obtain ⟨e, he, rfl, htarget⟩ := hsource
  refine le_foldl_max 0 (List.mem_filterMap.2 ⟨e.source, ?_, by rw [hlookup]; rfl⟩)
  exact List.mem_map.2 ⟨e, List.mem_filter.2 ⟨he, decide_eq_true htarget⟩, rfl⟩

/-- A rank above zero comes from the source of an edge. -/
theorem exists_source_of_nextRank {id : Text} {r : Nat} (h : nextRank edges ranked id = r + 1) :
    ∃ source, (∃ e ∈ edges, e.source = source ∧ e.target = id) ∧
      ranked.lookup source = some r := by
  rw [nextRank] at h
  rcases foldl_max_eq_or_mem 0 ((sourcesOf edges id).filterMap fun source =>
    (ranked.lookup source).map (· + 1)) with hzero | hmem
  · rw [hzero] at h
    exact absurd h (Nat.succ_ne_zero r).symm
  · rw [h] at hmem
    obtain ⟨source, hsource, hrank⟩ := List.mem_filterMap.1 hmem
    obtain ⟨r', hlookup, heq⟩ := Option.map_eq_some_iff.1 hrank
    obtain ⟨e, he, rfl⟩ := List.mem_map.1 hsource
    obtain ⟨hedge, htarget⟩ := List.mem_filter.1 he
    refine ⟨e.source, ⟨e, hedge, rfl, of_decide_eq_true htarget⟩, ?_⟩
    rw [hlookup, Nat.succ_injective heq]

end Ranked

/-! ## Paths -/

section Paths

variable {edges : List Edge} {ranks : List (Text × Nat)} (h : IsRanked edges ranks)
  (hnodup : (ranks.map (·.1)).Nodup)

include h hnodup

/-- A forward edge increases the rank. -/
theorem IsRanked.lt {a b : Text} {r r' : Nat}
    (hab : LeadsForward edges (ranks.map (·.1)) a b) (ha : (a, r) ∈ ranks)
    (hb : (b, r') ∈ ranks) : r < r' := by
  obtain ⟨before, after, hsplit⟩ := List.append_of_mem hb
  have hkeys : ranks.map (·.1) = before.map (·.1) ++ b :: after.map (·.1) := by
    rw [hsplit, List.map_append, List.map_cons]
  have hbefore : a ∈ before.map (·.1) := mem_of_pair_sublist (hkeys ▸ hnodup) (hkeys ▸ hab.2)
  obtain ⟨⟨a', s⟩, hmem, rfl⟩ := List.mem_map.1 hbefore
  have hlookup : before.lookup a' = some s := by
    refine lookup_of_mem ?_ hmem
    rw [hkeys] at hnodup
    exact hnodup.of_append_left
  have hsame : s = r := by
    have hs := lookup_of_mem hnodup (hsplit ▸ List.mem_append_left _ hmem)
    rw [lookup_of_mem hnodup ha] at hs
    exact (Option.some.inj hs).symm
  rw [h before b r' after hsplit, ← hsame]
  exact lt_nextRank hab.1 hlookup

omit hnodup in
/-- What has a rank above zero has a forward edge from the rank below. -/
theorem IsRanked.exists_source {id : Text} {r : Nat} (hid : (id, r + 1) ∈ ranks) :
    ∃ a, LeadsForward edges (ranks.map (·.1)) a id ∧ (a, r) ∈ ranks := by
  obtain ⟨before, after, hsplit⟩ := List.append_of_mem hid
  obtain ⟨source, hedge, hlookup⟩ :=
    exists_source_of_nextRank (h before id (r + 1) after hsplit).symm
  have hmem := mem_of_lookup hlookup
  refine ⟨source, ⟨hedge, ?_⟩, hsplit ▸ List.mem_append_left _ hmem⟩
  rw [hsplit, List.map_append, List.map_cons]
  exact pair_sublist_of_mem (List.mem_map.2 ⟨(source, r), hmem, rfl⟩)

/-- No path to an identifier has more edges than its rank. -/
theorem IsRanked.length_le {id : Text} {r : Nat} (hid : (id, r) ∈ ranks) {path : List Text}
    (hpath : IsPathTo edges (ranks.map (·.1)) id path) : path.length ≤ r + 1 := by
  induction path using List.reverseRecOn generalizing id r with
  | nil => exact Nat.zero_le _
  | append_singleton front last ih =>
    obtain rfl : last = id := by simpa using hpath.ends
    rcases List.eq_nil_or_concat front with rfl | ⟨front, a, rfl⟩
    · exact Nat.succ_le_succ (Nat.zero_le r)
    · have hchain := hpath.leads
      rw [List.concat_eq_append] at hchain ih ⊢
      obtain ⟨hfront, -, hstep⟩ := List.isChain_append.1 hchain
      have hab : LeadsForward edges (ranks.map (·.1)) a last := by
        refine hstep a ?_ last ?_
        · rw [List.getLast?_concat]
          rfl
        · rfl
      obtain ⟨⟨a', s⟩, ha, rfl⟩ := List.mem_map.1 (hab.2.subset List.mem_cons_self)
      have hlt := h.lt hnodup hab ha hid
      have hlen := ih ha ⟨hfront, List.getLast?_concat ..⟩
      rw [List.length_append, List.length_singleton]
      omega

omit hnodup in
/-- Some path to an identifier has as many edges as its rank. -/
theorem IsRanked.exists_path {id : Text} {r : Nat} (hid : (id, r) ∈ ranks) :
    ∃ path, IsPathTo edges (ranks.map (·.1)) id path ∧ path.length = r + 1 := by
  induction r generalizing id with
  | zero => exact ⟨[id], ⟨.singleton id, rfl⟩, rfl⟩
  | succ r ih =>
    obtain ⟨a, hab, ha⟩ := h.exists_source hid
    obtain ⟨path, hpath, hlen⟩ := ih ha
    refine ⟨path ++ [id], ⟨?_, List.getLast?_concat ..⟩, ?_⟩
    · refine List.isChain_append.2 ⟨hpath.leads, .singleton id, ?_⟩
      intro x hx y hy
      rw [hpath.ends, Option.mem_some_iff] at hx
      obtain rfl : id = y := by simpa using hy
      exact hx ▸ hab
    · rw [List.length_append, hlen, List.length_singleton]

omit hnodup in
/-- Below a rank that is used every rank is used. -/
theorem IsRanked.no_gap {id : Text} {r k : Nat} (hid : (id, r) ∈ ranks) (hk : k ≤ r) :
    ∃ other, (other, k) ∈ ranks := by
  induction r generalizing id with
  | zero => exact ⟨id, Nat.le_zero.1 hk ▸ hid⟩
  | succ r ih =>
    rcases Nat.le_succ_iff.1 hk with hle | rfl
    · obtain ⟨a, -, ha⟩ := h.exists_source hid
      exact ih ha hle
    · exact ⟨id, hid⟩

end Paths

/-! ## The ranks along the flow -/

section Flow

variable (key : Text → Nat) (ids : List Text) (edges : List Edge)

theorem map_fst_flowRanks : (flowRanks key ids edges).map (·.1) = flowOrder key ids edges := by
  rw [flowRanks, map_fst_rankAll, List.map_nil, List.nil_append]

theorem isRanked_flowRanks : IsRanked edges (flowRanks key ids edges) := by
  refine isRanked_rankAll ?_ _
  intro before id r after hsplit
  exact absurd hsplit.symm (by simp)

theorem nodup_flowRanks : ((flowRanks key ids edges).map (·.1)).Nodup := by
  rw [map_fst_flowRanks]
  exact (isGreedyOrder_flowOrder key ids edges).nodup

theorem mem_flowRanks (id : Text) : (∃ r, (id, r) ∈ flowRanks key ids edges) ↔ id ∈ ids := by
  rw [← (isGreedyOrder_flowOrder key ids edges).mem_iff, ← map_fst_flowRanks]
  simp

variable {key ids edges}

/-- Where no edges run in a circle, an edge between two of the identifiers runs forward. -/
theorem leadsForward_of_leads
    (hno : ∀ id, ¬Relation.TransGen (Leads edges (· ∈ ids)) id id) {a b : Text}
    (hab : Leads edges (· ∈ ids) a b) : LeadsForward edges (flowOrder key ids edges) a b :=
  ⟨hab.2.2, ((isGreedyOrder_flowOrder key ids edges).runsForward hno).forward a b hab⟩

/-- Where no edges run in a circle, an edge between two of the identifiers increases the rank. -/
theorem flowRanks_lt (hno : ∀ id, ¬Relation.TransGen (Leads edges (· ∈ ids)) id id) {a b : Text}
    (hab : Leads edges (· ∈ ids) a b) {r r' : Nat} (ha : (a, r) ∈ flowRanks key ids edges)
    (hb : (b, r') ∈ flowRanks key ids edges) : r < r' := by
  have hforward : LeadsForward edges (flowOrder key ids edges) a b := leadsForward_of_leads hno hab
  rw [← map_fst_flowRanks] at hforward
  exact (isRanked_flowRanks key ids edges).lt (nodup_flowRanks key ids edges) hforward ha hb

variable (key ids edges)

/-- The ranks along the flow are the lengths of the longest paths over forward edges, without
gaps; and where no edges run in a circle, every edge increases the rank. -/
theorem isLayering_flowRanks :
    IsLayering ids edges (flowOrder key ids edges) (flowRanks key ids edges) ∧
      ((∀ id, ¬Relation.TransGen (Leads edges (· ∈ ids)) id id) →
        ∀ a b r r', Leads edges (· ∈ ids) a b → (a, r) ∈ flowRanks key ids edges →
          (b, r') ∈ flowRanks key ids edges → r < r') := by
  have hranked := isRanked_flowRanks key ids edges
  have hnodup := nodup_flowRanks key ids edges
  refine ⟨?_, fun hno a b r r' hab ha hb => flowRanks_lt hno hab ha hb⟩
  rw [← map_fst_flowRanks]
  exact
    { nodup := hnodup
      mem_iff := mem_flowRanks key ids edges
      longest := fun id r hid => by
        refine ⟨hranked.exists_path hid, ?_⟩
        rintro n ⟨path, hpath, hlen⟩
        have hle := hranked.length_le hnodup hid hpath
        omega
      increases := fun a b r r' hab ha hb => hranked.lt hnodup hab ha hb
      has_source := fun id r hid => hranked.exists_source hid
      no_gap := fun id r hid k hk => hranked.no_gap hid hk }

end Flow

end Swimlane
