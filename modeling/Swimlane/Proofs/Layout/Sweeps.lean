import Mathlib.Data.List.Permutation
import Mathlib.Data.List.Sigma
import Mathlib.Data.List.Sort
import Swimlane.Proofs.Layout.Rank

/-!
# What sweeps sort by

A sweep comes to one rank after another and sorts it: each node goes by the median of the
positions at which its neighbours stand, or by its own position when none of them stands
anywhere, and nodes that go by the same keep their order (`IsRankSorted`).  What a sweep comes
to is settled by that (`IsSweptDown.unique`), and so is what all of them come to
(`untangle_sortsByNeighbours`).  Neighbours count in whichever rank they stand, not only in the
rank that the sweep comes from; edges that skip a rank tell the two apart.
-/

namespace Swimlane

/-! ## Medians -/

/-- Twice the median of numbers: of the one in their middle, or the mean of the two, when they
stand in ascending order. -/
inductive IsTwiceMedian (xs : List Nat) : Nat → Prop
  | odd {low high : List Nat} {a : Nat} (perm : xs.Perm (low ++ a :: high))
      (ascends : (low ++ a :: high).Pairwise (· ≤ ·)) (middle : low.length = high.length) :
      IsTwiceMedian xs (2 * a)
  | even {low high : List Nat} {a b : Nat} (perm : xs.Perm (low ++ a :: b :: high))
      (ascends : (low ++ a :: b :: high).Pairwise (· ≤ ·)) (middle : low.length = high.length) :
      IsTwiceMedian xs (a + b)

/-- Numbers have one ascending order. -/
theorem mergeSort_eq_of_ascending {xs ys : List Nat} (hperm : xs.Perm ys)
    (hys : ys.Pairwise (· ≤ ·)) : xs.mergeSort (fun a b => decide (a ≤ b)) = ys :=
  ((List.mergeSort_perm xs _).trans hperm).eq_of_pairwise (fun _ _ _ _ => Nat.le_antisymm)
    (List.pairwise_mergeSort' (· ≤ ·) xs) hys

/-- A median is what is computed for it. -/
theorem IsTwiceMedian.twiceMedian?_eq {xs : List Nat} {k : Nat} (h : IsTwiceMedian xs k) :
    twiceMedian? xs = some k := by
  cases h with
  | @odd low high a perm ascends middle =>
    have hlength : (low ++ a :: high).length = 2 * low.length + 1 := by
      rw [List.length_append, List.length_cons, middle]
      omega
    have hhalf : (2 * low.length + 1) / 2 = low.length := by omega
    rw [twiceMedian?, mergeSort_eq_of_ascending perm ascends, hlength, hhalf, if_pos (by omega),
      List.getElem?_append_right (Nat.le_refl _), Nat.sub_self]
    rfl
  | @even low high a b perm ascends middle =>
    have hlength : (low ++ a :: b :: high).length = 2 * (low.length + 1) := by
      rw [List.length_append, List.length_cons, List.length_cons, middle]
      omega
    have hhalf : 2 * (low.length + 1) / 2 = low.length + 1 := by omega
    have hnext : low.length + 1 - low.length = 1 := by omega
    rw [twiceMedian?, mergeSort_eq_of_ascending perm ascends, hlength, hhalf, if_neg (by omega),
      Nat.add_sub_cancel, List.getElem?_append_right (Nat.le_refl _),
      List.getElem?_append_right (Nat.le_add_right _ _), Nat.sub_self, hnext]
    rfl

/-- Numbers, if there are any, have a median. -/
theorem exists_isTwiceMedian {xs : List Nat} (h : xs ≠ []) : ∃ k, IsTwiceMedian xs k := by
  obtain ⟨ys, hperm, hys⟩ : ∃ ys : List Nat, xs.Perm ys ∧ ys.Pairwise (· ≤ ·) :=
    ⟨_, (List.mergeSort_perm xs _).symm, List.pairwise_mergeSort' (· ≤ ·) xs⟩
  have hpos : 0 < ys.length := hperm.length_eq ▸ List.length_pos_iff.2 h
  obtain ⟨m, hm⟩ | ⟨m, hm⟩ :
      (∃ m, ys.length = 2 * m + 1) ∨ ∃ m, ys.length = 2 * m + 2 := by
    rcases Nat.mod_two_eq_zero_or_one ys.length with heven | hodd
    · exact .inr ⟨ys.length / 2 - 1, by omega⟩
    · exact .inl ⟨ys.length / 2, by omega⟩
  all_goals
    have hrest : (ys.drop m).length = ys.length - m := List.length_drop
    have hlow : (ys.take m).length = m := List.length_take_of_le (by omega)
    rw [← List.take_append_drop m ys] at hperm hys
  · match hdrop : ys.drop m with
    | [] => rw [hdrop, List.length_nil] at hrest; omega
    | a :: high =>
      rw [hdrop] at hperm hys hrest
      rw [List.length_cons] at hrest
      exact ⟨_, .odd hperm hys (by omega)⟩
  · match hdrop : ys.drop m with
    | [] => rw [hdrop, List.length_nil] at hrest; omega
    | [_] => rw [hdrop, List.length_singleton] at hrest; omega
    | a :: b :: high =>
      rw [hdrop] at hperm hys hrest
      rw [List.length_cons, List.length_cons] at hrest
      exact ⟨_, .even hperm hys (by omega)⟩

theorem twiceMedian?_nil : twiceMedian? [] = none := by
  rw [twiceMedian?, List.mergeSort_nil]
  rfl

theorem isTwiceMedian_iff {xs : List Nat} {k : Nat} :
    IsTwiceMedian xs k ↔ twiceMedian? xs = some k := by
  refine ⟨IsTwiceMedian.twiceMedian?_eq, fun h => ?_⟩
  have hxs : xs ≠ [] := by
    rintro rfl
    rw [twiceMedian?_nil] at h
    cases h
  obtain ⟨k', hk'⟩ := exists_isTwiceMedian hxs
  rw [hk'.twiceMedian?_eq, Option.some.injEq] at h
  exact h ▸ hk'

/-! ## What nodes go by -/

/-- A node with neighbours at these positions goes by this number: twice their median, or else
twice its own position. -/
def GoesBy (positions : List Nat) (own k : Nat) : Prop :=
  (positions = [] ∧ k = 2 * own) ∨ IsTwiceMedian positions k

/-- A node goes by one number. -/
theorem goesBy_iff {positions : List Nat} {own k : Nat} :
    GoesBy positions own k ↔ k = (twiceMedian? positions).getD (2 * own) := by
  rw [GoesBy, isTwiceMedian_iff]
  rcases eq_or_ne positions [] with rfl | hsome
  · simp [twiceMedian?_nil]
  · obtain ⟨k', hk'⟩ := exists_isTwiceMedian hsome
    simp [hsome, hk'.twiceMedian?_eq, eq_comm]

/-- A rank is sorted by the positions that are known of its nodes' neighbours; nodes that go by
the same number keep their order. -/
structure IsRankSorted (known : Text → Option Nat) (neighbours : Text → List Text)
    (before after : List Text) : Prop where
  perm : after.Perm before
  sorted : ∃ key : Text → Nat,
    (∀ id ∈ before, GoesBy ((neighbours id).filterMap known) (before.idxOf id) (key id)) ∧
    after.Pairwise fun a b => key a < key b ∨ (key a = key b ∧ before.idxOf a < before.idxOf b)

/-- A rank has one sorted order. -/
theorem IsRankSorted.unique {known : Text → Option Nat} {neighbours : Text → List Text}
    {before after after' : List Text} (h : IsRankSorted known neighbours before after)
    (h' : IsRankSorted known neighbours before after') : after = after' := by
  obtain ⟨hperm, key, hkey, hsorted⟩ := h
  obtain ⟨hperm', key', hkey', hsorted'⟩ := h'
  have hsame : ∀ id ∈ before, key' id = key id := fun id hid =>
    (goesBy_iff.1 (hkey' id hid)).trans (goesBy_iff.1 (hkey id hid)).symm
  have hsorted'' := hsorted'.imp_of_mem fun {a b} ha hb hab => by
    rwa [hsame a (hperm'.subset ha), hsame b (hperm'.subset hb)] at hab
  refine (hperm.trans hperm'.symm).eq_of_pairwise (fun a b _ _ hab hba => ?_) hsorted hsorted''
  omega

/-- Sorting by keys keeps the order of what has the same key. -/
theorem pairwise_mergeSort_of_nodup {l : List Text} (hl : l.Nodup) (key : Text → Nat) :
    (l.mergeSort fun a b => decide (key a ≤ key b)).Pairwise fun a b =>
      key a < key b ∨ (key a = key b ∧ l.idxOf a < l.idxOf b) := by
  -- Sorted along with their positions, things with the same key are sorted by these.
  have hsorted := @List.pairwise_mergeSort _ (List.zipIdxLE fun a b => decide (key a ≤ key b))
    (List.zipIdxLE_trans fun a b c => by simpa using Nat.le_trans)
    (List.zipIdxLE_total fun a b => by simpa using Nat.le_total (key a) (key b)) l.zipIdx
  have hperm := List.mergeSort_perm l.zipIdx (List.zipIdxLE fun a b => decide (key a ≤ key b))
  have hpositions := List.pairwise_map.1
    ((hperm.map Prod.snd).nodup_iff.2 (List.nodup_zipIdx_map_snd l))
  have hidx {p : Text × Nat} (hp : p ∈ l.zipIdx) : l.idxOf p.1 = p.2 := by
    obtain ⟨h, heq⟩ := List.getElem?_eq_some_iff.1 (List.mem_zipIdx_iff_getElem?.1 hp)
    rw [← heq, hl.idxOf_getElem]
  rw [← List.mergeSort_zipIdx, List.pairwise_map]
  refine (hsorted.and hpositions).imp_of_mem fun {p q} hp hq ⟨hle, hne⟩ => ?_
  rw [hidx (hperm.subset hp), hidx (hperm.subset hq)]
  simp only [List.zipIdxLE, decide_eq_true_eq] at hle
  split at hle
  · split at hle
    · have hpos : p.2 ≤ q.2 := of_decide_eq_true hle
      omega
    · omega
  · cases hle

/-- What a sweep puts in the place of a rank is the rank, sorted. -/
theorem rearrange_eq_mergeSort (ranks : List (List Text)) (neighbours : Text → List Text)
    {rank : List Text} (hrank : rank.Nodup) :
    rearrange ranks neighbours rank = rank.mergeSort fun a b =>
      decide (pull ranks (neighbours a) (rank.idxOf a) ≤
        pull ranks (neighbours b) (rank.idxOf b)) := by
  let key (id : Text) : Nat := pull ranks (neighbours id) (rank.idxOf id)
  have hpulled : (rank.mapIdx fun own id => (id, pull ranks (neighbours id) own)) =
      rank.map fun id => (id, key id) := by
    refine List.ext_getElem (by simp) fun i h _ => ?_
    simp [key, hrank.idxOf_getElem]
  rw [rearrange, hpulled, ← List.map_mergeSort (r := fun a b => decide (key a ≤ key b))
    (fun _ _ _ _ => rfl), List.map_map]
  exact List.map_id _

/-- A rank that is rearranged is sorted by what is known of its nodes' neighbours. -/
theorem isRankSorted_rearrange {ranks : List (List Text)} {known : Text → Option Nat}
    {neighbours : Text → List Text} {rank : List Text} (hrank : rank.Nodup)
    (hknown : ∀ id ∈ rank,
      (neighbours id).filterMap known = (neighbours id).filterMap (position? ranks)) :
    IsRankSorted known neighbours rank (rearrange ranks neighbours rank) := by
  refine ⟨rearrange_perm ranks neighbours rank,
    fun id => pull ranks (neighbours id) (rank.idxOf id), fun id hid => ?_, ?_⟩
  · rw [goesBy_iff, hknown id hid]
    rfl
  · rw [rearrange_eq_mergeSort ranks neighbours hrank]
    exact pairwise_mergeSort_of_nodup hrank _

/-! ## One sweep -/

section Sweep

variable {neighbours : Text → List Text} {ranks : List (List Text)}

theorem sweep_append (front back : List Nat) :
    sweep neighbours ranks (front ++ back) = sweep neighbours (sweep neighbours ranks front) back :=
  List.foldl_append

/-- A sweep does not change the ranks that it does not come to. -/
theorem getElem?_sweep_of_not_mem {order : List Nat} {r : Nat} (h : r ∉ order) :
    (sweep neighbours ranks order)[r]? = ranks[r]? := by
  rw [sweep]
  induction order generalizing ranks with
  | nil => rfl
  | cons i order ih =>
    rw [List.mem_cons, not_or] at h
    rw [List.foldl_cons, ih h.2, List.getElem?_modify_ne _ _ (Ne.symm h.1)]

theorem take_sweep {order : List Nat} {k : Nat} (h : ∀ r ∈ order, k ≤ r) :
    (sweep neighbours ranks order).take k = ranks.take k := by
  refine List.ext_getElem? fun r => ?_
  rw [List.getElem?_take, List.getElem?_take]
  split
  · next hr => exact getElem?_sweep_of_not_mem fun hmem => absurd (h r hmem) (Nat.not_le.2 hr)
  · rfl

theorem drop_sweep {order : List Nat} {k : Nat} (h : ∀ r ∈ order, r < k) :
    (sweep neighbours ranks order).drop k = ranks.drop k := by
  refine List.ext_getElem? fun r => ?_
  rw [List.getElem?_drop, List.getElem?_drop]
  exact getElem?_sweep_of_not_mem fun hmem => absurd (h _ hmem) (by omega)

/-- A rank is rearranged as the ranks stand when the sweep comes to it. -/
theorem getElem?_sweep {front back : List Nat} {r : Nat} (hfront : r ∉ front) (hback : r ∉ back) :
    (sweep neighbours ranks (front ++ r :: back))[r]? =
      ranks[r]?.map (rearrange (sweep neighbours ranks front) neighbours) := by
  have hlater : (sweep neighbours (sweep neighbours ranks front) (r :: back))[r]? =
      ((sweep neighbours ranks front).modify r
        (rearrange (sweep neighbours ranks front) neighbours))[r]? :=
    getElem?_sweep_of_not_mem hback
  rw [sweep_append, hlater, List.getElem?_modify_eq, getElem?_sweep_of_not_mem hfront]
  rfl

end Sweep

/-- The positions that count for the neighbours of nodes next to a rank, as the ranks stand. -/
abbrev View := List (List Text) → Nat → Text → Option Nat

namespace View

/-- All positions count, in whichever rank. -/
def everywhere : View := fun ranks _ => position? ranks

/-- The positions in the rank alone count. -/
def inRank : View := fun ranks r id => ranks[r]?.bind (·.idxOf? id)

end View

/-- A sweep down goes from the first rank to the last: each rank but the first is sorted by the
neighbours before its nodes, when the ranks above it are sorted already. -/
structure IsSweptDown (view : View) (edges : List Edge) (before after : List (List Text)) :
    Prop where
  length_eq : after.length = before.length
  first : after[0]? = before[0]?
  others : ∀ {r rank}, before[r + 1]? = some rank → ∃ rank', after[r + 1]? = some rank' ∧
    IsRankSorted (view (after.take (r + 1) ++ before.drop (r + 1)) r) (sourcesOf edges) rank rank'

/-- A sweep down comes out in one way. -/
theorem IsSweptDown.unique {view : View} {edges : List Edge}
    {before after after' : List (List Text)} (h : IsSweptDown view edges before after)
    (h' : IsSweptDown view edges before after') : after = after' := by
  have hlength : after.length = after'.length := h.length_eq.trans h'.length_eq.symm
  refine List.ext_getElem? fun r => ?_
  induction r using Nat.strong_induction_on with
  | _ r ih =>
    cases r with
    | zero => rw [h.first, h'.first]
    | succ r =>
      have habove : after.take (r + 1) = after'.take (r + 1) := by
        refine List.ext_getElem? fun i => ?_
        rw [List.getElem?_take, List.getElem?_take]
        split
        · next hi => exact ih i hi
        · rfl
      cases hr : before[r + 1]? with
      | none =>
        have hle := List.getElem?_eq_none_iff.1 hr
        rw [← h.length_eq] at hle
        rw [List.getElem?_eq_none hle, List.getElem?_eq_none (hlength ▸ hle)]
      | some rank =>
        obtain ⟨_, hrank, hsorted⟩ := h.others hr
        obtain ⟨_, hrank', hsorted'⟩ := h'.others hr
        rw [habove] at hsorted
        rw [hrank, hrank', hsorted.unique hsorted']

/-- A sweep up goes from the last rank to the first: each rank but the last is sorted by the
neighbours after its nodes, when the ranks below it are sorted already. -/
structure IsSweptUp (view : View) (edges : List Edge) (before after : List (List Text)) :
    Prop where
  length_eq : after.length = before.length
  last : after[before.length - 1]? = before[before.length - 1]?
  others : ∀ {r rank}, r + 1 < before.length → before[r]? = some rank →
    ∃ rank', after[r]? = some rank' ∧
      IsRankSorted (view (before.take (r + 1) ++ after.drop (r + 1)) (r + 1)) (targetsOf edges)
        rank rank'

/-- A sweep up comes out in one way. -/
theorem IsSweptUp.unique {view : View} {edges : List Edge}
    {before after after' : List (List Text)} (h : IsSweptUp view edges before after)
    (h' : IsSweptUp view edges before after') : after = after' := by
  have hlength : after.length = after'.length := h.length_eq.trans h'.length_eq.symm
  -- By induction on the number of ranks that the sweep has come to.
  have hall (k : Nat) : ∀ r, before.length ≤ r + k → after[r]? = after'[r]? := by
    induction k with
    | zero =>
      intro r hr
      rw [Nat.add_zero, ← h.length_eq] at hr
      rw [List.getElem?_eq_none hr, List.getElem?_eq_none (hlength ▸ hr)]
    | succ k ih =>
      intro r hr
      rcases Nat.lt_trichotomy (r + 1) before.length with hlt | hlast | hgt
      · have hbelow : after.drop (r + 1) = after'.drop (r + 1) := by
          refine List.ext_getElem? fun i => ?_
          rw [List.getElem?_drop, List.getElem?_drop]
          exact ih _ (by omega)
        have hrank : before[r]? = some before[r] := List.getElem?_eq_getElem (by omega)
        obtain ⟨_, hrank₁, hsorted⟩ := h.others hlt hrank
        obtain ⟨_, hrank₂, hsorted'⟩ := h'.others hlt hrank
        rw [hbelow] at hsorted
        rw [hrank₁, hrank₂, hsorted.unique hsorted']
      · obtain rfl : r = before.length - 1 := by omega
        rw [h.last, h'.last]
      · exact ih r (by omega)
  exact List.ext_getElem? fun r => hall before.length r (Nat.le_add_left _ _)

/-- What counts of the neighbours of nodes is where they stand. -/
structure View.Shows (view : View) (edges : List Edge) (ranks : List (List Text)) : Prop where
  before : ∀ {r rank}, ranks[r + 1]? = some rank → ∀ id ∈ rank,
    (sourcesOf edges id).filterMap (view ranks r) =
      (sourcesOf edges id).filterMap (position? ranks)
  after : ∀ {r rank}, r + 1 < ranks.length → ranks[r]? = some rank → ∀ id ∈ rank,
    (targetsOf edges id).filterMap (view ranks (r + 1)) =
      (targetsOf edges id).filterMap (position? ranks)

section OneSweep

variable {view : View} {edges : List Edge} {ranks : List (List Text)}

theorem nodup_of_getElem? (hranks : ranks.flatten.Nodup) {r : Nat} {rank : List Text}
    (hr : ranks[r]? = some rank) : rank.Nodup :=
  (List.nodup_flatten.1 hranks).1 rank (List.mem_of_getElem? hr)

/-- The numbers before one of a row of numbers, and those after it. -/
theorem range'_eq_append_cons {s m k : Nat} :
    List.range' s (m + (k + 1)) = List.range' s m ++ (s + m) :: List.range' (s + m + 1) k := by
  rw [← List.range'_append_1, List.range'_succ]

theorem isSweptDown_sweep (hranks : ranks.flatten.Nodup)
    (hview : ∀ {mid}, List.Forall₂ List.Perm mid ranks → view.Shows edges mid) :
    IsSweptDown view edges ranks
      (sweep (sourcesOf edges) ranks (List.range' 1 (ranks.length - 1))) := by
  refine ⟨(sweep_perm _ _ _).length_eq, getElem?_sweep_of_not_mem (by simp), ?_⟩
  intro r rank hr
  have hlt : r + 1 < ranks.length := (List.getElem?_eq_some_iff.1 hr).1
  obtain ⟨k, hk⟩ : ∃ k, ranks.length - 1 = r + (k + 1) := ⟨ranks.length - 2 - r, by omega⟩
  have horder : List.range' 1 (ranks.length - 1) =
      List.range' 1 r ++ (r + 1) :: List.range' (r + 2) k := by
    rw [hk, range'_eq_append_cons, Nat.add_comm 1 r]
  obtain ⟨hfront, hback⟩ : (∀ i ∈ List.range' 1 r, i < r + 1) ∧
      ∀ i ∈ List.range' (r + 2) k, r + 1 < i := by
    constructor <;> intro i hi <;> rw [List.mem_range'_1] at hi <;> omega
  -- When the sweep comes to the rank, the ranks above it are as they are in the end.
  have hmid : sweep (sourcesOf edges) ranks (List.range' 1 r) =
      (sweep (sourcesOf edges) ranks (List.range' 1 (ranks.length - 1))).take (r + 1) ++
        ranks.drop (r + 1) := by
    have hlater : ∀ i ∈ (r + 1) :: List.range' (r + 2) k, r + 1 ≤ i := by
      simpa using fun i hi => Nat.le_of_lt (hback i hi)
    rw [horder, sweep_append, take_sweep hlater, ← drop_sweep hfront, List.take_append_drop]
  rw [← hmid, horder, getElem?_sweep (fun h => Nat.lt_irrefl _ (hfront _ h))
    (fun h => Nat.lt_irrefl _ (hback _ h)), hr]
  refine ⟨_, rfl, isRankSorted_rearrange (nodup_of_getElem? hranks hr) ?_⟩
  refine (hview (sweep_perm _ _ _)).before ?_
  rw [getElem?_sweep_of_not_mem fun h => Nat.lt_irrefl _ (hfront _ h), hr]

theorem isSweptUp_sweep (hranks : ranks.flatten.Nodup)
    (hview : ∀ {mid}, List.Forall₂ List.Perm mid ranks → view.Shows edges mid) :
    IsSweptUp view edges ranks
      (sweep (targetsOf edges) ranks (List.range (ranks.length - 1)).reverse) := by
  refine ⟨(sweep_perm _ _ _).length_eq, getElem?_sweep_of_not_mem (by simp), ?_⟩
  intro r rank hlt hr
  obtain ⟨k, hk⟩ : ∃ k, ranks.length - 1 = r + (k + 1) := ⟨ranks.length - 2 - r, by omega⟩
  have horder : (List.range (ranks.length - 1)).reverse =
      (List.range' (r + 1) k).reverse ++ r :: (List.range r).reverse := by
    rw [List.range_eq_range', hk, range'_eq_append_cons, List.range_eq_range']
    simp
  obtain ⟨hfront, hback⟩ : (∀ i ∈ (List.range' (r + 1) k).reverse, r < i) ∧
      ∀ i ∈ (List.range r).reverse, i < r := by
    constructor <;> intro i hi <;>
      simp only [List.mem_reverse, List.mem_range'_1, List.mem_range] at hi <;> omega
  -- When the sweep comes to the rank, the ranks below it are as they are in the end.
  have hmid : sweep (targetsOf edges) ranks
        (List.range' (r + 1) k).reverse =
      ranks.take (r + 1) ++
        (sweep (targetsOf edges) ranks (List.range (ranks.length - 1)).reverse).drop (r + 1) := by
    have hlater : ∀ i ∈ r :: (List.range r).reverse, i < r + 1 := by
      simpa using fun i hi => Nat.lt_succ_of_lt hi
    rw [horder, sweep_append, drop_sweep hlater, ← take_sweep hfront, List.take_append_drop]
  rw [← hmid, horder, getElem?_sweep (fun h => Nat.lt_irrefl _ (hfront _ h))
    (fun h => Nat.lt_irrefl _ (hback _ h)), hr]
  refine ⟨_, rfl, isRankSorted_rearrange (nodup_of_getElem? hranks hr) ?_⟩
  refine (hview (sweep_perm _ _ _)).after ?_ ?_
  · rw [(sweep_perm _ _ _).length_eq]
    exact hlt
  · rw [getElem?_sweep_of_not_mem fun h => Nat.lt_irrefl _ (hfront _ h), hr]

end OneSweep

/-! ## All sweeps -/

/-- So many times the ranks are swept down and up again. -/
inductive IsUntangled (view : View) (edges : List Edge) (ranks : List (List Text)) :
    Nat → List (List Text) → Prop
  | start : IsUntangled view edges ranks 0 ranks
  | pass {n : Nat} {before down after : List (List Text)}
      (earlier : IsUntangled view edges ranks n before)
      (goesDown : IsSweptDown view edges before down) (goesUp : IsSweptUp view edges down after) :
      IsUntangled view edges ranks (n + 1) after

/-- Untangling comes out in one way. -/
theorem IsUntangled.unique {view : View} {edges : List Edge} {ranks after after' : List (List Text)}
    {n : Nat} (h : IsUntangled view edges ranks n after)
    (h' : IsUntangled view edges ranks n after') : after = after' := by
  induction h generalizing after' with
  | start =>
    cases h'
    rfl
  | pass _ hdown hup ih =>
    cases h' with
    | pass earlier hdown' hup' =>
      obtain rfl := ih earlier
      obtain rfl := hdown.unique hdown'
      exact hup.unique hup'

section AllSweeps

variable {view : View} {edges : List Edge} {ranks : List (List Text)}

theorem nodup_of_forall₂_perm {a b : List (List Text)} (h : List.Forall₂ List.Perm a b)
    (hb : b.flatten.Nodup) : a.flatten.Nodup :=
  (List.Perm.flatten_congr h).nodup_iff.2 hb

/-- Untangling is one sweep down and up after another. -/
theorem untangle_isUntangled (hranks : ranks.flatten.Nodup)
    (hview : ∀ {mid}, List.Forall₂ List.Perm mid ranks → view.Shows edges mid) (passes : Nat) :
    IsUntangled view edges ranks (max 1 passes) (untangle edges passes ranks) := by
  have hrun (n : Nat) :
      let result := (List.range n).foldl (fun ranks _ => sweepBoth edges ranks) ranks
      List.Forall₂ List.Perm result ranks ∧ IsUntangled view edges ranks n result := by
    induction n with
    | zero => exact ⟨forall₂_perm_refl ranks, .start⟩
    | succ n ih =>
      obtain ⟨hperm, hbefore⟩ := ih
      rw [List.range_succ, List.foldl_append, List.foldl_cons, List.foldl_nil]
      generalize (List.range n).foldl (fun ranks _ => sweepBoth edges ranks) ranks = before
        at hperm hbefore ⊢
      have hnodup := nodup_of_forall₂_perm hperm hranks
      have hdown := isSweptDown_sweep hnodup fun h => hview (forall₂_perm_trans h hperm)
      have hperm' := forall₂_perm_trans
        (sweep_perm (sourcesOf edges) before (List.range' 1 (before.length - 1))) hperm
      have hup := isSweptUp_sweep (nodup_of_forall₂_perm hperm' hranks) fun h =>
        hview (forall₂_perm_trans h hperm')
      rw [hdown.length_eq] at hup
      exact ⟨forall₂_perm_trans (sweep_perm _ _ _) hperm', .pass hbefore hdown hup⟩
  exact (hrun (max 1 passes)).2

theorem isUntangled_iff (hranks : ranks.flatten.Nodup)
    (hview : ∀ {mid}, List.Forall₂ List.Perm mid ranks → view.Shows edges mid) (passes : Nat)
    (after : List (List Text)) : IsUntangled view edges ranks (max 1 passes) after ↔
      after = untangle edges passes ranks := by
  have huntangled := untangle_isUntangled hranks hview passes
  refine ⟨fun h => h.unique huntangled, ?_⟩
  rintro rfl
  exact huntangled

end AllSweeps

/-! ## Neighbours in the next rank -/

/-- Does an identifier stand in this rank? -/
def StandsIn (ranks : List (List Text)) (r : Nat) (id : Text) : Prop :=
  ∃ rank, ranks[r]? = some rank ∧ id ∈ rank

/-- Do edges join the identifiers of one rank to those of the next only? -/
def JoinsAdjacent (edges : List Edge) (ranks : List (List Text)) : Prop :=
  ∀ e ∈ edges, ∀ {r r'}, StandsIn ranks r e.source → StandsIn ranks r' e.target → r' = r + 1

/-- It is enough to look at the ranks that there are. -/
theorem joinsAdjacent_iff {edges : List Edge} {ranks : List (List Text)} :
    JoinsAdjacent edges ranks ↔ ∀ e ∈ edges, ∀ p ∈ ranks.zipIdx, ∀ q ∈ ranks.zipIdx,
      e.source ∈ p.1 → e.target ∈ q.1 → q.2 = p.2 + 1 := by
  simp only [JoinsAdjacent, StandsIn, List.mem_zipIdx_iff_getElem?]
  constructor
  · intro h e he p hp q hq hs ht
    exact h e he ⟨p.1, hp, hs⟩ ⟨q.1, hq, ht⟩
  · rintro h e he r r' ⟨rank, hr, hs⟩ ⟨rank', hr', ht⟩
    exact h e he (rank, r) hr (rank', r') hr' hs ht

/-- Identifiers stay in their ranks when these are rearranged. -/
theorem StandsIn.of_forall₂_perm {a b : List (List Text)} (h : List.Forall₂ List.Perm a b)
    {r : Nat} {id : Text} (hid : StandsIn a r id) : StandsIn b r id := by
  induction h generalizing r with
  | nil => exact hid
  | @cons rank rank' a b hperm _ ih =>
    cases r with
    | zero =>
      obtain ⟨_, heq, hmem⟩ := hid
      cases heq
      exact ⟨rank', rfl, hperm.subset hmem⟩
    | succ r => exact ih hid

theorem JoinsAdjacent.of_forall₂_perm {edges : List Edge} {a b : List (List Text)}
    (h : List.Forall₂ List.Perm a b) (hb : JoinsAdjacent edges b) : JoinsAdjacent edges a :=
  fun e he _ _ hs ht => hb e he (hs.of_forall₂_perm h) (ht.of_forall₂_perm h)

/-- What stands in one rank at most has its position there. -/
theorem inRank_eq_position? {ranks : List (List Text)} {r : Nat} {id : Text}
    (h : ∀ {r'}, StandsIn ranks r' id → r' = r) :
    View.inRank ranks r id = position? ranks id := by
  cases hpos : position? ranks id with
  | none =>
    have hnone := List.findSome?_eq_none_iff.1 hpos
    rw [View.inRank]
    cases hr : ranks[r]? with
    | none => rfl
    | some rank => exact hnone rank (List.mem_of_getElem? hr)
  | some p =>
    obtain ⟨above, rank, below, rfl, hidx, -⟩ := List.findSome?_eq_some_iff.1 hpos
    have hrank : (above ++ rank :: below)[above.length]? = some rank := by
      rw [List.getElem?_append_right (Nat.le_refl _), Nat.sub_self]
      rfl
    have hmem : id ∈ rank := by
      obtain ⟨hlt, heq, -⟩ := List.idxOf?_eq_some_iff.1 hidx
      exact heq ▸ List.getElem_mem hlt
    rw [View.inRank, ← h ⟨rank, hrank, hmem⟩, hrank]
    exact hidx

theorem everywhere_shows (edges : List Edge) (ranks : List (List Text)) :
    View.everywhere.Shows edges ranks :=
  ⟨fun _ _ _ => rfl, fun _ _ _ _ => rfl⟩

/-- Where edges join adjacent ranks, the neighbours of nodes all stand in the next rank. -/
theorem JoinsAdjacent.inRank_shows {edges : List Edge} {ranks : List (List Text)}
    (h : JoinsAdjacent edges ranks) : View.inRank.Shows edges ranks where
  before := by
    intro r rank hr id hid
    refine List.filterMap_congr fun source hsource => inRank_eq_position? fun hstands => ?_
    obtain ⟨e, hfound, rfl⟩ := List.mem_map.1 hsource
    obtain ⟨he, htarget⟩ := List.mem_filter.1 hfound
    rw [← of_decide_eq_true htarget] at hid
    exact (Nat.succ.inj (h e he hstands ⟨rank, hr, hid⟩)).symm
  after := by
    intro r rank _ hr id hid
    refine List.filterMap_congr fun target htarget => inRank_eq_position? fun hstands => ?_
    obtain ⟨e, hfound, rfl⟩ := List.mem_map.1 htarget
    obtain ⟨he, hsource⟩ := List.mem_filter.1 hfound
    rw [← of_decide_eq_true hsource] at hid
    exact h e he ⟨rank, hr, hid⟩ hstands

/-- Untangling moves nodes within their ranks only, and does so by the positions of their
neighbours in whichever rank these stand; where edges join adjacent ranks only, that is by their
positions in the next rank. -/
theorem untangle_sortsByNeighbours (edges : List Edge) (passes : Nat) {ranks : List (List Text)}
    (hranks : ranks.flatten.Nodup) :
    List.Forall₂ List.Perm (untangle edges passes ranks) ranks ∧
    (∀ after, IsUntangled .everywhere edges ranks (max 1 passes) after ↔
      after = untangle edges passes ranks) ∧
    (JoinsAdjacent edges ranks → ∀ after, IsUntangled .inRank edges ranks (max 1 passes) after ↔
      after = untangle edges passes ranks) :=
  ⟨untangle_perm edges passes ranks,
    isUntangled_iff hranks (fun _ => everywhere_shows edges _) passes,
    fun hadjacent => isUntangled_iff hranks
      (fun hperm => (hadjacent.of_forall₂_perm hperm).inRank_shows) passes⟩

/-- An edge between two identifiers. -/
def plainEdge (source target : String) : Edge :=
  ⟨source.toList ++ target.toList, source.toList, target.toList, none⟩

/-- Two nodes, and those that they lead to the other way round. -/
def crossedRanks : List (List Text) := [[['a'], ['b']], [['y'], ['x']]]

theorem isUntangled_crossedRanks : crossedRanks.flatten.Nodup ∧
    IsUntangled .inRank [plainEdge "a" "x", plainEdge "b" "y"] crossedRanks 2
      [[['a'], ['b']], [['x'], ['y']]] := by
  have hranks : crossedRanks.flatten.Nodup := by
    decide +kernel
  have hresult : untangle [plainEdge "a" "x", plainEdge "b" "y"] 2 crossedRanks =
      [[['a'], ['b']], [['x'], ['y']]] := by
    cbv
  obtain ⟨-, -, hadjacent⟩ :=
    untangle_sortsByNeighbours [plainEdge "a" "x", plainEdge "b" "y"] 2 hranks
  exact ⟨hranks, (hadjacent (joinsAdjacent_iff.2 (by decide +kernel)) _).2 hresult.symm⟩

/-- Two nodes with one neighbour in the rank before them; one of them follows a node of the
first rank too. -/
def skippedRanks : List (List Text) := [[['a'], ['b']], [['c']], [['x'], ['y']]]

/-- The edges between them. -/
def skippingEdges : List Edge :=
  [plainEdge "a" "c", plainEdge "c" "x", plainEdge "c" "y", plainEdge "b" "x"]

/-- Neighbours that do not stand in the next rank count too. -/
theorem not_isUntangled_skippedRanks : skippedRanks.flatten.Nodup ∧
    ¬IsUntangled .inRank skippingEdges skippedRanks 1
      (untangle skippingEdges 1 skippedRanks) := by
  refine ⟨by decide +kernel, fun h => ?_⟩
  have hresult : untangle skippingEdges 1 skippedRanks =
      [[['a'], ['b']], [['c']], [['y'], ['x']]] := by
    cbv
  rw [hresult] at h
  cases h with
  | @pass _ _ down _ earlier hdown hup =>
    cases earlier
    obtain ⟨top, next, last, rfl⟩ := List.length_eq_three.1 hdown.length_eq
    have hnext : next = [['c']] := by
      have hrank : skippedRanks[1]? = some [['c']] := rfl
      obtain ⟨_, heq, hperm, -⟩ := hdown.others hrank
      cases heq
      exact List.perm_singleton.1 hperm
    have hlast : last = [['y'], ['x']] := (Option.some.inj hup.last).symm
    subst hnext hlast
    have hrank : skippedRanks[2]? = some [['x'], ['y']] := rfl
    obtain ⟨_, heq, -, key, hkey, hsorted⟩ := hdown.others hrank
    cases heq
    -- The only neighbour of the second in the rank above is the first there.
    have hx : key ['x'] = 0 := (goesBy_iff.1 (hkey ['x'] List.mem_cons_self)).trans (by cbv)
    have hfirst := List.rel_of_pairwise_cons hsorted List.mem_cons_self
    rw [hx] at hfirst
    rcases hfirst with hlt | ⟨-, hlt⟩
    · exact Nat.not_lt_zero _ hlt
    · exact absurd hlt (by decide +kernel)

end Swimlane
