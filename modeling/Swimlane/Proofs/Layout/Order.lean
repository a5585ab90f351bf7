import Mathlib.Data.Char
import Mathlib.Data.List.Lex
import Mathlib.Data.Prod.Lex
import Mathlib.Data.Set.Finite.List
import Mathlib.Logic.Relation
import Mathlib.Order.WellFoundedSet
import Swimlane.Layout.Order

/-!
# The order along the flow is greedy

`flowOrder` counts for every identifier that waits the edges that still hold it back.  The
order that comes out is described here without any counts: the next identifier is the
earliest of those that nothing waiting leads to, or, where something waiting leads to each of
them, the earliest of all that wait (`IsNext`).  There is one such order for every list of
identifiers, and `flowOrder` finds it.  Where no edges run in a circle it is the least of all
orders in which every edge runs forward (`isGreedyOrder_and_least`).
-/

namespace Swimlane

/-! ## The earliest -/

/-- Is the first identifier declared before the second?  It has the smaller key, or the same
key and the smaller name. -/
def Precedes (key : Text → Nat) (a b : Text) : Prop := key a < key b ∨ (key a = key b ∧ a < b)

/-- The place of an identifier in the order of declaration. -/
def declaredPlace (key : Text → Nat) (id : Text) : Nat ×ₗ Text := toLex (key id, id)

/-- The identifier is the one with a property that is declared first. -/
structure IsEarliest (key : Text → Nat) (among : Text → Prop) (id : Text) : Prop where
  holds : among id
  first : ∀ other, among other → other ≠ id → Precedes key id other

section Earliest

variable {key : Text → Nat} {a b : Text}

theorem precedes_iff : Precedes key a b ↔ declaredPlace key a < declaredPlace key b := by
  rw [declaredPlace, declaredPlace, Prod.Lex.toLex_lt_toLex]
  rfl

theorem Precedes.asymm (h : Precedes key a b) : ¬Precedes key b a := by
  rw [precedes_iff] at h ⊢
  exact lt_asymm h

/-- Of two identifiers one is declared first. -/
theorem precedes_of_place_le (h : declaredPlace key a ≤ declaredPlace key b) (hne : b ≠ a) :
    Precedes key a b := by
  refine precedes_iff.2 (lt_of_le_of_ne h fun heq => hne ?_)
  exact (Prod.mk.inj (toLex_inj.1 heq)).2.symm

theorem IsEarliest.unique {among : Text → Prop} (ha : IsEarliest key among a)
    (hb : IsEarliest key among b) : a = b := by
  by_contra hne
  exact (ha.first b hb.holds (Ne.symm hne)).asymm (hb.first a ha.holds hne)

end Earliest

/-! ## The greedy order -/

/-- An edge from something that waits holds the identifier back. -/
def IsHeld (edges : List Edge) (waits : Text → Prop) (id : Text) : Prop :=
  ∃ e ∈ edges, e.target = id ∧ waits e.source

/-- The identifier is the next of those that wait: the earliest that nothing holds back, or the
earliest of all if everything is held back. -/
def IsNext (key : Text → Nat) (edges : List Edge) (waits : Text → Prop) (id : Text) : Prop :=
  IsEarliest key (fun x => waits x ∧ ¬IsHeld edges waits x) id ∨
    (∀ x, waits x → IsHeld edges waits x) ∧ IsEarliest key waits id

/-- The order lists every identifier once, and always the next of those not listed before. -/
structure IsGreedyOrder (key : Text → Nat) (ids : List Text) (edges : List Edge)
    (order : List Text) : Prop where
  nodup : order.Nodup
  mem_iff : ∀ id, id ∈ order ↔ id ∈ ids
  next : ∀ before id after, order = before ++ id :: after →
    IsNext key edges (fun x => x ∈ ids ∧ x ∉ before) id

theorem IsNext.unique {key : Text → Nat} {edges : List Edge} {waits : Text → Prop} {a b : Text}
    (ha : IsNext key edges waits a) (hb : IsNext key edges waits b) : a = b := by
  rcases ha with ha | ⟨hall, ha⟩ <;> rcases hb with hb | ⟨hall', hb⟩
  · exact ha.unique hb
  · exact absurd (hall' a ha.holds.1) ha.holds.2
  · exact absurd (hall b hb.holds.1) hb.holds.2
  · exact ha.unique hb

/-- Two lists of one length are the same, or there is a first place where they differ. -/
theorem eq_or_exists_difference {β : Type} {l l' : List β} (hlength : l.length = l'.length) :
    l = l' ∨ ∃ before a b after after', a ≠ b ∧ l = before ++ a :: after ∧
      l' = before ++ b :: after' := by
  induction l generalizing l' with
  | nil => exact Or.inl (List.length_eq_zero_iff.1 hlength.symm).symm
  | cons a rest ih =>
    cases l' with
    | nil => cases hlength
    | cons b rest' =>
      by_cases hab : a = b
      · subst hab
        rcases ih (Nat.succ.inj hlength) with rfl | ⟨before, x, y, after, after', hne, rfl, rfl⟩
        · exact Or.inl rfl
        · exact Or.inr ⟨a :: before, x, y, after, after', hne, rfl, rfl⟩
      · exact Or.inr ⟨[], a, b, rest, rest', hab, rfl, rfl⟩

section Orders

variable {key : Text → Nat} {ids : List Text} {edges : List Edge} {order other : List Text}

/-- Lists of the same identifiers without repetition are of one length. -/
theorem length_eq_of_mem_iff {l l' : List Text} (hl : l.Nodup) (hl' : l'.Nodup)
    (h : ∀ id, id ∈ l ↔ id ∈ ids) (h' : ∀ id, id ∈ l' ↔ id ∈ ids) : l.length = l'.length :=
  ((List.perm_ext_iff_of_nodup hl hl').2 fun id => (h id).trans (h' id).symm).length_eq

/-- There is only one greedy order. -/
theorem IsGreedyOrder.unique (h : IsGreedyOrder key ids edges order)
    (h' : IsGreedyOrder key ids edges other) : order = other := by
  rcases eq_or_exists_difference (length_eq_of_mem_iff h.nodup h'.nodup h.mem_iff h'.mem_iff) with
    heq | ⟨before, a, b, after, after', hne, hsplit, hsplit'⟩
  · exact heq
  · exact absurd ((h.next before a after hsplit).unique (h'.next before b after' hsplit')) hne

end Orders

/-! ## Counting down -/

namespace Waiting

theorem eq_nil_of_first? {waiting : List Waiting} (h : first? waiting = none) : waiting = [] := by
  cases waiting with
  | nil => rfl
  | cons w rest =>
    unfold first? at h
    split at h
    · cases h
    · cases h

/-- As long as something waits, there is a next. -/
theorem eq_nil_of_next? {waiting : List Waiting} (h : next? waiting = none) : waiting = [] :=
  eq_nil_of_first? (Option.or_eq_none_iff.1 h).2

theorem map_id_after (targets : List Text) (waiting : List Waiting) :
    (waiting.map (after targets)).map (·.id) = waiting.map (·.id) := by
  rw [List.map_map]
  rfl

/-- Everything that waits is listed once. -/
theorem listed_perm (edges : List Edge) (waiting : List Waiting) :
    (listed edges waiting).Perm (waiting.map (·.id)) := by
  induction waiting using listed.induct edges with
  | case1 waiting hnone =>
    rw [eq_nil_of_next? hnone, listed]
    exact List.Perm.refl _
  | case2 waiting w hnext ih =>
    rw [listed, hnext]
    rw [map_id_after] at ih
    exact (ih.cons w.id).trans ((List.perm_cons_erase (mem_of_next? hnext)).map Waiting.id).symm

/-- The place of something that waits in the order of declaration. -/
def place (w : Waiting) : Nat ×ₗ Text := toLex (w.key, w.id)

theorem precedes_iff_place {v w : Waiting} : v.precedes w = true ↔ v.place < w.place := by
  rw [precedes, decide_eq_true_iff, place, place, Prod.Lex.toLex_lt_toLex]

/-- Nothing in a list stands before the first of it. -/
theorem place_first?_le {waiting : List Waiting} {w : Waiting} (h : first? waiting = some w) :
    ∀ v ∈ waiting, w.place ≤ v.place := by
  induction waiting generalizing w with
  | nil => cases h
  | cons first rest ih =>
    unfold first? at h
    split at h
    · next other hother =>
      cases h
      have hrest := ih hother
      rw [List.forall_mem_cons]
      split
      · next hbefore => exact ⟨le_of_lt (precedes_iff_place.1 hbefore), hrest⟩
      · next hbefore =>
        have hle : first.place ≤ other.place :=
          not_lt.1 fun hlt => hbefore (precedes_iff_place.2 hlt)
        exact ⟨le_refl _, fun v hv => hle.trans (hrest v hv)⟩
    · next hnone =>
      cases h
      rw [eq_nil_of_first? hnone]
      exact List.forall_mem_singleton.2 (le_refl _)

/-- Every identifier waits once, with its key, and counts the edges to it from those that
wait. -/
structure Counts (key : Text → Nat) (edges : List Edge) (waiting : List Waiting) : Prop where
  nodup : (waiting.map (·.id)).Nodup
  key_eq : ∀ w ∈ waiting, w.key = key w.id
  pending_eq : ∀ w ∈ waiting, w.pending =
    edges.countP fun e => e.target = w.id ∧ e.source ∈ waiting.map (·.id)

variable {key : Text → Nat} {edges : List Edge} {waiting : List Waiting}

/-- What waits for no edge is held back by nothing. -/
theorem Counts.isHeld_iff (h : Counts key edges waiting) {w : Waiting} (hw : w ∈ waiting) :
    IsHeld edges (· ∈ waiting.map (·.id)) w.id ↔ w.pending ≠ 0 := by
  rw [h.pending_eq w hw, Ne, List.countP_eq_zero]
  simp only [decide_eq_true_eq, not_forall, not_not, exists_prop]
  rfl

theorem Counts.place_eq (h : Counts key edges waiting) {w : Waiting} (hw : w ∈ waiting) :
    w.place = declaredPlace key w.id := by
  rw [place, declaredPlace, h.key_eq w hw]

/-- What stands first among some that wait is the earliest of these. -/
theorem Counts.isEarliest (h : Counts key edges waiting) {some' : List Waiting}
    (hsome : some' ⊆ waiting) {w : Waiting} (hfirst : first? some' = some w) :
    IsEarliest key (· ∈ some'.map (·.id)) w.id where
  holds := List.mem_map.2 ⟨w, mem_of_first? hfirst, rfl⟩
  first other hother hne := by
    obtain ⟨v, hv, rfl⟩ := List.mem_map.1 hother
    have hle := place_first?_le hfirst v hv
    rw [h.place_eq (hsome hv), h.place_eq (hsome (mem_of_first? hfirst))] at hle
    exact precedes_of_place_le hle hne

/-- The counts find the next. -/
theorem Counts.isNext (h : Counts key edges waiting) {w : Waiting}
    (hnext : next? waiting = some w) : IsNext key edges (· ∈ waiting.map (·.id)) w.id := by
  have hfree (x : Text) : x ∈ (waiting.filter (·.pending = 0)).map (·.id) ↔
      x ∈ waiting.map (·.id) ∧ ¬IsHeld edges (· ∈ waiting.map (·.id)) x := by
    constructor
    · intro hx
      obtain ⟨v, hv, rfl⟩ := List.mem_map.1 hx
      obtain ⟨hmem, hzero⟩ := List.mem_filter.1 hv
      exact ⟨List.mem_map.2 ⟨v, hmem, rfl⟩,
        fun hheld => (h.isHeld_iff hmem).1 hheld (of_decide_eq_true hzero)⟩
    · rintro ⟨hx, hheld⟩
      obtain ⟨v, hv, rfl⟩ := List.mem_map.1 hx
      have hzero : v.pending = 0 := not_not.1 fun hne => hheld ((h.isHeld_iff hv).2 hne)
      exact List.mem_map.2 ⟨v, List.mem_filter.2 ⟨hv, decide_eq_true hzero⟩, rfl⟩
  rcases Option.or_eq_some_iff.1 hnext with hfirst | ⟨hnone, hfirst⟩
  · left
    rw [← funext fun x => propext (hfree x)]
    exact h.isEarliest (List.filter_subset_self _) hfirst
  · right
    refine ⟨fun x hx => ?_, h.isEarliest (List.Subset.refl _) hfirst⟩
    by_contra hheld
    have hmem := (hfree x).2 ⟨hx, hheld⟩
    rw [eq_nil_of_first? hnone] at hmem
    cases hmem

/-- What is left after one was taken, has lost this one alone. -/
theorem Counts.mem_erase_iff (h : Counts key edges waiting) {w : Waiting} (hw : w ∈ waiting)
    {x : Text} : x ∈ (waiting.erase w).map (·.id) ↔ x ∈ waiting.map (·.id) ∧ x ≠ w.id := by
  have hperm : (waiting.map (·.id)).Perm (w.id :: (waiting.erase w).map (·.id)) :=
    (List.perm_cons_erase hw).map Waiting.id
  have hnew := (List.nodup_cons.1 (hperm.nodup_iff.1 h.nodup)).1
  rw [hperm.mem_iff, List.mem_cons]
  constructor
  · intro hx
    exact ⟨Or.inr hx, fun heq => hnew (heq ▸ hx)⟩
  · rintro ⟨heq | hx, hne⟩
    · exact absurd heq hne
    · exact hx

/-- After one was taken, the others count the edges that are left. -/
theorem Counts.after (h : Counts key edges waiting) {w : Waiting} (hw : w ∈ waiting) :
    Counts key edges ((waiting.erase w).map (Waiting.after (targetsOf edges w.id))) where
  nodup := by
    rw [map_id_after]
    exact h.nodup.sublist (List.erase_sublist.map _)
  key_eq v' hv' := by
    obtain ⟨v, hv, rfl⟩ := List.mem_map.1 hv'
    exact h.key_eq v (List.mem_of_mem_erase hv)
  pending_eq v' hv' := by
    obtain ⟨v, hv, rfl⟩ := List.mem_map.1 hv'
    have htaken : (targetsOf edges w.id).countP (· = v.id) =
        (edges.filter (·.source = w.id)).countP (·.target = v.id) := by
      rw [targetsOf, List.countP_map]
      rfl
    have hsplit := List.countP_eq_countP_filter_add edges
      (fun e => decide (e.target = v.id ∧ e.source ∈ waiting.map (·.id))) (·.source = w.id)
    have hown : (edges.filter (·.source = w.id)).countP
        (fun e => decide (e.target = v.id ∧ e.source ∈ waiting.map (·.id))) =
        (edges.filter (·.source = w.id)).countP (·.target = v.id) := by
      refine List.countP_congr fun e he => ?_
      have hsource : e.source = w.id := of_decide_eq_true (List.mem_filter.1 he).2
      have hmem : w.id ∈ waiting.map (·.id) := List.mem_map.2 ⟨w, hw, rfl⟩
      simp only [decide_eq_true_eq, hsource, hmem, and_true]
    have hothers : (edges.filter fun e => !decide (e.source = w.id)).countP
        (fun e => decide (e.target = v.id ∧ e.source ∈ waiting.map (·.id))) =
        edges.countP fun e =>
          decide (e.target = v.id ∧ e.source ∈ (waiting.erase w).map (·.id)) := by
      rw [List.countP_filter]
      refine List.countP_congr fun e _ => ?_
      simp only [Bool.and_eq_true, decide_eq_true_eq, Bool.not_eq_true', decide_eq_false_iff_not,
        h.mem_erase_iff hw, and_assoc]
    rw [map_id_after]
    show v.pending - (targetsOf edges w.id).countP (· = v.id) = _
    rw [h.pending_eq v (List.mem_of_mem_erase hv), htaken, hsplit, hown, hothers,
      Nat.add_sub_cancel_left]
    rfl

/-- Whatever is listed was the next of those that had not been listed before. -/
theorem Counts.isNext_of_listed (h : Counts key edges waiting) {before : List Text} {id : Text}
    {after : List Text} (hsplit : listed edges waiting = before ++ id :: after) :
    IsNext key edges (fun x => x ∈ waiting.map (·.id) ∧ x ∉ before) id := by
  induction waiting using listed.induct edges generalizing before with
  | case1 waiting hnone =>
    rw [listed, hnone] at hsplit
    exact absurd hsplit.symm (List.append_ne_nil_of_right_ne_nil _ (List.cons_ne_nil _ _))
  | case2 waiting w hnext ih =>
    rw [listed, hnext] at hsplit
    have hw := mem_of_next? hnext
    cases before with
    | nil =>
      obtain ⟨rfl, -⟩ := List.cons_eq_cons.1 hsplit
      simpa using h.isNext hnext
    | cons first before =>
      obtain ⟨rfl, hrest⟩ := List.cons_eq_cons.1 hsplit
      have hleft := ih (h.after hw) hrest
      simp only [map_id_after, h.mem_erase_iff hw] at hleft
      simpa only [List.mem_cons, not_or, and_assoc] using hleft

/-- Without its repetitions a list has none. -/
theorem nodup_eraseDups : ∀ ids : List Text, ids.eraseDups.Nodup
  | [] => List.nodup_nil
  | id :: rest => by
    rw [List.eraseDups_cons]
    refine List.nodup_cons.2 ⟨fun hid => ?_, nodup_eraseDups _⟩
    have hother := (List.mem_filter.1 (List.mem_eraseDups.1 hid)).2
    rw [beq_self_eq_true] at hother
    cases hother
termination_by ids => ids.length
decreasing_by exact Nat.lt_succ_of_le (List.length_filter_le _ rest)

/-- At first every identifier counts all edges to it. -/
theorem counts_start (key : Text → Nat) (ids : List Text) (edges : List Edge) :
    Counts key (edges.filter (·.isWithin ids)) (ids.eraseDups.map fun id =>
      ⟨id, key id, (edges.filter (·.isWithin ids)).countP (·.target = id)⟩) := by
  have hids : (ids.eraseDups.map fun id => (⟨id, key id,
      (edges.filter (·.isWithin ids)).countP (·.target = id)⟩ : Waiting)).map (·.id) =
      ids.eraseDups := by
    rw [List.map_map]
    exact List.map_id' _
  refine ⟨?_, ?_, ?_⟩
  · rw [hids]
    exact nodup_eraseDups ids
  · exact List.forall_mem_map.2 fun _ _ => rfl
  · rw [hids]
    refine List.forall_mem_map.2 fun id _ => List.countP_congr fun e he => ?_
    have hwithin := (List.mem_filter.1 he).2
    rw [Edge.isWithin, Bool.and_eq_true, List.contains_iff_mem] at hwithin
    simp only [decide_eq_true_eq, List.mem_eraseDups, hwithin.1, and_true]

end Waiting

/-! ## The order along the flow -/

section Flow

variable {key : Text → Nat} {ids : List Text} {edges : List Edge} {order other : List Text}

/-- Only edges between the identifiers hold one of them back. -/
theorem isHeld_filter_isWithin {waits : Text → Prop} (hwaits : ∀ x, waits x → x ∈ ids) {id : Text}
    (hid : id ∈ ids) :
    IsHeld (edges.filter (·.isWithin ids)) waits id ↔ IsHeld edges waits id := by
  constructor
  · rintro ⟨e, he, htarget, hsource⟩
    exact ⟨e, (List.mem_filter.1 he).1, htarget, hsource⟩
  · rintro ⟨e, he, htarget, hsource⟩
    refine ⟨e, List.mem_filter.2 ⟨he, ?_⟩, htarget, hsource⟩
    rw [Edge.isWithin, Bool.and_eq_true, List.contains_iff_mem, List.contains_iff_mem, htarget]
    exact ⟨hwaits _ hsource, hid⟩

theorem IsNext.of_filter_isWithin {waits : Text → Prop} (hwaits : ∀ x, waits x → x ∈ ids)
    {id : Text} (h : IsNext key (edges.filter (·.isWithin ids)) waits id) :
    IsNext key edges waits id := by
  have hheld (x : Text) (hx : waits x) :
      IsHeld (edges.filter (·.isWithin ids)) waits x ↔ IsHeld edges waits x :=
    isHeld_filter_isWithin hwaits (hwaits x hx)
  refine h.imp (fun hfree => ?_) fun hall => ⟨fun x hx => (hheld x hx).1 (hall.1 x hx), hall.2⟩
  have hsame (x : Text) : (waits x ∧ ¬IsHeld (edges.filter (·.isWithin ids)) waits x) ↔
      (waits x ∧ ¬IsHeld edges waits x) :=
    and_congr_right fun hx => not_congr (hheld x hx)
  rwa [funext fun x => propext (hsame x)] at hfree

/-- The order along the flow is the greedy one. -/
theorem isGreedyOrder_flowOrder (key : Text → Nat) (ids : List Text) (edges : List Edge) :
    IsGreedyOrder key ids edges (flowOrder key ids edges) := by
  have hcounts := Waiting.counts_start key ids edges
  have hids := hcounts.nodup
  have hperm := Waiting.listed_perm (edges.filter (·.isWithin ids)) (ids.eraseDups.map fun id =>
    ⟨id, key id, (edges.filter (·.isWithin ids)).countP (·.target = id)⟩)
  have hmem (x : Text) : x ∈ (ids.eraseDups.map fun id => (⟨id, key id,
      (edges.filter (·.isWithin ids)).countP (·.target = id)⟩ : Waiting)).map (·.id) ↔ x ∈ ids := by
    rw [List.map_map]
    simp [Function.comp_def]
  refine ⟨hperm.nodup_iff.2 hids, fun id => hperm.mem_iff.trans (hmem id), ?_⟩
  intro before id after hsplit
  have hnext := hcounts.isNext_of_listed hsplit
  simp only [hmem] at hnext
  exact hnext.of_filter_isWithin fun x hx => hx.1

/-! ## Circles -/

/-- An edge leads from the first to the second, and both have a property. -/
def Leads (edges : List Edge) (among : Text → Prop) (a b : Text) : Prop :=
  among a ∧ among b ∧ ∃ e ∈ edges, e.source = a ∧ e.target = b

theorem Leads.mono {among among' : Text → Prop} (h : ∀ x, among x → among' x) {a b : Text}
    (hab : Leads edges among a b) : Leads edges among' a b :=
  ⟨h a hab.1, h b hab.2.1, hab.2.2⟩

/-- Where everything that waits is held back, something waiting runs in a circle, and leads from
there to whatever waits. -/
theorem exists_circle_of_forall_isHeld {waits : Text → Prop} (hwaits : ∀ x, waits x → x ∈ ids)
    (hheld : ∀ x, waits x → IsHeld edges waits x) {a : Text} (ha : waits a) :
    ∃ c, Relation.TransGen (Leads edges waits) c c ∧
      Relation.ReflTransGen (Leads edges waits) c a := by
  by_contra hno
  -- without a circle one of what leads to `a` would have nothing before it
  let before (x y : Text) : Prop := Relation.TransGen (Leads edges waits) x y ∧
    Relation.ReflTransGen (Leads edges waits) y a
  have : IsStrictOrder Text before :=
    { irrefl := fun x hx => hno ⟨x, hx⟩
      trans := fun x y z hxy hyz => ⟨hxy.1.trans hyz.1, hyz.2⟩ }
  have hfinite : {x | x ∈ ids}.WellFoundedOn before := (List.finite_toSet ids).wellFoundedOn
  have hnone : ¬(waits a ∧ Relation.ReflTransGen (Leads edges waits) a a) := by
    refine hfinite.induction (hwaits a ha)
      (P := fun x => ¬(waits x ∧ Relation.ReflTransGen (Leads edges waits) x a)) ?_
    rintro x - hbefore ⟨hx, hreach⟩
    obtain ⟨e, he, htarget, hsource⟩ := hheld x hx
    have hstep : Leads edges waits e.source x := ⟨hsource, hx, e, he, rfl, htarget⟩
    exact hbefore e.source (hwaits _ hsource) ⟨.single hstep, hreach⟩
      ⟨hsource, .head hstep hreach⟩
  exact hnone ⟨ha, .refl⟩

/-! ## Orders that run forward -/

/-- The order lists every identifier once, and the source of every edge before its target. -/
structure RunsForward (ids : List Text) (edges : List Edge) (order : List Text) : Prop where
  nodup : order.Nodup
  mem_iff : ∀ id, id ∈ order ↔ id ∈ ids
  forward : ∀ a b, Leads edges (· ∈ ids) a b → [a, b].Sublist order

theorem pair_sublist_of_mem {a b : Text} {before after : List Text} (ha : a ∈ before) :
    [a, b].Sublist (before ++ b :: after) :=
  (List.singleton_sublist.2 ha).append (List.singleton_sublist.2 List.mem_cons_self)

/-- What is listed before another is among what is listed up to it. -/
theorem mem_of_pair_sublist {a b : Text} {before after : List Text}
    (hnodup : (before ++ b :: after).Nodup) (h : [a, b].Sublist (before ++ b :: after)) :
    a ∈ before := by
  obtain ⟨front, back, hsplit, ha, hb⟩ := List.cons_sublist_iff.1 h
  have hback : b ∈ back := List.singleton_sublist.1 hb
  have hfront : b ∉ front := fun hmem =>
    (List.nodup_append.1 (hsplit ▸ hnodup)).2.2 b hmem b hback rfl
  rcases List.append_eq_append_iff.1 hsplit with ⟨between, rfl, hrest⟩ | ⟨between, rfl, hrest⟩
  · cases between with
    | nil => rwa [List.append_nil] at ha
    | cons first between =>
      obtain ⟨rfl, -⟩ := List.cons_eq_cons.1 hrest
      exact absurd (List.mem_append_right _ List.mem_cons_self) hfront
  · exact List.mem_append_left _ ha

/-- What is listed before another has the smaller index. -/
theorem idxOf_lt_of_pair_sublist {a b : Text} (hnodup : order.Nodup)
    (h : [a, b].Sublist order) : order.idxOf a < order.idxOf b := by
  obtain ⟨before, after, rfl⟩ :=
    List.append_of_mem (h.subset (List.mem_cons_of_mem a (List.mem_singleton_self b)))
  have ha := mem_of_pair_sublist hnodup h
  have hb : b ∉ before := fun hmem =>
    (List.nodup_append.1 hnodup).2.2 b hmem b List.mem_cons_self rfl
  rw [List.idxOf_append_of_mem ha, List.idxOf_append_of_notMem hb]
  exact Nat.lt_add_right _ (List.idxOf_lt_length_of_mem ha)

/-- Along a path whose steps all lead to a later place, the end has a later place than the
start. -/
theorem lt_of_transGen {r : Text → Text → Prop} (place : Text → Nat)
    (h : ∀ a b, r a b → place a < place b) {a b : Text} (hpath : Relation.TransGen r a b) :
    place a < place b := by
  induction hpath with
  | single hab => exact h _ _ hab
  | tail _ hbc ih => exact ih.trans (h _ _ hbc)

/-- In an order that runs forward whatever a path leads to is listed later. -/
theorem RunsForward.idxOf_lt (h : RunsForward ids edges order) {a b : Text}
    (hpath : Relation.TransGen (Leads edges (· ∈ ids)) a b) : order.idxOf a < order.idxOf b :=
  lt_of_transGen order.idxOf (fun _ _ hab => idxOf_lt_of_pair_sublist h.nodup (h.forward _ _ hab)) hpath

/-- In an order that runs forward no edges run in a circle. -/
theorem RunsForward.no_circle (h : RunsForward ids edges order) (id : Text) :
    ¬Relation.TransGen (Leads edges (· ∈ ids)) id id :=
  fun hcircle => lt_irrefl _ (h.idxOf_lt hcircle)

/-- If the target of an edge is listed before its source, then everything was held back when it
was listed. -/
theorem IsGreedyOrder.forall_isHeld (h : IsGreedyOrder key ids edges order) {a b : Text}
    (hab : Leads edges (· ∈ ids) a b) {before after : List Text}
    (hsplit : order = before ++ b :: after) (ha : a ∉ before) :
    (∀ x, x ∈ ids ∧ x ∉ before → IsHeld edges (fun x => x ∈ ids ∧ x ∉ before) x) ∧
      IsEarliest key (fun x => x ∈ ids ∧ x ∉ before) b := by
  obtain ⟨hids, -, e, he, rfl, htarget⟩ := hab
  refine (h.next before b after hsplit).resolve_left fun hfree => ?_
  exact hfree.holds.2 ⟨e, he, htarget, hids, ha⟩

/-- The source of an edge is listed before its target, or it was not listed when the target
was. -/
theorem IsGreedyOrder.pair_sublist_or (h : IsGreedyOrder key ids edges order) {a b : Text}
    (hab : Leads edges (· ∈ ids) a b) : [a, b].Sublist order ∨
      ∃ before after, order = before ++ b :: after ∧ a ∉ before := by
  obtain ⟨before, after, hsplit⟩ := List.append_of_mem ((h.mem_iff b).2 hab.2.1)
  by_cases ha : a ∈ before
  · exact Or.inl (hsplit ▸ pair_sublist_of_mem ha)
  · exact Or.inr ⟨before, after, hsplit, ha⟩

/-- Where no edges run in a circle, the greedy order runs forward. -/
theorem IsGreedyOrder.runsForward (h : IsGreedyOrder key ids edges order)
    (hno : ∀ id, ¬Relation.TransGen (Leads edges (· ∈ ids)) id id) :
    RunsForward ids edges order where
  nodup := h.nodup
  mem_iff := h.mem_iff
  forward a b hab := by
    refine (h.pair_sublist_or hab).resolve_right ?_
    rintro ⟨before, after, hsplit, ha⟩
    obtain ⟨hheld, -⟩ := h.forall_isHeld hab hsplit ha
    obtain ⟨c, hcircle, -⟩ := exists_circle_of_forall_isHeld (fun _ hx => hx.1) hheld ⟨hab.1, ha⟩
    exact hno c (Relation.TransGen.mono (fun _ _ => Leads.mono fun _ hx => hx.1) _ _ hcircle)

/-- The greedy order is the least of those that run forward. -/
theorem IsGreedyOrder.least (h : IsGreedyOrder key ids edges order)
    (hother : RunsForward ids edges other) :
    other = order ∨ List.Lex (Precedes key) order other := by
  rcases eq_or_exists_difference
      (length_eq_of_mem_iff h.nodup hother.nodup h.mem_iff hother.mem_iff) with
    heq | ⟨before, a, b, after, after', hne, hsplit, hsplit'⟩
  · exact Or.inl heq.symm
  · right
    have hnodup := hother.nodup
    rw [hsplit'] at hnodup
    have hb : b ∈ ids ∧ b ∉ before := by
      refine ⟨(hother.mem_iff b).1 (hsplit' ▸ List.mem_append_right _ List.mem_cons_self), ?_⟩
      exact fun hmem => (List.nodup_append.1 hnodup).2.2 b hmem b List.mem_cons_self rfl
    have hfree : ¬IsHeld edges (fun x => x ∈ ids ∧ x ∉ before) b := by
      rintro ⟨e, he, htarget, hsource, hlate⟩
      have hforward := hother.forward e.source b ⟨hsource, hb.1, e, he, rfl, htarget⟩
      rw [hsplit'] at hforward
      exact hlate (mem_of_pair_sublist hnodup hforward)
    have hfirst : Precedes key a b := by
      rcases h.next before a after hsplit with hearliest | ⟨hall, -⟩
      · exact hearliest.first b ⟨hb, hfree⟩ (Ne.symm hne)
      · exact absurd (hall b hb) hfree
    rw [hsplit, hsplit']
    exact List.Lex.append_left _ (List.Lex.rel hfirst) before

/-- The order along the flow is the greedy order of the identifiers, which is the only one; it
runs forward exactly if no edges run in a circle, and none that runs forward stands before it
in the order of words over the declared places. -/
theorem isGreedyOrder_and_least (key : Text → Nat) (ids : List Text) (edges : List Edge) :
    (∀ order, IsGreedyOrder key ids edges order ↔ order = flowOrder key ids edges) ∧
      (RunsForward ids edges (flowOrder key ids edges) ↔
        ∀ id, ¬Relation.TransGen (Leads edges (· ∈ ids)) id id) ∧
      ∀ other, RunsForward ids edges other → other = flowOrder key ids edges ∨
        List.Lex (Precedes key) (flowOrder key ids edges) other := by
  have hgreedy := isGreedyOrder_flowOrder key ids edges
  refine ⟨fun order => ⟨fun h => h.unique hgreedy, fun h => h ▸ hgreedy⟩,
    ⟨RunsForward.no_circle, hgreedy.runsForward⟩, fun other hother => hgreedy.least hother⟩

end Flow

end Swimlane
