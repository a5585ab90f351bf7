import Swimlane.Proofs.Flowchart.Consistent

/-!
# Which group is the outermost that is open

Statements open and close groups like brackets: at any time as many groups are open as were
opened and not yet closed.  The outermost open one was opened where nothing else was open,
and nothing since then has closed it.  `Draft.Follows` ties a draft to the statements that
were read into it, and one case a kind of statement carries it along.
-/

namespace Swimlane

/-! ## Statements as brackets -/

/-- Does the statement open a group? -/
def Statement.opens (s : Statement) : Bool := (Draft.subgraphHeader? s.text).isSome

/-- Does the statement close a group? -/
def Statement.closes (s : Statement) : Bool := s.text = "end".toList

/-- The statement opens a group outside of all others, and the group is still open after the
last of the statements that follow. -/
structure OpensOutermost (before : List Statement) (s : Statement) (after : List Statement) :
    Prop where
  opens : s.opens = true
  balanced : before.countP Statement.closes = before.countP Statement.opens
  stays : ∀ part, part <+: after →
    part.countP Statement.closes ≤ part.countP Statement.opens

theorem Statement.closes_iff {s : Statement} : s.closes = true ↔ s.text = "end".toList :=
  decide_eq_true_iff

theorem Statement.closes_eq_false {s : Statement} (h : s.text ≠ "end".toList) :
    s.closes = false :=
  decide_eq_false h

/-- What closes a group opens none. -/
theorem Statement.opens_of_closes {s : Statement} (h : s.closes = true) : s.opens = false := by
  rw [opens, closes_iff.1 h]
  decide

/-! One more statement counts if it is of the kind that is counted, and not otherwise. -/

theorem countP_concat_true {p : Statement → Bool} {ss : List Statement} {s : Statement}
    (h : p s = true) : (ss ++ [s]).countP p = ss.countP p + 1 := by
  rw [List.countP_append, List.countP_singleton, if_pos h]

theorem countP_concat_false {p : Statement → Bool} {ss : List Statement} {s : Statement}
    (h : p s = false) : (ss ++ [s]).countP p = ss.countP p := by
  rw [List.countP_append, List.countP_singleton, h]
  rfl

/-- A group stays open if its last statement leaves it open. -/
theorem OpensOutermost.concat {before after : List Statement} {s last : Statement}
    (h : OpensOutermost before s after)
    (hlast : (after ++ [last]).countP Statement.closes ≤
      (after ++ [last]).countP Statement.opens) : OpensOutermost before s (after ++ [last]) where
  opens := h.opens
  balanced := h.balanced
  stays part hpart := by
    rcases List.prefix_concat_iff.1 hpart with rfl | hpart
    · exact hlast
    · exact h.stays part hpart

namespace Draft

/-! ## What statements do to the groups -/

/-- The open groups and the parents of the groups. -/
def nestingState (d : Draft) : List OpenGroup × List (Text × Option Text) :=
  (d.openGroups, d.graph.parentage)

/-- An addition leaves the groups as they are. -/
theorem Addition.nestingState_eq {d d' : Draft} (h : Addition d d') :
    d'.nestingState = d.nestingState := by
  cases h with
  | mention asStatement id r hname =>
    have hmarked : ((d.addNode id r).markImplied (!d.graph.hasNode id)
        (asStatement || r.hasBody) id).nestingState = d.nestingState := by
      rw [nestingState, openGroups_markImplied, graph_markImplied, openGroups_addNode,
        Graph.parentage, groups_addNode]
      rfl
    rw [Draft.mention]
    rcases claim_cases _ id with hsame | ⟨x, outer, n, -, -, -, -, hclaim⟩
    · rw [hsame, hmarked]
    · rw [hclaim, nestingState, Graph.parentage_putInto]
      exact hmarked
  | addEdge => rfl

theorem Additions.nestingState_eq {d d' : Draft} (h : Additions d d') :
    d'.nestingState = d.nestingState := by
  induction h with
  | refl => rfl
  | tail _ hlast ih => exact hlast.nestingState_eq.trans ih

/-! ## Drafts and the statements read into them -/

/-- The draft has the groups that the statements opened, those of them open that were not
closed, and it knows which statement opened the outermost of these. -/
structure Follows (d : Draft) (ss : List Statement) : Prop where
  opened : d.graph.parentage.length = ss.countP Statement.opens
  balance : d.openGroups.length + ss.countP Statement.closes = ss.countP Statement.opens
  outermost : ∀ x, d.openGroups.getLast? = some x → ∃ before s after,
    ss = before ++ s :: after ∧ OpensOutermost before s after ∧ x.line = s.line ∧
    d.graph.parentage[before.countP Statement.opens]? = some (x.id, none)

theorem follows_start (direction : Direction) : (start direction).Follows [] where
  opened := rfl
  balance := rfl
  outermost _ h := by cases h

variable {d d' : Draft} {ss : List Statement}

/-- A statement that neither opens nor closes a group leaves the groups as they are. -/
theorem Follows.pass (h : d.Follows ss) {s : Statement} (hopens : s.opens = false)
    (hcloses : s.closes = false) (hsame : d'.nestingState = d.nestingState) :
    d'.Follows (ss ++ [s]) := by
  obtain ⟨hstack, hparents⟩ := Prod.mk.inj hsame
  refine ⟨?_, ?_, fun x hx => ?_⟩
  · rw [hparents, h.opened, countP_concat_false hopens]
  · rw [hstack, countP_concat_false hopens, countP_concat_false hcloses]
    exact h.balance
  · rw [hstack] at hx
    obtain ⟨before, s', after, rfl, houter, hline, hid⟩ := h.outermost x hx
    refine ⟨before, s', after ++ [s], by simp, houter.concat ?_, hline, hparents ▸ hid⟩
    rw [countP_concat_false hopens, countP_concat_false hcloses]
    exact houter.stays after (List.prefix_refl _)

/-- A statement that closes a group closes the innermost; the outermost stays, unless it is
the same. -/
theorem Follows.close (h : d.Follows ss) {s : Statement} (hcloses : s.closes = true)
    {x : OpenGroup} {outer : List OpenGroup} (hopen : d.openGroups = x :: outer) :
    Follows { d with openGroups := outer } (ss ++ [s]) := by
  have hopens : s.opens = false := Statement.opens_of_closes hcloses
  have hbalance := h.balance
  rw [hopen, List.length_cons] at hbalance
  refine ⟨?_, ?_, fun y hy => ?_⟩
  · rw [h.opened, countP_concat_false hopens]
  · rw [countP_concat_false hopens, countP_concat_true hcloses]
    show outer.length + (_ + 1) = _
    omega
  · obtain ⟨first, rest, rfl⟩ : ∃ first rest, outer = first :: rest :=
      List.exists_cons_of_ne_nil fun hnil => by rw [hnil] at hy; cases hy
    have hlast : d.openGroups.getLast? = some y := by
      rw [hopen, List.getLast?_cons_cons]
      exact hy
    obtain ⟨before, s', after, rfl, houter, hline, hid⟩ := h.outermost y hlast
    refine ⟨before, s', after ++ [s], by simp, houter.concat ?_, hline, hid⟩
    -- two groups are open, so there is one more to close since the outermost was opened
    have hcloses' : s'.closes = false := by
      rw [Bool.eq_false_iff]
      exact fun hboth => Bool.noConfusion (houter.opens.symm.trans (Statement.opens_of_closes hboth))
    rw [List.length_cons, List.countP_append, List.countP_append, List.countP_cons,
      List.countP_cons, houter.opens, hcloses', houter.balanced] at hbalance
    rw [countP_concat_false hopens, countP_concat_true hcloses]
    simp only [if_true, Bool.false_eq_true, if_false] at hbalance
    omega

/-- A statement that opens a group opens one inside the innermost, and outside of all others
if none is open. -/
theorem Follows.enter (h : d.Follows ss) {s : Statement} (hopens : s.opens = true)
    (hcloses : s.closes = false) (name label : Text) :
    (d.enter s.line name label).Follows (ss ++ [s]) := by
  have hbalance := h.balance
  refine ⟨?_, ?_, fun x hx => ?_⟩
  · rw [parentage_enter, List.length_append, h.opened, countP_concat_true hopens]
    rfl
  · rw [openGroups_enter, List.length_cons, countP_concat_true hopens,
      countP_concat_false hcloses]
    omega
  · rw [openGroups_enter] at hx
    rw [parentage_enter]
    cases hstack : d.openGroups with
    | nil =>
      rw [hstack] at hx hbalance
      cases hx
      refine ⟨ss, s, [], rfl, ⟨hopens, ?_, ?_⟩, rfl, ?_⟩
      · simpa using hbalance
      · intro part hpart
        rw [List.prefix_nil.1 hpart]
        exact Nat.le_refl _
      · rw [← h.opened, List.getElem?_concat_length, innermost, hstack]
        rfl
    | cons first rest =>
      rw [hstack, List.getLast?_cons_cons, ← hstack] at hx
      obtain ⟨before, s', after, rfl, houter, hline, hid⟩ := h.outermost x hx
      refine ⟨before, s', after ++ [s], by simp, houter.concat ?_, hline, ?_⟩
      · have hstays := houter.stays after (List.prefix_refl _)
        rw [countP_concat_true hopens, countP_concat_false hcloses]
        exact Nat.le_succ_of_le hstays
      · rw [List.getElem?_append_left (List.getElem?_eq_some_iff.1 hid).1, hid]

/-- A draft follows the statements, also after one more was read. -/
theorem Follows.read (h : d.Follows ss) {s : Statement} (hread : d.read s = .ok d') :
    d'.Follows (ss ++ [s]) := by
  rcases readStatement_cases (ok_of_mapError hread) with ⟨hend, x, outer, hopen, rfl⟩ |
    ⟨hend, header, hheader, hgroup⟩ | ⟨hend, hheader, hrest⟩
  · exact h.close (Statement.closes_iff.2 hend) hopen
  · have hopens : s.opens = true := by rw [Statement.opens, hheader]; rfl
    obtain ⟨name, label, -, -, rfl⟩ := enter_of_openGroup hgroup
    exact h.enter hopens (Statement.closes_eq_false hend) name label
  · have hopens : s.opens = false := by rw [Statement.opens, hheader]; rfl
    refine h.pass hopens (Statement.closes_eq_false hend) ?_
    rcases hrest with ⟨direction, rfl⟩ | hadditions
    · rfl
    · exact hadditions.nestingState_eq

theorem Follows.foldlM_read {more : List Statement} (h : d.Follows ss)
    (hread : more.foldlM Draft.read d = .ok d') : d'.Follows (ss ++ more) := by
  induction more generalizing d ss with
  | nil =>
    cases hread
    rw [List.append_nil]
    exact h
  | cons s more ih =>
    rw [List.foldlM_cons] at hread
    obtain ⟨d₁, hs, hmore⟩ := ok_of_bind hread
    rw [← List.singleton_append, ← List.append_assoc]
    exact ih (h.read hs) hmore

end Draft

/-- The draft of a text follows the statements after its header. -/
theorem follows_of_draftOf {header : Statement} {rest : List Statement} {d : Draft}
    (h : draftOf (header :: rest) = .ok d) : d.Follows rest := by
  obtain ⟨start, hstart, hrest⟩ := ok_of_bind h
  obtain ⟨direction, rfl⟩ := start_of_readHeader hstart
  exact (Draft.follows_start direction).foldlM_read hrest

end Swimlane
