import Swimlane.Proofs.Flowchart.Appending
import Swimlane.Proofs.Flowchart.OpenGroups

/-!
# The first fault counts

A text is read from the front, and its first fault is reported: the lines up to the fault
are refused for it, whatever follows them, and fewer lines are not.  Only when all
statements could be read is it an error that a group is still open, and then the outermost
such group is named.  No reader reports this fault (`neverUnclosed_readStatement`), so the
two kinds of errors cannot be mistaken for each other.
-/

namespace Swimlane

/-! ## The first lines of a text -/

/-- The first lines of a text. -/
def firstLines (n : Nat) (s : Text) : Text := joinWith ['\n'] ((pieces (· = '\n') s).take n)

/-- The statements of the first lines. -/
theorem statements_firstLines (n : Nat) (s : Text) :
    statements (firstLines n s) = statementsFrom 1 ((pieces (· = '\n') s).take n) := by
  rw [statements, lines, statementsFrom_linesOfPieces, firstLines]
  cases n with
  | zero => rfl
  | succ n =>
    rw [pieces_joinWith]
    · rw [Ne, List.take_eq_nil_iff, not_or]
      exact ⟨Nat.succ_ne_zero n, pieces_ne_nil _ s⟩
    · intro l hl hfeed
      have hnone := (of_mem_pieces (List.mem_of_mem_take hl) hfeed).2
      exact absurd rfl (of_decide_eq_false hnone)

/-- Statements know their lines. -/
theorem line_of_mem_statementsFrom {number : Nat} {ls : List Text} {x : Statement}
    (hx : x ∈ statementsFrom number ls) : number ≤ x.line ∧ x.line < number + ls.length := by
  induction ls generalizing number with
  | nil => exact absurd hx List.not_mem_nil
  | cons l rest ih =>
    have hrest (hx : x ∈ statementsFrom (number + 1) rest) :
        number ≤ x.line ∧ x.line < number + (l :: rest).length := by
      have hbounds := ih hx
      rw [List.length_cons]
      omega
    rw [statementsFrom] at hx
    split at hx
    · rcases List.mem_append.1 hx with hx | hx
      · obtain ⟨text, -, rfl⟩ := List.mem_map.1 hx
        exact ⟨Nat.le_refl _, Nat.lt_add_of_pos_right (Nat.succ_pos _)⟩
      · exact hrest hx
    · exact hrest hx

/-- A statement is one of the first lines if its line is, and then all before it are too. -/
theorem statements_firstLines_of_eq {s : Text} {before after : List Statement} {x : Statement}
    (h : statements s = before ++ x :: after) (n : Nat) :
    (x.line ≤ n → ∃ more, statements (firstLines n s) = before ++ x :: more) ∧
      (n < x.line → statements (firstLines n s) <+: before) := by
  have hsplit : statements (firstLines n s) ++
      statementsFrom (1 + ((pieces (· = '\n') s).take n).length) ((pieces (· = '\n') s).drop n) =
        before ++ x :: after := by
    rw [statements_firstLines, ← statementsFrom_append, List.take_append_drop, ← h, statements,
      lines, statementsFrom_linesOfPieces]
  have hfront (hx : x ∈ statements (firstLines n s)) : x.line ≤ n := by
    rw [statements_firstLines] at hx
    have hline := (line_of_mem_statementsFrom hx).2
    rw [List.length_take] at hline
    omega
  have hback {number : Nat} (hnumber : number = 1 + ((pieces (· = '\n') s).take n).length)
      (hx : x ∈ statementsFrom number ((pieces (· = '\n') s).drop n)) : n < x.line := by
    have hline := line_of_mem_statementsFrom hx
    rw [List.length_drop] at hline
    rw [List.length_take] at hnumber
    omega
  rcases List.append_eq_append_iff.1 hsplit with ⟨between, hbefore, hrest⟩ |
    ⟨between, hfirst, hrest⟩
  · have hlate : n < x.line :=
      hback rfl (hrest ▸ List.mem_append_right _ List.mem_cons_self)
    exact ⟨fun hle => absurd hlate (Nat.not_lt.2 hle), fun _ => ⟨between, hbefore.symm⟩⟩
  · cases between with
    | nil =>
      rw [List.append_nil] at hfirst
      rw [List.nil_append] at hrest
      have hlate : n < x.line := hback rfl (hrest ▸ List.mem_cons_self)
      exact ⟨fun hle => absurd hlate (Nat.not_lt.2 hle), fun _ => hfirst ▸ List.prefix_refl _⟩
    | cons y between =>
      obtain ⟨rfl, -⟩ := List.cons_eq_cons.1 hrest
      have hearly : x.line ≤ n := hfront (hfirst ▸ List.mem_append_right _ List.mem_cons_self)
      exact ⟨fun _ => ⟨between, hfirst⟩, fun hlt => absurd hlt (Nat.not_lt.2 hearly)⟩

/-! ## Readers do not ask for the end of a group -/

/-- The reading does not fail for a group that is never closed. -/
def NeverUnclosed {β : Type} (x : Except SyntaxFault β) : Prop :=
  ∀ id, x ≠ .error (.unclosedSubgraph id)

theorem neverUnclosed_ok {β : Type} (b : β) :
    NeverUnclosed (.ok b : Except SyntaxFault β) := fun _ h => by cases h

theorem NeverUnclosed.bind {β γ : Type} {x : Except SyntaxFault β} {f : β → Except SyntaxFault γ}
    (hx : NeverUnclosed x) (hf : ∀ b, NeverUnclosed (f b)) : NeverUnclosed (x >>= f) := by
  intro id h
  rcases error_of_bind h with hfirst | ⟨b, -, hsecond⟩
  · exact hx id hfirst
  · exact hf b id hsecond

theorem NeverUnclosed.map {β γ : Type} {x : Except SyntaxFault β} (hx : NeverUnclosed x)
    (f : β → γ) : NeverUnclosed (x.map f) := by
  cases x with
  | error e => exact fun id h => hx id (by cases h; rfl)
  | ok b => exact neverUnclosed_ok (f b)

namespace Draft

theorem neverUnclosed_readRef (s : Text) : NeverUnclosed (readRef s) := by
  intro id h
  unfold readRef at h
  split at h
  · cases h
  · split at h <;> cases h

theorem neverUnclosed_refer (d : Draft) (asStatement : Bool) (r : NodeRef) :
    NeverUnclosed (d.refer asStatement r) := by
  refine NeverUnclosed.bind (fun id h => ?_) fun id => neverUnclosed_ok _
  unfold refName at h
  split at h
  · split at h <;> cases h
  · cases h

theorem neverUnclosed_referSide (d : Draft) (parts : List Text) :
    NeverUnclosed (d.referSide parts) := by
  induction parts generalizing d with
  | nil => exact neverUnclosed_ok _
  | cons part rest ih =>
    exact (neverUnclosed_readRef part).bind fun r =>
      (neverUnclosed_refer d false r).bind fun p => (ih p.2).bind fun _ => neverUnclosed_ok _

theorem neverUnclosed_addLink (d : Draft) (link : Link) : NeverUnclosed (d.addLink link) :=
  (neverUnclosed_referSide d _).bind fun left =>
    (neverUnclosed_referSide left.2 _).bind fun _ => neverUnclosed_ok _

theorem neverUnclosed_addChain (d : Draft) (statement : Text) (parts : List Text) :
    NeverUnclosed (d.addChain statement parts) := by
  induction parts generalizing d with
  | nil => exact neverUnclosed_ok d
  | cons part rest ih =>
    rw [addChain]
    split
    · exact fun id h => by cases h
    · next link _ => exact (neverUnclosed_addLink d link).bind ih

theorem neverUnclosed_addEdges (d : Draft) (statement : Text) :
    NeverUnclosed (d.addEdges statement) := by
  unfold addEdges
  split
  · exact neverUnclosed_ok _
  · split
    · next parts _ => exact (neverUnclosed_addChain d statement parts).map some
    · split
      · next link _ => exact (neverUnclosed_addLink d link).map some
      · split
        · exact fun id h => by cases h
        · exact neverUnclosed_ok _

/-- No statement is refused for a group that is never closed. -/
theorem neverUnclosed_readStatement (d : Draft) (line : Nat) (statement : Text) :
    NeverUnclosed (d.readStatement line statement) := by
  unfold readStatement
  split
  · split
    · exact fun id h => by cases h
    · exact neverUnclosed_ok _
  · split
    · unfold openGroup
      split
      · exact fun id h => by cases h
      · exact neverUnclosed_ok _
    · split
      · exact neverUnclosed_ok _
      · split
        · exact neverUnclosed_ok _
        · refine (neverUnclosed_addEdges d statement).bind fun result => ?_
          cases result with
          | some d' => exact neverUnclosed_ok d'
          | none =>
            exact (neverUnclosed_readRef statement).bind fun r =>
              (neverUnclosed_refer d true r).bind fun _ => neverUnclosed_ok _

/-- A statement is refused on its own line. -/
theorem error_of_read {d : Draft} {x : Statement} {e : SyntaxError} (h : d.read x = .error e) :
    e.line = x.line ∧ ∀ id, e.fault ≠ .unclosedSubgraph id := by
  obtain ⟨fault, hfault, rfl⟩ := error_of_mapError h
  refine ⟨rfl, ?_⟩
  rintro id rfl
  exact neverUnclosed_readStatement d x.line x.text id hfault

end Draft

/-- A header is refused on its own line. -/
theorem error_of_readHeader {x : Statement} {e : SyntaxError} (h : readHeader x = .error e) :
    e.line = x.line ∧ ∀ id, e.fault ≠ .unclosedSubgraph id := by
  unfold readHeader at h
  split at h
  · cases h
    exact ⟨rfl, fun id hid => by cases hid⟩
  · cases h
  · split at h
    · cases h
    · cases h
      exact ⟨rfl, fun id hid => by cases hid⟩

/-! ## The statement that is refused -/

/-- The statements are refused for this one, after those before it were read. -/
structure IsRefused (before : List Statement) (x : Statement) (e : SyntaxError) : Prop where
  line : e.line = x.line
  fault : ∀ id, e.fault ≠ .unclosedSubgraph id
  /-- It makes no difference what follows. -/
  refused : ∀ more, draftOf (before ++ x :: more) = .error e
  read : before = [] ∨ ∃ d, draftOf before = .ok d

/-- If statements are refused, it is for one of them. -/
theorem exists_isRefused {ss : List Statement} {e : SyntaxError} (hne : ss ≠ [])
    (h : draftOf ss = .error e) :
    ∃ before x after, ss = before ++ x :: after ∧ IsRefused before x e := by
  cases ss with
  | nil => exact absurd rfl hne
  | cons header rest =>
    rcases error_of_bind h with hheader | ⟨start, hheader, hrest⟩
    · obtain ⟨hline, hfault⟩ := error_of_readHeader hheader
      refine ⟨[], header, rest, rfl, hline, hfault, fun more => ?_, Or.inl rfl⟩
      show (readHeader header >>= _) = _
      rw [hheader]
      rfl
    · obtain ⟨before, x, after, d, rfl, hbefore, hx⟩ := exists_of_foldlM_error hrest
      obtain ⟨hline, hfault⟩ := Draft.error_of_read hx
      have hread : draftOf (header :: before) = .ok d := by
        show (readHeader header >>= _) = _
        rw [hheader]
        exact hbefore
      refine ⟨header :: before, x, after, rfl, hline, hfault, fun more => ?_, Or.inr ⟨d, hread⟩⟩
      rw [draftOf_append hread, List.foldlM_cons, hx]
      rfl

/-- Fewer statements than were read can be read. -/
theorem exists_draft_of_prefix {ss part : List Statement} {d : Draft} (h : draftOf ss = .ok d)
    (hpart : part <+: ss) (hne : part ≠ []) : ∃ d', draftOf part = .ok d' := by
  obtain ⟨more, rfl⟩ := hpart
  cases hd : draftOf part with
  | ok d' => exact ⟨d', rfl⟩
  | error e =>
    obtain ⟨before, x, after, rfl, hrefused⟩ := exists_isRefused hne hd
    rw [List.append_assoc, List.cons_append, hrefused.refused] at h
    cases h

/-! ## Texts -/

theorem ofText_of_draftOf_error {s : Text} {e : SyntaxError} (h : draftOf (statements s) = .error e) :
    Flowchart.ofText s = .error e := by
  rw [Flowchart.ofText, h]
  rfl

/-- If all statements can be read, what is left is to finish the draft. -/
theorem ofText_of_draftOf {s : Text} {d : Draft} (h : draftOf (statements s) = .ok d) :
    Flowchart.ofText s = (d.finish >>= fun graph => .ok ⟨graph, initialSettings s⟩) := by
  rw [Flowchart.ofText, h]
  rfl

/-- If all statements can be read and no group is open, the text can be read. -/
theorem ofText_of_draftOf_ok {s : Text} {d : Draft} (h : draftOf (statements s) = .ok d)
    (hopen : d.openGroups = []) :
    ∃ f, Flowchart.ofText s = .ok f ∧ d.finish = .ok f.graph := by
  obtain ⟨g, hfinish⟩ : ∃ g, d.finish = .ok g := by
    rw [Draft.finish, hopen]
    exact ⟨_, rfl⟩
  refine ⟨⟨g, initialSettings s⟩, ?_, hfinish⟩
  rw [ofText_of_draftOf h, hfinish]
  rfl

/-- If all statements can be read, then nothing can be wrong but that a group is open. -/
theorem cases_ofText_of_draftOf {s : Text} {d : Draft} (h : draftOf (statements s) = .ok d) :
    (∃ f, Flowchart.ofText s = .ok f) ∨
      ∃ x, d.openGroups.getLast? = some x ∧
        Flowchart.ofText s = .error ⟨x.line, .unclosedSubgraph x.id⟩ := by
  rw [ofText_of_draftOf h, Draft.finish]
  cases d.openGroups.getLast? with
  | none => exact Or.inl ⟨_, rfl⟩
  | some x => exact Or.inr ⟨x, rfl, rfl⟩

/-- The text is refused for what its first lines have: these lines are refused for it alone
and whatever lines follow them, and fewer lines are not, though a group may be open at their
end or there may be no statement among them. -/
structure SyntaxError.IsFirst (e : SyntaxError) (s : Text) : Prop where
  cut : Flowchart.ofText (firstLines e.line s) = .error e
  more : ∀ t, Flowchart.ofText (firstLines e.line s ++ '\n' :: t) = .error e
  fewer : ∀ m < e.line, (∃ f, Flowchart.ofText (firstLines m s) = .ok f) ∨
    (∃ line id, Flowchart.ofText (firstLines m s) = .error ⟨line, .unclosedSubgraph id⟩) ∨
    statements (firstLines m s) = []

/-- All statements of the text can be read, and the error names the outermost group that is
open at the end, with the line of the statement that opened it. -/
def SyntaxError.NamesOutermost (e : SyntaxError) (id : Text) (s : Text) : Prop :=
  ∃ header before x after d, statements s = header :: (before ++ x :: after) ∧
    draftOf (statements s) = .ok d ∧ OpensOutermost before x after ∧ e.line = x.line ∧
    d.graph.parentage[before.countP Statement.opens]? = some (id, none)

/-- The error of a refused statement is the first. -/
theorem IsRefused.isFirst {s : Text} {before after : List Statement} {x : Statement}
    {e : SyntaxError} (h : IsRefused before x e) (hs : statements s = before ++ x :: after) :
    e.IsFirst s where
  cut := by
    obtain ⟨more, hmore⟩ := (statements_firstLines_of_eq hs e.line).1 (Nat.le_of_eq h.line.symm)
    refine ofText_of_draftOf_error ?_
    rw [hmore]
    exact h.refused more
  more t := by
    obtain ⟨more, hmore⟩ := (statements_firstLines_of_eq hs e.line).1 (Nat.le_of_eq h.line.symm)
    refine ofText_of_draftOf_error ?_
    rw [statements_append, hmore, List.append_assoc, List.cons_append]
    exact h.refused _
  fewer m hm := by
    have hpart : statements (firstLines m s) <+: before :=
      (statements_firstLines_of_eq hs m).2 (h.line ▸ hm)
    by_cases hempty : statements (firstLines m s) = []
    · exact Or.inr (Or.inr hempty)
    · rcases h.read with rfl | ⟨d, hd⟩
      · exact absurd (List.prefix_nil.1 hpart) hempty
      · obtain ⟨d', hd'⟩ := exists_draft_of_prefix hd hpart hempty
        rcases cases_ofText_of_draftOf hd' with hread | ⟨y, -, herror⟩
        · exact Or.inl hread
        · exact Or.inr (Or.inl ⟨y.line, y.id, herror⟩)

/-- A text with a statement is refused for its first fault, unless all statements can be read
and a group is still open at the end: then the outermost such group is named. -/
theorem isFirst_or_namesOutermost_of_ofText {s : Text} {e : SyntaxError}
    (h : Flowchart.ofText s = .error e) :
    (statements s ≠ [] → (∀ id, e.fault ≠ .unclosedSubgraph id) → e.IsFirst s) ∧
      ∀ id, e.fault = .unclosedSubgraph id → e.NamesOutermost id s := by
  cases hd : draftOf (statements s) with
  | error e' =>
    have hsame : e' = e := Except.error.inj ((ofText_of_draftOf_error hd).symm.trans h)
    subst hsame
    refine ⟨fun hne _ => ?_, fun id hid => ?_⟩
    · obtain ⟨before, x, after, hs, hrefused⟩ := exists_isRefused hne hd
      exact hrefused.isFirst hs
    · by_cases hne : statements s = []
      · rw [hne] at hd
        cases hd
        cases hid
      · obtain ⟨_, _, _, -, hrefused⟩ := exists_isRefused hne hd
        exact absurd hid (hrefused.fault id)
  | ok d =>
    rcases cases_ofText_of_draftOf hd with ⟨f, hf⟩ | ⟨x, hx, herror⟩
    · rw [hf] at h
      cases h
    · rw [herror] at h
      cases h
      refine ⟨fun _ hother => absurd rfl (hother x.id), fun id hid => ?_⟩
      cases hid
      rw [SyntaxError.NamesOutermost]
      cases hs : statements s with
      | nil => rw [hs] at hd; cases hd
      | cons header rest =>
        rw [hs] at hd
        obtain ⟨before, y, after, rfl, houter, hline, hparent⟩ :=
          (follows_of_draftOf hd).outermost x hx
        exact ⟨header, before, y, after, d, rfl, hd, houter, hline, hparent⟩

/-- A chain of which the last end has no closing bracket, and a group that is open there. -/
def faultInChain : Text := "graph LR\nsubgraph A\na-->b; b-->c-->(d\nend\nend".toList

/-- Three groups, of which the last two are never closed. -/
def twoOpenGroups : Text :=
  "graph LR\nsubgraph A\na\nend\nsubgraph B\nsubgraph C\nb-->a".toList

theorem isFirst_or_namesOutermost_of_faults :
    (∃ e, Flowchart.ofText faultInChain = .error e ∧ e.line = 3 ∧ e.IsFirst faultInChain) ∧
      ∃ e, Flowchart.ofText twoOpenGroups = .error e ∧ e.line = 5 ∧
        e.NamesOutermost ['B'] twoOpenGroups := by
  have hchain : Flowchart.ofText faultInChain =
      .error ⟨3, .unbalancedBrackets ['(', 'd']⟩ := by rfl
  have hopen : Flowchart.ofText twoOpenGroups = .error ⟨5, .unclosedSubgraph ['B']⟩ := by rfl
  refine ⟨⟨_, hchain, rfl, ?_⟩, _, hopen, rfl, ?_⟩
  · refine (isFirst_or_namesOutermost_of_ofText hchain).1 ?_ fun id hid => by cases hid
    decide +kernel
  · exact (isFirst_or_namesOutermost_of_ofText hopen).2 ['B'] rfl

end Swimlane
