import Swimlane.Proofs.Flowchart.BarredLine
import Swimlane.Proofs.Flowchart.FirstFault

/-!
# Labels between bars

A label between bars stands in the open: what looks for semicolons, for the mark of invisible
links and for arrows looks into it too.  So the line of a link with such a label adds its one edge
if there is no semicolon, no such mark and no arrow that makes a chain of it, and in no other case
(`addsLink_iff_of_barredLink`).
-/

namespace Swimlane

/-! ## Further arrows in the label -/

section Chain

variable {u s v : Text} (hu : IsPlainName u) (hs : FitsBars s) (hv : IsWord v)

include hv in
/-- After the label there is no shaft. -/
theorem noShaft_afterLabel : NoShaft (("| ".toList ++ v).map openCell) := by
  intro cell hcell
  obtain ⟨c, hc, rfl⟩ := List.mem_map.1 hcell
  have hne (d : Char) (hd : isWordChar d = false) (hgap : d ∉ "| ".toList) : c ≠ d := by
    rintro rfl
    exact (List.mem_append.1 hc).elim hgap (hv.not_mem hd)
  exact ⟨hne '-' (by decide) (by decide), hne '=' (by decide) (by decide)⟩

theorem map_afterArrow (s v : Text) : (afterArrow s v).map openCell =
    ('|' :: s).map openCell ++ ("| ".toList ++ v).map openCell := by
  simp [afterArrow]

include hv in
/-- A further arrow is one in the label, and before it the label has begun. -/
theorem exists_of_cutArrows_afterArrow {between arrow last : List Cell}
    {more : List (List Cell × List Cell)}
    (h : cutArrows 0 [] ((afterArrow s v).map openCell) = ((between, arrow) :: more, last)) :
    ∃ t, between = ('|' :: t).map openCell ∧ t ⊆ s := by
  obtain ⟨passed, rest, hbetween, hcells, hfound, -, -⟩ := exists_of_cutArrows h
  obtain rfl : between = passed := hbetween
  rw [map_afterArrow] at hcells
  have hsuffix : arrow ++ rest <:+
      ('|' :: s).map openCell ++ ("| ".toList ++ v).map openCell :=
    hcells ▸ List.suffix_append between (arrow ++ rest)
  rcases suffix_append_cases hsuffix with ⟨x, -, -, hx⟩ | hafter
  · rw [hx, ← List.append_assoc] at hcells
    obtain ⟨before, after, hsplit, hbefore, hafter⟩ :=
      List.map_eq_append_iff.1 (List.append_cancel_right hcells)
    cases before with
    | nil =>
      rw [List.nil_append] at hsplit
      obtain ⟨hne, hsigns⟩ := isArrowSign_of_mem_arrow hfound
      obtain ⟨cell, tail, rfl⟩ := List.exists_cons_of_ne_nil hne
      rw [← hafter, ← hsplit] at hx
      have hbar := hsigns cell List.mem_cons_self
      rw [(List.cons_eq_cons.1 hx).1] at hbar
      exact absurd hbar (by decide)
    | cons c t =>
      obtain ⟨rfl, rfl⟩ := List.cons_eq_cons.1 hsplit
      exact ⟨t, hbefore.symm, List.subset_append_left t after⟩
  · rw [((noShaft_afterLabel hv).suffix hafter).arrow?_eq_none] at hfound
    cases hfound

include hu hs hv

/-- If the line is a chain, a single bar follows the arrow of its first link. -/
theorem exists_of_chain?_barredLink {parts : List Text}
    (h : chain? (barredLink u s v) = some parts) :
    ∃ t more, parts = (u ++ " -->".toList ++ ' ' :: '|' :: t) :: more ∧
      (∀ c ∈ t, isPlain c = true) ∧ '|' ∉ t := by
  obtain ⟨cuts, last, hcut⟩ : ∃ cuts last,
      cutArrows 0 [] ((afterArrow s v).map openCell) = (cuts, last) := ⟨_, _, rfl⟩
  simp only [chain?, mask_barredLink hu.isWord hs hv, cutArrows_linkCells hu.isWord.word, hcut]
    at h
  split at h
  · cases h
  · cases cuts with
    | nil => cases h
    | cons cut more =>
      obtain ⟨between, arrow⟩ := cut
      obtain ⟨t, rfl, ht⟩ := exists_of_cutArrows_afterArrow hv hcut
      have hfirst : cellText (u.map openCell ++ [openCell ' ']) = u := by
        rw [cellText, sourceText_append, sourceText_map_openCell]
        exact (trim_append_blank (by decide) u).trans hu.isWord.trim_eq
      have hbetween : cellText (('|' :: t).map openCell) = '|' :: trimEnd t := by
        rw [cellText_map_openCell]
        exact trim_append_cons (s := []) (by decide) (by simp) t
      have htrim : ∀ c ∈ trimEnd t, c ∈ s := by
        intro c hc
        rw [trimEnd, List.mem_reverse] at hc
        exact ht (List.mem_reverse.1 ((List.dropWhile_suffix _).subset hc))
      have hbar : '|' ∉ trimEnd t := fun hc => hs.no_bar (htrim '|' hc)
      dsimp only at h
      rw [hfirst] at h
      split at h
      · cases h
      · obtain ⟨links, hsegments⟩ : ∃ links, (segmentsOf ((u.map openCell ++ [openCell ' '],
            arrowCells) :: (('|' :: t).map openCell, arrow) :: more) last).map Segment.takeLabel =
            ⟨"-->".toList, '|' :: trimEnd t⟩ :: links := by
          rw [segmentsOf, List.map_cons, hbetween, takeLabel_bar hbar]
          exact ⟨_, rfl⟩
        rw [hsegments] at h
        cases h
        refine ⟨trimEnd t, chainLinks ('|' :: trimEnd t) links, ?_,
          fun c hc => hs.plain c (htrim c hc), hbar⟩
        rw [chainLinks]
        simp

/-- Without the mark of an invisible link the line is read for its edges. -/
theorem isForEdges_barredLink (htildes : ¬ ['~', '~', '~'] <:+: s) :
    Draft.IsForEdges (barredLink u s v) := by
  refine (isPlainStatement_barredLink hu).isForEdges ?_
  rw [Bool.eq_false_iff, Ne, hasTildes_barredLink hu hs hv]
  exact htildes

/-- If the line is a chain, it is refused. -/
theorem readStatement_barredLink_of_chain (htildes : ¬ ['~', '~', '~'] <:+: s)
    {parts : List Text} (hchain : chain? (barredLink u s v) = some parts) (d : Draft)
    (line : Nat) : ∃ fault, d.readStatement line (barredLink u s v) = .error fault := by
  rw [(isForEdges_barredLink hu hs hv htildes).readStatement_of_chain d line hchain]
  obtain ⟨t, more, rfl, ht, hbar⟩ := exists_of_chain?_barredLink hu hs hv hchain
  rw [Draft.addChain]
  split
  · exact ⟨_, rfl⟩
  · next link hlink =>
    cases hadd : d.addLink link with
    | error fault => exact ⟨fault, rfl⟩
    | ok d' => exact absurd (Draft.of_addLink hadd).1 (not_canLink_of_bar hu.isWord ht hbar hlink)

/-- Without an arrow in the label the line is no chain. -/
theorem chain?_barredLink_of_hasArrow (h : hasArrow (mask s) = false) :
    chain? (barredLink u s v) = none := by
  rw [mask_of_isPlain hs.plain] at h
  have hends : EndsArrow (("| ".toList ++ v).map openCell) :=
    endsArrow_cons (show isArrowSign (openCell '|').shown = false from rfl)
      ((' ' :: v).map openCell)
  have hlabel : FindsNothing arrow? ((openCell '|' :: s.map openCell))
      (("| ".toList ++ v).map openCell) := by
    intro cells hne hcells
    rcases List.suffix_cons_iff.1 hcells with rfl | hcells
    · refine arrow?_eq_none fun cell hcell => ?_
      rw [← Option.some.inj hcell]
      simp [openCell, beginsArrow]
    · rw [arrow?_append hends]
      exact arrow?_eq_none_of_hasArrow h hcells
  have hcut := cutArrows_append (("| ".toList ++ v).map openCell) hlabel []
  rw [(noShaft_afterLabel hv).cutArrows_eq, ← List.map_cons, ← map_afterArrow] at hcut
  simp only [chain?, mask_barredLink hu.isWord hs hv, cutArrows_linkCells hu.isWord.word, hcut,
    ite_self]

end Chain

/-! ## What the line adds -/

namespace Draft

/-- Does another draft have one edge more than the draft, that of the link, no other nodes than
its ends in addition, and the same open groups? -/
structure AddsLink (d : Draft) (l : PlainLink) (d' : Draft) : Prop where
  edges : d'.graph.edges = d.graph.edges ++
    [⟨'e' :: decimal d.graph.edges.length, l.source, l.target, l.label⟩]
  nodes : ∀ id, d'.graph.hasNode id = true ↔
    d.graph.hasNode id = true ∨ id = l.source ∨ id = l.target
  openGroups : d'.openGroups = d.openGroups

theorem addsLink_link (d : Draft) (l : PlainLink) : d.AddsLink l (d.link l) where
  edges := by simp [link, addEdge]
  nodes id := by
    have hlink : (d.link l).graph.hasNode id = ((d.mention false l.source
        ⟨some l.source, none, none⟩).mention false l.target
        ⟨some l.target, none, none⟩).graph.hasNode id := rfl
    rw [hlink, hasNode_mention, hasNode_mention, or_assoc]
  openGroups := (openGroups_mention _ _ _ _).trans (openGroups_mention _ _ _ _)

end Draft

/-- Is the line read as one link?  There must be no semicolon and no mark of an invisible link in
the label, and no arrow there may make the line a chain. -/
structure IsOneLink (u s v : Text) : Prop where
  no_semicolon : ';' ∉ s
  no_tildes : ¬ ['~', '~', '~'] <:+: s
  no_chain : chain? (barredLink u s v) = none

section

variable {u s v : Text} (hu : IsPlainName u) (hs : FitsBars s) (hv : IsWord v)

include hu hs hv

/-- A line that is read as one link adds its edge. -/
theorem readStatement_barredLink (h : IsOneLink u s v) (d : Draft) (line : Nat) :
    d.readStatement line (barredLink u s v) = .ok (d.link ⟨u, v, barLabel s⟩) := by
  rw [(isForEdges_barredLink hu hs hv h.no_tildes).readStatement_of_link d line h.no_chain
    (link?_barredLink hu hs hv)]
  exact Draft.addLink_word (l := ⟨u, v, barLabel s⟩) hu.isWord hv d

/-- With the mark of an invisible link nothing is added. -/
theorem readStatement_barredLink_of_tildes (h : ['~', '~', '~'] <:+: s) (d : Draft)
    (line : Nat) : d.readStatement line (barredLink u s v) = .ok d := by
  refine (isPlainStatement_barredLink hu).readStatement_links line ?_
  rw [Draft.addEdges, (hasTildes_barredLink hu hs hv).2 h, if_pos rfl]

/-- With a semicolon in the label no edge has the label. -/
theorem not_addsLink_of_semicolon (h : ';' ∈ s) {t : Text} {d d' : Draft}
    (ht : draftOf (statements t) = .ok d)
    (hd' : draftOf (statements (t ++ '\n' :: barredLink u s v)) = .ok d') :
    ¬ d.AddsLink ⟨u, v, barLabel s⟩ d' := by
  rw [draftOf_append_barredLink hu.isWord hs hv ht, lineStatements_barredLink hu.isWord hs hv]
    at hd'
  have hpieces : ∀ x ∈ (((pieces (· = ';') (barredLink u s v)).map trim).filter (· ≠ [])).map
      (Statement.mk (nextLine t)), ';' ∉ x.text := by
    intro x hx hmem
    obtain ⟨piece, hpiece, rfl⟩ := List.mem_map.1 hx
    obtain ⟨w, hw, rfl⟩ := List.mem_map.1 (List.mem_filter.1 hpiece).1
    exact of_decide_eq_false (of_mem_pieces hw (mem_of_mem_trim hmem)).2 rfl
  obtain ⟨added, hadded, hlabels⟩ :=
    Draft.exists_joins_of_foldlM_read hd' (c := ';') (by decide) hpieces
  intro hlink
  have hjoins : d'.joins = d.joins ++ [(u, barLabel s, v)] := by
    rw [Draft.joins, hlink.edges, List.map_append]
    rfl
  have hsame := List.append_cancel_left (hadded.symm.trans hjoins)
  have hmem : ';' ∈ trim s := mem_trim h (by decide)
  have hlabel : barLabel s = some (trim s) := if_neg (List.ne_nil_of_mem hmem)
  exact hlabels (u, barLabel s, v) (hsame ▸ List.mem_cons_self) (trim s) hlabel hmem

/-- After a text that can be read so far, the line of a link with a label between bars is accepted
and adds this link if and only if it is read as one link; if the label has no arrow, only
semicolons and the mark of invisible links keep it from that.  Without semicolons in the label, the
line adds nothing if the mark is there, and else the text is refused if the line is a chain. -/
theorem addsLink_iff_of_barredLink {t : Text} {d : Draft} (h : draftOf (statements t) = .ok d) :
    ((∃ d', draftOf (statements (t ++ '\n' :: barredLink u s v)) = .ok d' ∧
      d.AddsLink ⟨u, v, barLabel s⟩ d') ↔ IsOneLink u s v) ∧
    (hasArrow (mask s) = false → (IsOneLink u s v ↔ ';' ∉ s ∧ ¬ ['~', '~', '~'] <:+: s)) ∧
    (';' ∉ s → ['~', '~', '~'] <:+: s →
      draftOf (statements (t ++ '\n' :: barredLink u s v)) = .ok d) ∧
    (';' ∉ s → ¬ ['~', '~', '~'] <:+: s → chain? (barredLink u s v) ≠ none → ∃ fault,
      Flowchart.ofText (t ++ '\n' :: barredLink u s v) = .error ⟨nextLine t, fault⟩) := by
  have htildes (hsemicolon : ';' ∉ s) (htildes : ['~', '~', '~'] <:+: s) :
      draftOf (statements (t ++ '\n' :: barredLink u s v)) = .ok d := by
    rw [draftOf_append_barredLink_statement hu.isWord hs hv hsemicolon h, Draft.read,
      readStatement_barredLink_of_tildes hu hs hv htildes]
    rfl
  have hrefused (hsemicolon : ';' ∉ s) (htildes : ¬ ['~', '~', '~'] <:+: s)
      (hchain : chain? (barredLink u s v) ≠ none) : ∃ fault,
      draftOf (statements (t ++ '\n' :: barredLink u s v)) = .error ⟨nextLine t, fault⟩ := by
    obtain ⟨parts, hparts⟩ := Option.ne_none_iff_exists'.1 hchain
    obtain ⟨fault, hfault⟩ :=
      readStatement_barredLink_of_chain hu hs hv htildes hparts d (nextLine t)
    refine ⟨fault, ?_⟩
    rw [draftOf_append_barredLink_statement hu.isWord hs hv hsemicolon h, Draft.read, hfault]
    rfl
  refine ⟨⟨?_, fun hone => ?_⟩, fun harrow => ⟨fun hone => ⟨hone.no_semicolon, hone.no_tildes⟩,
    fun hnone => ⟨hnone.1, hnone.2, chain?_barredLink_of_hasArrow hu hs hv harrow⟩⟩, htildes,
    fun hsemicolon hnone hchain => ?_⟩
  · rintro ⟨d', hd', hlink⟩
    have hsemicolon : ';' ∉ s := fun hmem => not_addsLink_of_semicolon hu hs hv hmem h hd' hlink
    have hnone : ¬ ['~', '~', '~'] <:+: s := by
      intro hmark
      obtain rfl := Except.ok.inj ((htildes hsemicolon hmark).symm.trans hd')
      have hlength := congrArg List.length hlink.edges
      simp at hlength
    refine ⟨hsemicolon, hnone, ?_⟩
    by_contra hchain
    obtain ⟨fault, hfault⟩ := hrefused hsemicolon hnone hchain
    cases hfault.symm.trans hd'
  · refine ⟨d.link ⟨u, v, barLabel s⟩, ?_, d.addsLink_link _⟩
    rw [draftOf_append_barredLink_statement hu.isWord hs hv hone.no_semicolon h, Draft.read,
      readStatement_barredLink hu hs hv hone]
    rfl
  · obtain ⟨fault, hfault⟩ := hrefused hsemicolon hnone hchain
    exact ⟨fault, ofText_of_draftOf_error hfault⟩

end

/-- Percent signs, angles, a hyphen and an ampersand in the label. -/
theorem addsLink_percentsAndAngles : ∃ f, Flowchart.ofText ("graph LR".toList ++ '\n' ::
      barredLink ['u'] " 50% <b> - o & d ".toList "end".toList) = .ok f ∧
    f.graph.edges = [⟨"e0".toList, ['u'], "end".toList, some "50% <b> - o & d".toList⟩] := by
  have hdraft : draftOf (statements "graph LR".toList) = .ok (.start .leftRight) := by
    decide +kernel
  have hname : IsPlainName ['u'] := by decide
  have hfits : FitsBars " 50% <b> - o & d ".toList := by decide
  have hword : IsWord "end".toList := by decide
  obtain ⟨hlink, hplain, -, -⟩ := addsLink_iff_of_barredLink hname hfits hword hdraft
  have htildes : ¬ ['~', '~', '~'] <:+: " 50% <b> - o & d ".toList := by
    rw [← occursIn_iff]
    decide
  obtain ⟨d', hd', hadds⟩ := hlink.2 ((hplain (by decide +kernel)).2 ⟨by decide, htildes⟩)
  obtain ⟨f, hf, hfinish⟩ := ofText_of_draftOf_ok hd' hadds.openGroups
  refine ⟨f, hf, ?_⟩
  rw [(Draft.finish_eq_ok hfinish).2]
  show d'.graph.edges = _
  rw [hadds.edges]
  decide +kernel

/-- A semicolon in the label cuts the line, the mark of an invisible link takes the edge away, and
an arrow makes the line a chain. -/
theorem exists_disturbing_labels :
    (FitsBars "a;b".toList ∧ Flowchart.ofText ("graph LR".toList ++ '\n' ::
      barredLink ['u'] "a;b".toList ['v']) = .error ⟨2, .invalidNode "|a".toList⟩) ∧
    (FitsBars "~~~".toList ∧ draftOf (statements ("graph LR".toList ++ '\n' ::
      barredLink ['u'] "~~~".toList ['v'])) = .ok (.start .leftRight)) ∧
    (FitsBars "a --> b".toList ∧ Flowchart.ofText ("graph LR".toList ++ '\n' ::
      barredLink ['u'] "a --> b".toList ['v']) = .error ⟨2, .invalidNode "|a".toList⟩) :=
  ⟨⟨by decide, ofText_of_draftOf_error (by decide +kernel)⟩, ⟨by decide, by decide +kernel⟩,
    ⟨by decide, ofText_of_draftOf_error (by decide +kernel)⟩⟩

end Swimlane
