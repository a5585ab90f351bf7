import Swimlane.Proofs.Flowchart.Chain
import Swimlane.Proofs.Flowchart.Edges

/-!
# What chains join

If each segment of a chain is accepted as a statement that adds edges, the chain is read as its
segments are, one after another (`readStatement_text`).  `readStatement_chain` says what follows
for its edges: they have the labels that the segments give them, and a segment begins with the
nodes to which the one before it leads, if each of these is referred to by its name.
-/

namespace Swimlane

/-! ## Segments as statements -/

/-- No tildes stand across the beginning of a right side, so what follows it shows some only if
its segment does, or if it does so itself. -/
theorem ChainLink.IsWritten.hasTildes_eq_false {l : ChainLink} (h : l.IsWritten) {start : Text}
    (hstart : IsStart start) {more : Text} (hsegment : hasTildes (mask (start ++ l.text)) = false)
    (hmore : hasTildes (mask (l.right ++ more)) = false) :
    hasTildes (mask (start ++ (l.text ++ more))) = false := by
  obtain ⟨c, -, cells, -, hc, hcells⟩ := h.right.exists_cons
  obtain ⟨front, hfront⟩ : ∃ front, ∀ rest, mask (start ++ (l.text ++ rest)) =
      front ++ openCell c :: (cells ++ mask rest) := by
    refine ⟨mask start ++ (l.before.map openCell ++ (l.arrow.text.map openCell ++
      (barCells l.label ++ l.gap.map openCell))), fun rest => ?_⟩
    rw [mask_append hstart.closes, h.mask_text_append, ChainLink.cellsAfter, hcells]
    simp only [List.append_assoc, List.cons_append]
  have hnone (cells : List Cell) :
      hasTildes cells = false ↔ ¬ ['~', '~', '~'] <:+: shownText cells := by
    rw [hasTildes, Bool.eq_false_iff, Ne, occursIn_iff]
  have hshown (xs ys : List Cell) : shownText (xs ++ ys) = shownText xs ++ shownText ys :=
    List.map_append
  -- the first character of the right side keeps the tildes on either side of it apart
  have hmark : c ∉ ['~', '~', '~'] := by simp [ne_of_isRefChar hc (d := '~') rfl]
  have hshort := hfront []
  rw [List.append_nil] at hshort
  rw [hshort, hnone, hshown] at hsegment
  rw [mask_append h.right.closes, hcells, hnone] at hmore
  rw [hfront, hnone, hshown]
  intro hoccurs
  rcases infix_or_of_append_cons hmark hoccurs with hoccurs | hoccurs
  · exact hsegment (hoccurs.trans (List.prefix_append _ _).isInfix)
  · exact hmore (hoccurs.trans (List.suffix_cons c _).isInfix)

/-- Is the text accepted somewhere as a statement of its own, and does it add edges there? -/
def AddsEdges (s : Text) : Prop :=
  ∃ (line : Nat) (d d' : Draft), d.readStatement line s = .ok d' ∧
    d.graph.edges.length < d'.graph.edges.length

/-- It is enough that the text is accepted at the beginning of a flowchart. -/
theorem addsEdges_of_any {s : Text} (h : ((Draft.start .leftRight).readStatement 1 s).toOption.any
    (fun d => decide (0 < d.graph.edges.length)) = true) : AddsEdges s := by
  cases hread : (Draft.start .leftRight).readStatement 1 s with
  | error e =>
    rw [hread] at h
    cases h
  | ok d =>
    rw [hread] at h
    exact ⟨1, .start .leftRight, d, hread, of_decide_eq_true h⟩

/-- A segment that adds edges is read for the edges of its link alone. -/
theorem ChainLink.IsWritten.exists_link {l : ChainLink} (h : l.IsWritten) {start : Text}
    (hstart : IsStart start) (hadds : AddsEdges (start ++ l.text)) :
    ∃ link, linkOf? start l.label l.right = some link ∧ Draft.CanLink link ∧
      Draft.IsForEdges (start ++ l.text) := by
  obtain ⟨line, d, d', hread, hmore⟩ := hadds
  obtain ⟨hfor, hedges⟩ := Draft.of_more_edges hread hmore
  rw [Draft.addEdges, hfor.no_tildes, h.chain?_eq_none hstart, h.link?_written hstart] at hedges
  cases hlink : linkOf? start l.label l.right with
  | none =>
    rw [hlink] at hedges
    simp only [Bool.false_eq_true, if_false] at hedges
    split at hedges <;> cases hedges
  | some link =>
    rw [hlink] at hedges
    obtain ⟨d₁, hadd, -⟩ := ok_of_map hedges
    exact ⟨link, rfl, (Draft.of_addLink hadd).1, hfor⟩

theorem ChainLink.IsWritten.readStatement_segment {l : ChainLink} (h : l.IsWritten) {start : Text}
    (hstart : IsStart start) (hfor : Draft.IsForEdges (start ++ l.text)) {link : Link}
    (hlink : linkOf? start l.label l.right = some link) (d : Draft) (line : Nat) :
    d.readStatement line (start ++ l.text) = d.addLink link :=
  hfor.readStatement_of_link d line (h.chain?_eq_none hstart)
    ((h.link?_written hstart).trans hlink)

/-- With one blank on either side of its arrow a segment is the same link. -/
theorem ChainLink.IsWritten.link?_segment {l : ChainLink} (h : l.IsWritten) {start : Text}
    (hstart : IsStart start) :
    link? (start ++ ' ' :: l.segment.arrow ++ ' ' :: l.segment.after) =
      linkOf? start l.label l.right := by
  have hblank : ∀ c ∈ [' '], isBlank c = true := forall_mem_of_all (by decide)
  have hspaced : ChainLink.IsWritten { l with before := [' '], gap := [' '] } :=
    ⟨hblank, h.label, hblank, h.decoration, h.stop⟩
  have htext : start ++ ' ' :: l.segment.arrow ++ ' ' :: l.segment.after =
      start ++ ChainLink.text { l with before := [' '], gap := [' '] } := by
    simp [ChainLink.segment, ChainLink.text, ChainLink.right]
  rw [htext, hspaced.link?_written hstart]
  rfl

/-! ## Chains as statements -/

/-- The links of a chain are added as its segments are read, one after another. -/
theorem addChain_eq {start : Text} {links : List ChainLink} (h : AreWritten start links)
    (hadds : ∀ s ∈ segmentsFrom start links, AddsEdges s) (d : Draft) (line : Nat)
    (statement : Text) : d.addChain statement (chainLinks start (links.map ChainLink.segment)) =
      (segmentsFrom start links).foldlM (fun d s => d.readStatement line s) d := by
  induction links generalizing start d with
  | nil => rfl
  | cons l rest ih =>
    obtain ⟨link, hlink, -, hfor⟩ := h.head.exists_link h.isStart
      (hadds _ List.mem_cons_self)
    have hrest (e : Draft) : e.addChain statement
        (chainLinks l.right (rest.map ChainLink.segment)) =
          (segmentsFrom l.stop rest).foldlM (fun d s => d.readStatement line s) e := by
      by_cases hne : rest = []
      · subst hne
        rfl
      · rw [h.right_eq hne]
        exact ih h.tail (fun s hs => hadds s (List.mem_cons_of_mem _ hs)) e
    rw [segmentsFrom, List.foldlM_cons, h.head.readStatement_segment h.isStart hfor hlink,
      List.map_cons, chainLinks, Draft.addChain, h.head.link?_segment h.isStart, hlink]
    exact bind_congr hrest

theorem hasTildes_chain {start : Text} {links : List ChainLink} (h : AreWritten start links)
    (hne : links ≠ []) (hsegments : ∀ s ∈ segmentsFrom start links, hasTildes (mask s) = false) :
    hasTildes (mask (start ++ links.flatMap ChainLink.text)) = false := by
  induction links generalizing start with
  | nil => exact absurd rfl hne
  | cons l rest ih =>
    have hhere := hsegments _ List.mem_cons_self
    rw [List.flatMap_cons]
    by_cases hrest : rest = []
    · subst hrest
      rw [List.flatMap_nil, List.append_nil]
      exact hhere
    · refine h.head.hasTildes_eq_false h.isStart hhere ?_
      rw [h.right_eq hrest]
      exact ih h.tail hrest fun s hs => hsegments s (List.mem_cons_of_mem _ hs)

namespace Chain.IsWritten

variable {c : Chain} (h : c.IsWritten) (hadds : ∀ s ∈ c.segments, AddsEdges s)

include h hadds

/-- A chain of segments that add edges is read for its edges alone. -/
theorem isForEdges (hne : c.links ≠ []) : Draft.IsForEdges c.text := by
  have hsegments : ∀ s ∈ c.segments, hasTildes (mask s) = false := by
    intro s hs
    obtain ⟨line, d, d', hread, hmore⟩ := hadds s hs
    exact (Draft.of_more_edges hread hmore).1.no_tildes
  have htildes := hasTildes_chain h hne hsegments
  obtain ⟨l, rest, hcase⟩ := List.exists_cons_of_ne_nil hne
  obtain ⟨line, d, d', hread, hmore⟩ := hadds (c.first ++ l.text) (by
    rw [Chain.segments, hcase]
    exact List.mem_cons_self)
  obtain ⟨sign, hsign, hmem⟩ := l.arrow.exists_mem_text
  have htext : c.text = (c.first ++ l.text) ++ rest.flatMap ChainLink.text := by
    rw [Chain.text, hcase, List.flatMap_cons, List.append_assoc]
  have hsigns : sign ∈ c.first ++ l.text := by
    simp [ChainLink.text, hmem]
  rw [← Chain.text, htext] at htildes
  rw [htext]
  exact (Draft.of_more_edges hread hmore).1.append hsigns hsign htildes

/-- A chain is read as its segments are, one after another. -/
theorem readStatement_text (hlinks : 2 ≤ c.links.length)
    (hinner : innerLink? (mask c.text) = none) (d : Draft) (line : Nat) :
    d.readStatement line c.text = c.segments.foldlM (fun d s => d.readStatement line s) d := by
  have hne : c.links ≠ [] := by
    rintro hnil
    rw [hnil] at hlinks
    exact absurd hlinks (by decide)
  rw [(h.isForEdges hadds hne).readStatement_of_chain d line (h.chain?_text hlinks hinner)]
  exact addChain_eq h hadds d line c.text

end Chain.IsWritten

/-! ## What a chain joins -/

/-- The labels of the edges of a draft, in the order in which they were added. -/
def Draft.labels (d : Draft) : List (Option Text) := d.graph.edges.map (·.label)

/-- The labels of the edges of one link. -/
def Bundle.labels (x : Bundle) : List (Option Text) := x.joins.map (·.2.1)

/-- Does the draft become the last one by reading the texts one after another, so that each adds
the edges of its bundle? -/
def Draft.Draws (line : Nat) (last : Draft) : Draft → List Text → List Bundle → Prop
  | d, [], [] => d = last
  | d, s :: rest, x :: bundles =>
      ∃ e, d.readStatement line s = .ok e ∧ e.joins = d.joins ++ x.joins ∧
        Draws line last e rest bundles
  | _, _, _ => False

/-- Does the text, wherever it is accepted as a statement, add edges with the labels of the
bundle? -/
def AddsLabels (s : Text) (x : Bundle) : Prop :=
  ∀ (line : Nat) (d d' : Draft), d.readStatement line s = .ok d' → d'.labels = d.labels ++ x.labels

/-- Does the arrow lead to nodes that are all referred to by their names, and is none of the names
taken for a decoration of the arrow? -/
def ChainLink.NamesStop (l : ChainLink) : Prop :=
  (l.label = none → dropDecoration l.stop = l.stop) ∧
    ∀ part ∈ splitOpen '&' l.stop, (Draft.namedBy? part).isSome = true

instance (l : ChainLink) : Decidable l.NamesStop :=
  inferInstanceAs (Decidable ((l.label = none → dropDecoration l.stop = l.stop) ∧
    ∀ part ∈ splitOpen '&' l.stop, (Draft.namedBy? part).isSome = true))

/-- Does each bundle lead to the sources of the next, if its arrow leads to names? -/
def AreJoined : List ChainLink → List Bundle → Prop
  | l :: links, x :: y :: bundles =>
      (l.NamesStop → x.targets = y.sources) ∧ AreJoined links (y :: bundles)
  | _, _ => True

theorem Bundle.labels_eq (x : Bundle) :
    x.labels = List.replicate (x.sources.length * x.targets.length) x.label := by
  refine List.eq_replicate_iff.2 ⟨?_, fun label hlabel => ?_⟩
  · rw [labels, List.length_map, length_joins]
  · obtain ⟨join, hjoin, rfl⟩ := List.mem_map.1 hlabel
    obtain ⟨source, -, hjoin⟩ := List.mem_flatMap.1 hjoin
    obtain ⟨target, -, rfl⟩ := List.mem_map.1 hjoin
    rfl

theorem Draft.labels_eq (d : Draft) : d.labels = d.joins.map (·.2.1) := by
  simp [labels, joins, Edge.joins, Function.comp_def]

theorem Draft.AreNamed.eq {parts ids others : List Text} (h : AreNamed parts ids)
    (hothers : AreNamed parts others) (hnamed : ∀ part ∈ parts, (namedBy? part).isSome = true) :
    ids = others := by
  induction h generalizing others with
  | nil => exact (List.forall₂_nil_left_iff.1 hothers).symm
  | cons hid _ ih =>
    obtain ⟨other, rest, hother, hrest, rfl⟩ := List.forall₂_cons_left_iff.1 hothers
    obtain ⟨name, hname⟩ := Option.isSome_iff_exists.1 (hnamed _ List.mem_cons_self)
    rw [← hid name hname, ← hother name hname,
      ih hrest fun part hpart => hnamed part (List.mem_cons_of_mem _ hpart)]

/-- A link adds the same labels whatever the draft. -/
theorem addsLabels_of_addLink {s : Text} {link : Link}
    (hread : ∀ (d : Draft) (line : Nat), d.readStatement line s = d.addLink link) {x : Bundle}
    (hlabel : x.label = link.label) (hsources : Draft.AreNamed (splitOpen '&' link.left) x.sources)
    (htargets : Draft.AreNamed (splitOpen '&' link.right) x.targets) : AddsLabels s x := by
  intro line d d' h
  rw [hread] at h
  obtain ⟨-, sources, targets, hsources', htargets', hjoins⟩ := Draft.of_addLink h
  rw [Draft.labels_eq, hjoins, List.map_append, ← Draft.labels_eq, ← Bundle.labels,
    Bundle.labels_eq, Bundle.labels_eq, hlabel, ← hsources.length_eq, ← htargets.length_eq,
    ← hsources'.length_eq, ← htargets'.length_eq]

theorem linkOf?_eq_some {start right : Text} {label : Option Text} {link : Link}
    (h : linkOf? start label right = some link) : link.left = start ∧
      link.right = if label = none then dropDecoration right else right := by
  unfold linkOf? at h
  split at h
  · cases h
    exact ⟨rfl, rfl⟩
  · dsimp only at h
    split at h
    · cases h
      exact ⟨rfl, rfl⟩
    · cases h

/-- Segments that add edges can be read one after another; what is between two of them is the
target of the one and the source of the other. -/
theorem exists_draws {start : Text} {links : List ChainLink} (h : AreWritten start links)
    (hadds : ∀ s ∈ segmentsFrom start links, AddsEdges s) (d : Draft) (line : Nat) :
    ∃ d' bundles, Draft.Draws line d' d (segmentsFrom start links) bundles ∧
      List.Forall₂ AddsLabels (segmentsFrom start links) bundles ∧ AreJoined links bundles ∧
      ∀ x ∈ bundles.head?, Draft.AreNamed (splitOpen '&' start) x.sources := by
  induction links generalizing start d with
  | nil => exact ⟨d, [], rfl, .nil, trivial, fun x hx => by cases hx⟩
  | cons l rest ih =>
    obtain ⟨link, hlink, hcan, hfor⟩ := h.head.exists_link h.isStart (hadds _ List.mem_cons_self)
    have hread := h.head.readStatement_segment h.isStart hfor hlink
    obtain ⟨hleft, hright⟩ := linkOf?_eq_some hlink
    obtain ⟨d₁, hadd⟩ := Draft.exists_addLink hcan d
    obtain ⟨-, sources, targets, hsources, htargets, hjoins⟩ := Draft.of_addLink hadd
    obtain ⟨d', bundles, hdraws, hlabels, hjoined, hhead⟩ := ih h.tail
      (fun s hs => hadds s (List.mem_cons_of_mem _ hs)) d₁
    refine ⟨d', ⟨sources, link.label, targets⟩ :: bundles,
      ⟨d₁, (hread d line).trans hadd, hjoins, hdraws⟩,
      .cons (addsLabels_of_addLink hread rfl hsources htargets) hlabels, ?_, fun x hx => ?_⟩
    · cases bundles with
      | nil => trivial
      | cons y bundles =>
        -- both bundles refer to `l.stop`, this one as its targets and the next as its sources
        refine ⟨fun hstop => ?_, hjoined⟩
        have hne : rest ≠ [] := by
          rintro rfl
          exact hdraws
        have hstop' : link.right = l.stop := by
          rw [hright, h.right_eq hne]
          split
          · next hlabel => exact hstop.1 hlabel
          · rfl
        rw [hstop'] at htargets
        exact htargets.eq (hhead y rfl) hstop.2
    · obtain rfl := Option.some.inj hx
      rw [← hleft]
      exact hsources

theorem Draft.Draws.foldlM_eq {line : Nat} {last d : Draft} {ss : List Text}
    {bundles : List Bundle} (h : Draws line last d ss bundles) :
    ss.foldlM (fun d s => d.readStatement line s) d = .ok last ∧
      last.joins = d.joins ++ bundles.flatMap Bundle.joins := by
  induction ss generalizing d bundles with
  | nil =>
    cases bundles with
    | nil =>
      obtain rfl : d = last := h
      exact ⟨rfl, by simp⟩
    | cons x bundles => exact h.elim
  | cons s ss ih =>
    cases bundles with
    | nil => exact h.elim
    | cons x bundles =>
      obtain ⟨e, hread, hjoins, hrest⟩ := h
      obtain ⟨hfold, hlast⟩ := ih hrest
      refine ⟨?_, ?_⟩
      · rw [List.foldlM_cons, hread]
        exact hfold
      · rw [hlast, hjoins, List.flatMap_cons, List.append_assoc]

/-- A chain of segments each of which, as a statement of its own, is accepted and adds edges is
accepted too, unless it is read as a link with a label inside its arrow.  It adds the edges that
its segments add one after another, with the labels that they have as statements of their own,
and each arrow leads to the nodes from which the next leads on, if they are referred to by their
names. -/
theorem readStatement_chain {c : Chain} (h : c.IsWritten) (hlinks : 2 ≤ c.links.length)
    (hinner : innerLink? (mask c.text) = none) (hadds : ∀ s ∈ c.segments, AddsEdges s)
    (d : Draft) (line : Nat) : ∃ d' bundles, d.readStatement line c.text = .ok d' ∧
      Draft.Draws line d' d c.segments bundles ∧
      d'.joins = d.joins ++ bundles.flatMap Bundle.joins ∧
      List.Forall₂ AddsLabels c.segments bundles ∧ AreJoined c.links bundles := by
  obtain ⟨d', bundles, hdraws, hlabels, hjoined, -⟩ := exists_draws h hadds d line
  obtain ⟨hfold, hjoins⟩ := hdraws.foldlM_eq
  have hread := (h.readStatement_text hadds hlinks hinner d line).trans hfold
  exact ⟨d', bundles, hread, hdraws, hjoins, hlabels, hjoined⟩

/-- A chain from two nodes along a dotted arrow with a label, a thick one to two nodes, and a
plain one with a circle at its head. -/
def mixedChain : Chain where
  first := "a & b[\"x --> y\"]".toList
  links :=
    [{ before := [' '], arrow := ⟨false, .dotted 0, true⟩, label := some ['l'], gap := [' '],
       decoration := [], stop := "c(d)".toList },
     { before := [' '], arrow := ⟨false, .thick 0, true⟩, label := none, gap := [' '],
       decoration := [], stop := "e & f".toList },
     { before := [' '], arrow := ⟨false, .plain 0, false⟩, label := none, gap := [],
       decoration := ['o', ' '], stop := ['g'] }]

/-- Its three segments add two edges each. -/
theorem readStatement_mixedChain :
    mixedChain.text = "a & b[\"x --> y\"] -.->|l| c(d) ==> e & f --o g".toList ∧
    (∀ l ∈ mixedChain.links, l.NamesStop) ∧ ∃ d' bundles,
      (Draft.start .leftRight).readStatement 1 mixedChain.text = .ok d' ∧
      d'.labels = [some ['l'], some ['l'], none, none, none, none] ∧
      Draft.Draws 1 d' (.start .leftRight) mixedChain.segments bundles ∧
      d'.joins = (Draft.start .leftRight).joins ++ bundles.flatMap Bundle.joins ∧
      List.Forall₂ AddsLabels mixedChain.segments bundles ∧ AreJoined mixedChain.links bundles := by
  have hwritten : mixedChain.IsWritten := by decide +kernel
  have hinner : innerLink? (mask mixedChain.text) = none := by decide +kernel
  have hany : ∀ s ∈ mixedChain.segments, ((Draft.start .leftRight).readStatement 1 s).toOption.any
      (fun d => decide (0 < d.graph.edges.length)) = true := by
    decide +kernel
  obtain ⟨d', bundles, hread, hdraws, hjoins, hlabels, hjoined⟩ :=
    readStatement_chain hwritten (by decide) hinner (fun s hs => addsEdges_of_any (hany s hs))
      (.start .leftRight) 1
  have hadded : (((Draft.start .leftRight).readStatement 1 mixedChain.text).map
      Draft.labels).toOption = some [some ['l'], some ['l'], none, none, none, none] := by
    decide +kernel
  rw [hread] at hadded
  exact ⟨by decide, by decide +kernel, d', bundles, hread, Option.some.inj hadded, hdraws, hjoins,
    hlabels, hjoined⟩

/-- An arrow with a label inside is taken for the only one of its statement, and a statement that
begins with a word about looks is none about edges: so not all chains are like their segments. -/
theorem exists_chain_unlike_segments :
    (AddsEdges "A -- x --> B".toList ∧ AddsEdges "B --> C".toList ∧
      (Draft.start .leftRight).readStatement 1 "A -- x --> B --> C".toList =
        .error (.invalidNode "B --> C".toList)) ∧
    ((Draft.start .leftRight).readStatement 1 "style --> B".toList = .ok (.start .leftRight) ∧
      (Draft.start .leftRight).readStatement 1 "style --> B --> C".toList =
        .ok (.start .leftRight)) :=
  ⟨⟨addsEdges_of_any (by decide +kernel), addsEdges_of_any (by decide +kernel),
    by decide +kernel⟩, by decide +kernel, by decide +kernel⟩

end Swimlane
