import Swimlane.Proofs.Flowchart.Link
import Swimlane.Proofs.Flowchart.Steps

/-!
# Statements read back as they are written

What a draft becomes when it reads a line of an outline.  A line that begins with a plain
name is none of the statements that begin with a word of their own; so it is a link or a
node.  The header of a group opens the group under its name, if the name is free.
-/

namespace Swimlane

/-! ## Words -/

/-- The first word of a text goes on from its beginning. -/
theorem words_append {w : Text} (hne : w ≠ []) (hw : ∀ c ∈ w, isBlank c = false) (rest : Text) :
    ∃ t ws, words (w ++ rest) = (w ++ t) :: ws := by
  obtain ⟨t, ws, h⟩ := exists_pieces_append hw rest
  refine ⟨t, ws.filter (· ≠ []), ?_⟩
  rw [words, h, List.filter_cons_of_pos (by simp [hne])]

theorem words_eq_singleton {w : Text} (hne : w ≠ []) (hw : ∀ c ∈ w, isBlank c = false) :
    words w = [w] := by
  rw [words, pieces_eq_singleton hw, List.filter_cons_of_pos (by simp [hne]), List.filter_nil]

namespace Draft

/-! ## Statements that begin with a word -/

/-- The words with which statements begin that are about neither nodes nor edges. -/
def reservedWords : List Text :=
  ["end", "subgraph", "class", "classDef", "style", "linkStyle", "click", "title"].map (·.toList)

/-- Does a statement that begins with the word and goes on like this have none of the meanings
that the beginnings of statements give them?  Either the word is not reserved, or what follows it
at once keeps it from being understood. -/
structure BeginsPlainly (w rest : Text) : Prop where
  word : IsWord w
  ends : ∀ c ∈ rest.head?, isWordChar c = false
  not_title : ¬ startsWith "accTitle".toList w
  not_description : ¬ startsWith "accDescr".toList w
  free : w ∉ reservedWords ∨ ∃ c ∈ rest.head?, isBlank c = false

theorem beginsPlainly_name {id : Text} (hid : IsPlainName id) (rest : Text)
    (hrest : ∀ c ∈ rest.head?, isWordChar c = false) : BeginsPlainly id rest :=
  ⟨hid.isWord, hrest, hid.not_title, hid.not_description, Or.inl hid.not_reserved⟩

/-- Is the statement read for nodes and edges, for none of the other meanings of statements? -/
structure IsPlainStatement (s : Text) : Prop where
  not_end : s ≠ "end".toList
  no_header : subgraphHeader? s = none
  no_direction : directionLine? s = none
  no_style : isStyle s = false

namespace BeginsPlainly

variable {w rest : Text} (h : BeginsPlainly w rest)

include h

/-- The word is what stands in front of the first character that is not of words. -/
theorem takeWhile_eq : (w ++ rest).takeWhile isWordChar = w := by
  rw [List.takeWhile_append_of_pos h.word.word]
  have hends := h.ends
  cases rest with
  | nil => rw [List.takeWhile_nil, List.append_nil]
  | cons c rest =>
    rw [List.takeWhile_cons_of_neg (by simp [hends c rfl]), List.append_nil]

/-- A word at the beginning of the statement is at the beginning of its word. -/
theorem prefix_word {word : Text} (hword : ∀ c ∈ word, isWordChar c = true)
    (hstart : startsWith word (w ++ rest) = true) : word <+: w := by
  obtain ⟨t, ht⟩ := List.isPrefixOf_iff_prefix.1 hstart
  have htake := h.takeWhile_eq
  rw [← ht, List.takeWhile_append_of_pos hword] at htake
  exact ⟨_, htake⟩

/-- A reserved word with a blank after it does not begin the statement. -/
theorem startsWith_eq_false (word : Text) (hreserved : word ∈ reservedWords) :
    startsWith (word ++ [' ']) (w ++ rest) = false := by
  have hall : ∀ word ∈ reservedWords, ∀ c ∈ word, isWordChar c = true := by
    intro word hword
    refine forall_mem_of_all ?_
    revert word
    exact forall_mem_of_all (by decide)
  rw [Bool.eq_false_iff]
  intro hstart
  obtain ⟨t, ht⟩ := List.isPrefixOf_iff_prefix.1 hstart
  have htake := h.takeWhile_eq
  rw [← ht, List.append_assoc, List.takeWhile_append_of_pos (hall word hreserved),
    List.singleton_append, List.takeWhile_cons_of_neg (by decide), List.append_nil] at htake
  subst htake
  rw [List.append_assoc, List.append_cancel_left_eq, List.singleton_append] at ht
  rcases h.free with hfree | ⟨c, hc, hblank⟩
  · exact hfree hreserved
  · rw [← ht] at hc
    rw [← Option.some.inj hc] at hblank
    revert hblank
    decide

theorem isStyle_eq_false : isStyle (w ++ rest) = false := by
  have hstart (word : Text) (hword : ∀ c ∈ word, isWordChar c = true)
      (hne : ¬ startsWith word w = true) : startsWith word (w ++ rest) = false :=
    Bool.eq_false_iff.2 fun hw => hne (List.isPrefixOf_iff_prefix.2 (h.prefix_word hword hw))
  simp only [isStyle, styleWords, List.any_cons, List.any_nil, Bool.or_false, Bool.or_eq_false_iff]
  refine ⟨h.startsWith_eq_false "classDef".toList (by decide),
    h.startsWith_eq_false "class".toList (by decide),
    h.startsWith_eq_false "style".toList (by decide),
    h.startsWith_eq_false "linkStyle".toList (by decide),
    h.startsWith_eq_false "click".toList (by decide),
    hstart _ (forall_mem_of_all (by decide)) h.not_title,
    hstart _ (forall_mem_of_all (by decide)) h.not_description,
    h.startsWith_eq_false "title".toList (by decide)⟩

theorem subgraphHeader?_eq_none : subgraphHeader? (w ++ rest) = none := by
  rw [subgraphHeader?]
  split
  · next hstart =>
    obtain ⟨t, ht⟩ := h.prefix_word (forall_mem_of_all (by decide)) hstart
    have hdrop : (w ++ rest).drop 8 = t ++ rest := by
      rw [← ht]
      rfl
    rw [hdrop]
    cases t with
    | nil =>
      rw [List.append_nil] at ht
      rcases h.free with hfree | ⟨c, hc, hblank⟩
      · exact absurd (ht ▸ by decide) hfree
      · obtain ⟨rest, rfl⟩ : ∃ t, rest = c :: t := ⟨rest.tail, (List.cons_head?_tail hc).symm⟩
        simp only [List.nil_append, hblank, Bool.false_eq_true, if_false]
    | cons c t =>
      have hblank : isBlank c = false := by
        refine h.word.not_blank c ?_
        rw [← ht]
        exact List.mem_append_right _ List.mem_cons_self
      simp only [List.cons_append, hblank, Bool.false_eq_true, if_false]
  · rfl

theorem ne_end : w ++ rest ≠ "end".toList := by
  intro heq
  cases hcase : rest with
  | nil =>
    rw [hcase, List.append_nil] at heq
    rcases h.free with hfree | ⟨c, hc, -⟩
    · exact hfree (heq ▸ by decide)
    · rw [hcase] at hc
      cases hc
  | cons c t =>
    have hword : ∀ d ∈ "end".toList, isWordChar d = true := forall_mem_of_all (by decide)
    have hc := hword c (heq ▸ List.mem_append_right w (hcase ▸ List.mem_cons_self))
    rw [h.ends c (by rw [hcase]; rfl)] at hc
    cases hc

/-- Unless it sets a direction, such a statement is read for nodes and edges. -/
theorem isPlainStatement (hdirection : directionLine? (w ++ rest) = none) :
    IsPlainStatement (w ++ rest) :=
  ⟨h.ne_end, h.subgraphHeader?_eq_none, hdirection, h.isStyle_eq_false⟩

end BeginsPlainly

/-! ## Directions -/

/-- A word that goes on without a blank sets no direction, nor does a word alone. -/
theorem directionLine?_word {w rest : Text} (hw : IsWord w)
    (hrest : rest = [] ∨ ∃ c t, rest = c :: t ∧ isBlank c = false ∧ isWordChar c = false) :
    directionLine? (w ++ rest) = none := by
  rcases hrest with rfl | ⟨c, t, rfl, hblank, hc⟩
  · rw [List.append_nil, directionLine?, words_eq_singleton hw.ne_nil hw.not_blank]
  · have hall : ∀ d ∈ w ++ [c], isBlank d = false := by
      intro d hd
      rcases List.mem_append.1 hd with hd | hd
      · exact hw.not_blank d hd
      · rw [List.mem_singleton.1 hd]
        exact hblank
    have hword : ∀ d ∈ "direction".toList, isWordChar d = true := forall_mem_of_all (by decide)
    obtain ⟨more, ws, hwords⟩ := words_append (by simp) hall t
    rw [List.append_assoc, List.singleton_append] at hwords
    rw [directionLine?, hwords]
    split
    · next hmatch =>
      obtain ⟨rfl, -⟩ := List.cons_eq_cons.1 hmatch
      refine if_neg fun heq => ?_
      have hmem := hword c (heq ▸ by simp)
      rw [hc] at hmem
      cases hmem
    · rfl

theorem ofWord?_eq_none {w : Text} {c : Char} (hc : c ∈ w) (hsign : c = '-' ∨ c = '=') :
    Direction.ofWord? w = none := by
  have hupper : c.toUpper = c := by rcases hsign with rfl | rfl <;> decide
  have hmem : c ∈ w.map Char.toUpper := hupper ▸ List.mem_map_of_mem hc
  have hne (word : Text) (hword : c ∉ word) : w.map Char.toUpper ≠ word := fun heq =>
    hword (heq ▸ hmem)
  rcases hsign with rfl | rfl <;>
    simp [Direction.ofWord?, hne ['T', 'D'] (by decide), hne ['T', 'B'] (by decide),
      hne ['B', 'T'] (by decide), hne ['L', 'R'] (by decide), hne ['R', 'L'] (by decide)]

/-- A statement that has a sign of shafts is no direction. -/
theorem directionLine?_eq_none {s : Text} {c : Char} (hc : c ∈ s) (hsign : c = '-' ∨ c = '=') :
    directionLine? s = none := by
  have hblank : isBlank c = false := by rcases hsign with rfl | rfl <;> decide
  obtain ⟨w, hw, hcw⟩ := exists_mem_words hc hblank
  rw [directionLine?]
  split
  · next first second hwords =>
    split
    · next hfirst =>
      have hne : c ∉ "direction".toList := by rcases hsign with rfl | rfl <;> decide
      rw [hwords, hfirst, List.mem_cons, List.mem_singleton] at hw
      rcases hw with rfl | rfl
      · exact absurd hcw hne
      · exact ofWord?_eq_none hcw hsign
    · rfl
  · rfl

/-! ## Statements about nodes and edges -/

namespace IsPlainStatement

variable {s : Text} (h : IsPlainStatement s) {d d' : Draft} (line : Nat)

include h

/-- A statement with an arrow is read as its links. -/
theorem readStatement_links (hedges : d.addEdges s = .ok (some d')) :
    d.readStatement line s = .ok d' := by
  simp only [readStatement, if_neg h.not_end, h.no_header, h.no_direction, h.no_style, hedges]
  rfl

/-- A statement without an arrow is read as a reference. -/
theorem readStatement_ref (hedges : d.addEdges s = .ok none) :
    d.readStatement line s = (do return (← d.refer true (← readRef s)).2) := by
  simp only [readStatement, if_neg h.not_end, h.no_header, h.no_direction, h.no_style, hedges]
  rfl

end IsPlainStatement

/-- A reference by a name that nodes may have mentions the node. -/
theorem refer_name {r : NodeRef} {id : Text} (hr : r.id = some id) (hid : isNodeId id = true)
    (d : Draft) (asStatement : Bool) :
    d.refer asStatement r = .ok (id, d.mention asStatement id r) := by
  have hname : d.refName r = .ok id := by
    rw [refName, hr]
    exact if_pos hid
  rw [refer, hname]
  rfl

/-- A statement that shows no shaft and no tilde has no edges. -/
theorem addEdges_eq_none {s : Text} (hshaft : NoShaft (mask s)) (htilde : '~' ∉ openChars false s)
    (d : Draft) : d.addEdges s = .ok none := by
  simp only [addEdges, hasTildes_eq_false htilde, hshaft.chain?_eq_none, hshaft.link?_eq_none,
    hshaft.hasArrow_eq_false]
  rfl

/-! ## Nodes -/

/-- A mask shows only such shafts as the text has in the open. -/
theorem noShaft_of_not_mem {s : Text} (hhyphen : '-' ∉ openChars false s)
    (hequals : '=' ∉ openChars false s) : NoShaft (mask s) := fun cell hcell =>
  ⟨shown_ne_of_not_mem_openChars hhyphen (by decide) (by decide) cell hcell,
    shown_ne_of_not_mem_openChars hequals (by decide) (by decide) cell hcell⟩

theorem readRef_eq_ok {s : Text} (hne : s ≠ []) (hclass : withoutClass s = s)
    (hbalanced : isBalanced s = true) : readRef s = .ok (.ofText s) := by
  rw [readRef, hclass]
  split
  · exact absurd rfl hne
  · rw [hbalanced, if_pos rfl]

/-- A word refers to the node with that name. -/
theorem readRef_word {w : Text} (hw : IsWord w) : readRef w = .ok ⟨some w, none, none⟩ := by
  rw [readRef_eq_ok hw.ne_nil hw.withoutClass_eq hw.isBalanced, hw.ofText_eq]

/-- A plain name alone mentions the node in a statement of its own. -/
theorem readStatement_name {id : Text} (hid : IsPlainName id) (d : Draft) (line : Nat) :
    d.readStatement line id = .ok (d.mention true id ⟨some id, none, none⟩) := by
  have hopen (c : Char) (hc : isWordChar c = false) : c ∉ openChars false id := by
    rw [openChars_eq_self (hid.isWord.not_mem (by decide))]
    exact hid.isWord.not_mem hc
  have hedges := addEdges_eq_none (noShaft_of_not_mem (hopen '-' (by decide))
    (hopen '=' (by decide))) (hopen '~' (by decide)) d
  have hdirection := directionLine?_word hid.isWord (Or.inl rfl)
  have hplain := (beginsPlainly_name hid [] (by simp)).isPlainStatement hdirection
  rw [List.append_nil] at hplain
  rw [hplain.readStatement_ref line hedges, readRef_word hid.isWord]
  show (d.refer true ⟨some id, none, none⟩ >>= fun p => pure p.2) = _
  rw [refer_name rfl hid.isWord.isNodeId]
  rfl

section QuotedNode

variable {id : Text} (hid : IsWord id) {dl : Delimiters} (hdl : dl ∈ nodeDelimiters) {label : Text}
  (hquote : '"' ∉ label)

include hid hdl hquote

/-- A node with a quoted label has no edges, whatever stands in its quotes. -/
theorem addEdges_quotedNode (d : Draft) : d.addEdges (quotedNode id dl label) = .ok none := by
  have hopen (c : Char) (hc : isWordChar c = false)
      (hmark : c ∉ ['[', ']', '(', ')', '\x7b', '\x7d', '/', '\\', '>']) :
      c ∉ openChars false (quotedNode id dl label) :=
    not_mem_openChars_quotedNode hid hdl hquote hc hmark
  exact addEdges_eq_none (noShaft_of_not_mem (hopen '-' (by decide) (by decide))
    (hopen '=' (by decide) (by decide))) (hopen '~' (by decide) (by decide)) d

variable (htitle : ¬ startsWith "accTitle".toList id)
  (hdescription : ¬ startsWith "accDescr".toList id)

omit hquote in
include htitle hdescription in
/-- A word that goes on with a delimiter begins no other statement, unless one about titles. -/
theorem isPlainStatement_quotedNode : IsPlainStatement (quotedNode id dl label) := by
  obtain ⟨c, more, hopening, hblank, hc⟩ := exists_opening hdl
  have hline : quotedNode id dl label = id ++ c :: (more ++ inQuotes label ++ dl.closing) := by
    simp [quotedNode, hopening]
  have hplain : BeginsPlainly id (c :: (more ++ inQuotes label ++ dl.closing)) :=
    ⟨hid, fun d hd => Option.some.inj hd ▸ hc, htitle, hdescription, Or.inr ⟨c, rfl, hblank⟩⟩
  rw [hline]
  exact hplain.isPlainStatement (directionLine?_word hid (Or.inr ⟨c, _, rfl, hblank, hc⟩))

include htitle hdescription in
/-- A node with a quoted label mentions the node, with the label and the shape, unless the label
has the three colons of a class or, after an angle, a square bracket. -/
theorem readStatement_quotedNode (hclass : ¬ [':', ':', ':'] <:+: label)
    (hangle : dl.shape = .asymmetric → '[' ∉ label) (d : Draft) (line : Nat) :
    d.readStatement line (quotedNode id dl label) =
      .ok (d.mention true id ⟨some id, some (trim (breakLines label)), some dl.shape⟩) := by
  have hne : quotedNode id dl label ≠ [] := by
    obtain ⟨c, rest, rfl, -⟩ := hid.exists_cons
    exact List.cons_ne_nil c _
  rw [(isPlainStatement_quotedNode hid hdl htitle hdescription).readStatement_ref line
      (addEdges_quotedNode hid hdl hquote d),
    readRef_eq_ok hne (withoutClass_quotedNode hid hdl hclass)
      (isBalanced_quotedNode hid hdl hquote),
    ofText_quotedNode hid label hdl hangle]
  show (d.refer true ⟨some id, some _, some _⟩ >>= fun p => pure p.2) = _
  rw [refer_name rfl hid.isNodeId]
  rfl

end QuotedNode

/-- The line of a node mentions the node in a statement of its own. -/
theorem readStatement_nodeLine {id : Text} (hid : IsPlainName id) {body : Option Body}
    (hbody : ∀ b ∈ body, IsPlainLabel b.label) (d : Draft) (line : Nat) :
    d.readStatement line (nodeLine id body) =
      .ok (d.mention true id ⟨some id, body.map (·.label), body.map (·.shape)⟩) := by
  cases body with
  | none => exact readStatement_name hid d line
  | some b =>
    have hlabel := hbody b rfl
    have hread := readStatement_quotedNode hid.isWord b.delimiters_mem hlabel.no_mark.1
      hid.not_title hid.not_description hlabel.no_colons (fun _ => hlabel.no_mark.2.2) d line
    rw [hlabel.trim_breakLines] at hread
    exact hread

/-! ## Links -/

/-- The draft after words were referred to one after another. -/
def mentionAll (d : Draft) (ws : List Text) : Draft :=
  ws.foldl (fun d w => d.mention false w ⟨some w, none, none⟩) d

/-- A side that consists of words refers to the nodes with these names. -/
theorem referSide_words {ws : List Text} (hws : ∀ w ∈ ws, IsWord w) (d : Draft) :
    d.referSide ws = .ok (ws, d.mentionAll ws) := by
  induction ws generalizing d with
  | nil => rfl
  | cons w ws ih =>
    have hw := hws w List.mem_cons_self
    rw [referSide, readRef_word hw]
    show (d.refer false ⟨some w, none, none⟩ >>= _) = _
    rw [refer_name rfl hw.isNodeId]
    show ((d.mention false w ⟨some w, none, none⟩).referSide ws >>= _) = _
    rw [ih fun v hv => hws v (List.mem_cons_of_mem w hv)]
    rfl

/-- A link between words mentions them all and adds an edge from each word on the left to each on
the right. -/
theorem addLink_words {link : Link} {sources targets : List Text}
    (hsources : ∀ w ∈ sources, IsWord w) (htargets : ∀ w ∈ targets, IsWord w)
    (hleft : splitOpen '&' link.left = sources) (hright : splitOpen '&' link.right = targets)
    (d : Draft) : d.addLink link = .ok ((sources ×ˢ targets).foldl (·.addEdge link.label ·)
      ((d.mentionAll sources).mentionAll targets)) := by
  rw [addLink, hleft, hright, referSide_words hsources]
  show ((d.mentionAll sources).referSide targets >>= _) = _
  rw [referSide_words htargets]
  rfl

/-- The draft after a link between two names. -/
def link (d : Draft) (l : PlainLink) : Draft :=
  ((d.mention false l.source ⟨some l.source, none, none⟩).mention false l.target
    ⟨some l.target, none, none⟩).addEdge l.label (l.source, l.target)

theorem addLink_word {l : PlainLink} (hsource : IsWord l.source) (htarget : IsWord l.target)
    (d : Draft) : d.addLink ⟨l.source, l.label, l.target⟩ = .ok (d.link l) :=
  addLink_words (List.forall_mem_singleton.2 hsource) (List.forall_mem_singleton.2 htarget)
    hsource.splitOpen_eq htarget.splitOpen_eq d

/-- The line of a link mentions both names and adds the edge. -/
theorem readStatement_line {l : PlainLink} (hsource : IsPlainName l.source)
    (htarget : IsWord l.target) (hlabel : ∀ label ∈ l.label, '"' ∉ label ∧ label ≠ [])
    (d : Draft) (line : Nat) : d.readStatement line l.line = .ok (d.link l) := by
  have hquote : ∀ label ∈ l.label, '"' ∉ label := fun label h => (hlabel label h).1
  have hlink := addLink_word hsource.isWord htarget d
  have hedges : d.addEdges l.line = .ok (some (d.link l)) := by
    have htilde := not_mem_openChars_line hsource.isWord htarget hquote (c := '~') (by decide)
      (by decide)
    simp only [addEdges, hasTildes_eq_false htilde, chain?_line hsource.isWord htarget hquote,
      link?_line hsource.isWord htarget hlabel, hlink]
    rfl
  obtain ⟨t, hline⟩ : ∃ t, l.line = l.source ++ ' ' :: t :=
    ⟨_, l.line_eq.trans (by rw [List.append_assoc]; rfl)⟩
  have hhyphen : '-' ∈ l.line := by simp [l.line_eq]
  have hdirection : directionLine? l.line = none := directionLine?_eq_none hhyphen (Or.inl rfl)
  rw [hline] at hedges hdirection ⊢
  have hplain := beginsPlainly_name hsource (' ' :: t) (by simp [isWordChar])
  exact (hplain.isPlainStatement hdirection).readStatement_links line hedges

/-! ## Groups -/

theorem subgraphHeader?_eq_some {s : Text} (h : ∀ c ∈ s.head?, isBlank c = false) :
    subgraphHeader? ("subgraph ".toList ++ s) = some s := by
  have hstart : startsWith "subgraph".toList ("subgraph ".toList ++ s) = true :=
    List.isPrefixOf_iff_prefix.2 ⟨' ' :: s, rfl⟩
  have hdrop : ("subgraph ".toList ++ s).drop 8 = ' ' :: s := rfl
  rw [subgraphHeader?, if_pos hstart, hdrop]
  simp only [show isBlank ' ' = true by decide, if_true, trimStart_eq_self h]

/-- The line that opens a group is a word and the line of a rectangle. -/
theorem subgraphLine_eq (id label : Text) :
    "subgraph ".toList ++ id ++ '[' :: inQuotes label ++ [']'] =
      "subgraph ".toList ++ nodeLine id (some ⟨.rectangle, label⟩) := by
  simp [nodeLine, Shape.delimiters]

/-- The line that opens a group is a header and a name with a label in square brackets. -/
theorem readStatement_subgraph {id label : Text} (hid : IsPlainName id) (h : IsPlainLabel label)
    {d : Draft} (hnode : d.graph.hasNode id = false) (hgroup : d.graph.hasGroup id = false)
    (line : Nat) :
    d.readStatement line ("subgraph ".toList ++ id ++ '[' :: inQuotes label ++ [']']) =
      .ok (d.enter line id label) := by
  have hbody : ∀ b ∈ some (Body.mk .rectangle label), IsPlainLabel b.label := h.of_mem_some
  have hline := isStatementLine_nodeLine hid hbody
  have hbalanced := isBalanced_nodeLine hid fun b hb => (hbody b hb).no_mark.1
  have hheader : subgraphHeader? ("subgraph ".toList ++ nodeLine id (some ⟨.rectangle, label⟩)) =
      some (nodeLine id (some ⟨.rectangle, label⟩)) := by
    obtain ⟨c, rest, hcons, hc, -⟩ := hline.head
    refine subgraphHeader?_eq_some fun d hd => ?_
    rw [hcons] at hd
    rwa [← Option.some.inj hd]
  have hname : d.groupName (some id) label = id := by
    simp [groupName, hgroup, hasDeclared, hnode]
  have hopen : d.openGroup line (nodeLine id (some ⟨.rectangle, label⟩)) =
      .ok (d.enter line id label) := by
    simp only [openGroup, hbalanced, readGroupHeader_nodeLine hid h, hname]
    rfl
  have hend : "subgraph ".toList ++ nodeLine id (some ⟨.rectangle, label⟩) ≠ "end".toList := by
    simp
  rw [subgraphLine_eq]
  simp only [readStatement, if_neg hend, hheader, hopen]

/-- `end` closes the innermost group. -/
theorem readStatement_end {d : Draft} {x : OpenGroup} {outer : List OpenGroup}
    (hopen : d.openGroups = x :: outer) (line : Nat) :
    d.readStatement line "end".toList = .ok { d with openGroups := outer } := by
  rw [readStatement, if_pos rfl, hopen]

end Draft

end Swimlane
