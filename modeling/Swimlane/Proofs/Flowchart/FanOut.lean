import Mathlib.Data.List.ProdSigma
import Swimlane.Proofs.Flowchart.Chain
import Swimlane.Proofs.Flowchart.Edges

/-!
# Links between several nodes

A link between names with ampersands between them is a segment of a chain, so it is read for what
stands on either side of its arrow: from each source an edge leads to each target
(`readStatement_fanOut`).  Only a first target that is the letter of a circle or a cross is lost,
if others follow it: it is taken for what decorates the head of the arrow.
-/

namespace Swimlane

/-! ## Names side by side -/

theorem joinNames_cons_cons (w next : Text) (rest : List Text) :
    joinNames (w :: next :: rest) = w ++ ' ' :: '&' :: ' ' :: joinNames (next :: rest) := by
  simp [joinNames, joinWith]

section JoinNames

variable {names : List Text} (hne : names ≠ []) (hnames : ∀ w ∈ names, IsWord w)

include hnames

/-- Names with ampersands between them have neither brackets nor signs of arrows. -/
theorem isPlain_joinNames {c : Char} (hc : c ∈ joinNames names) :
    isPlain c = true ∧ isArrowSign c = false := by
  rcases mem_joinNames hnames hc with hc | rfl | rfl
  · exact ⟨isPlain_of_isWordChar hc, isArrowSign_of_class hc (forall_mem_of_all (by decide))⟩
  · decide
  · decide

include hne

/-- They begin and end with names. -/
theorem ends_joinNames : (∃ c ∈ (joinNames names).head?, isWordChar c = true) ∧
    ∃ c ∈ (joinNames names).getLast?, isWordChar c = true := by
  induction names with
  | nil => exact absurd rfl hne
  | cons w rest ih =>
    have hw := hnames w List.mem_cons_self
    obtain ⟨c, more, hcons, hc⟩ := hw.exists_cons
    cases rest with
    | nil =>
      obtain ⟨d, hd⟩ := Option.isSome_iff_exists.1 (List.getLast?_isSome.2 hw.ne_nil)
      exact ⟨⟨c, by simp [joinNames, joinWith, hcons], hc⟩,
        d, hd, hw.word d (List.mem_of_getLast? hd)⟩
    | cons next rest =>
      obtain ⟨-, d, hd, hlast⟩ := ih (List.cons_ne_nil next rest)
        fun v hv => hnames v (List.mem_cons_of_mem w hv)
      rw [joinNames_cons_cons]
      refine ⟨⟨c, by simp [hcons], hc⟩, d, ?_, hlast⟩
      simp only [Option.mem_def] at hd ⊢
      simp [List.getLast?_append, List.getLast?_cons, hd]

/-- An arrow leads on from names with ampersands between them, and to them. -/
theorem isStart_joinNames : IsStart (joinNames names) := by
  obtain ⟨⟨c, hhead, hc⟩, d, hlast, hd⟩ := ends_joinNames hne hnames
  have hplain : ∀ c ∈ joinNames names, isPlain c = true := fun c hc =>
    (isPlain_joinNames hnames hc).1
  refine ⟨⟨⟨c, hhead, Or.inl hc⟩, fun e he => ?_, closesAll_of_isPlain hplain, ?_⟩,
    d, hlast, Or.inl hd⟩
  · obtain rfl : d = e := Option.some.inj (hlast.symm.trans he)
    exact isBlank_of_isWordChar hd
  · rw [mask_of_isPlain hplain]
    refine .of_forall fun cell hcell => ?_
    obtain ⟨e, he, rfl⟩ := List.mem_map.1 hcell
    exact (isPlain_joinNames hnames he).2

/-- An ampersand in front of names makes no difference. -/
theorem splitOpen_ampersand : splitOpen '&' ('&' :: ' ' :: joinNames names) = names := by
  have hopen : ∀ c ∈ '&' :: ' ' :: joinNames names, c ≠ '"' ∧ isOpening c = false := by
    intro c hc
    rcases List.mem_cons.1 hc with rfl | hc
    · decide
    · rcases List.mem_cons.1 hc with rfl | hc
      · decide
      · exact isOpen_of_isPlain (isPlain_joinNames hnames hc).1
  have hpieces := pieces_joinNames hne hnames [' '] (by simp)
  rw [List.singleton_append] at hpieces
  rw [splitOpen_eq_pieces hopen, pieces, if_pos (decide_eq_true rfl), List.map_cons, hpieces]
  refine List.filter_eq_self.2 fun w hw => decide_eq_true (hnames w hw).ne_nil

end JoinNames

/-! ## Links between several nodes -/

namespace FanOut

/-- Are all nodes named by words, of which the first begins no other statement? -/
structure IsWritten (f : FanOut) : Prop where
  sources_ne_nil : f.sources ≠ []
  targets_ne_nil : f.targets ≠ []
  first : ∀ id ∈ f.sources.head?, IsPlainName id
  sources : ∀ id ∈ f.sources, IsWord id
  targets : ∀ id ∈ f.targets, IsWord id

instance (f : FanOut) : Decidable f.IsWritten :=
  decidable_of_iff (f.sources ≠ [] ∧ f.targets ≠ [] ∧ (∀ id ∈ f.sources.head?, IsPlainName id) ∧
      (∀ id ∈ f.sources, IsWord id) ∧ ∀ id ∈ f.targets, IsWord id)
    ⟨fun h => ⟨h.1, h.2.1, h.2.2.1, h.2.2.2.1, h.2.2.2.2⟩,
      fun h => ⟨h.sources_ne_nil, h.targets_ne_nil, h.first, h.sources, h.targets⟩⟩

/-- Is the first of several targets the letter of a circle or a cross? -/
def losesTarget (f : FanOut) : Bool :=
  match f.targets with
  | first :: _ :: _ => first = ['o'] || first = ['x']
  | _ => false

/-- The targets to which the link leads. -/
def reached (f : FanOut) : List Text := if f.losesTarget then f.targets.tail else f.targets

/-- The arrow of the link with the side to which it leads. -/
def chainLink (f : FanOut) : ChainLink where
  before := [' ']
  arrow := ⟨false, .plain 0, true⟩
  label := none
  gap := [' ']
  decoration := []
  stop := joinNames f.targets

theorem text_eq (f : FanOut) : f.text = joinNames f.sources ++ f.chainLink.text := by
  simp [text, ChainLink.text, chainLink, Arrow.text, Shaft.text, inBars, ChainLink.right]

/-- The right side is as it is written, unless it begins with the letter of a circle or a cross
and a blank. -/
theorem dropDecoration_joinNames {w next : Text} (hw : IsWord w) (rest : List Text) :
    dropDecoration (joinNames (w :: next :: rest)) =
      if w = ['o'] ∨ w = ['x'] then '&' :: ' ' :: joinNames (next :: rest)
      else joinNames (w :: next :: rest) := by
  rw [joinNames_cons_cons]
  match w with
  | [] => exact absurd rfl hw.ne_nil
  | [c] =>
    have hsome : trim (' ' :: '&' :: ' ' :: joinNames (next :: rest)) ≠ [] :=
      List.ne_nil_of_mem (mem_trim (c := '&') (by simp) (by decide))
    have hstart : trimStart (' ' :: '&' :: ' ' :: joinNames (next :: rest)) =
        '&' :: ' ' :: joinNames (next :: rest) := rfl
    by_cases hc : c = 'o' ∨ c = 'x'
    · simp [dropDecoration, hc, hsome, hstart, show isBlank ' ' = true by decide]
    · simp [dropDecoration, hc]
  | c :: d :: more =>
    have hd : isBlank d = false :=
      hw.not_blank d (List.mem_cons_of_mem c List.mem_cons_self)
    simp [dropDecoration, hd]

variable {f : FanOut} (hf : f.IsWritten)

include hf

theorem isWritten_chainLink : f.chainLink.IsWritten where
  before := forall_mem_of_all (l := [' ']) (by decide)
  label _ h := by cases h
  gap := forall_mem_of_all (l := [' ']) (by decide)
  decoration := trivial
  stop := (isStart_joinNames hf.targets_ne_nil hf.targets).toIsStop

/-- The right side of the link is there, and it names the nodes that are reached. -/
theorem right_spec : ∃ c rest, dropDecoration (joinNames f.targets) = c :: rest ∧
    isArrowSign c = false ∧ splitOpen '&' (dropDecoration (joinNames f.targets)) = f.reached := by
  obtain ⟨sources, targets⟩ := f
  have htargets := hf.targets
  have hplain : ∃ c rest, joinNames targets = c :: rest ∧ isArrowSign c = false := by
    obtain ⟨⟨c, hhead, hc⟩, -⟩ := ends_joinNames hf.targets_ne_nil htargets
    exact ⟨c, (joinNames targets).tail, (List.cons_head?_tail hhead).symm,
      isArrowSign_of_class hc (forall_mem_of_all (by decide))⟩
  obtain ⟨c, rest, hcons, hc⟩ := hplain
  match targets with
  | [] => exact absurd rfl hf.targets_ne_nil
  | [w] =>
    have hw := htargets w List.mem_cons_self
    have hdrop : dropDecoration (joinNames [w]) = joinNames [w] := dropDecoration_word hw
    exact ⟨c, rest, hdrop.trans hcons, hc, by rw [hdrop]; exact hw.splitOpen_eq⟩
  | w :: next :: more =>
    have hw := htargets w List.mem_cons_self
    have hmore : ∀ v ∈ next :: more, IsWord v := fun v hv =>
      htargets v (List.mem_cons_of_mem w hv)
    rw [dropDecoration_joinNames hw]
    by_cases hlost : w = ['o'] ∨ w = ['x']
    · rw [if_pos hlost, splitOpen_ampersand (List.cons_ne_nil next more) hmore]
      exact ⟨'&', _, rfl, rfl, by simp [reached, losesTarget, hlost]⟩
    · rw [if_neg hlost, splitOpen_joinNames (List.cons_ne_nil w _) htargets]
      exact ⟨c, rest, hcons, hc, by simp [reached, losesTarget, hlost]⟩

/-- The link is what stands on either side of its arrow. -/
theorem link?_text : link? f.text =
    some ⟨joinNames f.sources, none, dropDecoration (joinNames f.targets)⟩ := by
  have hstart := isStart_joinNames hf.sources_ne_nil hf.sources
  obtain ⟨c, rest, hright, hc, -⟩ := right_spec hf
  have hsides : sidesOk (joinNames f.sources) (dropDecoration (joinNames f.targets)) = true := by
    rw [hright]
    exact sidesOk_of_isStart hstart hc rest
  rw [f.text_eq, (isWritten_chainLink hf).link?_written hstart]
  show (if sidesOk (joinNames f.sources) (dropDecoration (joinNames f.targets)) then
    some (⟨joinNames f.sources, none, dropDecoration (joinNames f.targets)⟩ : Link) else none) = _
  rw [if_pos hsides]

theorem isForEdges_text : Draft.IsForEdges f.text := by
  have htext (c : Char) (hc : c = '"' ∨ c = '~') : c ∉ f.text := by
    have hside {names : List Text} (hnames : ∀ w ∈ names, IsWord w) : c ∉ joinNames names := by
      intro hmem
      rcases mem_joinNames hnames hmem with hword | rfl | rfl
      · rcases hc with rfl | rfl <;> cases hword
      · rcases hc with h | h <;> cases h
      · rcases hc with h | h <;> cases h
    rw [text, List.mem_append, List.mem_append, not_or, not_or]
    refine ⟨⟨hside hf.sources, ?_⟩, hside hf.targets⟩
    rcases hc with rfl | rfl <;> decide
  have htildes : hasTildes (mask f.text) = false := by
    refine hasTildes_eq_false ?_
    rw [openChars_eq_self (htext '"' (Or.inl rfl))]
    exact htext '~' (Or.inr rfl)
  have hhyphen : '-' ∈ f.text := by simp [text]
  have hdirection := Draft.directionLine?_eq_none hhyphen (Or.inl rfl)
  obtain ⟨first, rest, hsources⟩ := List.exists_cons_of_ne_nil hf.sources_ne_nil
  have hfirst : IsPlainName first := hf.first first (by rw [hsources]; rfl)
  obtain ⟨more, hmore⟩ : ∃ more, f.text = first ++ ' ' :: more := by
    rw [text, hsources]
    cases rest with
    | nil => exact ⟨_, List.append_assoc ..⟩
    | cons next rest =>
      rw [joinNames_cons_cons]
      simp
  rw [hmore] at hdirection htildes ⊢
  have hplain := Draft.beginsPlainly_name hfirst (' ' :: more) (by simp [isWordChar])
  exact (hplain.isPlainStatement hdirection).isForEdges htildes

end FanOut

/-! ## What links between several nodes add -/

namespace Draft

/-- Does another draft have more than the draft has an edge from each source to each target, row
by row and numbered on, and no other nodes than these in addition? -/
structure FansOut (d : Draft) (sources targets : List Text) (d' : Draft) : Prop where
  edges : d'.graph.edges = d.graph.edges ++ (sources ×ˢ targets).mapIdx fun i ends =>
    ⟨'e' :: decimal (d.graph.edges.length + i), ends.1, ends.2, none⟩
  nodes : ∀ id, d'.graph.hasNode id = true ↔
    d.graph.hasNode id = true ∨ id ∈ sources ++ targets

theorem edges_mentionAll (d : Draft) (ws : List Text) :
    (d.mentionAll ws).graph.edges = d.graph.edges := by
  induction ws generalizing d with
  | nil => rfl
  | cons w ws ih => exact (ih _).trans (d.edges_mention false w ⟨some w, none, none⟩)

theorem hasNode_mentionAll (d : Draft) (ws : List Text) {id : Text} :
    (d.mentionAll ws).graph.hasNode id = true ↔ d.graph.hasNode id = true ∨ id ∈ ws := by
  induction ws generalizing d with
  | nil => simp [mentionAll]
  | cons w ws ih =>
    have hcons : d.mentionAll (w :: ws) = (d.mention false w ⟨some w, none, none⟩).mentionAll ws :=
      rfl
    rw [hcons, ih, hasNode_mention, List.mem_cons, or_assoc]

theorem hasNode_foldl_addEdge (label : Option Text) (pairs : List (Text × Text)) (d : Draft)
    (id : Text) : (pairs.foldl (·.addEdge label ·) d).graph.hasNode id = d.graph.hasNode id := by
  induction pairs generalizing d with
  | nil => rfl
  | cons p rest ih => exact ih _

/-- A link between words adds their edges row by row. -/
theorem fansOut_addLink (link : Link) {sources targets : List Text}
    (hsources : ∀ w ∈ sources, IsWord w) (htargets : ∀ w ∈ targets, IsWord w)
    (hleft : splitOpen '&' link.left = sources) (hright : splitOpen '&' link.right = targets)
    (hlabel : link.label = none) (d : Draft) :
    ∃ d', d.addLink link = .ok d' ∧ d.FansOut sources targets d' := by
  refine ⟨_, addLink_words hsources htargets hleft hright d, ?_, fun id => ?_⟩
  · rw [edges_foldl_addEdge, edges_mentionAll, edges_mentionAll, hlabel]
  · rw [hasNode_foldl_addEdge, hasNode_mentionAll, hasNode_mentionAll, List.mem_append, or_assoc]

/-- If no source is left out, the edges tell how many targets there are. -/
theorem FansOut.length_eq {d d' : Draft} {sources targets targets' : List Text}
    (h : d.FansOut sources targets d') (h' : d.FansOut sources targets' d') (hne : sources ≠ []) :
    targets.length = targets'.length := by
  have hedges := h.edges.symm.trans h'.edges
  have hlength := congrArg List.length (List.append_cancel_left hedges)
  rw [List.length_mapIdx, List.length_mapIdx, List.length_product, List.length_product] at hlength
  exact Nat.eq_of_mul_eq_mul_left (List.length_pos_iff.2 hne) hlength

end Draft

theorem FanOut.length_reached_lt {f : FanOut} (h : f.losesTarget = true) :
    f.reached.length < f.targets.length := by
  rw [reached, if_pos h]
  cases hcase : f.targets with
  | nil =>
    rw [losesTarget, hcase] at h
    cases h
  | cons w rest => exact Nat.lt_succ_self _

/-- A link from several nodes to several is accepted.  It adds the nodes and from each source an
edge to each target that is reached, row by row and numbered on; these are all the targets,
unless the first of several is the letter of a circle or a cross. -/
theorem readStatement_fanOut {f : FanOut} (hf : f.IsWritten) (d : Draft) (line : Nat) :
    ∃ d', d.readStatement line f.text = .ok d' ∧ d.FansOut f.sources f.reached d' ∧
      (d.FansOut f.sources f.targets d' ↔ f.losesTarget = false) := by
  obtain ⟨c, rest, -, -, hright⟩ := FanOut.right_spec hf
  have hreached : ∀ w ∈ f.reached, IsWord w := by
    intro w hw
    rw [FanOut.reached] at hw
    split at hw
    · exact hf.targets w (List.mem_of_mem_tail hw)
    · exact hf.targets w hw
  have hstart := isStart_joinNames hf.sources_ne_nil hf.sources
  have hchain : chain? f.text = none := by
    rw [f.text_eq]
    exact (FanOut.isWritten_chainLink hf).chain?_eq_none hstart
  obtain ⟨d', hadd, hfans⟩ := Draft.fansOut_addLink ⟨joinNames f.sources, none, _⟩
    hf.sources hreached (splitOpen_joinNames hf.sources_ne_nil hf.sources) hright rfl d
  have hread := (FanOut.isForEdges_text hf).readStatement_of_link d line hchain
    (FanOut.link?_text hf)
  refine ⟨d', hread.trans hadd, hfans, fun hall => ?_, fun hkeeps => ?_⟩
  · rw [Bool.eq_false_iff]
    intro hloses
    exact absurd (hfans.length_eq hall hf.sources_ne_nil) (FanOut.length_reached_lt hloses).ne
  · rwa [FanOut.reached, if_neg (by simp [hkeeps])] at hfans

/-- A link from two nodes to three, one of which has the letter of a cross for its name, adds six
edges. -/
theorem readStatement_linkToCross : ∃ (f : FanOut) (d' : Draft), f.IsWritten ∧
    f.text = "a & b --> end & x & c".toList ∧
    (Draft.start .leftRight).readStatement 1 f.text = .ok d' ∧
    (Draft.start .leftRight).FansOut f.sources f.targets d' ∧
    d'.graph.edges.map (fun e => (e.id, e.source, e.target)) =
      [("e0".toList, "a".toList, "end".toList), ("e1".toList, "a".toList, "x".toList),
       ("e2".toList, "a".toList, "c".toList), ("e3".toList, "b".toList, "end".toList),
       ("e4".toList, "b".toList, "x".toList), ("e5".toList, "b".toList, "c".toList)] := by
  have hwritten : FanOut.IsWritten ⟨[['a'], ['b']], ["end".toList, ['x'], ['c']]⟩ := by decide
  obtain ⟨d', hread, -, hall⟩ := readStatement_fanOut hwritten (.start .leftRight) 1
  have hfans := hall.2 (by decide)
  refine ⟨_, d', hwritten, by decide, hread, hfans, ?_⟩
  rw [hfans.edges]
  decide

/-- Of two targets the first is lost, with its edge, if its name is the letter of a circle. -/
theorem exists_lost_target : ∃ (f : FanOut) (d' : Draft), f.IsWritten ∧
    f.text = "A --> o & B".toList ∧ (Draft.start .leftRight).readStatement 2 f.text = .ok d' ∧
    d'.graph.nodes.map (·.id) = [['A'], ['B']] ∧
    d'.graph.edges = [⟨"e0".toList, ['A'], ['B'], none⟩] ∧
    ¬ (Draft.start .leftRight).FansOut f.sources f.targets d' := by
  have hadded : (((Draft.start .leftRight).readStatement 2 "A --> o & B".toList).map
      fun d => (d.graph.nodes.map (·.id), d.graph.edges)).toOption =
      some ([['A'], ['B']], [⟨"e0".toList, ['A'], ['B'], none⟩]) := by
    decide +kernel
  obtain ⟨d', hread, hgraph⟩ := exists_of_toOption_map hadded
  obtain ⟨hnodes, hedges⟩ := Prod.mk.inj hgraph
  refine ⟨⟨[['A']], [['o'], ['B']]⟩, d', by decide, by decide, hread, hnodes, hedges, fun h => ?_⟩
  have hlength := congrArg List.length (hedges.symm.trans h.edges)
  exact absurd hlength (by decide)

end Swimlane
