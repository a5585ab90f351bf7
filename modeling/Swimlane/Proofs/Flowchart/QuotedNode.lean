import Swimlane.Flowchart.Line
import Swimlane.Proofs.Flowchart.Word

/-!
# Nodes with quoted labels

A node is written as a word and a quoted label in the delimiters of a shape.  What stands in the
quotes is passed over by all that looks for comments, semicolons, arrows and brackets, so such a
line is a statement, its brackets are balanced, and it is read as the word, the label and the
shape (`ofText_quotedNode`).  Only the three colons of a class are looked for inside quotes too,
and after an angle bracket a square one.
-/

namespace Swimlane

/-! ## Quotes -/

theorem trim_inQuotes (label : Text) : trim (inQuotes label) = inQuotes label := by
  refine trim_eq_self (fun c hc => ?_) (fun c hc => ?_)
  · rw [← Option.some.inj hc]
    decide
  · rw [inQuotes, List.getLast?_append, List.getLast?_singleton, Option.some_or] at hc
    rw [← Option.some.inj hc]
    decide

/-- A label is what stands between its quotes. -/
theorem unquote_inQuotes (label : Text) : unquote (inQuotes label) = label := by
  rw [unquote, trim_inQuotes]
  simp [inQuotes]

theorem cleanLabel_inQuotes (label : Text) :
    cleanLabel (inQuotes label) = trim (breakLines label) := by
  rw [cleanLabel, unquote_inQuotes]

/-- A quoted label does not count for the balance of brackets. -/
theorem balancedFrom_inQuotes {label : Text} (h : '"' ∉ label) (lenient : Bool)
    (expected : List Char) (rest : Text) :
    balancedFrom lenient expected false (inQuotes label ++ rest) =
      balancedFrom lenient expected false rest := by
  have hquoted : balancedFrom lenient expected true (label ++ '"' :: rest) =
      balancedFrom lenient expected false rest := by
    induction label with
    | nil => simp [balancedFrom]
    | cons c label ih =>
      rw [List.mem_cons, not_or] at h
      simp [balancedFrom, Ne.symm h.1, ih h.2]
  simp [inQuotes, balancedFrom, hquoted]

/-- A quote that is open stays open without another one. -/
theorem balancedFrom_openQuote {label : Text} (h : '"' ∉ label) (lenient : Bool)
    (expected : List Char) : balancedFrom lenient expected true label = false := by
  induction label with
  | nil => simp [balancedFrom]
  | cons c label ih =>
    rw [List.mem_cons, not_or] at h
    simp [balancedFrom, Ne.symm h.1, ih h.2]

/-! ## Delimiters -/

/-- Delimiters are brackets, slashes and an angle. -/
theorem mem_nodeDelimiters {d : Delimiters} (hd : d ∈ nodeDelimiters) {c : Char}
    (h : c ∈ d.opening ++ d.closing) :
    c ∈ ['[', ']', '(', ')', '\x7b', '\x7d', '/', '\\', '>'] := by
  have hall : ∀ d ∈ nodeDelimiters, ∀ c ∈ d.opening ++ d.closing,
      c ∈ ['[', ']', '(', ')', '\x7b', '\x7d', '/', '\\', '>'] := by
    intro d hd
    refine forall_mem_of_all ?_
    revert d
    exact forall_mem_of_all (by decide)
  exact hall d hd c h

/-- What is no delimiter does not stand in delimiters. -/
theorem not_mem_nodeDelimiters {d : Delimiters} (hd : d ∈ nodeDelimiters) {c : Char}
    (hc : c ∉ ['[', ']', '(', ')', '\x7b', '\x7d', '/', '\\', '>']) :
    c ∉ d.opening ∧ c ∉ d.closing := by
  rw [← not_or, ← List.mem_append]
  exact fun hmem => hc (mem_nodeDelimiters hd hmem)

theorem exists_opening {d : Delimiters} (hd : d ∈ nodeDelimiters) : ∃ c more,
    d.opening = c :: more ∧ isBlank c = false ∧ isWordChar c = false := by
  have hhead : ∀ d ∈ nodeDelimiters, d.opening.head?.any (fun c => !isBlank c && !isWordChar c) =
      true := forall_mem_of_all (by decide)
  obtain ⟨c, hc, hclass⟩ := (Option.any_eq_true _ _).1 (hhead d hd)
  rw [Bool.and_eq_true, Bool.not_eq_true', Bool.not_eq_true'] at hclass
  exact ⟨c, d.opening.tail, (List.cons_head?_tail hc).symm, hclass⟩

theorem exists_closing {d : Delimiters} (hd : d ∈ nodeDelimiters) : ∃ c,
    d.closing.getLast? = some c ∧ isBlank c = false := by
  have hlast : ∀ d ∈ nodeDelimiters, d.closing.getLast?.any (fun c => !isBlank c) = true :=
    forall_mem_of_all (by decide)
  obtain ⟨c, hc, hblank⟩ := (Option.any_eq_true _ _).1 (hlast d hd)
  exact ⟨c, hc, by simpa using hblank⟩

/-- Delimiters other than the angle begin with a bracket and end with the one that closes it. -/
theorem exists_bracket {d : Delimiters} (hd : d ∈ nodeDelimiters) (hshape : d.shape ≠ .asymmetric) :
    ∃ c more, d.opening = c :: more ∧ isOpening c = true ∧
      d.closing.getLast? = some (closingOf c) := by
  have hpair : ∀ d ∈ nodeDelimiters, d.shape ≠ .asymmetric → d.opening.head?.any (fun c =>
      isOpening c && decide (d.closing.getLast? = some (closingOf c))) = true :=
    forall_mem_of_all (by decide)
  obtain ⟨c, hc, hclass⟩ := (Option.any_eq_true _ _).1 (hpair d hd hshape)
  rw [Bool.and_eq_true, decide_eq_true_eq] at hclass
  exact ⟨c, d.opening.tail, (List.cons_head?_tail hc).symm, hclass⟩

theorem length_closing {d : Delimiters} (hd : d ∈ nodeDelimiters) :
    d.closing.length = d.opening.length := by
  have hall : ∀ d ∈ nodeDelimiters, d.closing.length = d.opening.length :=
    forall_mem_of_all (by decide)
  exact hall d hd

/-- The angle and the square bracket that closes it. -/
def angle : Delimiters := ⟨['>'], [']'], .asymmetric⟩

theorem angle_mem : angle ∈ nodeDelimiters := by simp [angle, nodeDelimiters]

theorem eq_angle {d : Delimiters} (hd : d ∈ nodeDelimiters) (hshape : d.shape = .asymmetric) :
    d = angle := by
  simp only [nodeDelimiters, doubleDelimiters, List.cons_append, List.nil_append, List.mem_cons,
    List.not_mem_nil, or_false] at hd
  rcases hd with rfl | rfl | rfl | rfl | rfl | rfl | rfl | rfl | rfl | rfl | rfl | rfl | rfl | rfl
  all_goals first
    | rfl
    | cases hshape

/-! ## Lines of nodes -/

section QuotedNode

variable {id : Text} (hid : IsWord id) {d : Delimiters} (hd : d ∈ nodeDelimiters) {label : Text}
  (hquote : '"' ∉ label)

include hd in
/-- The line of a node with a label ends as the delimiters do. -/
theorem getLast?_quotedNode : (quotedNode id d label).getLast? = d.closing.getLast? := by
  obtain ⟨c, hc, -⟩ := exists_closing hd
  rw [quotedNode, List.getLast?_append, hc, Option.some_or]

include hid hd hquote

/-- What of a node's line stands in the open. -/
theorem openChars_quotedNode :
    openChars false (quotedNode id d label) = id ++ (d.opening ++ d.closing) := by
  have hdelimiters := not_mem_nodeDelimiters hd (c := '"') (by decide)
  rw [quotedNode, List.append_assoc, List.append_assoc, openChars_append (hid.not_mem (by decide)),
    openChars_append hdelimiters.1, openChars_inQuotes hquote, openChars_eq_self hdelimiters.2]

/-- What is neither of words nor a delimiter does not stand in the open. -/
theorem not_mem_openChars_quotedNode {c : Char} (hc : isWordChar c = false)
    (hdelimiter : c ∉ ['[', ']', '(', ')', '\x7b', '\x7d', '/', '\\', '>']) :
    c ∉ openChars false (quotedNode id d label) := by
  rw [openChars_quotedNode hid hd hquote, List.mem_append, not_or]
  exact ⟨hid.not_mem hc, fun hmem => hdelimiter (mem_nodeDelimiters hd hmem)⟩

/-- The line of a node is a statement. -/
theorem isStatementLine_quotedNode (hfeed : '\n' ∉ label) :
    IsStatementLine (quotedNode id d label) where
  head := by
    rw [quotedNode, List.append_assoc, List.append_assoc]
    exact hid.head_append _
  last c hc := by
    obtain ⟨e, he, hblank⟩ := exists_closing hd
    rw [getLast?_quotedNode hd, he] at hc
    rw [← Option.some.inj hc]
    exact hblank
  no_feed := by
    have hname : '\n' ∉ id := hid.not_mem (by decide)
    have hdelimiters := not_mem_nodeDelimiters hd (c := '\n') (by decide)
    simp [quotedNode, inQuotes, hname, hdelimiters, hfeed]
  no_comment := not_mem_openChars_quotedNode hid hd hquote (by decide) (by decide)
  no_semicolon := not_mem_openChars_quotedNode hid hd hquote (by decide) (by decide)

/-- The brackets of a node's line are balanced. -/
theorem isBalanced_quotedNode : isBalanced (quotedNode id d label) = true := by
  rw [isBalanced, quotedNode, List.append_assoc, List.append_assoc, hid.balancedFrom_append]
  simp only [nodeDelimiters, doubleDelimiters, List.cons_append, List.nil_append, List.mem_cons,
    List.not_mem_nil, or_false] at hd
  rcases hd with rfl | rfl | rfl | rfl | rfl | rfl | rfl | rfl | rfl | rfl | rfl | rfl | rfl | rfl
  all_goals simp [balancedFrom, balancedFrom_inQuotes hquote, closingOf]

omit hquote

/-- Only inside its quotes the line of a node can have three colons. -/
theorem infix_label_of_infix_quotedNode (h : [':', ':', ':'] <:+: quotedNode id d label) :
    [':', ':', ':'] <:+: label := by
  have hdelimiters := not_mem_nodeDelimiters hd (c := ':') (by decide)
  have hsplit : quotedNode id d label =
      (id ++ d.opening) ++ '"' :: (label ++ '"' :: d.closing) := by
    simp [quotedNode, inQuotes]
  rw [hsplit] at h
  rcases infix_or_of_append_cons (by decide) h with h | h
  · have hopen : ':' ∉ id ++ d.opening := by
      rw [List.mem_append, not_or]
      exact ⟨hid.not_mem (by decide), hdelimiters.1⟩
    exact absurd h (not_infix_of_not_mem List.mem_cons_self hopen)
  · rcases infix_or_of_append_cons (by decide) h with h | h
    · exact h
    · exact absurd h (not_infix_of_not_mem List.mem_cons_self hdelimiters.2)

/-- Without three colons in the label the line of a node has no class. -/
theorem withoutClass_quotedNode (hclass : ¬ [':', ':', ':'] <:+: label) :
    withoutClass (quotedNode id d label) = quotedNode id d label := by
  obtain ⟨e, he, hblank⟩ := exists_closing hd
  rw [withoutClass, beforeFirst_eq_self fun h =>
    hclass (infix_label_of_infix_quotedNode hid hd h)]
  refine trim_eq_self ?_ fun b hb => ?_
  · rw [quotedNode, List.append_assoc, List.append_assoc]
    exact hid.not_blank_of_head?_append _
  · rw [getLast?_quotedNode hd, he] at hb
    rw [← Option.some.inj hb]
    exact hblank

end QuotedNode

/-! ## References -/

theorem inside_append {n : Nat} {opening label closing : Text} (hopening : opening.length = n)
    (hclosing : closing.length = n) : inside n (opening ++ label ++ closing) = label := by
  have hlength : (opening ++ label ++ closing).length - 2 * n = label.length := by
    simp only [List.length_append]
    omega
  rw [inside, hlength, List.append_assoc, ← hopening, List.drop_left, List.take_left]

/-- A word of delimiters at the beginning of a quoted label stands before its quote. -/
theorem startsWith_quoted {start : Text} (hstart : '"' ∉ start) (opening rest : Text) :
    startsWith start (opening ++ '"' :: rest) = start.isPrefixOf opening := by
  rw [startsWith, Bool.eq_iff_iff, List.isPrefixOf_iff_prefix, List.isPrefixOf_iff_prefix]
  refine ⟨fun h => ?_, fun h => h.trans (List.prefix_append _ _)⟩
  rcases List.prefix_or_prefix_of_prefix h (List.prefix_append opening ('"' :: rest)) with h' | h'
  · exact h'
  · obtain ⟨more, rfl⟩ := h'
    rw [List.prefix_append_right_inj] at h
    cases more with
    | nil => rw [List.append_nil]
    | cons c more =>
      obtain ⟨rfl, -⟩ := List.cons_prefix_cons.1 h
      exact absurd (List.mem_append_right _ List.mem_cons_self) hstart

/-- The delimiters that enclose a quoted label are known by its own. -/
theorem enclose_quoted {d other : Delimiters} (hd : d ∈ nodeDelimiters)
    (hother : other ∈ doubleDelimiters) (label : Text) :
    other.enclose (d.opening ++ inQuotes label ++ d.closing) =
      (other.opening.isPrefixOf d.opening && other.closing.isSuffixOf d.closing) := by
  have hmem : other ∈ nodeDelimiters := List.mem_append_left _ hother
  have hquotes := not_mem_nodeDelimiters hmem (c := '"') (by decide)
  have hstart : startsWith other.opening (d.opening ++ inQuotes label ++ d.closing) =
      other.opening.isPrefixOf d.opening := by
    rw [inQuotes, List.append_assoc]
    exact startsWith_quoted hquotes.1 d.opening _
  have hfinish : endsWith other.closing (d.opening ++ inQuotes label ++ d.closing) =
      other.closing.isSuffixOf d.closing := by
    have hreverse : (d.opening ++ inQuotes label ++ d.closing).reverse =
        d.closing.reverse ++ '"' :: (label.reverse ++ '"' :: d.opening.reverse) := by
      simp [inQuotes]
    rw [endsWith, List.isSuffixOf, List.isSuffixOf, hreverse]
    exact startsWith_quoted (by simpa using hquotes.2) d.closing.reverse _
  rw [Delimiters.enclose, hstart, hfinish]
  cases hprefix : other.opening.isPrefixOf d.opening with
  | false => simp
  | true =>
    have hle := (List.isPrefixOf_iff_prefix.1 hprefix).length_le
    have hclosing := length_closing hd
    have hlong : 2 * other.opening.length ≤
        (d.opening ++ inQuotes label ++ d.closing).length := by
      simp only [List.length_append]
      omega
    rw [decide_eq_true hlong, Bool.true_and]

/-- What stands between the delimiters of a shape is read as its label. -/
theorem readBrackets_quoted {d : Delimiters} (hd : d ∈ nodeDelimiters)
    (hshape : d.shape ≠ .asymmetric) (label : Text) :
    readBrackets (d.opening ++ inQuotes label ++ d.closing) =
      (trim (breakLines label), d.shape) := by
  have hfind : doubleDelimiters.find? (·.enclose (d.opening ++ inQuotes label ++ d.closing)) =
      doubleDelimiters.find? fun other =>
        other.opening.isPrefixOf d.opening && other.closing.isSuffixOf d.closing := by
    rw [← List.head?_filter, ← List.head?_filter,
      List.filter_congr fun other hother => enclose_quoted hd hother label]
  have hclean : cleanLabel (inside d.opening.length (d.opening ++ inQuotes label ++ d.closing)) =
      trim (breakLines label) := by
    rw [inside_append rfl (length_closing hd), cleanLabel_inQuotes]
  have hknown : ∀ d ∈ nodeDelimiters, d.shape ≠ .asymmetric →
      ((doubleDelimiters.find? fun other =>
          other.opening.isPrefixOf d.opening && other.closing.isSuffixOf d.closing).elim
        (decide (d.opening.length = 1 ∧ d.opening.head?.map singleShape = some d.shape))
        fun other => decide (other.opening.length = d.opening.length ∧ other.shape = d.shape)) =
      true := forall_mem_of_all (by decide)
  have hcase := hknown d hd hshape
  rw [readBrackets, hfind]
  split
  · next other hother =>
    rw [hother, Option.elim, decide_eq_true_eq] at hcase
    rw [hcase.1, hcase.2, hclean]
  · next hnone =>
    rw [hnone, Option.elim, decide_eq_true_eq, Option.map_eq_some_iff] at hcase
    obtain ⟨hlength, c, hc, hsingle⟩ := hcase
    have hhead : (d.opening ++ inQuotes label ++ d.closing).headD '[' = c := by
      rw [List.append_assoc, List.headD_eq_head?_getD, List.head?_append, hc]
      rfl
    rw [hlength] at hclean
    rw [hclean, hhead, hsingle]

section QuotedNode

variable {id : Text} (hid : IsWord id) {d : Delimiters} (hd : d ∈ nodeDelimiters) (label : Text)

include hd in
/-- Only an angle and a square bracket without another make the asymmetric shape. -/
theorem splitAsymmetric?_quotedNode (hshape : d.shape ≠ .asymmetric) (id : Text) :
    splitAsymmetric? (quotedNode id d label) = none := by
  obtain ⟨c, more, hopening, hc, hclosing⟩ := exists_bracket hd hshape
  rw [splitAsymmetric?, if_pos]
  by_cases hbracket : c = '['
  · left
    simp [quotedNode, hopening, hbracket]
  · right
    rw [getLast?_quotedNode hd, hclosing, closingOf, if_neg hbracket]
    split <;> decide

include hid

/-- A name with a label in brackets is read as such. -/
theorem splitBrackets?_quotedNode (hd : d ∈ nodeDelimiters) (hshape : d.shape ≠ .asymmetric) :
    splitBrackets? (quotedNode id d label) = some (some id, trim (breakLines label), d.shape) := by
  have hbrackets := readBrackets_quoted hd hshape label
  obtain ⟨c, more, hopening, hc, hclosing⟩ := exists_bracket hd hshape
  have hlast : (quotedNode id d label).getLast? = some (closingOf c) := by
    rw [getLast?_quotedNode hd, hclosing]
  have hline : quotedNode id d label = id ++ c :: (more ++ inQuotes label ++ d.closing) := by
    simp [quotedNode, hopening]
  rw [hopening, List.cons_append, List.cons_append] at hbrackets
  rw [splitBrackets?, hlast, hline, hid.span_bracket hc]
  simp only [if_pos, hid.trim_eq, hbrackets, if_neg hid.ne_nil]

/-- A name with a label after an angle is read as such, if the label has no square bracket. -/
theorem splitAsymmetric?_angle (hbracket : '[' ∉ label) :
    splitAsymmetric? (quotedNode id angle label) = some (id, trim (breakLines label)) := by
  have hline : quotedNode id angle label = id ++ '>' :: (inQuotes label ++ [']']) := by
    simp [quotedNode, angle]
  have hopen : (id ++ '>' :: (inQuotes label ++ [']'])).contains '[' = false := by
    simp [inQuotes, hid.not_mem (c := '[') (by decide), hbracket]
  have hword : ∀ d ∈ id, decide (d ≠ '>') = true := fun d hd =>
    decide_eq_true (hid.ne_of_mem hd (by decide))
  have hspan : (id ++ '>' :: (inQuotes label ++ [']'])).span (· ≠ '>') =
      (id, '>' :: (inQuotes label ++ [']'])) := span_append_cons hword (by decide) _
  have hlast : (id ++ '>' :: (inQuotes label ++ [']'])).getLast? = some ']' := by
    rw [← hline, getLast?_quotedNode angle_mem]
    rfl
  have hne : inQuotes label ≠ [] := List.cons_ne_nil _ _
  rw [hline, splitAsymmetric?, if_neg (not_or.2 ⟨ne_true_of_eq_false hopen, not_not_intro hlast⟩),
    hspan]
  simp only [List.dropLast_concat, hid.trim_eq, trim_inQuotes, hid.ne_nil, hne, or_self, if_false,
    cleanLabel_inQuotes]

/-- The reference in the line of a node: after an angle the label must not have a square
bracket. -/
theorem ofText_quotedNode (hd : d ∈ nodeDelimiters) (hangle : d.shape = .asymmetric → '[' ∉ label) :
    NodeRef.ofText (quotedNode id d label) =
      ⟨some id, some (trim (breakLines label)), some d.shape⟩ := by
  by_cases hshape : d.shape = .asymmetric
  · rw [eq_angle hd hshape, NodeRef.ofText, splitAsymmetric?_angle hid label (hangle hshape)]
    rfl
  · rw [NodeRef.ofText, splitAsymmetric?_quotedNode hd label hshape]
    simp only [splitBrackets?_quotedNode hid label hd hshape]

end QuotedNode

/-! ## Labels that are cut -/

section CutLabel

variable {id : Text} (hid : IsWord id) {d : Delimiters} (hd : d ∈ nodeDelimiters) {label : Text}

include hid hd in
/-- With three colons in its label the line of a node is cut inside the quotes. -/
theorem withoutClass_quotedNode_of_infix (hclass : [':', ':', ':'] <:+: label) :
    ∃ front, front <+: label ∧
      withoutClass (quotedNode id d label) = id ++ d.opening ++ '"' :: front := by
  have hopen : ':' ∉ id ++ d.opening ++ ['"'] := by
    have hopening := (not_mem_nodeDelimiters hd (c := ':') (by decide)).1
    simp [hid.not_mem (c := ':') (by decide), hopening]
  have hline : quotedNode id d label =
      (id ++ d.opening ++ ['"']) ++ (label ++ '"' :: d.closing) := by
    simp [quotedNode, inQuotes]
  obtain ⟨front, hfront⟩ : ∃ front,
      front = beforeFirst [':', ':', ':'] (label ++ '"' :: d.closing) := ⟨_, rfl⟩
  have hprefix : front <+: label := hfront ▸ beforeFirst_isPrefix hclass _
  have htrimmed : trimEnd front <+: front := by
    have hsuffix := List.dropWhile_suffix isBlank (l := front.reverse)
    rw [← List.reverse_prefix, List.reverse_reverse] at hsuffix
    exact hsuffix
  refine ⟨trimEnd front, htrimmed.trans hprefix, ?_⟩
  rw [withoutClass, hline, beforeFirst_append hopen, ← hfront, List.append_assoc,
    List.singleton_append]
  exact trim_append_cons (by decide) (hid.not_blank_of_head?_append _) front

include hid hd in
/-- Then its quotes are not balanced. -/
theorem isBalanced_cut {front : Text} (hquote : '"' ∉ front) :
    isBalanced (id ++ d.opening ++ '"' :: front) = false := by
  rw [isBalanced]
  generalize (id ++ d.opening ++ '"' :: front).contains '>' = lenient
  rw [List.append_assoc, hid.balancedFrom_append]
  simp only [nodeDelimiters, doubleDelimiters, List.cons_append, List.nil_append, List.mem_cons,
    List.not_mem_nil, or_false] at hd
  rcases hd with rfl | rfl | rfl | rfl | rfl | rfl | rfl | rfl | rfl | rfl | rfl | rfl | rfl | rfl
  all_goals simp [balancedFrom, balancedFrom_openQuote hquote]

include hid in
/-- With a square bracket in a label after an angle, the angle is read as a part of the name. -/
theorem exists_id_of_ofText_angle (hbracket : '[' ∈ label) :
    ∃ name, (NodeRef.ofText (quotedNode id angle label)).id = some name ∧ '>' ∈ name := by
  have hline : quotedNode id angle label = id ++ '>' :: (inQuotes label ++ [']']) := by
    simp [quotedNode, angle]
  have hcontains : (quotedNode id angle label).contains '[' = true := by
    simp [hline, inQuotes, hbracket]
  have hasymmetric : splitAsymmetric? (quotedNode id angle label) = none := by
    rw [splitAsymmetric?, if_pos (Or.inl hcontains)]
  have hmem : '>' ∈ (quotedNode id angle label).takeWhile
      fun c => !(c = '[' || c = '(' || c = '\x7b') := by
    rw [hline, List.takeWhile_append_of_pos hid.no_bracket, List.takeWhile_cons_of_pos (by decide)]
    exact List.mem_append_right _ List.mem_cons_self
  rw [NodeRef.ofText, hasymmetric]
  simp only [splitBrackets?, List.span_eq_takeWhile_dropWhile]
  generalize hbefore : (quotedNode id angle label).takeWhile
    (fun c => !(c = '[' || c = '(' || c = '\x7b')) = before at hmem ⊢
  have htrim : '>' ∈ trim before := mem_trim hmem (by decide)
  have hwhole : '>' ∈ quotedNode id angle label := by simp [hline]
  split
  · next name _ _ hsplit =>
    split at hsplit
    · cases hsplit
    · split at hsplit
      · rw [if_neg (List.ne_nil_of_mem htrim)] at hsplit
        cases hsplit
        exact ⟨_, rfl, htrim⟩
      · cases hsplit
  · exact ⟨_, rfl, hwhole⟩

end CutLabel

end Swimlane
