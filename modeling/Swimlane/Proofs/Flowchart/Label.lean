import Swimlane.Proofs.Flowchart.QuotedNode

/-!
# Nodes read back as they are written

A node of an outline is written as a plain name, or as a plain name and a quoted label in the
delimiters of a shape.  Either is a line that is a statement, its brackets are balanced, and the
reference that is read from it has the name, the label and the shape: a plain label comes back
from its quotes as it was.
-/

namespace Swimlane

/-- A plain name is a word. -/
theorem IsPlainName.isWord {id : Text} (h : IsPlainName id) : IsWord id :=
  ⟨h.ne_nil, List.all_eq_true.1 h.isWordChar⟩

instance (id : Text) : Decidable (IsPlainName id) :=
  decidable_of_iff (id ≠ [] ∧ id.all isWordChar ∧ id ∉ ["end", "subgraph", "class", "classDef",
      "style", "linkStyle", "click", "title"].map (·.toList) ∧
      ¬ startsWith "accTitle".toList id ∧ ¬ startsWith "accDescr".toList id)
    ⟨fun h => ⟨h.1, h.2.1, h.2.2.1, h.2.2.2.1, h.2.2.2.2⟩,
      fun h => ⟨h.ne_nil, h.isWordChar, h.not_reserved, h.not_title, h.not_description⟩⟩

/-! ## Labels -/

/-- A plain label is trimmed and has no line broken. -/
theorem IsPlainLabel.trim_breakLines {label : Text} (h : IsPlainLabel label) :
    trim (breakLines label) = label := by
  obtain ⟨hopen, hclosed, hbackslash⟩ := h.no_break
  rw [occursIn_iff] at hopen hclosed hbackslash
  have hmark : "\\n".toList = ['\\', 'n'] := by decide
  rw [hmark] at hbackslash
  rw [breakLines, replaceAll_eq_self hbackslash, replaceAll_eq_self hclosed,
    replaceAll_eq_self hopen, h.trim_eq]

theorem IsPlainLabel.no_colons {label : Text} (h : IsPlainLabel label) :
    ¬ [':', ':', ':'] <:+: label := by
  rw [← occursIn_iff]
  exact h.no_class

/-- A body is plain if its label is. -/
theorem IsPlainLabel.of_mem_some {label : Text} (h : IsPlainLabel label) {shape : Shape} :
    ∀ b ∈ some (Body.mk shape label), IsPlainLabel b.label := by
  rintro b ⟨⟩
  exact h

/-! ## Lines of nodes -/

/-- The delimiters of a shape as they are written in an outline. -/
def Body.delimiters (b : Body) : Delimiters :=
  ⟨b.shape.delimiters.1, b.shape.delimiters.2, b.shape⟩

theorem Body.delimiters_mem (b : Body) : b.delimiters ∈ nodeDelimiters := by
  obtain ⟨shape, label⟩ := b
  cases shape <;> simp [delimiters, Shape.delimiters, nodeDelimiters, doubleDelimiters]

/-- The line of a node with a label ends as the delimiters do. -/
theorem getLast?_nodeLine (id : Text) (b : Body) :
    (nodeLine id (some b)).getLast? = b.shape.delimiters.2.getLast? :=
  getLast?_quotedNode b.delimiters_mem

section NodeLine

variable {id : Text} (hid : IsPlainName id) {body : Option Body}

include hid

/-- The line of a node is a statement. -/
theorem isStatementLine_nodeLine (hbody : ∀ b ∈ body, IsPlainLabel b.label) :
    IsStatementLine (nodeLine id body) := by
  cases body with
  | none => exact hid.isWord.isStatementLine
  | some b =>
    exact isStatementLine_quotedNode hid.isWord b.delimiters_mem (hbody b rfl).no_mark.1
      (hbody b rfl).no_mark.2.1

/-- The line of a node has no class. -/
theorem withoutClass_nodeLine (hbody : ∀ b ∈ body, IsPlainLabel b.label) :
    withoutClass (nodeLine id body) = nodeLine id body := by
  cases body with
  | none => exact hid.isWord.withoutClass_eq
  | some b => exact withoutClass_quotedNode hid.isWord b.delimiters_mem (hbody b rfl).no_colons

/-- The brackets of a node's line are balanced. -/
theorem isBalanced_nodeLine (hbody : ∀ b ∈ body, '"' ∉ b.label) :
    isBalanced (nodeLine id body) = true := by
  cases body with
  | none => exact hid.isWord.isBalanced
  | some b => exact isBalanced_quotedNode hid.isWord b.delimiters_mem (hbody b rfl)

/-- The header of a group is a name with a label in square brackets. -/
theorem readGroupHeader_nodeLine {label : Text} (h : IsPlainLabel label) :
    readGroupHeader (nodeLine id (some ⟨.rectangle, label⟩)) = (some id, label) := by
  have hbody : ∀ b ∈ some (Body.mk .rectangle label), IsPlainLabel b.label := h.of_mem_some
  have hne : nodeLine id (some ⟨.rectangle, label⟩) ≠ [] :=
    (isStatementLine_nodeLine hid hbody).ne_nil
  have hsplit : splitBrackets? (nodeLine id (some ⟨.rectangle, label⟩)) =
      some (some id, trim (breakLines label), .rectangle) :=
    splitBrackets?_quotedNode hid.isWord label (Body.mk .rectangle label).delimiters_mem
      Shape.noConfusion
  rw [h.trim_breakLines] at hsplit
  simp only [readGroupHeader, withoutClass_nodeLine hid hbody, if_neg hne, hsplit]

end NodeLine

end Swimlane
