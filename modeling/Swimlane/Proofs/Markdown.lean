import Swimlane.Markdown
import Swimlane.Proofs.Text.Basic

/-!
# Fences of any length

A fence may open with more than three marks, but only a line of exactly three closes it.  So a
Markdown text of fenced diagrams gives back their lines, in order, if all its fences have three
marks, and only then (`markdownDiagrams_eq_iff`): behind a longer fence a diagram goes on past the
line that was to close it.
-/

namespace Swimlane

/-! ## Joined lines -/

/-- Texts that are joined to more are longer. -/
theorem length_joinWith_lt (xs : List Text) {y : Text} (hy : y ≠ []) (ys : List Text) :
    (joinWith ['\n'] xs).length < (joinWith ['\n'] (xs ++ y :: ys)).length := by
  induction xs with
  | nil =>
    have hlong : 0 < y.length := List.length_pos_of_ne_nil hy
    cases ys with
    | nil => exact hlong
    | cons next ys =>
      rw [List.nil_append, joinWith_cons (List.cons_ne_nil next ys), List.append_assoc,
        List.length_append]
      exact Nat.lt_add_right _ hlong
  | cons x xs ih =>
    have hmore : xs ++ y :: ys ≠ [] := List.append_ne_nil_of_right_ne_nil xs (List.cons_ne_nil y ys)
    rw [List.cons_append, joinWith_cons hmore, List.length_append, List.length_append,
      List.length_singleton]
    cases xs with
    | nil =>
      rw [joinWith]
      omega
    | cons next xs =>
      rw [joinWith_cons (List.cons_ne_nil next xs), List.length_append, List.length_append,
        List.length_singleton]
      exact Nat.add_lt_add_left ih _

/-- The last line stays as it is, if it is one. -/
theorem linesOfPieces_concat {last : Text} (hne : last ≠ []) (hreturn : dropReturn last = last)
    (xs : List Text) : linesOfPieces (xs ++ [last]) = (xs ++ [last]).map dropReturn := by
  rw [linesOfPieces_append (List.cons_ne_nil last []), linesOfPieces, if_neg hne, List.map_append,
    List.map_singleton, hreturn]

theorem mem_of_mem_linesOfPieces {xs : List Text} {l : Text} (hl : l ∈ linesOfPieces xs) :
    ∃ x ∈ xs, l = x ∨ l = dropReturn x := by
  induction xs with
  | nil => exact absurd hl List.not_mem_nil
  | cons x xs ih =>
    cases xs with
    | nil =>
      rw [linesOfPieces] at hl
      split at hl
      · exact absurd hl List.not_mem_nil
      · exact ⟨x, List.mem_cons_self, Or.inl (List.mem_singleton.1 hl)⟩
    | cons next xs =>
      rw [linesOfPieces] at hl
      · rcases List.mem_cons.1 hl with rfl | hl
        · exact ⟨x, List.mem_cons_self, Or.inr rfl⟩
        · obtain ⟨y, hy, hly⟩ := ih hl
          exact ⟨y, List.mem_cons_of_mem x hy, hly⟩
      · exact List.cons_ne_nil next xs

/-! ## Lines within and outside fences -/

/-- Does a line open no diagram? -/
def OpensNothing (l : Text) : Prop := '\n' ∉ l ∧ openingFence? (trim l) = none

instance (l : Text) : Decidable (OpensNothing l) :=
  inferInstanceAs (Decidable ('\n' ∉ l ∧ openingFence? (trim l) = none))

theorem OpensNothing.dropReturn {l : Text} (h : OpensNothing l) :
    OpensNothing (Swimlane.dropReturn l) := by
  refine ⟨fun hmem => h.1 ?_, by rw [trim_dropReturn]; exact h.2⟩
  unfold Swimlane.dropReturn at hmem
  split at hmem
  · exact List.mem_of_mem_dropLast hmem
  · exact hmem

/-- Lines that open nothing hold nothing. -/
theorem diagramsFrom_outside {ls : List Text} (hls : ∀ l ∈ ls, OpensNothing l) (rest : List Text) :
    diagramsFrom none [] (ls ++ rest) = diagramsFrom none [] rest := by
  induction ls with
  | nil => rfl
  | cons l ls ih =>
    obtain ⟨hl, hls⟩ := List.forall_mem_cons.1 hls
    rw [List.cons_append, diagramsFrom, hl.2, ih hls]

/-- Within a fence lines are taken as they are until one closes it. -/
theorem diagramsFrom_within {fence : Text} {ls : List Text}
    (hls : ∀ l ∈ ls, closesFence fence (trim l) = false) (body rest : List Text) :
    diagramsFrom (some fence) body (ls ++ rest) =
      diagramsFrom (some fence) (ls.reverse ++ body) rest := by
  induction ls generalizing body with
  | nil => rfl
  | cons l ls ih =>
    obtain ⟨hl, hls⟩ := List.forall_mem_cons.1 hls
    rw [List.cons_append, diagramsFrom, if_neg (by rw [hl]; exact Bool.false_ne_true), ih hls,
      List.reverse_cons, List.append_assoc, List.singleton_append]

/-- A line that closes the fence ends the diagram. -/
theorem diagramsFrom_closed {fence line : Text} {ls : List Text}
    (hls : ∀ l ∈ ls, closesFence fence (trim l) = false)
    (hline : closesFence fence (trim line) = true) (rest : List Text) :
    diagramsFrom (some fence) [] (ls ++ line :: rest) =
      joinWith ['\n'] ls :: diagramsFrom none [] rest := by
  rw [diagramsFrom_within hls, diagramsFrom, if_pos hline, List.append_nil, List.reverse_reverse]

/-- The first diagram within a fence goes up to a line that closes it. -/
theorem exists_of_diagramsFrom {fence diagram : Text} {body ls diagrams : List Text}
    (h : diagramsFrom (some fence) body ls = diagram :: diagrams) : ∃ front line back,
      ls = front ++ line :: back ∧ closesFence fence (trim line) = true ∧
        diagram = joinWith ['\n'] (body.reverse ++ front) := by
  induction ls generalizing body with
  | nil => cases h
  | cons l ls ih =>
    rw [diagramsFrom] at h
    split at h
    · next hcloses =>
      obtain ⟨rfl, -⟩ := List.cons_eq_cons.1 h
      exact ⟨[], l, ls, rfl, hcloses, by rw [List.append_nil]⟩
    · obtain ⟨front, line, back, rfl, hcloses, rfl⟩ := ih h
      refine ⟨l :: front, line, back, rfl, hcloses, ?_⟩
      rw [List.reverse_cons, List.append_assoc, List.singleton_append]

/-! ## Written fences -/

/-- A diagram between fences, and the lines before it. -/
structure Fenced where
  before : List Text
  mark : Char
  count : Nat
  body : List Text

namespace Fenced

/-- The marks of the fence. -/
def fence (b : Fenced) : Text := List.replicate b.count b.mark

/-- The line that opens the fence. -/
def opening (b : Fenced) : Text := b.fence ++ "mermaid".toList

/-- The lines as they are written. -/
def lines (b : Fenced) : List Text := b.before ++ b.opening :: (b.body ++ [b.fence])

/-- The text of the diagram. -/
def diagram (b : Fenced) : Text := joinWith ['\n'] b.body

/-- Are the marks those of a fence, at least three of them, and does no line of the diagram begin
with as many? -/
structure IsWritten (b : Fenced) : Prop where
  before : ∀ l ∈ b.before, OpensNothing l
  mark : b.mark ∈ ['`', '~', ':']
  count : 3 ≤ b.count
  body : ∀ l ∈ b.body, '\n' ∉ l ∧ '\r' ∉ l ∧ startsWith b.fence (trim l) = false

instance (b : Fenced) : Decidable b.IsWritten :=
  decidable_of_iff ((∀ l ∈ b.before, OpensNothing l) ∧ b.mark ∈ ['`', '~', ':'] ∧ 3 ≤ b.count ∧
      ∀ l ∈ b.body, '\n' ∉ l ∧ '\r' ∉ l ∧ startsWith b.fence (trim l) = false)
    ⟨fun h => ⟨h.1, h.2.1, h.2.2.1, h.2.2.2⟩, fun h => ⟨h.before, h.mark, h.count, h.body⟩⟩

namespace IsWritten

variable {b : Fenced} (h : b.IsWritten)

include h

/-- No mark is a blank. -/
theorem not_blank : isBlank b.mark = false := by
  have hmark := h.mark
  simp only [List.mem_cons, List.not_mem_nil, or_false] at hmark
  rcases hmark with hmark | hmark | hmark <;> rw [hmark] <;> decide

theorem trim_fence : trim b.fence = b.fence :=
  trim_eq_self_of_all fun c hc => by
    rw [List.eq_of_mem_replicate hc]
    exact h.not_blank

theorem fence_ne_nil : b.fence ≠ [] := by
  have hcount := h.count
  rw [fence, Ne, List.replicate_eq_nil_iff]
  omega

/-- A fence begins with three marks. -/
theorem fence_eq : b.fence = List.replicate 3 b.mark ++ List.replicate (b.count - 3) b.mark := by
  rw [fence, List.replicate_append_replicate, Nat.add_sub_cancel' h.count]

/-- The line that opens the fence begins with its own marks and no others. -/
theorem startsWith_opening (m : Char) :
    startsWith (List.replicate 3 m) b.opening = decide (m = b.mark) := by
  rw [startsWith, Bool.eq_iff_iff, List.isPrefixOf_iff_prefix, decide_eq_true_iff, opening,
    h.fence_eq, List.append_assoc]
  constructor
  · intro hprefix
    exact (List.cons_prefix_cons.1 hprefix).1
  · rintro rfl
    exact List.prefix_append _ _

/-- However many marks a fence opens with, three are remembered. -/
theorem openingFence?_opening :
    openingFence? (trim b.opening) = some (List.replicate 3 b.mark) := by
  have hword : ∀ c ∈ "mermaid".toList, isBlank c = false ∧ c ∉ ['`', '~', ':'] :=
    forall_mem_of_all (by decide)
  have htrim : trim b.opening = b.opening :=
    trim_eq_self_of_all fun c hc => by
      rcases List.mem_append.1 hc with hc | hc
      · rw [List.eq_of_mem_replicate hc]
        exact h.not_blank
      · exact (hword c hc).1
  have hmarks : b.opening.dropWhile (fun c => (List.replicate 3 b.mark).contains c) =
      "mermaid".toList := by
    rw [opening, List.dropWhile_append_of_pos fun c hc => by
      rw [List.eq_of_mem_replicate hc]
      exact List.contains_iff_mem.2 List.mem_cons_self]
    have hm : ¬ (List.replicate 3 b.mark).contains 'm' = true := by
      intro hm
      rw [List.contains_iff_mem] at hm
      exact (hword 'm' List.mem_cons_self).2 (List.eq_of_mem_replicate hm ▸ h.mark)
    exact List.dropWhile_cons_of_neg hm
  have hopens (m : Char) : opensWith (List.replicate 3 m) b.opening = decide (m = b.mark) := by
    rw [opensWith, h.startsWith_opening]
    by_cases hm : m = b.mark
    · have hmermaid : startsWith "mermaid".toList (trim "mermaid".toList) = true := by decide
      rw [hm, hmarks, hmermaid, Bool.and_true]
    · rw [decide_eq_false hm, Bool.false_and]
  have hfences : fences = ['`', '~', ':'].map (List.replicate 3) := rfl
  have hfind : ∀ m ∈ ['`', '~', ':'], ['`', '~', ':'].find? (fun d => decide (d = m)) = some m :=
    forall_mem_of_all (by decide)
  rw [htrim, openingFence?, hfences, List.find?_map]
  simp only [Function.comp_def, hopens, hfind b.mark h.mark, Option.map_some]

/-- Three marks close the fence, and no more. -/
theorem closesFence_fence :
    closesFence (List.replicate 3 b.mark) (trim b.fence) = decide (b.count = 3) := by
  have hstart : startsWith (List.replicate 3 b.mark) b.fence = true := by
    rw [startsWith, List.isPrefixOf_iff_prefix, h.fence_eq]
    exact List.prefix_append _ _
  have hrest : trim (b.fence.drop 3) = b.fence.drop 3 :=
    trim_eq_self_of_all fun c hc => by
      rw [List.eq_of_mem_replicate (List.mem_of_mem_drop hc)]
      exact h.not_blank
  have hcount := h.count
  rw [closesFence, h.trim_fence, hstart, Bool.true_and, List.length_replicate, hrest, fence,
    List.drop_replicate, decide_eq_decide, List.replicate_eq_nil_iff]
  omega

/-- A line that does not begin with the marks of a fence of three does not close it. -/
theorem closesFence_of_mem_body (hcount : b.count = 3) {l : Text} (hl : l ∈ b.body) :
    closesFence (List.replicate 3 b.mark) (trim l) = false := by
  have hstart := (h.body l hl).2.2
  rw [fence, hcount] at hstart
  rw [closesFence, hstart, Bool.false_and]

/-- Behind its opening a fence of three marks gives back its lines. -/
theorem diagramsFrom_body (hcount : b.count = 3) (rest : List Text) :
    diagramsFrom (some (List.replicate 3 b.mark)) [] (b.body ++ b.fence :: rest) =
      b.diagram :: diagramsFrom none [] rest :=
  diagramsFrom_closed (fun _ hl => h.closesFence_of_mem_body hcount hl)
    (by rw [h.closesFence_fence, decide_eq_true hcount]) rest

/-- A longer fence does not, whatever follows: what is closed first is another diagram. -/
theorem diagramsFrom_body_ne (hcount : b.count ≠ 3) (rest diagrams : List Text) :
    diagramsFrom (some (List.replicate 3 b.mark)) [] (b.body ++ b.fence :: rest) ≠
      b.diagram :: diagrams := by
  intro hdiagrams
  have hne {line : Text} (hcloses : closesFence (List.replicate 3 b.mark) (trim line) = true) :
      line ≠ [] ∧ line ≠ b.fence := by
    constructor
    · rintro rfl
      exact Bool.false_ne_true hcloses
    · rintro rfl
      rw [h.closesFence_fence, decide_eq_true_iff] at hcloses
      exact hcount hcloses
  obtain ⟨front, line, back, hlines, hcloses, hsame⟩ := exists_of_diagramsFrom hdiagrams
  rw [List.reverse_nil, List.nil_append, diagram] at hsame
  obtain ⟨hline, hfence⟩ := hne hcloses
  rcases List.append_eq_append_iff.1 hlines with ⟨more, rfl, hmore⟩ | ⟨more, hbody, hmore⟩
  · cases more with
    | nil => exact hfence (List.cons_eq_cons.1 hmore).1.symm
    | cons next more =>
      obtain ⟨rfl, -⟩ := List.cons_eq_cons.1 hmore
      have hlong := length_joinWith_lt b.body h.fence_ne_nil more
      rw [hsame] at hlong
      exact Nat.lt_irrefl _ hlong
  · cases more with
    | nil => exact hfence (List.cons_eq_cons.1 hmore).1
    | cons next more =>
      obtain ⟨rfl, -⟩ := List.cons_eq_cons.1 hmore
      have hlong := length_joinWith_lt front hline more
      rw [← hsame, ← hbody] at hlong
      exact Nat.lt_irrefl _ hlong

end IsWritten

end Fenced

/-! ## Texts of fenced diagrams -/

/-- The diagrams among lines of fences are those that are written if all fences have three marks,
and only then. -/
theorem diagramsFrom_lines_iff {blocks : List Fenced} (hblocks : ∀ b ∈ blocks, b.IsWritten)
    {after : List Text} (hafter : ∀ l ∈ after, OpensNothing l) :
    diagramsFrom none [] (blocks.flatMap Fenced.lines ++ after) = blocks.map Fenced.diagram ↔
      ∀ b ∈ blocks, b.count = 3 := by
  induction blocks with
  | nil =>
    have hnothing := diagramsFrom_outside hafter []
    rw [List.append_nil, diagramsFrom] at hnothing
    rw [List.flatMap_nil, List.nil_append, hnothing]
    exact ⟨fun _ => List.forall_mem_nil _, fun _ => rfl⟩
  | cons b blocks ih =>
    obtain ⟨hb, hblocks⟩ := List.forall_mem_cons.1 hblocks
    have hlines : b.lines ++ blocks.flatMap Fenced.lines ++ after = b.before ++
        b.opening :: (b.body ++ b.fence :: (blocks.flatMap Fenced.lines ++ after)) := by
      simp [Fenced.lines]
    rw [List.flatMap_cons, List.map_cons, hlines, diagramsFrom_outside hb.before, diagramsFrom,
      hb.openingFence?_opening, List.forall_mem_cons]
    by_cases hcount : b.count = 3
    · rw [hb.diagramsFrom_body hcount, List.cons_eq_cons, ih hblocks, eq_self_iff_true,
        eq_true hcount]
    · exact iff_of_false (hb.diagramsFrom_body_ne hcount _ _) fun hall => hcount hall.1

/-- A text of fenced diagrams, and of lines after them. -/
def fencedText (blocks : List Fenced) (after : List Text) : Text :=
  joinWith ['\n'] (blocks.flatMap Fenced.lines ++ after)

namespace Fenced

/-- The diagram with the lines before it as they are read. -/
def read (b : Fenced) : Fenced := { b with before := b.before.map dropReturn }

theorem IsWritten.read {b : Fenced} (h : b.IsWritten) : b.read.IsWritten := by
  refine ⟨fun l hl => ?_, h.mark, h.count, h.body⟩
  obtain ⟨m, hm, rfl⟩ := List.mem_map.1 hl
  exact (h.before m hm).dropReturn

theorem IsWritten.not_mem_fence {b : Fenced} (h : b.IsWritten) {c : Char} (hc : isBlank c = true) :
    c ∉ b.fence := by
  intro hmem
  rw [List.eq_of_mem_replicate hmem, h.not_blank] at hc
  exact Bool.false_ne_true hc

theorem IsWritten.lines_read {b : Fenced} (h : b.IsWritten) :
    b.lines.map dropReturn = b.read.lines := by
  have hfence : dropReturn b.fence = b.fence := dropReturn_eq_self (h.not_mem_fence (by decide))
  have hopening : dropReturn b.opening = b.opening := by
    refine dropReturn_eq_self fun hmem => ?_
    rcases List.mem_append.1 hmem with hmem | hmem
    · exact h.not_mem_fence (by decide) hmem
    · exact absurd hmem (by decide)
  have hbody : b.body.map dropReturn = b.body :=
    (List.map_congr_left fun l hl => dropReturn_eq_self (h.body l hl).2.1).trans (List.map_id _)
  rw [lines, List.map_append, List.map_cons, List.map_append, hbody, hopening, List.map_singleton,
    hfence]
  rfl

theorem IsWritten.no_feed {b : Fenced} (h : b.IsWritten) : ∀ l ∈ b.lines, '\n' ∉ l := by
  have hfence : '\n' ∉ b.fence := h.not_mem_fence (by decide)
  intro l hl hfeed
  rcases List.mem_append.1 hl with hl | hl
  · exact (h.before l hl).1 hfeed
  · rcases List.mem_cons.1 hl with rfl | hl
    · rcases List.mem_append.1 hfeed with hfeed | hfeed
      · exact hfence hfeed
      · exact absurd hfeed (by decide)
    · rcases List.mem_append.1 hl with hl | hl
      · exact (h.body l hl).1 hfeed
      · exact hfence (List.mem_singleton.1 hl ▸ hfeed)

/-- Lines of fences are lines of a text whatever follows them. -/
theorem linesOfPieces_lines {blocks : List Fenced} (hblocks : ∀ b ∈ blocks, b.IsWritten)
    (after : List Text) : linesOfPieces (blocks.flatMap lines ++ after) =
      (blocks.map read).flatMap lines ++ linesOfPieces after := by
  have hread : (blocks.flatMap lines).map dropReturn = (blocks.map read).flatMap lines := by
    rw [List.map_flatMap, List.flatMap_map]
    exact List.flatMap_congr fun b hb => (hblocks b hb).lines_read
  cases after with
  | cons l after => rw [linesOfPieces_append (List.cons_ne_nil l after), hread]
  | nil =>
    rw [List.append_nil, ← hread]
    -- the last line closes a fence
    rcases List.eq_nil_or_concat' blocks with rfl | ⟨front, b, rfl⟩
    · rfl
    · have hb := hblocks b (by simp)
      have hlast : (front ++ [b]).flatMap lines =
          (front.flatMap lines ++ b.before ++ b.opening :: b.body) ++ [b.fence] := by
        simp [lines]
      rw [hlast, linesOfPieces_concat hb.fence_ne_nil
        (dropReturn_eq_self (hb.not_mem_fence (by decide))), linesOfPieces, List.append_nil]

end Fenced

/-- The diagrams of a Markdown text of fences are those that are written if all fences have three
marks, and only then. -/
theorem markdownDiagrams_eq_iff {blocks : List Fenced} (hblocks : ∀ b ∈ blocks, b.IsWritten)
    {after : List Text} (hafter : ∀ l ∈ after, OpensNothing l) :
    markdownDiagrams (fencedText blocks after) = blocks.map Fenced.diagram ↔
      ∀ b ∈ blocks, b.count = 3 := by
  have hfeed : ∀ l ∈ blocks.flatMap Fenced.lines ++ after, '\n' ∉ l := by
    intro l hl
    rcases List.mem_append.1 hl with hl | hl
    · obtain ⟨b, hb, hl⟩ := List.mem_flatMap.1 hl
      exact (hblocks b hb).no_feed l hl
    · exact (hafter l hl).1
  have hread : ∀ b ∈ blocks.map Fenced.read, b.IsWritten := by
    intro b hb
    obtain ⟨c, hc, rfl⟩ := List.mem_map.1 hb
    exact (hblocks c hc).read
  have houtside : ∀ l ∈ linesOfPieces after, OpensNothing l := by
    intro l hl
    obtain ⟨m, hm, rfl | rfl⟩ := mem_of_mem_linesOfPieces hl
    · exact hafter l hm
    · exact (hafter m hm).dropReturn
  have hiff := diagramsFrom_lines_iff hread houtside
  rw [List.map_map, List.forall_mem_map] at hiff
  rw [markdownDiagrams, fencedText, lines_joinWith_eq hfeed, Fenced.linesOfPieces_lines hblocks]
  exact hiff

/-- Two diagrams in fences of three marks, the first with shorter and other marks in it, and lines
around them. -/
def twoFences : List Fenced :=
  [⟨["text".toList, "```rust".toList, "```".toList], '`', 3, ["~~~".toList, "a``".toList, []]⟩,
    ⟨[[]], ':', 3, ["graph LR".toList, "a:::b".toList]⟩]

theorem markdownDiagrams_twoFences :
    (∀ b ∈ twoFences, b.IsWritten) ∧ (∀ l ∈ [([] : Text)], OpensNothing l) ∧
      markdownDiagrams (fencedText twoFences [[]]) = twoFences.map Fenced.diagram := by
  have hblocks : ∀ b ∈ twoFences, b.IsWritten := by decide
  have hafter : ∀ l ∈ [([] : Text)], OpensNothing l := by decide
  exact ⟨hblocks, hafter, (markdownDiagrams_eq_iff hblocks hafter).2 (by decide)⟩

/-- A diagram in a fence of four marks. -/
def longFence : Fenced := ⟨[], '`', 4, ["graph LR".toList, "a-->b".toList]⟩

/-- A fence of four marks is not closed by as many, so that no diagram is found. -/
theorem markdownDiagrams_longFence :
    longFence.IsWritten ∧ markdownDiagrams (fencedText [longFence] []) = [] ∧
      markdownDiagrams (fencedText [longFence] []) ≠ [longFence.diagram] := by
  decide

end Swimlane
