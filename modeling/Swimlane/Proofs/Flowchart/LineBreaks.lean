import Mathlib.Logic.Relation
import Swimlane.Proofs.Flowchart.Appending
import Swimlane.Proofs.Flowchart.LineNumbers
import Swimlane.Proofs.Flowchart.Mask

/-!
# Semicolons and line breaks

A line is read for its statements, and these do not depend on where the line ends: a semicolon in
the open, with no comment before it and no directive after it, may as well be a line feed
(`lineTexts_cut`).  Blank lines and comments hold no statement at all.  So a text may be broken
into lines otherwise without a change to its flowchart or to its fault (`ofText_of_rebreaks`).
-/

namespace Swimlane

/-! ## One character after another -/

/-- A line is cut at a semicolon where nothing is open; every other character belongs to a piece. -/
theorem semicolonPieces_cons (state : Nat × Bool) (done : Text) (c : Char) (rest : Text) :
    semicolonPieces state.1 state.2 done (c :: rest) =
      if state = (0, false) ∧ c = ';' then done.reverse :: semicolonPieces 0 false [] rest
      else semicolonPieces (openAfter state c).1 (openAfter state c).2 (c :: done) rest := by
  obtain ⟨depth, quoted⟩ := state
  rw [semicolonPieces, openAfter]
  cases quoted with
  | true => by_cases hc : c = '"' <;> simp [hc]
  | false =>
    by_cases hquote : c = '"'
    · simp [hquote]
    · by_cases hopen : isOpening c = true
      · have hne : c ≠ ';' := by
          rintro rfl
          exact absurd hopen (by decide)
        simp [hquote, hopen, hne]
      · by_cases hclose : isClosing c = true
        · have hne : c ≠ ';' := by
            rintro rfl
            exact absurd hclose (by decide)
          simp [hquote, hopen, hclose, hne]
        · simp [hquote, hopen, hclose, and_comm]

/-- A comment begins at two percent signs where no quote is open. -/
theorem beforeComment_cons (state : Nat × Bool) (c : Char) (rest : Text) :
    beforeComment state.2 (c :: rest) =
      if state.2 = false ∧ c = '%' ∧ rest.head? = some '%' then []
      else c :: beforeComment (openAfter state c).2 rest := by
  rw [beforeComment, openAfter_snd]
  cases state.2 with
  | true => by_cases hc : c = '"' <;> simp [hc]
  | false =>
    by_cases hquote : c = '"'
    · simp [hquote]
    · simp [hquote]

/-! ## Cut at a semicolon -/

section Cut

variable {state : Nat × Bool} {start : Text} (hopen : start.foldl openAfter state = (0, false))

include hopen

/-- Where nothing is open the line is cut at the semicolon. -/
theorem semicolonPieces_cut (done rest : Text) :
    semicolonPieces state.1 state.2 done (start ++ ';' :: rest) =
      semicolonPieces state.1 state.2 done start ++ semicolonPieces 0 false [] rest := by
  induction start generalizing state done with
  | nil =>
    rw [List.foldl_nil] at hopen
    rw [List.nil_append, semicolonPieces_cons, if_pos ⟨hopen, rfl⟩]
    rfl
  | cons c start ih =>
    rw [List.foldl_cons] at hopen
    rw [List.cons_append, semicolonPieces_cons, semicolonPieces_cons]
    split
    · next hcut =>
      have hafter : openAfter state c = (0, false) := by
        rw [hcut.1, hcut.2]
        rfl
      rw [hafter] at hopen
      rw [ih hopen, List.cons_append]
    · exact ih hopen (c :: done)

/-- Without a comment before the semicolon it stands before the comment. -/
theorem beforeComment_cut (hcomment : beforeComment state.2 start = start) (rest : Text) :
    beforeComment state.2 (start ++ ';' :: rest) = start ++ ';' :: beforeComment false rest := by
  induction start generalizing state with
  | nil =>
    rw [List.foldl_nil] at hopen
    have hsemicolon : ¬ (state.2 = false ∧ ';' = '%' ∧ rest.head? = some '%') := fun h =>
      absurd h.2.1 (by decide)
    rw [List.nil_append, beforeComment_cons, if_neg hsemicolon, hopen]
    rfl
  | cons c start ih =>
    rw [List.foldl_cons] at hopen
    rw [beforeComment_cons] at hcomment
    split at hcomment
    · cases hcomment
    · next hnone =>
      have hstart := (List.cons_eq_cons.1 hcomment).2
      have hnone' : ¬ (state.2 = false ∧ c = '%' ∧ (start ++ ';' :: rest).head? = some '%') := by
        rintro ⟨hquoted, hc, hhead⟩
        cases start with
        | nil => exact absurd (Option.some.inj hhead) (by decide)
        | cons d start => exact hnone ⟨hquoted, hc, hhead⟩
      rw [List.cons_append, beforeComment_cons, if_neg hnone', ih hopen hstart, List.cons_append]

end Cut

/-! ## Blanks around a line -/

section Blanks

variable {blanks : Text} (hblanks : ∀ c ∈ blanks, isBlank c = true)

include hblanks

/-- Blanks belong to the piece where they stand. -/
theorem semicolonPieces_blanks_append (state : Nat × Bool) (done s : Text) :
    semicolonPieces state.1 state.2 done (blanks ++ s) =
      semicolonPieces state.1 state.2 (blanks.reverse ++ done) s := by
  induction blanks generalizing done with
  | nil => rfl
  | cons c blanks ih =>
    obtain ⟨hc, hblanks⟩ := List.forall_mem_cons.1 hblanks
    have hcut : ¬ (state = (0, false) ∧ c = ';') := by
      rintro ⟨-, rfl⟩
      exact absurd hc (by decide)
    rw [List.cons_append, semicolonPieces_cons, if_neg hcut,
      openAfter_of_isPlain (isPlain_of_isBlank hc), ih hblanks, List.reverse_cons,
      List.append_assoc, List.singleton_append]

/-- Blanks at the beginning of a piece are trimmed away. -/
theorem map_trim_semicolonPieces_append (state : Nat × Bool) (done s : Text) :
    (semicolonPieces state.1 state.2 (done ++ blanks.reverse) s).map trim =
      (semicolonPieces state.1 state.2 done s).map trim := by
  have hdone (done : Text) : trim (done ++ blanks.reverse).reverse = trim done.reverse := by
    rw [List.reverse_append, List.reverse_reverse, trim_blanks_append hblanks]
  induction s generalizing state done with
  | nil => rw [semicolonPieces, semicolonPieces, List.map_singleton, List.map_singleton, hdone]
  | cons c s ih =>
    rw [semicolonPieces_cons, semicolonPieces_cons]
    split
    · rw [List.map_cons, List.map_cons, hdone]
    · exact ih (openAfter state c) (c :: done)

/-- Blanks at the end of the last piece are trimmed away. -/
theorem map_trim_semicolonPieces_append_blanks (state : Nat × Bool) (done s : Text) :
    (semicolonPieces state.1 state.2 done (s ++ blanks)).map trim =
      (semicolonPieces state.1 state.2 done s).map trim := by
  induction s generalizing state done with
  | nil =>
    rw [List.nil_append, ← List.append_nil blanks, semicolonPieces_blanks_append hblanks,
      semicolonPieces, semicolonPieces, List.map_singleton, List.map_singleton, List.reverse_append,
      List.reverse_reverse, trim_append_blanks hblanks]
  | cons c s ih =>
    rw [List.cons_append, semicolonPieces_cons, semicolonPieces_cons]
    split
    · rw [List.map_cons, List.map_cons, ih (0, false) []]
    · exact ih (openAfter state c) (c :: done)

/-- Blanks at the beginning of a line make no difference to its statements. -/
theorem lineStatements_blanks_append (s : Text) :
    lineStatements (blanks ++ s) = lineStatements s := by
  rw [lineStatements, lineStatements, semicolonPieces_blanks_append hblanks (0, false),
    List.append_nil, ← List.nil_append blanks.reverse,
    map_trim_semicolonPieces_append hblanks (0, false)]

/-- Blanks at the end of a line make no difference to its statements. -/
theorem lineStatements_append_blanks (s : Text) :
    lineStatements (s ++ blanks) = lineStatements s := by
  rw [lineStatements, lineStatements, map_trim_semicolonPieces_append_blanks hblanks (0, false)]

/-- Blanks at the beginning of a line stand before its comment. -/
theorem beforeComment_blanks_append (s : Text) :
    beforeComment false (blanks ++ s) = blanks ++ beforeComment false s := by
  induction blanks with
  | nil => rfl
  | cons c blanks ih =>
    obtain ⟨hc, hblanks⟩ := List.forall_mem_cons.1 hblanks
    have hnone : ¬ (false = false ∧ c = '%' ∧ (blanks ++ s).head? = some '%') := by
      rintro ⟨-, rfl, -⟩
      exact absurd hc (by decide)
    rw [List.cons_append, beforeComment_cons (0, false), if_neg hnone,
      openAfter_of_isPlain (isPlain_of_isBlank hc), ih hblanks, List.cons_append]

/-- Blanks at the end of a line stand before its comment or in it. -/
theorem exists_beforeComment_append_blanks (state : Nat × Bool) (s : Text) :
    ∃ back, (∀ c ∈ back, isBlank c = true) ∧
      beforeComment state.2 (s ++ blanks) = beforeComment state.2 s ++ back := by
  induction s generalizing state with
  | nil =>
    refine ⟨blanks, hblanks, beforeComment_eq_self fun hmem => ?_⟩
    exact absurd (hblanks _ (mem_of_mem_openChars hmem)) (by decide)
  | cons c s ih =>
    by_cases hcomment : state.2 = false ∧ c = '%' ∧ s.head? = some '%'
    · have hcomment' : state.2 = false ∧ c = '%' ∧ (s ++ blanks).head? = some '%' := by
        obtain ⟨hquoted, hc, hhead⟩ := hcomment
        exact ⟨hquoted, hc, by rw [List.head?_append, hhead]; rfl⟩
      refine ⟨[], List.forall_mem_nil _, ?_⟩
      rw [List.cons_append, beforeComment_cons, beforeComment_cons, if_pos hcomment,
        if_pos hcomment', List.append_nil]
    · have hcomment' : ¬ (state.2 = false ∧ c = '%' ∧ (s ++ blanks).head? = some '%') := by
        rintro ⟨hquoted, hc, hhead⟩
        cases s with
        | nil => exact absurd (hblanks _ (List.mem_of_mem_head? hhead)) (by decide)
        | cons d s => exact hcomment ⟨hquoted, hc, hhead⟩
      obtain ⟨back, hback, heq⟩ := ih (openAfter state c)
      refine ⟨back, hback, ?_⟩
      rw [List.cons_append, beforeComment_cons, beforeComment_cons, if_neg hcomment,
        if_neg hcomment', heq, List.cons_append]

end Blanks

/-! ## Statements of a line -/

/-- The texts of the statements of a line. -/
def lineTexts (line : Text) : List Text :=
  match lineContent line with
  | .code text => lineStatements text
  | _ => []

/-- The settings of a line that can be read. -/
def lineSettings (line : Text) : List Json :=
  match lineContent line with
  | .settings (some value) => [value]
  | _ => []

/-- A directive begins with two percent signs. -/
theorem startsWith_of_directive? {line : Text} (h : directive? line ≠ none) :
    startsWith ['%', '%'] line = true := by
  unfold directive? at h
  split at h
  · rfl
  · exact absurd rfl h

/-- A line of blanks has no statements. -/
theorem lineStatements_of_blank {s : Text} (h : ∀ c ∈ s, isBlank c = true) :
    lineStatements s = [] := by
  rw [← List.append_nil s, lineStatements_blanks_append h]
  rfl

/-- The statements of what is trimmed are those of the text. -/
theorem lineStatements_trim (s : Text) : lineStatements (trim s) = lineStatements s := by
  obtain ⟨front, back, hfront, hback, heq⟩ := exists_eq_append_trim s
  conv_rhs => rw [heq]
  rw [lineStatements_blanks_append hfront, lineStatements_append_blanks hback]

/-- A line that begins with two percent signs is blank before its comment. -/
theorem blank_of_startsWith {line : Text} (h : startsWith ['%', '%'] (trim line) = true) :
    ∀ c ∈ beforeComment false line, isBlank c = true := by
  obtain ⟨front, back, hfront, hback, heq⟩ := exists_eq_append_trim line
  obtain ⟨rest, hrest⟩ : ['%', '%'] <+: trim line := List.isPrefixOf_iff_prefix.1 h
  have hnone : beforeComment false (trim line ++ back) = [] := by
    rw [← hrest]
    rfl
  rw [heq, beforeComment_blanks_append hfront, hnone, List.append_nil]
  exact hfront

/-- A line that is no directive has the statements that stand before its comment. -/
theorem lineTexts_of_directive?_eq_none {line : Text} (h : directive? (trim line) = none) :
    lineTexts line = lineStatements (beforeComment false line) := by
  obtain ⟨front, back, hfront, hback, heq⟩ := exists_eq_append_trim line
  obtain ⟨more, hmore, htrim⟩ := exists_beforeComment_append_blanks hback (0, false) (trim line)
  have hbefore : lineStatements (beforeComment false line) =
      lineStatements (beforeComment false (trim line)) := by
    conv_lhs => rw [heq, beforeComment_blanks_append hfront, htrim]
    rw [lineStatements_blanks_append hfront, lineStatements_append_blanks hmore]
  rw [lineTexts, lineContent, h]
  dsimp only
  by_cases hstart : startsWith ['%', '%'] (trim line) = true
  · rw [if_pos hstart, lineStatements_of_blank (blank_of_startsWith hstart)]
  · rw [if_neg hstart, hbefore, ← lineStatements_trim (beforeComment false (trim line))]
    cases trim (beforeComment false (trim line)) <;> rfl

/-- A line that is no directive has no settings. -/
theorem lineSettings_of_directive?_eq_none {line : Text} (h : directive? (trim line) = none) :
    lineSettings line = [] := by
  rw [lineSettings, lineContent, h]
  dsimp only
  by_cases hstart : startsWith ['%', '%'] (trim line) = true
  · rw [if_pos hstart]
  · rw [if_neg hstart]
    cases trim (beforeComment false (trim line)) <;> rfl

/-! ## Lines broken at a semicolon -/

section Semicolon

variable {start rest : Text} (hopen : closesAll start = true)
  (hcomment : beforeComment false start = start)

include hcomment

/-- Without a comment a line is no directive. -/
theorem directive?_of_no_comment : directive? (trim start) = none := by
  by_contra hdirective
  have hstarts := startsWith_of_directive? hdirective
  have hblank := blank_of_startsWith hstarts
  rw [hcomment] at hblank
  rw [trim_eq_nil hblank] at hstarts
  exact Bool.false_ne_true hstarts

include hopen

/-- A line with a semicolon in the open before its comment is no directive. -/
theorem directive?_of_semicolon (rest : Text) :
    directive? (trim (start ++ ';' :: rest)) = none := by
  by_contra hdirective
  have hblank := blank_of_startsWith (startsWith_of_directive? hdirective)
  rw [beforeComment_cut (closesAll_iff.1 hopen) hcomment] at hblank
  exact absurd (hblank ';' (List.mem_append_right _ List.mem_cons_self)) (by decide)

variable (hdirective : directive? (trim rest) = none)

include hdirective

/-- The statements of a line are those before and those after a semicolon in the open. -/
theorem lineTexts_cut : lineTexts (start ++ ';' :: rest) = lineTexts start ++ lineTexts rest := by
  have hstate : start.foldl openAfter (0, false) = (0, false) := closesAll_iff.1 hopen
  rw [lineTexts_of_directive?_eq_none (directive?_of_semicolon hopen hcomment rest),
    lineTexts_of_directive?_eq_none (directive?_of_no_comment hcomment),
    lineTexts_of_directive?_eq_none hdirective, beforeComment_cut hstate hcomment, hcomment,
    lineStatements, lineStatements, lineStatements,
    semicolonPieces_cut hstate, List.map_append, List.filter_append]

/-- No settings are gained or lost where a line is cut at a semicolon. -/
theorem lineSettings_cut :
    lineSettings (start ++ ';' :: rest) = lineSettings start ++ lineSettings rest := by
  rw [lineSettings_of_directive?_eq_none (directive?_of_semicolon hopen hcomment rest),
    lineSettings_of_directive?_eq_none (directive?_of_no_comment hcomment),
    lineSettings_of_directive?_eq_none hdirective, List.append_nil]

end Semicolon

/-! ## Lines of a text -/

section Lines

variable {β : Type} {f : Text → List β} (hnil : f [] = [])
  (hreturn : ∀ line, f (dropReturn line) = f line)

include hnil hreturn

theorem flatMap_linesOfPieces (parts : List Text) :
    (linesOfPieces parts).flatMap f = parts.flatMap f := by
  induction parts with
  | nil => rfl
  | cons part rest ih =>
    cases rest with
    | nil =>
      rw [linesOfPieces]
      split
      · next hempty => rw [hempty, List.flatMap_singleton, hnil, List.flatMap_nil]
      · rfl
    | cons next rest =>
      rw [linesOfPieces, List.flatMap_cons, ih, hreturn, ← List.flatMap_cons]
      exact List.cons_ne_nil next rest

/-- What is found line by line in texts is found in what they are joined to by line feeds. -/
theorem flatMap_lines_joinWith (ts : List Text) :
    (lines (joinWith ['\n'] ts)).flatMap f = ts.flatMap fun t => (lines t).flatMap f := by
  have hlines (s : Text) : (lines s).flatMap f = (pieces (· = '\n') s).flatMap f :=
    flatMap_linesOfPieces hnil hreturn _
  induction ts with
  | nil => rfl
  | cons t ts ih =>
    cases ts with
    | nil => rw [joinWith, List.flatMap_singleton]
    | cons next ts =>
      rw [joinWith_cons (List.cons_ne_nil next ts), List.flatMap_cons, ← ih, hlines, hlines, hlines,
        List.append_assoc, List.singleton_append, pieces_append (decide_eq_true rfl),
        List.flatMap_append]

/-- A text without a line feed is its only line. -/
theorem flatMap_lines_of_no_feed {line : Text} (hfeed : '\n' ∉ line) :
    (lines line).flatMap f = f line := by
  have hopen : ∀ c ∈ line, decide (c = '\n') = false := by
    intro c hc
    refine decide_eq_false ?_
    rintro rfl
    exact hfeed hc
  rw [lines, flatMap_linesOfPieces hnil hreturn, pieces_eq_singleton hopen, List.flatMap_singleton]

end Lines

theorem map_text_statementsFrom (number : Nat) (ls : List Text) :
    (statementsFrom number ls).map (·.text) = ls.flatMap lineTexts := by
  induction ls generalizing number with
  | nil => rfl
  | cons l ls ih =>
    rw [statementsFrom, List.flatMap_cons, lineTexts]
    cases lineContent l with
    | nothing => exact ih (number + 1)
    | settings value => exact ih (number + 1)
    | code text =>
      dsimp only
      rw [List.map_append, ih, List.map_map]
      exact congrArg (· ++ _) (List.map_id' _)

/-- The last settings that can be read are the settings of the text. -/
theorem lastSettings_eq_getLast? (before : Option Json) (ls : List Text) :
    lastSettings before ls = (ls.flatMap lineSettings).getLast?.or before := by
  induction ls generalizing before with
  | nil => rfl
  | cons l ls ih =>
    rw [lastSettings, List.flatMap_cons, lineSettings]
    cases lineContent l with
    | nothing => exact ih before
    | code text => exact ih before
    | settings value =>
      cases value with
      | none => exact ih before
      | some value =>
        dsimp only
        rw [ih, List.getLast?_append, Option.or_assoc, List.getLast?_singleton, Option.some_or]

/-! ## Texts broken into lines otherwise -/

theorem lineTexts_dropReturn (line : Text) : lineTexts (dropReturn line) = lineTexts line := by
  rw [lineTexts, lineContent_dropReturn, ← lineTexts]

theorem lineSettings_dropReturn (line : Text) :
    lineSettings (dropReturn line) = lineSettings line := by
  rw [lineSettings, lineContent_dropReturn, ← lineSettings]

/-- A line that is blank or a comment, but no directive. -/
def IsIdle (line : Text) : Prop :=
  trim line = [] ∨ startsWith ['%', '%'] (trim line) = true ∧ directive? (trim line) = none

instance (line : Text) : Decidable (IsIdle line) :=
  inferInstanceAs (Decidable (trim line = [] ∨ _ ∧ directive? (trim line) = none))

theorem IsIdle.lineContent_eq {line : Text} (h : IsIdle line) : lineContent line = .nothing := by
  rcases h with h | ⟨hstart, hdirective⟩
  · simp only [lineContent, h]
    rfl
  · simp only [lineContent, hdirective, hstart, if_true]

/-- One step from a text to another that is the same but for its line breaks.  A text is given by
its lines, with line feeds between them. -/
inductive Rebreaks : Text → Text → Prop
  /-- A semicolon becomes a line feed.  It stands outside quotes and brackets and outside comments
  and directives, and no directive follows it on its line. -/
  | cut (before after : List Text) {start rest : Text} (hfeed : '\n' ∉ start ∧ '\n' ∉ rest)
      (hopen : closesAll start = true) (hcomment : beforeComment false start = start)
      (hdirective : directive? (trim rest) = none) :
      Rebreaks (joinWith ['\n'] (before ++ (start ++ ';' :: rest) :: after))
        (joinWith ['\n'] (before ++ start :: rest :: after))
  /-- A line is added that is blank or a comment. -/
  | insert (before after : List Text) {line : Text} (hfeed : '\n' ∉ line) (hidle : IsIdle line) :
      Rebreaks (joinWith ['\n'] (before ++ after)) (joinWith ['\n'] (before ++ line :: after))

/-- Nothing that is found line by line is changed by a step. -/
theorem Rebreaks.flatMap_eq {β : Type} {f : Text → List β} (hnil : f [] = [])
    (hreturn : ∀ line, f (dropReturn line) = f line)
    (hcut : ∀ start rest, closesAll start = true → beforeComment false start = start →
      directive? (trim rest) = none → f (start ++ ';' :: rest) = f start ++ f rest)
    (hidle : ∀ line, IsIdle line → f line = []) {s t : Text} (h : Rebreaks s t) :
    (lines s).flatMap f = (lines t).flatMap f := by
  cases h with
  | @cut before after start rest hfeed hopen hcomment hdirective =>
    have hwhole : '\n' ∉ start ++ ';' :: rest := by
      simpa using hfeed
    rw [flatMap_lines_joinWith hnil hreturn, flatMap_lines_joinWith hnil hreturn,
      List.flatMap_append, List.flatMap_append, List.flatMap_cons, List.flatMap_cons,
      List.flatMap_cons, flatMap_lines_of_no_feed hnil hreturn hwhole,
      flatMap_lines_of_no_feed hnil hreturn hfeed.1, flatMap_lines_of_no_feed hnil hreturn hfeed.2,
      hcut start rest hopen hcomment hdirective, List.append_assoc]
  | @insert before after line hfeed hline =>
    rw [flatMap_lines_joinWith hnil hreturn, flatMap_lines_joinWith hnil hreturn,
      List.flatMap_append, List.flatMap_append, List.flatMap_cons,
      flatMap_lines_of_no_feed hnil hreturn hfeed, hidle line hline, List.nil_append]

/-- A step leaves the statements and the initial settings as they are. -/
theorem Rebreaks.same {s t : Text} (h : Rebreaks s t) :
    (statements s).map (·.text) = (statements t).map (·.text) ∧
      initialSettings s = initialSettings t := by
  constructor
  · rw [statements, statements, map_text_statementsFrom, map_text_statementsFrom]
    exact h.flatMap_eq rfl lineTexts_dropReturn (fun _ _ => lineTexts_cut)
      fun line hline => by rw [lineTexts, hline.lineContent_eq]
  · rw [initialSettings, initialSettings, lastSettings_eq_getLast?, lastSettings_eq_getLast?]
    rw [h.flatMap_eq rfl lineSettings_dropReturn (fun _ _ => lineSettings_cut)
      fun line hline => by rw [lineSettings, hline.lineContent_eq]]

/-- Texts that are the same but for their line breaks, however many are changed, give the same
flowchart, with the same initial settings, or have the same fault. -/
theorem ofText_of_rebreaks {s t : Text} (h : Relation.EqvGen Rebreaks s t) :
    (Flowchart.ofText s).mapError (·.fault) = (Flowchart.ofText t).mapError (·.fault) := by
  induction h with
  | rel s t h => exact ofText_congr h.same.1 h.same.2
  | refl s => rfl
  | symm s t _ ih => exact ih.symm
  | trans s t u _ _ hst htu => exact hst.trans htu

/-- The first semicolon of a line becomes a line feed and a comment is put between the two lines.
The semicolon in the brackets stays, and so does the end that is missing. -/
theorem ofText_of_rebreaks_edges :
    Relation.EqvGen Rebreaks "flowchart TD\na[x;y] --> b; c -->\n".toList
        "flowchart TD\na[x;y] --> b\n  %% to c\n c -->\n".toList ∧
      (Flowchart.ofText "flowchart TD\na[x;y] --> b; c -->\n".toList).mapError (·.fault) =
        (Flowchart.ofText "flowchart TD\na[x;y] --> b\n  %% to c\n c -->\n".toList).mapError
          (·.fault) := by
  have hcut : Rebreaks "flowchart TD\na[x;y] --> b; c -->\n".toList
      "flowchart TD\na[x;y] --> b\n c -->\n".toList :=
    @Rebreaks.cut ["flowchart TD".toList] [[]] "a[x;y] --> b".toList " c -->".toList
      (by decide) (by decide) (by decide) (by decide)
  have hinsert : Rebreaks "flowchart TD\na[x;y] --> b\n c -->\n".toList
      "flowchart TD\na[x;y] --> b\n  %% to c\n c -->\n".toList :=
    @Rebreaks.insert ["flowchart TD".toList, "a[x;y] --> b".toList] [" c -->".toList, []]
      "  %% to c".toList (by decide) (by decide)
  have h := (Relation.EqvGen.rel _ _ hcut).trans _ _ _ (.rel _ _ hinsert)
  exact ⟨h, ofText_of_rebreaks h⟩

end Swimlane
