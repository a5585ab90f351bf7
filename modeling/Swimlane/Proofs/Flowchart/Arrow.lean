import Mathlib.Data.List.Chain
import Swimlane.Flowchart.Chain
import Swimlane.Proofs.Flowchart.Link

/-!
# Arrows among other cells

An arrow is as long as it can be.  So what is found at the head of some cells does not depend on
what follows them, if that does not go on with a sign of arrows (`arrow?_append`), and a written
arrow is found as a whole (`arrow?_written`).  Where no two neighbours show a part of an arrow,
neither an arrow nor a half of one with a label inside is found (`ShowsNoArrow`).
-/

namespace Swimlane

/-! ## Arrows at the head of cells -/

theorem isPrefix_optional (c : Char) (s : List Cell) : optional c s <+: s := by
  rw [optional]
  split
  · exact List.take_prefix 1 s
  · exact List.nil_prefix

theorem isPrefix_of_shaft? {s shaft : List Cell} (h : shaft? s = some shaft) : shaft <+: s := by
  simp only [shaft?] at h
  split at h
  · cases h
    exact List.takeWhile_prefix _
  · split at h
    · cases h
      exact List.takeWhile_prefix _
    · split at h
      · split at h
        · cases h
        · split at h
          · cases h
            exact List.take_prefix _ s
          · cases h
      · cases h

theorem isPrefix_of_arrow? {s arrow : List Cell} (h : arrow? s = some arrow) : arrow <+: s := by
  simp only [arrow?] at h
  split at h
  · cases h
  · cases h
    exact List.take_prefix _ s

theorem isPrefix_of_earlyShaft? {s shaft : List Cell} (h : earlyShaft? s = some shaft) :
    shaft <+: s := by
  simp only [earlyShaft?] at h
  split at h
  · obtain ⟨more, hmore⟩ := isPrefix_optional '<' s
    have hdrop : s.drop (optional '<' s).length = more :=
      (congrArg (List.drop _) hmore.symm).trans List.drop_left
    rw [hdrop] at h
    cases h
    obtain ⟨rest, hrest⟩ := List.take_prefix 2 more
    exact ⟨rest, by rw [List.append_assoc, hrest, hmore]⟩
  · cases h

/-! ## What arrows are made of -/

theorem shown_of_mem_runOf {c : Char} {cells : List Cell} {cell : Cell}
    (h : cell ∈ runOf c cells) : cell.shown = c := by
  simpa using List.mem_takeWhile_imp h

theorem shown_of_mem_optional {c : Char} {cells : List Cell} :
    (optional c cells).length ≤ 1 ∧ ∀ cell ∈ optional c cells, cell.shown = c := by
  rw [optional]
  cases cells with
  | nil => simp
  | cons cell rest =>
    split
    · next hhead => simpa using hhead
    · simp

/-- The cell that follows a run, taken with it. -/
theorem exists_take_runOf {c d : Char} {cells : List Cell}
    (h : (cells.drop (runOf c cells).length).head?.map (·.shown) = some d) :
    ∃ b, cells.take ((runOf c cells).length + 1) = runOf c cells ++ [b] ∧ b.shown = d := by
  obtain ⟨after, hafter⟩ : runOf c cells <+: cells := List.takeWhile_prefix _
  have hdrop : cells.drop (runOf c cells).length = after :=
    (congrArg (List.drop _) hafter.symm).trans List.drop_left
  rw [hdrop] at h
  obtain ⟨b, hb, hshown⟩ := Option.map_eq_some_iff.1 h
  obtain ⟨more, rfl⟩ : ∃ more, after = b :: more := ⟨after.tail, (List.cons_head?_tail hb).symm⟩
  refine ⟨b, ?_, hshown⟩
  rw [← congrArg (List.take ((runOf c cells).length + 1)) hafter, List.take_append,
    List.take_of_length_le (Nat.le_succ _)]
  simp

/-- A dotted shaft is a hyphen, all the dots after it, and the hyphen that ends them. -/
theorem shown_of_dottedShaft {s : List Cell} (hone : (runOf '-' s).length = 1)
    (hend : (s.drop (1 + (runOf '.' (s.drop 1)).length)).head?.map (·.shown) = some '-') :
    s.take ((runOf '.' (s.drop 1)).length + 2) ≠ [] ∧
      ∀ cell ∈ s.take ((runOf '.' (s.drop 1)).length + 2), cell.shown = '-' ∨ cell.shown = '.' := by
  cases s with
  | nil => cases hone
  | cons a rest =>
    have ha : a.shown = '-' := by
      by_contra hne
      simp [runOf, hne] at hone
    rw [List.drop_succ_cons, List.drop_zero] at hend ⊢
    rw [Nat.add_comm, List.drop_succ_cons] at hend
    obtain ⟨b, htake, hshown⟩ := exists_take_runOf hend
    rw [List.take_succ_cons, htake]
    refine ⟨List.cons_ne_nil _ _, fun cell hcell => ?_⟩
    rcases List.mem_cons.1 hcell with rfl | hcell
    · exact Or.inl ha
    · rcases List.mem_append.1 hcell with hcell | hcell
      · exact Or.inr (shown_of_mem_runOf hcell)
      · rw [List.mem_singleton.1 hcell]
        exact Or.inl hshown

/-- A shaft is there, and it shows hyphens, equals signs and dots. -/
theorem shown_of_shaft? {s shaft : List Cell} (h : shaft? s = some shaft) : shaft ≠ [] ∧
    ∀ cell ∈ shaft, cell.shown = '-' ∨ cell.shown = '=' ∨ cell.shown = '.' := by
  simp only [shaft?] at h
  split at h
  · next hlen =>
    cases h
    exact ⟨List.ne_nil_of_length_pos (by omega), fun cell hcell =>
      Or.inl (shown_of_mem_runOf hcell)⟩
  · split at h
    · next hlen =>
      cases h
      exact ⟨List.ne_nil_of_length_pos (by omega), fun cell hcell =>
        Or.inr (Or.inl (shown_of_mem_runOf hcell))⟩
    · split at h
      · next hone =>
        split at h
        · cases h
        · split at h
          · next hend =>
            cases h
            obtain ⟨hne, hshown⟩ := shown_of_dottedShaft hone hend
            exact ⟨hne, fun cell hcell => (hshown cell hcell).imp_right Or.inr⟩
          · cases h
      · cases h

/-- An arrow is a shaft, perhaps with an angle on either side. -/
theorem exists_of_arrow? {s arrow : List Cell} (h : arrow? s = some arrow) :
    ∃ start shaft finish, arrow = start ++ (shaft ++ finish) ∧ shaft ≠ [] ∧
      start.length ≤ 1 ∧ finish.length ≤ 1 ∧ (∀ cell ∈ start, cell.shown = '<') ∧
      (∀ cell ∈ shaft, cell.shown = '-' ∨ cell.shown = '=' ∨ cell.shown = '.') ∧
      ∀ cell ∈ finish, cell.shown = '>' := by
  obtain ⟨after, hafter⟩ := isPrefix_optional '<' s
  have hdrop : s.drop (optional '<' s).length = after :=
    (congrArg (List.drop _) hafter.symm).trans List.drop_left
  simp only [arrow?, hdrop] at h
  split at h
  · cases h
  · next shaft hshaft =>
    obtain ⟨rest, hrest⟩ := isPrefix_of_shaft? hshaft
    have hdrop' : s.drop ((optional '<' s).length + shaft.length) = rest := by
      rw [← List.drop_drop, hdrop]
      exact (congrArg (List.drop _) hrest.symm).trans List.drop_left
    rw [hdrop'] at h
    obtain ⟨last, hlast⟩ := isPrefix_optional '>' rest
    have hsplit : s = (optional '<' s ++ (shaft ++ optional '>' rest)) ++ last := by
      rw [List.append_assoc, List.append_assoc, hlast, hrest, hafter]
    have harrow : arrow = optional '<' s ++ (shaft ++ optional '>' rest) := by
      rw [← Option.some.inj h]
      refine (congrArg (List.take _) hsplit).trans (List.take_left' ?_)
      simp only [List.length_append]
      omega
    obtain ⟨hne, hshown⟩ := shown_of_shaft? hshaft
    exact ⟨_, shaft, _, harrow, hne, shown_of_mem_optional.1, shown_of_mem_optional.1,
      shown_of_mem_optional.2, hshown, shown_of_mem_optional.2⟩

/-- Is the character one of the signs that arrows are made of? -/
def isArrowSign (c : Char) : Bool := c = '<' || c = '-' || c = '=' || c = '.' || c = '>'

theorem isArrowSign_of_mem_arrow {s arrow : List Cell} (h : arrow? s = some arrow) :
    arrow ≠ [] ∧ ∀ cell ∈ arrow, isArrowSign cell.shown = true := by
  obtain ⟨start, shaft, finish, rfl, hne, -, -, hstart, hshaft, hfinish⟩ := exists_of_arrow? h
  refine ⟨by simp [hne], fun cell hcell => ?_⟩
  rw [List.mem_append, List.mem_append] at hcell
  rcases hcell with hcell | hcell | hcell
  · rw [hstart cell hcell]
    rfl
  · rcases hshaft cell hcell with hc | hc | hc <;> rw [hc] <;> rfl
  · rw [hfinish cell hcell]
    rfl

/-- Only at its beginning an arrow shows an angle that opens. -/
theorem shown_ne_of_arrow?_drop {s front back : List Cell} (h : arrow? s = some (front ++ back))
    (hne : front ≠ []) : ∀ cell ∈ back, cell.shown ≠ '<' := by
  obtain ⟨start, shaft, finish, harrow, -, hlength, -, -, hshaft, hfinish⟩ := exists_of_arrow? h
  have hback : back <:+ shaft ++ finish := by
    have hpos := List.length_pos_iff.2 hne
    have hle : back.length ≤ (shaft ++ finish).length := by
      have := congrArg List.length harrow
      simp only [List.length_append] at this ⊢
      omega
    exact List.suffix_of_suffix_length_le (harrow ▸ List.suffix_append front back)
      (List.suffix_append start _) hle
  intro cell hcell
  rcases List.mem_append.1 (hback.subset hcell) with hmem | hmem
  · rcases hshaft cell hmem with hc | hc | hc <;> rw [hc] <;> decide
  · rw [hfinish cell hmem]
    decide

/-- Only at its end an arrow shows an angle that closes. -/
theorem shown_ne_of_arrow?_take {s front back : List Cell} (h : arrow? s = some (front ++ back))
    (hne : back ≠ []) : ∀ cell ∈ front, cell.shown ≠ '>' := by
  obtain ⟨start, shaft, finish, harrow, -, -, hlength, hstart, hshaft, -⟩ := exists_of_arrow? h
  rw [← List.append_assoc] at harrow
  have hfront : front <+: start ++ shaft := by
    have hpos := List.length_pos_iff.2 hne
    have hle : front.length ≤ (start ++ shaft).length := by
      have := congrArg List.length harrow
      simp only [List.length_append] at this ⊢
      omega
    exact List.prefix_of_prefix_length_le (harrow ▸ List.prefix_append front back)
      (List.prefix_append _ finish) hle
  intro cell hcell
  rcases List.mem_append.1 (hfront.subset hcell) with hmem | hmem
  · rw [hstart cell hmem]
    decide
  · rcases hshaft cell hmem with hc | hc | hc <;> rw [hc] <;> decide

/-! ## What follows an arrow -/

/-- The characters of a class that has no sign of arrows are none. -/
theorem isArrowSign_of_class {p : Char → Bool} {c : Char} (hc : p c = true)
    (hp : ∀ d ∈ ['<', '-', '=', '.', '>'], p d = false) : isArrowSign c = false := by
  have hne : c ∉ ['<', '-', '=', '.', '>'] := fun hmem =>
    Bool.false_ne_true ((hp c hmem).symm.trans hc)
  simpa [isArrowSign, and_assoc] using hne

theorem isArrowSign_of_isBlank {c : Char} (hc : isBlank c = true) : isArrowSign c = false :=
  isArrowSign_of_class hc (forall_mem_of_all (by decide))

theorem isBlank_of_isArrowSign {c : Char} (hc : isArrowSign c = true) : isBlank c = false := by
  rw [Bool.eq_false_iff]
  intro hblank
  exact Bool.false_ne_true ((isArrowSign_of_isBlank hblank).symm.trans hc)

/-- The cells do not begin with a sign of arrows. -/
def EndsArrow (cells : List Cell) : Prop := ∀ cell ∈ cells.head?, isArrowSign cell.shown = false

theorem endsArrow_cons {cell : Cell} (h : isArrowSign cell.shown = false) (rest : List Cell) :
    EndsArrow (cell :: rest) := by
  intro d hd
  rw [← Option.some.inj hd]
  exact h

section EndsArrow

variable {s rest : List Cell} (h : EndsArrow rest)

include h

theorem EndsArrow.ne {c : Char} (hc : isArrowSign c = true) :
    ∀ cell ∈ rest.head?, cell.shown ≠ c := by
  rintro cell hcell rfl
  exact Bool.false_ne_true ((h cell hcell).symm.trans hc)

theorem runOf_append {c : Char} (hc : isArrowSign c = true) (s : List Cell) :
    runOf c (s ++ rest) = runOf c s := by
  have hrest : rest.takeWhile (fun cell => decide (cell.shown = c)) = [] := runOf_eq_nil (h.ne hc)
  rw [runOf, runOf, List.takeWhile_append]
  split
  · next hlen =>
    rw [hrest, List.append_nil]
    exact ((List.takeWhile_prefix _).eq_of_length hlen).symm
  · rfl

theorem optional_append {c : Char} (hc : isArrowSign c = true) (s : List Cell) :
    optional c (s ++ rest) = optional c s := by
  cases s with
  | nil => exact optional_eq_nil (h.ne hc)
  | cons cell s => rfl

/-- What follows makes no difference to a shaft. -/
theorem shaft?_append (s : List Cell) : shaft? (s ++ rest) = shaft? s := by
  cases s with
  | nil => exact shaft?_eq_none fun cell hcell => ⟨h.ne rfl cell hcell, h.ne rfl cell hcell⟩
  | cons a s =>
    have hlen : (runOf '.' s).length ≤ s.length := (List.takeWhile_prefix _).length_le
    have hdrop : (a :: s ++ rest).drop (1 + (runOf '.' s).length) =
        s.drop (runOf '.' s).length ++ rest := by
      rw [Nat.add_comm, List.cons_append, List.drop_succ_cons, List.drop_append_of_le_length hlen]
    have hdrop' : (a :: s).drop (1 + (runOf '.' s).length) = s.drop (runOf '.' s).length := by
      rw [Nat.add_comm, List.drop_succ_cons]
    have hhyphens : runOf '-' (a :: (s ++ rest)) = runOf '-' (a :: s) := runOf_append h rfl (a :: s)
    have hequals : runOf '=' (a :: (s ++ rest)) = runOf '=' (a :: s) := runOf_append h rfl (a :: s)
    have hdots : runOf '.' (s ++ rest) = runOf '.' s := runOf_append h rfl s
    rw [List.cons_append] at hdrop ⊢
    simp only [shaft?, hhyphens, hequals, List.drop_succ_cons, List.drop_zero, hdots, hdrop, hdrop']
    -- only dots look past their run, at the hyphen that must close them
    cases hend : s.drop (runOf '.' s).length with
    | nil =>
      have hne : rest.head?.map (·.shown) ≠ some '-' := by
        intro heq
        obtain ⟨cell, hcell, hshown⟩ := Option.map_eq_some_iff.1 heq
        exact h.ne (c := '-') rfl cell hcell hshown
      simp [hne]
    | cons b more =>
      have hlonger : (runOf '.' s).length + 2 ≤ (a :: s).length := by
        have := congrArg List.length hend
        rw [List.length_drop, List.length_cons] at this
        rw [List.length_cons]
        omega
      have htake : (a :: (s ++ rest)).take ((runOf '.' s).length + 2) =
          (a :: s).take ((runOf '.' s).length + 2) := by
        rw [← List.cons_append, List.take_append_of_le_length hlonger]
      rw [htake]
      rfl

/-- What follows makes no difference to an arrow. -/
theorem arrow?_append (s : List Cell) : arrow? (s ++ rest) = arrow? s := by
  have hstart := (isPrefix_optional '<' s).length_le
  simp only [arrow?, optional_append h (c := '<') rfl, List.drop_append_of_le_length hstart,
    shaft?_append h]
  cases hshaft : shaft? (s.drop (optional '<' s).length) with
  | none => rfl
  | some shaft =>
    have hlen : (optional '<' s).length + shaft.length ≤ s.length := by
      have := (isPrefix_of_shaft? hshaft).length_le
      rw [List.length_drop] at this
      omega
    simp only [List.drop_append_of_le_length hlen, optional_append h (c := '>') rfl]
    have hfinish := (isPrefix_optional '>'
      (s.drop ((optional '<' s).length + shaft.length))).length_le
    rw [List.length_drop] at hfinish
    rw [List.take_append_of_le_length (by omega)]

/-- What follows makes no difference to the first half of an arrow. -/
theorem earlyShaft?_append (s : List Cell) : earlyShaft? (s ++ rest) = earlyShaft? s := by
  have hstart := (isPrefix_optional '<' s).length_le
  simp only [earlyShaft?, optional_append h (c := '<') rfl, List.drop_append_of_le_length hstart]
  generalize s.drop (optional '<' s).length = tail
  cases rest with
  | nil => rw [List.append_nil]
  | cons cell rest =>
    have hhyphen := h.ne (c := '-') rfl cell rfl
    have hequals := h.ne (c := '=') rfl cell rfl
    have hdot := h.ne (c := '.') rfl cell rfl
    obtain _ | ⟨first, _ | ⟨second, more⟩⟩ := tail
    · simp [shownText, hhyphen, hequals]
    · simp [shownText, hhyphen, hequals, hdot]
    · rfl

end EndsArrow

/-! ## Written arrows -/

theorem runOf_replicate {c : Char} {rest : List Cell} (h : ∀ cell ∈ rest.head?, cell.shown ≠ c)
    (n : Nat) : runOf c (List.replicate n (openCell c) ++ rest) =
      List.replicate n (openCell c) := by
  have hall : ∀ cell ∈ List.replicate n (openCell c), decide (cell.shown = c) = true := by
    intro cell hcell
    rw [List.eq_of_mem_replicate hcell]
    exact decide_eq_true rfl
  have hrest : rest.takeWhile (fun cell => decide (cell.shown = c)) = [] := runOf_eq_nil h
  rw [runOf, List.takeWhile_append_of_pos hall, hrest, List.append_nil]

/-- A hyphen, dots and a hyphen are a shaft, whatever follows. -/
theorem shaft?_dotted (more : Nat) (rest : List Cell) :
    shaft? (openCell '-' :: (List.replicate (more + 1) (openCell '.') ++ openCell '-' :: rest)) =
      some (openCell '-' :: (List.replicate (more + 1) (openCell '.') ++ [openCell '-'])) := by
  have hhyphens : runOf '-' (openCell '-' ::
      (List.replicate (more + 1) (openCell '.') ++ openCell '-' :: rest)) = [openCell '-'] := by
    rw [runOf, List.takeWhile_cons_of_pos (by decide)]
    rfl
  have hequals : runOf '=' (openCell '-' ::
      (List.replicate (more + 1) (openCell '.') ++ openCell '-' :: rest)) = [] :=
    List.takeWhile_cons_of_neg (by decide)
  have hdots : runOf '.' (List.replicate (more + 1) (openCell '.') ++ openCell '-' :: rest) =
      List.replicate (more + 1) (openCell '.') :=
    runOf_replicate (fun cell hcell => by rw [← Option.some.inj hcell]; decide) _
  simp only [shaft?, hhyphens, hequals, List.drop_succ_cons, List.drop_zero, hdots,
    List.length_replicate]
  have hdrop : (openCell '-' :: (List.replicate (more + 1) (openCell '.') ++
      openCell '-' :: rest)).drop (1 + (more + 1)) = openCell '-' :: rest := by
    rw [Nat.add_comm, List.drop_succ_cons]
    exact List.drop_left' (List.length_replicate ..)
  have htake : (openCell '-' :: (List.replicate (more + 1) (openCell '.') ++
      openCell '-' :: rest)).take (more + 1 + 2) =
      openCell '-' :: (List.replicate (more + 1) (openCell '.') ++ [openCell '-']) := by
    rw [List.take_succ_cons, List.take_append, List.take_of_length_le (by simp)]
    simp
  rw [hdrop, htake]
  simp [openCell]

/-- The shaft of an arrow is found up to the angle bracket at its head. -/
theorem shaft?_written (shaft : Shaft) (rest : List Cell)
    (h : ∀ cell ∈ rest.head?, cell.shown = '>') :
    shaft? (shaft.text.map openCell ++ rest) = some (shaft.text.map openCell) := by
  have hne (c : Char) (hc : c ≠ '>') : ∀ cell ∈ rest.head?, cell.shown ≠ c := by
    rintro cell hcell rfl
    exact hc (h cell hcell)
  cases shaft with
  | plain more =>
    simp only [Shaft.text, List.map_replicate, shaft?, runOf_replicate (hne '-' (by decide))]
    simp
  | thick more =>
    have hhyphens : runOf '-' (List.replicate (more + 2) (openCell '=') ++ rest) = [] :=
      runOf_eq_nil fun cell hcell => by
        rw [← Option.some.inj hcell]
        decide
    simp only [Shaft.text, List.map_replicate, shaft?, hhyphens,
      runOf_replicate (hne '=' (by decide))]
    simp
  | dotted more => simpa [Shaft.text] using shaft?_dotted more rest

theorem Shaft.head?_text (shaft : Shaft) : shaft.text.head? = some '-' ∨
    shaft.text.head? = some '=' := by
  cases shaft with
  | plain more => exact Or.inl rfl
  | thick more => exact Or.inr rfl
  | dotted more => exact Or.inl rfl

/-- A written arrow is found as a whole. -/
theorem arrow?_written (a : Arrow) : arrow? (a.text.map openCell) = some (a.text.map openCell) := by
  obtain ⟨tail, shaft, head⟩ := a
  have hcells : (Arrow.mk tail shaft head).text.map openCell =
      (if tail then [openCell '<'] else []) ++ (shaft.text.map openCell ++
        if head then [openCell '>'] else []) := by
    cases tail <;> cases head <;> simp [Arrow.text]
  have hstart : optional '<' ((Arrow.mk tail shaft head).text.map openCell) =
      if tail then [openCell '<'] else [] := by
    rw [hcells]
    cases tail with
    | true => rfl
    | false =>
      refine optional_eq_nil fun cell hcell => ?_
      obtain ⟨c, more, htext⟩ : ∃ c more, shaft.text = c :: more := by
        cases shaft <;> exact ⟨_, _, rfl⟩
      have hhead := shaft.head?_text
      rw [htext] at hhead hcell
      rw [← Option.some.inj hcell]
      rcases hhead with hc | hc <;> rw [List.head?_cons, Option.some_inj] at hc <;> subst hc <;>
        decide
  have hshaft := shaft?_written shaft (if head then [openCell '>'] else []) fun cell hcell => by
    cases head with
    | true =>
      rw [← Option.some.inj hcell]
      rfl
    | false => cases hcell
  have hfinish : optional '>' (if head then [openCell '>'] else []) =
      if head then [openCell '>'] else [] := by
    cases head <;> rfl
  simp only [arrow?, hstart]
  rw [hcells, List.drop_left, hshaft]
  simp only [← List.append_assoc]
  rw [← List.length_append, List.drop_left, hfinish, ← List.length_append, List.take_length]

theorem isArrowSign_of_mem_text {a : Arrow} {c : Char} (hc : c ∈ a.text) :
    isArrowSign c = true := by
  have hshaft {c : Char} (hc : c ∈ a.shaft.text) : isArrowSign c = true := by
    cases hcase : a.shaft with
    | plain more =>
      rw [hcase] at hc
      rw [List.eq_of_mem_replicate hc]
      rfl
    | thick more =>
      rw [hcase] at hc
      rw [List.eq_of_mem_replicate hc]
      rfl
    | dotted more =>
      rw [hcase, Shaft.text] at hc
      simp only [List.cons_append, List.mem_cons, List.mem_append, List.mem_replicate,
        List.not_mem_nil, or_false] at hc
      rcases hc with rfl | ⟨-, rfl⟩ | rfl <;> rfl
  rw [Arrow.text, List.mem_append, List.mem_append] at hc
  rcases hc with hc | hc | hc
  · split at hc
    · rw [List.mem_singleton.1 hc]
      rfl
    · exact absurd hc List.not_mem_nil
  · exact hshaft hc
  · split at hc
    · rw [List.mem_singleton.1 hc]
      rfl
    · exact absurd hc List.not_mem_nil

theorem isBlank_of_mem_text {a : Arrow} {c : Char} (hc : c ∈ a.text) : isBlank c = false :=
  isBlank_of_isArrowSign (isArrowSign_of_mem_text hc)

/-- An arrow has hyphens or equals signs. -/
theorem Arrow.exists_mem_text (a : Arrow) : ∃ c, (c = '-' ∨ c = '=') ∧ c ∈ a.text := by
  obtain ⟨tail, shaft, head⟩ := a
  cases shaft with
  | plain more => exact ⟨'-', Or.inl rfl, by simp [Arrow.text, Shaft.text]⟩
  | thick more => exact ⟨'=', Or.inr rfl, by simp [Arrow.text, Shaft.text]⟩
  | dotted more => exact ⟨'-', Or.inl rfl, by simp [Arrow.text, Shaft.text]⟩

theorem Arrow.text_ne_nil (a : Arrow) : a.text ≠ [] := by
  obtain ⟨c, -, hc⟩ := a.exists_mem_text
  exact List.ne_nil_of_mem hc

/-! ## Cells that show no part of an arrow -/

/-- Can an arrow, or the half of one with a label inside, have the two characters next to each
other? -/
def isArrowPart (c d : Char) : Bool :=
  [c, d] = ['-', '-'] || [c, d] = ['=', '='] || [c, d] = ['-', '.'] || [c, d] = ['.', '-']

theorem isArrowPart_eq_false {c d : Char} (h : isArrowSign c = false) :
    isArrowPart c d = false := by
  rw [Bool.eq_false_iff]
  intro hpart
  simp only [isArrowPart, List.cons.injEq, and_true, Bool.or_eq_true, decide_eq_true_eq] at hpart
  rcases hpart with ((⟨rfl, rfl⟩ | ⟨rfl, rfl⟩) | ⟨rfl, rfl⟩) | ⟨rfl, rfl⟩ <;>
    simp [isArrowSign] at h

/-- Do no two neighbours among the cells show a part of an arrow? -/
def ShowsNoArrow (cells : List Cell) : Prop :=
  cells.IsChain fun a b => isArrowPart a.shown b.shown = false

instance (cells : List Cell) : Decidable (ShowsNoArrow cells) :=
  inferInstanceAs (Decidable (cells.IsChain _))

namespace ShowsNoArrow

variable {cells s : List Cell}

theorem suffix (h : ShowsNoArrow cells) (hs : s <:+ cells) : ShowsNoArrow s :=
  List.IsChain.suffix h hs

theorem cons {cell : Cell} (hcell : isArrowSign cell.shown = false)
    (h : ShowsNoArrow cells) : ShowsNoArrow (cell :: cells) :=
  List.isChain_cons.2 ⟨fun _ _ => isArrowPart_eq_false hcell, h⟩

/-- Without signs of arrows there is no part of an arrow. -/
theorem of_forall (h : ∀ cell ∈ cells, isArrowSign cell.shown = false) : ShowsNoArrow cells := by
  induction cells with
  | nil => exact .nil
  | cons cell rest ih =>
    exact .cons (h cell List.mem_cons_self) (ih fun c hc => h c (List.mem_cons_of_mem cell hc))

theorem blanks_append {blanks : Text} (hblank : ∀ c ∈ blanks, isBlank c = true)
    (h : ShowsNoArrow cells) : ShowsNoArrow (blanks.map openCell ++ cells) := by
  induction blanks with
  | nil => exact h
  | cons b blanks ih =>
    exact .cons (isArrowSign_of_isBlank (hblank b List.mem_cons_self))
      (ih fun c hc => hblank c (List.mem_cons_of_mem b hc))

theorem run_lt (h : ShowsNoArrow cells) {c : Char} (hc : isArrowPart c c = true) :
    (runOf c cells).length < 2 := by
  match cells with
  | [] => exact Nat.zero_lt_two
  | [a] => exact Nat.lt_succ_of_le (List.takeWhile_prefix _).length_le
  | a :: b :: more =>
    have hpair : isArrowPart a.shown b.shown = false := (List.isChain_cons_cons.1 h).1
    by_cases ha : a.shown = c
    · have hb : b.shown ≠ c := by
        intro hb
        rw [ha, hb] at hpair
        exact Bool.false_ne_true (hpair.symm.trans hc)
      simp [runOf, ha, hb]
    · simp [runOf, ha]

theorem shaft?_eq_none (h : ShowsNoArrow cells) : shaft? cells = none := by
  have hhyphens := h.run_lt (c := '-') rfl
  have hequals := h.run_lt (c := '=') rfl
  simp only [shaft?, if_neg (Nat.not_le_of_lt hhyphens), if_neg (Nat.not_le_of_lt hequals)]
  split
  · next hone =>
    have hdots : runOf '.' (cells.drop 1) = [] := by
      obtain _ | ⟨a, _ | ⟨b, more⟩⟩ := cells
      · rfl
      · rfl
      · refine runOf_eq_nil fun cell hcell hdot => ?_
        obtain rfl : b = cell := Option.some.inj hcell
        have ha : a.shown = '-' := by
          by_contra hne
          simp [runOf, hne] at hone
        have hpair : isArrowPart a.shown b.shown = false := (List.isChain_cons_cons.1 h).1
        rw [ha, hdot] at hpair
        exact Bool.false_ne_true hpair.symm
    rw [if_pos hdots]
  · rfl

theorem arrow?_eq_none (h : ShowsNoArrow cells) : arrow? cells = none := by
  have hshaft : shaft? (cells.drop (optional '<' cells).length) = none :=
    (h.suffix (List.drop_suffix _ cells)).shaft?_eq_none
  simp [arrow?, hshaft]

theorem earlyShaft?_eq_none (h : ShowsNoArrow cells) : earlyShaft? cells = none := by
  have htail : ShowsNoArrow (cells.drop (optional '<' cells).length) :=
    h.suffix (List.drop_suffix _ cells)
  have htwo (c d : Char) (hcd : isArrowPart c d = true) :
      shownText ((cells.drop (optional '<' cells).length).take 2) ≠ [c, d] := by
    intro heq
    generalize cells.drop (optional '<' cells).length = tail at htail heq
    match tail, htail, heq with
    | [], _, heq => cases heq
    | [a], _, heq => cases heq
    | a :: b :: more, htail, heq =>
      have hpair : isArrowPart a.shown b.shown = false := (List.isChain_cons_cons.1 htail).1
      have hab : a.shown = c ∧ b.shown = d := by simpa [shownText] using heq
      rw [hab.1, hab.2] at hpair
      exact Bool.false_ne_true (hpair.symm.trans hcd)
  simp [earlyShaft?, htwo '-' '-' rfl, htwo '=' '=' rfl, htwo '-' '.' rfl]

theorem lateShaft?_eq_none (h : ShowsNoArrow cells) : lateShaft? cells = none := by
  have hhyphens := h.run_lt (c := '-') rfl
  have hequals := h.run_lt (c := '=') rfl
  have hdots : ¬(runOf '.' cells ≠ [] ∧
      (cells.drop (runOf '.' cells).length).head?.map (·.shown) = some '-') := by
    rintro ⟨hne, hhead⟩
    obtain ⟨cell, hcell, hshown⟩ := Option.map_eq_some_iff.1 hhead
    obtain ⟨rest, hrest⟩ : runOf '.' cells <+: cells := List.takeWhile_prefix _
    have hdrop : cells.drop (runOf '.' cells).length = rest :=
      (congrArg (List.drop _) hrest.symm).trans List.drop_left
    obtain ⟨dot, hlast⟩ := Option.isSome_iff_exists.1 (List.getLast?_isSome.2 hne)
    have hdot : dot.shown = '.' := by
      have hmem := List.mem_of_getLast? hlast
      simpa using List.mem_takeWhile_imp hmem
    have hchain : ShowsNoArrow (runOf '.' cells ++ rest) := by
      rw [hrest]
      exact h
    rw [hdrop] at hcell
    have hpair := (List.isChain_append.1 hchain).2.2 dot hlast cell hcell
    rw [hdot, hshown] at hpair
    exact Bool.false_ne_true hpair.symm
  simp only [lateShaft?, if_neg (Nat.not_le_of_lt hhyphens), if_neg (Nat.not_le_of_lt hequals),
    if_neg hdots]
  rfl

/-- Without a second half of an arrow there is no rest of a link after it. -/
theorem lateRest?_eq_none (h : ShowsNoArrow cells) :
    lateRest? cells = none := by
  rw [lateRest?, sideAfter?, h.lateShaft?_eq_none]

theorem innerLabel?_eq_none (h : ShowsNoArrow cells)
    (label : List Cell) : innerLabel? label cells = none := by
  induction cells generalizing label with
  | nil => rfl
  | cons c cells ih =>
    have hcells : ShowsNoArrow cells := h.suffix (List.suffix_cons c cells)
    have hlate : lateRest? (dropBlank cells) = none :=
      (hcells.suffix (List.dropWhile_suffix _)).lateRest?_eq_none
    simp [innerLabel?, hlate, ih hcells]

end ShowsNoArrow

end Swimlane
