import Swimlane.Proofs.Flowchart.LinkParts
import Swimlane.Proofs.Flowchart.SlicedLabels

/-!
# No slice is missing

A flowchart that is read by slices is the flowchart that is read otherwise: no slice is asked for
at an offset inside a character (`cutsAtCharacters`).  For pieces, links and chains that is so in
every line, since what is looked for is shown in the open, and where blanks are passed over the
search ends at one side of them.  From there the readers of labels, references and statements go
on as they do without slices (`Gives`).
-/

namespace Swimlane

namespace Sliced

/-! ## Links -/

theorem offsetOf_append (xs ys : List Cell) : offsetOf (xs ++ ys) ys = shownSize xs := by
  rw [offsetOf, shownSize_append, Nat.add_sub_cancel]

section Link

variable {s : Text} {left label right : List Cell}

theorem leftSide_eq {after : List Cell} (h : IsPart s [] left after) :
    leftSide s left = some (cellText left) := by
  have hslice := h.slice?_eq
  rw [shownSize, shownText, List.map_nil, byteCount_nil, Nat.zero_add] at hslice
  rw [leftSide, hslice]
  rfl

theorem rightSide_eq {gap : List Cell} (h : IsPart s gap right []) :
    rightSide s right = some (cellText right) := by
  have hmask := h.mask_eq
  rw [List.append_nil] at hmask
  have hslice := h.slice?_eq
  rw [← shownSize_append, ← hmask] at hslice
  have hoffset : offsetOf (mask s) right = shownSize gap := by rw [hmask, offsetOf_append]
  rw [rightSide, hoffset, hslice]
  rfl

theorem labelOf_eq {fromLabel : List Cell → List Cell} {front after : List Cell}
    (h : IsPart s front label after)
    (hfrom : fromLabel (dropBlank ((mask s).drop left.length)) = label ++ after) :
    labelOf s fromLabel left label = some (Swimlane.unquote (cellText label)) := by
  have hoffset : offsetOf (mask s) (label ++ after) = shownSize front := by
    rw [h.mask_eq, offsetOf_append]
  simp only [labelOf, hfrom, hoffset, h.slice?_eq, Option.bind_eq_bind, Option.bind_some]
  exact unquote_eq _

/-- The three slices of a link with a label, whichever way it is found. -/
theorem slices_of_shortestLeft {right? : List Cell → Option (List Cell × List Cell)}
    {fromLabel : List Cell → List Cell}
    (hparts : ∀ {before cells label right : List Cell}, mask s = before ++ cells →
      right? cells = some (label, right) →
        (∃ front after, IsPart s front label after ∧ fromLabel cells = label ++ after) ∧
          ∃ gap, IsPart s gap right [])
    (h : shortestLeft right? [] (mask s) = some (left, label, right)) :
    labelOf s fromLabel left label = some (Swimlane.unquote (cellText label)) ∧
      leftSide s left = some (cellText left) ∧ rightSide s right = some (cellText right) := by
  obtain ⟨rest, hleft, hfound⟩ := isPart_of_shortestLeft h
  obtain ⟨blanks, hrest, -⟩ := dropBlank_suffix rest
  have hmask : mask s = left ++ rest := hleft.mask_eq
  have hcells : mask s = (left ++ blanks) ++ dropBlank rest := by
    rw [List.append_assoc, ← hrest, hmask]
  obtain ⟨⟨front, after, hlabel, hfrom⟩, gap, hright⟩ := hparts hcells hfound
  refine ⟨labelOf_eq hlabel ?_, leftSide_eq hleft, rightSide_eq hright⟩
  rw [hmask, List.drop_left, hfrom]

theorem barLink?_eq (s : Text) : barLink? s = some (Swimlane.barLink? (mask s)) := by
  rw [barLink?, Swimlane.barLink?]
  cases hfound : shortestLeft barRest? [] (mask s) with
  | none => rfl
  | some found =>
    obtain ⟨left, label, right⟩ := found
    obtain ⟨hlabel, hleft, hright⟩ := slices_of_shortestLeft isPart_of_barRest? hfound
    simp only [hlabel, hleft, hright]
    rfl

theorem innerLabelLink?_eq (s : Text) :
    innerLabelLink? s = some (Swimlane.innerLabelLink? (mask s)) := by
  rw [innerLabelLink?, Swimlane.innerLabelLink?]
  cases hinner : innerLink? (mask s) with
  | none => rfl
  | some found =>
    obtain ⟨left, label, right⟩ := found
    obtain ⟨hlabel, hleft, hright⟩ :=
      slices_of_shortestLeft isPart_of_innerRest? (shortestLeft_of_innerLink? hinner)
    simp only [hlabel, hleft, hright]
    rfl

theorem plainLink?_eq (s : Text) : plainLink? s = some (Swimlane.plainLink? (mask s)) := by
  rw [plainLink?, Swimlane.plainLink?]
  cases hfound : shortestLeft plainRest? [] (mask s) with
  | none => rfl
  | some found =>
    obtain ⟨left, right⟩ := found
    obtain ⟨rest, hleft, hplain⟩ := isPart_of_shortestLeft hfound
    obtain ⟨blanks, hrest, -⟩ := dropBlank_suffix rest
    have hmask : mask s = (left ++ blanks) ++ dropBlank rest := by
      rw [List.append_assoc, ← hrest]
      exact hleft.mask_eq
    obtain ⟨gap, hright⟩ := isPart_of_sideAfter? findsSigns_arrow? hmask hplain
    simp only [leftSide_eq hleft, rightSide_eq hright]
    rfl

theorem link?_eq (s : Text) : link? s = some (Swimlane.link? s) := by
  rw [link?, barLink?_eq, innerLabelLink?_eq, plainLink?_eq, Swimlane.link?]
  cases Swimlane.barLink? (mask s) with
  | some link => rfl
  | none =>
    cases Swimlane.innerLabelLink? (mask s) with
    | some link => rfl
    | none => rfl

end Link

/-! ## Pieces -/

theorem piecesFrom_eq {separator : Char} (hseparator : separator ≠ ' ') {s : Text}
    {front done cells : List Cell} (hmask : mask s = front ++ (done.reverse ++ cells))
    (hbegins : BeginsCharacter (done.reverse ++ cells)) :
    piecesFrom separator s (shownSize front) (shownSize (front ++ done.reverse))
      (shownText cells) = some (splitOpen.go separator done cells) := by
  induction cells generalizing front done with
  | nil =>
    have hslice := IsPart.slice?_eq ⟨hmask, hbegins, beginsCharacter_nil⟩
    rw [List.append_nil] at hmask
    rw [← shownSize_append, ← hmask, shownSize_mask] at hslice
    simp only [shownText, List.map_nil, piecesFrom, hslice, splitOpen.go]
    rfl
  | cons c rest ih =>
    have hcells : mask s = (front ++ done.reverse) ++ c :: rest := by
      rw [hmask, List.append_assoc]
    have hnext : shownSize (front ++ done.reverse) + c.shown.utf8Size =
        shownSize (front ++ (c :: done).reverse) := by
      rw [List.reverse_cons, ← List.append_assoc, shownSize_append _ [c]]
      exact congrArg (_ + ·) (Nat.zero_add _).symm
    simp only [shownText, List.map_cons, piecesFrom, splitOpen.go, hnext]
    by_cases hc : c.shown = separator
    · have hmem : c ∈ mask s := hcells ▸ List.mem_append_right _ List.mem_cons_self
      have hopen : c = openCell c.shown :=
        (eq_openCell_of_mem_maskFrom c hmem).resolve_left (hc ▸ hseparator)
      have hslice := IsPart.slice?_eq ⟨hmask, hbegins, beginsCharacter_cons hopen rest⟩
      rw [← shownSize_append] at hslice
      have hmore := @ih (front ++ (c :: done).reverse) [] (by rw [hcells]; simp)
        (beginsCharacter_after hcells hopen)
      rw [List.reverse_nil, List.append_nil, shownText] at hmore
      rw [if_pos hc, if_pos hc, hslice, hmore]
      rfl
    · rw [if_neg hc, if_neg hc]
      exact ih (by rw [hcells]; simp) (by simpa using hbegins)

theorem splitOpen_eq {separator : Char} (hseparator : separator ≠ ' ') (s : Text) :
    splitOpen separator s = some (Swimlane.splitOpen separator s) := by
  have hpieces := @piecesFrom_eq separator hseparator s [] [] (mask s) rfl
    (isWhole_mask s).beginsCharacter
  have hsize : shownSize [] = 0 := rfl
  rw [List.reverse_nil, List.append_nil, hsize] at hpieces
  rw [splitOpen, Swimlane.splitOpen, hpieces]
  rfl

/-- A blank would also be found inside a hidden character. -/
example : splitOpen ' ' "(é)".toList = none := by decide

/-! ## Chains -/

theorem leadingBars?_eq (s : Text) : leadingBars? s = some (Swimlane.leadingBars? s) := by
  unfold leadingBars?
  split
  · next rest =>
    obtain ⟨label, bars, hspan⟩ : ∃ label bars, rest.span (· ≠ '|') = (label, bars) := ⟨_, _, rfl⟩
    cases bars with
    | nil => simp only [Swimlane.leadingBars?, hspan]
    | cons bar after =>
      obtain ⟨rfl, hbar⟩ := eq_of_span hspan
      obtain rfl : bar = '|' := by simpa using hbar
      have hs : '|' :: (label ++ '|' :: after) = ('|' :: label ++ ['|']) ++ after := by simp
      have hsize : byteCount label + 2 = byteCount ('|' :: label ++ ['|']) := by
        have hbar : ('|' : Char).utf8Size = 1 := rfl
        simp only [List.cons_append, byteCount_append, byteCount_cons, byteCount_nil, hbar]
        omega
      have hlabel : slice? 0 (byteCount label + 2) ('|' :: (label ++ '|' :: after)) =
          some ('|' :: label ++ ['|']) := by
        rw [hs, hsize, slice?_start]
      have hafter : slice? (byteCount label + 2) (byteCount ('|' :: (label ++ '|' :: after)))
          ('|' :: (label ++ '|' :: after)) = some after := by
        rw [hs, hsize, slice?_end]
      simp only [Swimlane.leadingBars?, hspan, hlabel, hafter]
      rfl
  · next hno =>
    unfold Swimlane.leadingBars?
    split
    · next rest => exact absurd rfl (hno rest)
    · rfl

theorem takeLabel_eq (x : Segment) : takeLabel x = some x.takeLabel := by
  rw [takeLabel, leadingBars?_eq, Segment.takeLabel, Option.bind_eq_bind, Option.bind_some]
  cases Swimlane.leadingBars? x.after <;> rfl

/-- A character begins where an arrow begins, and where it ends. -/
theorem beginsCharacter_of_arrow? {s : Text} {before arrow rest : List Cell}
    (h : mask s = before ++ (arrow ++ rest)) (harrow : arrow? (arrow ++ rest) = some arrow) :
    BeginsCharacter (arrow ++ rest) ∧ BeginsCharacter rest := by
  obtain ⟨hne, hsigns⟩ := isArrowSign_of_mem_arrow harrow
  constructor
  · obtain ⟨cell, more, rfl⟩ := List.exists_cons_of_ne_nil hne
    have hsign := hsigns cell List.mem_cons_self
    exact beginsCharacter_of_shown h (isBlank_of_isArrowSign hsign)
  · obtain ⟨front, cell, rfl⟩ := (List.eq_nil_or_concat' arrow).resolve_left hne
    have hsign := hsigns cell (List.mem_append_right front (List.mem_singleton_self cell))
    have hmask : mask s = (before ++ front) ++ cell :: rest := by
      rw [h]
      simp
    exact beginsCharacter_after hmask (eq_openCell_of_shown hmask (isBlank_of_isArrowSign hsign))

theorem segmentsFrom_eq {s : Text} {done cells last : List Cell}
    {parts : List (List Cell × List Cell)} (hmask : mask s = done ++ cells)
    (hcut : cutArrows 0 [] cells = (parts, last)) :
    segmentsFrom s (shownSize done) parts = some (segmentsOf parts last) := by
  induction parts generalizing done cells with
  | nil => rfl
  | cons part more ih =>
    obtain ⟨before, arrow⟩ := part
    obtain ⟨passed, rest, hpassed, rfl, harrow, -, hmore⟩ := exists_of_cutArrows hcut
    obtain rfl : before = passed := hpassed
    have hbefore : mask s = (done ++ before) ++ (arrow ++ rest) := by
      rw [hmask, List.append_assoc]
    have hdone : mask s = (done ++ before ++ arrow) ++ rest := by
      rw [hbefore]
      simp
    obtain ⟨hbegins, hrest⟩ := beginsCharacter_of_arrow? hbefore harrow
    have hslice := IsPart.slice?_eq ⟨hbefore, hbegins, hrest⟩
    rw [← shownSize_append] at hslice
    have hsegments := ih hdone hmore
    cases more with
    | nil =>
      obtain rfl : last = rest := eq_of_cutArrows_nil hmore
      have hpart : IsPart s (done ++ before ++ arrow) last [] :=
        ⟨by rw [hdone, List.append_nil], by rwa [List.append_nil], beginsCharacter_nil⟩
      have hlast := hpart.slice?_eq
      rw [← shownSize_append, ← hdone, shownSize_mask] at hlast
      simp only [segmentsFrom, ← shownSize_append, hslice, hlast]
      rfl
    | cons next more =>
      obtain ⟨between, following⟩ := next
      obtain ⟨passed, tail, hpassed, rfl, hfollowing, -, -⟩ := exists_of_cutArrows hmore
      obtain rfl : between = passed := hpassed
      have hnext : mask s = (done ++ before ++ arrow ++ between) ++ (following ++ tail) := by
        rw [hdone]
        simp
      have hafter := IsPart.slice?_eq ⟨hdone, hrest, (beginsCharacter_of_arrow? hnext hfollowing).1⟩
      rw [← shownSize_append] at hafter
      rw [segmentsFrom]
      simp only [← shownSize_append, hslice, hafter, hsegments]
      rfl

theorem chain?_eq (s : Text) : chain? s = some (Swimlane.chain? s) := by
  have hlabels (xs : List Segment) : xs.mapM takeLabel = some (xs.map Segment.takeLabel) := by
    rw [funext takeLabel_eq]
    exact List.mapM_pure
  rw [chain?, Swimlane.chain?]
  split
  · rfl
  · obtain ⟨parts, last, hcut⟩ : ∃ parts last, cutArrows 0 [] (mask s) = (parts, last) :=
      ⟨_, _, rfl⟩
    rw [hcut]
    rcases parts with - | ⟨⟨first, arrow⟩, - | ⟨second, more⟩⟩
    · rfl
    · rfl
    · obtain ⟨passed, rest, hpassed, hmask, harrow, -, -⟩ := exists_of_cutArrows hcut
      obtain rfl : first = passed := hpassed
      have hbegins : BeginsCharacter (first ++ (arrow ++ rest)) :=
        hmask ▸ (isWhole_mask s).beginsCharacter
      have hpart : IsPart s [] first (arrow ++ rest) :=
        ⟨hmask, hbegins, (beginsCharacter_of_arrow? hmask harrow).1⟩
      have hfirst := hpart.slice?_eq
      have hsegments := @segmentsFrom_eq s [] (mask s) last _ rfl hcut
      have hsize : shownSize [] = 0 := rfl
      rw [hsize] at hfirst hsegments
      rw [Nat.zero_add] at hfirst
      simp only [hsegments, hfirst, hlabels, Option.bind_eq_bind, Option.bind_some]
      rfl

/-! ## Statements and texts -/

/-- Does a reader ask for no slice that does not exist, and give the result? -/
def Gives {ε α : Type} (x : ExceptT ε Option α) (result : Except ε α) : Prop :=
  x.run = some result

section Gives

variable {ε α β : Type}

theorem gives_pure (a : α) : Gives (pure a : ExceptT ε Option α) (.ok a) := rfl

theorem gives_throw (e : ε) : Gives (throw e : ExceptT ε Option α) (.error e) := rfl

theorem gives_ofExcept (x : Except ε α) : Gives (ofExcept x) x := by
  cases x <;> rfl

/-- A slice that exists is read, and reading goes on. -/
theorem lift_bind (a : α) (f : α → ExceptT ε Option β) :
    (liftM (some a) : ExceptT ε Option α) >>= f = f a := rfl

theorem Gives.bind {x : ExceptT ε Option α} {a : Except ε α} (hx : Gives x a)
    {f : α → ExceptT ε Option β} {g : α → Except ε β} (hf : ∀ v, Gives (f v) (g v)) :
    Gives (x >>= f) (a >>= g) := by
  rw [Gives, ExceptT.run_bind, hx]
  cases a with
  | error e => rfl
  | ok v => exact hf v

theorem Gives.map {x : ExceptT ε Option α} {a : Except ε α} (hx : Gives x a) (f : α → β) :
    Gives (x >>= fun v => pure (f v)) (a.map f) := by
  have hmap : a.map f = a >>= fun v => .ok (f v) := by cases a <;> rfl
  rw [hmap]
  exact hx.bind fun v => gives_pure (f v)

theorem Gives.foldlM {f : β → α → ExceptT ε Option β} {g : β → α → Except ε β}
    (hf : ∀ b a, Gives (f b a) (g b a)) (xs : List α) (b : β) :
    Gives (xs.foldlM f b) (xs.foldlM g b) := by
  induction xs generalizing b with
  | nil => exact gives_pure b
  | cons a xs ih =>
    rw [List.foldlM_cons, List.foldlM_cons]
    exact (hf b a).bind fun b => ih b

end Gives

theorem gives_openGroup (d : Draft) (line : Nat) (header : Text) :
    Gives (openGroup d line header) (d.openGroup line header) := by
  rw [openGroup, Draft.openGroup]
  split
  · exact gives_throw _
  · rw [readGroupHeader_eq]
    exact gives_pure _

theorem gives_readRef (s : Text) : Gives (readRef s) (Draft.readRef s) := by
  rw [readRef, Draft.readRef]
  cases withoutClass s with
  | nil => exact gives_throw _
  | cons c text =>
    dsimp only
    split
    · rw [nodeRef_eq]
      exact gives_pure _
    · exact gives_throw _

theorem gives_referSide (d : Draft) (parts : List Text) :
    Gives (referSide d parts) (d.referSide parts) := by
  induction parts generalizing d with
  | nil => exact gives_pure _
  | cons part rest ih =>
    rw [referSide, Draft.referSide]
    refine (gives_readRef part).bind fun r => (gives_ofExcept _).bind fun found => ?_
    exact (ih found.2).bind fun _ => gives_pure _

theorem gives_addLink (d : Draft) (link : Link) : Gives (addLink d link) (d.addLink link) := by
  rw [addLink, Draft.addLink, splitOpen_eq (by decide), lift_bind]
  refine (gives_referSide d _).bind fun sources => ?_
  dsimp only
  rw [splitOpen_eq (by decide), lift_bind]
  exact (gives_referSide _ _).bind fun _ => gives_pure _

theorem gives_addChain (d : Draft) (statement : Text) (parts : List Text) :
    Gives (addChain d statement parts) (d.addChain statement parts) := by
  induction parts generalizing d with
  | nil => exact gives_pure d
  | cons part rest ih =>
    rw [addChain, Draft.addChain, link?_eq, lift_bind]
    cases Swimlane.link? part with
    | none => exact gives_throw _
    | some link => exact (gives_addLink d link).bind ih

theorem gives_addEdges (d : Draft) (statement : Text) :
    Gives (addEdges d statement) (d.addEdges statement) := by
  rw [addEdges, Draft.addEdges]
  split
  · exact gives_pure _
  · rw [chain?_eq, lift_bind]
    cases Swimlane.chain? statement with
    | some parts => exact (gives_addChain d statement parts).map some
    | none =>
      dsimp only
      rw [link?_eq, lift_bind]
      cases Swimlane.link? statement with
      | some link => exact (gives_addLink d link).map some
      | none =>
        dsimp only
        split
        · exact gives_throw _
        · exact gives_pure _

theorem gives_readStatement (d : Draft) (line : Nat) (statement : Text) :
    Gives (readStatement d line statement) (d.readStatement line statement) := by
  rw [readStatement, Draft.readStatement]
  split
  · cases d.openGroups with
    | nil => exact gives_throw _
    | cons => exact gives_pure _
  · cases Draft.subgraphHeader? statement with
    | some header => exact gives_openGroup d line header
    | none =>
      cases Draft.directionLine? statement with
      | some direction => exact gives_pure _
      | none =>
        dsimp only
        split
        · exact gives_pure d
        · refine (gives_addEdges d statement).bind fun added => ?_
          cases added with
          | some d => exact gives_pure d
          | none =>
            exact (gives_readRef statement).bind fun r => (gives_ofExcept _).bind fun _ =>
              gives_pure _

theorem gives_read (d : Draft) (s : Statement) : Gives (read d s) (d.read s) := by
  let place : SyntaxFault → SyntaxError := fun fault => ⟨s.line, fault⟩
  have hstatement : Gives (readStatement d s.line s.text) (d.readStatement s.line s.text) :=
    gives_readStatement d s.line s.text
  exact congrArg (Option.map (Except.mapError place)) hstatement

theorem gives_draftOf (ss : List Statement) : Gives (draftOf ss) (Swimlane.draftOf ss) := by
  cases ss with
  | nil => exact gives_throw _
  | cons header rest => exact (gives_ofExcept _).bind fun d => Gives.foldlM gives_read rest d

/-- Reading a flowchart by slices asks for none that does not exist. -/
theorem gives_ofText (s : Text) : Gives (ofText s) (Flowchart.ofText s) := by
  rw [ofText, Flowchart.ofText]
  exact (gives_draftOf _).bind fun d => (gives_ofExcept _).bind fun _ => gives_pure _

end Sliced

/-! ## Offsets -/

/-- Are the offsets in what a mask shows offsets of the characters themselves, also where pieces,
chains and links are cut out, and is nothing else asked for in reading a text? -/
structure CutsAtCharacters (s : Text) : Prop where
  /-- The mask shows as many bytes as there are. -/
  size_eq : byteCount (shownText (mask s)) = byteCount s
  /-- A character is shown at its own offset, as itself or as blanks. -/
  shows : ∀ before c after, s = before ++ c :: after →
    slice? (byteCount before) (byteCount before + c.utf8Size) (shownText (mask s)) =
      some (if isShown (before.foldl openAfter (0, false)) c then [c]
        else List.replicate c.utf8Size ' ')
  splitOpen_eq : ∀ separator, separator ≠ ' ' →
    Sliced.splitOpen separator s = some (splitOpen separator s)
  chain?_eq : Sliced.chain? s = some (chain? s)
  link?_eq : Sliced.link? s = some (link? s)
  ofText_eq : (Sliced.ofText s).run = some (Flowchart.ofText s)

/-- Every slice that is asked for in reading a text exists, and so do those of any line. -/
theorem cutsAtCharacters (s : Text) : CutsAtCharacters s where
  size_eq := shownSize_mask s
  shows before c after hs := hs ▸ slice?_shownText_mask before c after
  splitOpen_eq _ hseparator := Sliced.splitOpen_eq hseparator s
  chain?_eq := Sliced.chain?_eq s
  link?_eq := Sliced.link?_eq s
  ofText_eq := Sliced.gives_ofText s

end Swimlane
