import Mathlib.Data.PFun
import Swimlane.Flowchart.Draft
import Swimlane.Proofs.Flowchart.Graph
import Swimlane.Proofs.Text.Fresh

/-!
# Searches for a free name

`freshName` looks at no more candidates than there can be names in use.  Here is the search that
it stands for, the loop without a bound: try the name, then its numbered forms one after another,
until one passes a test.  Nothing in the loop decreases, so it is a partial function, undefined
where the rounds go on forever.  It ends all the same, because not all of the numbered forms can
be in use, and it ends at the name that `freshName` gives (`searches_end_at_first_free`).

Names are sought in three places, which differ in what the test is and in when the name is
recorded: for the groups and nodes of a draft (`Draft.findName`), for the boundaries and badges of
a drawing (`reserveName`), and for the edges that are kept of a drawing (`insertName`).
-/

namespace Swimlane

/-! ## The loop -/

/-- A search under way. -/
structure Search (σ : Type) where
  /-- What is recorded of the names in use. -/
  record : σ
  candidate : Text
  /-- The number of the next candidate. -/
  next : Nat

section Loop

variable {σ : Type}

/-- One round of a search.  The test of a candidate says whether it will do, and may change the
record; if the candidate will not do, the next one is made. -/
def Search.round (test : σ → Text → Bool × σ) (base : Text) (x : Search σ) :
    (Text × σ) ⊕ Search σ :=
  match test x.record x.candidate with
  | (true, record) => .inl (x.candidate, record)
  | (false, record) => .inr ⟨record, numbered base x.next, x.next + 1⟩

/-- The rounds until one ends the search. -/
def Search.run (test : σ → Text → Bool × σ) (base : Text) : Search σ →. Text × σ :=
  PFun.fix fun x => Part.some (x.round test base)

/-- The search for a name; the first candidate is the name itself, the next has the number 2. -/
def search (test : σ → Text → Bool × σ) (base : Text) (record : σ) : Part (Text × σ) :=
  Search.run test base ⟨record, base, 2⟩

/-- The test lets through the names that are not in use, and the others leave the record as it
is. -/
structure FailsOn (used : List Text) (test : σ → Text → Bool × σ) (record : σ) : Prop where
  fails : ∀ name ∈ used, test record name = (false, record)
  passes : ∀ name ∉ used, (test record name).1 = true

namespace FailsOn

variable {used : List Text} {test : σ → Text → Bool × σ} {record : σ} {candidate : Text}

/-- A candidate that is not in use ends the search. -/
theorem run_of_not_mem (h : FailsOn used test record) (hfree : candidate ∉ used) (base : Text)
    (k : Nat) : Search.run test base ⟨record, candidate, k⟩ =
      Part.some (candidate, (test record candidate).2) := by
  have hround : Search.round test base ⟨record, candidate, k⟩ =
      .inl (candidate, (test record candidate).2) := by
    have hpasses := h.passes candidate hfree
    rw [Search.round]
    split
    · next htest => rw [htest]
    · next htest =>
      rw [htest] at hpasses
      cases hpasses
  rw [Part.eq_some_iff]
  exact PFun.fix_stop (Part.mem_some_iff.2 hround.symm)

/-- A candidate that is in use is followed by the next, and the record stays as it is. -/
theorem run_of_mem (h : FailsOn used test record) (hused : candidate ∈ used) (base : Text)
    (k : Nat) : Search.run test base ⟨record, candidate, k⟩ =
      Search.run test base ⟨record, numbered base k, k + 1⟩ := by
  have hround : Search.round test base ⟨record, candidate, k⟩ =
      .inr ⟨record, numbered base k, k + 1⟩ := by
    rw [Search.round, h.fails candidate hused]
  exact PFun.fix_fwd_eq (Part.mem_some_iff.2 hround.symm)

/-- Through numbers with which the name is in use the search comes to one with which it is free. -/
theorem run_numbered (h : FailsOn used test record) {base : Text} {k n : Nat} (hle : k ≤ n)
    (hused : ∀ j, k ≤ j → j < n → numbered base j ∈ used) (hfree : numbered base n ∉ used) :
    Search.run test base ⟨record, numbered base k, k + 1⟩ =
      Part.some (numbered base n, (test record (numbered base n)).2) := by
  obtain ⟨d, rfl⟩ := Nat.exists_eq_add_of_le hle
  -- The induction is on how far ahead the number is with which the name is free.
  induction d generalizing k with
  | zero => exact h.run_of_not_mem hfree base (k + 1)
  | succ d ih =>
    have hshift : k + (d + 1) = k + 1 + d := by omega
    rw [h.run_of_mem (hused k le_rfl (by omega)), hshift]
    rw [hshift] at hused hfree
    exact ih (by omega) (fun j hj hlt => hused j (by omega) hlt) hfree

/-- The search ends at the fresh name. -/
theorem search_eq (h : FailsOn used test record) (base : Text) :
    search test base record =
      Part.some (freshName used base, (test record (freshName used base)).2) := by
  rw [search]
  by_cases hbase : base ∈ used
  · obtain ⟨k, ⟨⟨htwo, hfree⟩, hleast⟩, hname⟩ := freshName_eq_least hbase
    have hused : ∀ j, 2 ≤ j → j < k → numbered base j ∈ used := by
      intro j hj hlt
      by_contra hnot
      exact absurd (hleast ⟨hj, hnot⟩) (not_le.2 hlt)
    rw [h.run_of_mem hbase, h.run_numbered htwo hused hfree, hname]
  · rw [h.run_of_not_mem hbase, freshName_of_not_mem hbase]

end FailsOn

end Loop

/-! ## The three searches -/

/-- The search for a name that no node and no group of a draft has. -/
def Draft.findName (d : Draft) (base : Text) : Part Text :=
  let test (_ : Unit) (name : Text) := (!(d.graph.hasNode name || d.graph.hasGroup name), ())
  (search test base ()).map (·.1)

/-- The search for a name that is not in use; then it is recorded. -/
def reserveName (used : List Text) (base : Text) : Part (Text × List Text) :=
  let test (used : List Text) (name : Text) := (!used.contains name, used)
  (search test base used).map fun (name, used) => (name, name :: used)

/-- Records a name, and says whether it is new. -/
def insertNew (used : List Text) (name : Text) : Bool × List Text :=
  if used.contains name then (false, used) else (true, name :: used)

/-- The search for a name that is new when it is recorded. -/
def insertName (used : List Text) (base : Text) : Part (Text × List Text) :=
  search insertNew base used

theorem Draft.findName_eq (d : Draft) (base : Text) :
    d.findName base = Part.some (d.newName base) := by
  have htest : FailsOn d.graph.ids
      (fun (_ : Unit) name => (!(d.graph.hasNode name || d.graph.hasGroup name), ())) () := by
    have hids (name : Text) : (d.graph.hasNode name || d.graph.hasGroup name) = true ↔
        name ∈ d.graph.ids := by
      rw [Bool.or_eq_true, Graph.hasNode_iff, Graph.hasGroup_iff, Graph.ids, List.mem_append]
    refine ⟨fun name hname => ?_, fun name hname => ?_⟩
    · rw [(hids name).2 hname]
      rfl
    · rw [← hids, Bool.not_eq_true] at hname
      rw [hname]
      rfl
  rw [findName, htest.search_eq, Part.map_some]
  rfl

theorem reserveName_eq (used : List Text) (base : Text) :
    reserveName used base = Part.some (freshName used base, freshName used base :: used) := by
  have htest : FailsOn used (fun (used : List Text) name => (!used.contains name, used)) used :=
    ⟨fun name hname => by simp [hname], fun name hname => by simp [hname]⟩
  rw [reserveName, htest.search_eq, Part.map_some]

theorem insertName_eq (used : List Text) (base : Text) :
    insertName used base = Part.some (freshName used base, freshName used base :: used) := by
  have htest : FailsOn used insertNew used :=
    ⟨fun name hname => by simp [insertNew, hname], fun name hname => by simp [insertNew, hname]⟩
  have hfree := freshName_not_mem used base
  rw [insertName, htest.search_eq, insertNew, if_neg (by simpa using hfree)]

/-! ## What they end at -/

/-- The name is the one sought if this is free, and otherwise its numbered form with the least
number from 2 on with which it is free. -/
def IsFirstFree (used : List Text) (base name : Text) : Prop :=
  base ∉ used ∧ name = base ∨
    base ∈ used ∧ ∃ k, IsLeast {k | 2 ≤ k ∧ numbered base k ∉ used} k ∧ name = numbered base k

theorem isFirstFree_freshName (used : List Text) (base : Text) :
    IsFirstFree used base (freshName used base) := by
  by_cases hbase : base ∈ used
  · exact Or.inr ⟨hbase, freshName_eq_least hbase⟩
  · exact Or.inl ⟨hbase, freshName_of_not_mem hbase⟩

/-- Every search ends, at the first free form of the name, and what is recorded afterwards is what
was recorded before and this name. -/
theorem searches_end_at_first_free (base : Text) :
    (∀ d : Draft, d.findName base = Part.some (d.newName base) ∧
      IsFirstFree d.graph.ids base (d.newName base)) ∧
    ∀ used : List Text, IsFirstFree used base (freshName used base) ∧
      reserveName used base = Part.some (freshName used base, freshName used base :: used) ∧
      insertName used base = Part.some (freshName used base, freshName used base :: used) :=
  ⟨fun d => ⟨d.findName_eq base, isFirstFree_freshName d.graph.ids base⟩,
    fun used => ⟨isFirstFree_freshName used base, reserveName_eq used base,
      insertName_eq used base⟩⟩

/-- A gap in the numbers is filled. -/
example : freshName ["x".toList, "x_2".toList, "x_4".toList] "x".toList = "x_3".toList := by
  decide

end Swimlane
