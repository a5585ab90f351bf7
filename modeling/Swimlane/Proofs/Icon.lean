import Mathlib.Algebra.GroupWithZero.Nat
import Swimlane.Icon
import Swimlane.Proofs.Lookup
import Swimlane.Proofs.Passes
import Swimlane.Proofs.Text.Words

/-!
# The icon that keywords speak for

Keywords add to the scores of their icons, one after another.  What comes of this is the icon of
the greatest sum, and of several the one that comes first in the table (`keywordIcon?_eq_some_iff`):
the icons of the table stand in blocks, so that the first keyword that counts for one icon stands
before that for another exactly if the first keyword at all does.  In which order the scores are
looked through makes no difference (`greatest?_counts`).
-/

namespace Swimlane

/-! ## Adding up scores -/

section Tally

variable {score : Text → Nat} {entries : List (Text × Text)} {scores : List (Text × Nat)}
  {icon name : Text} {n : Nat}

theorem lookup_addScore (icon : Text) (n : Nat) (scores : List (Text × Nat)) (name : Text) :
    (addScore icon n scores).lookup name =
      if name = icon then some ((scores.lookup icon).getD 0 + n) else scores.lookup name := by
  induction scores with
  | nil =>
    by_cases h : name = icon
    · simp [addScore, h]
    · rw [addScore, lookup_cons_of_ne h, if_neg h]
  | cons entry rest ih =>
    obtain ⟨first, m⟩ := entry
    rw [addScore]
    by_cases hfirst : first = icon
    · subst hfirst
      by_cases h : name = first
      · simp [h]
      · rw [if_pos rfl, lookup_cons_of_ne h, lookup_cons_of_ne h, if_neg h]
    · rw [if_neg hfirst, lookup_cons_of_ne (Ne.symm hfirst)]
      by_cases h : name = first
      · simp [h, hfirst]
      · rw [lookup_cons_of_ne h, lookup_cons_of_ne h, ih]

theorem map_fst_addScore (icon : Text) (n : Nat) (scores : List (Text × Nat)) :
    (addScore icon n scores).map Prod.fst =
      if icon ∈ scores.map Prod.fst then scores.map Prod.fst
      else scores.map Prod.fst ++ [icon] := by
  induction scores with
  | nil => rfl
  | cons entry rest ih =>
    obtain ⟨first, m⟩ := entry
    rw [addScore]
    by_cases hfirst : first = icon
    · simp [hfirst]
    · rw [if_neg hfirst, List.map_cons, ih]
      by_cases h : icon ∈ rest.map Prod.fst <;> simp [h, Ne.symm hfirst]

/-- The scores of the icons for which an entry of a table counts, in the order in which they first
do. -/
def tally (score : Text → Nat) (entries : List (Text × Text)) : List (Text × Nat) :=
  entries.foldl
    (fun scores entry =>
      match score entry.1 with
      | 0 => scores
      | n => addScore entry.2 n scores) []

/-- What the entries of a table count for an icon in sum. -/
def scoreFor (score : Text → Nat) (icon : Text) (entries : List (Text × Text)) : Nat :=
  ((entries.filter (·.2 = icon)).map (score ·.1)).sum

theorem tally_concat (score : Text → Nat) (entries : List (Text × Text)) (entry : Text × Text) :
    tally score (entries ++ [entry]) =
      if score entry.1 = 0 then tally score entries
      else addScore entry.2 (score entry.1) (tally score entries) := by
  rw [tally, List.foldl_concat, ← tally]
  split
  · next h => rw [if_pos h]
  · next h => rw [if_neg h]

theorem scoreFor_concat (score : Text → Nat) (icon : Text) (entries : List (Text × Text))
    (entry : Text × Text) :
    scoreFor score icon (entries ++ [entry]) =
      scoreFor score icon entries + if entry.2 = icon then score entry.1 else 0 := by
  by_cases h : entry.2 = icon <;> simp [scoreFor, List.filter_append, h]

/-- The score of an icon is the sum for it, if that is not zero. -/
theorem lookup_tally (score : Text → Nat) (entries : List (Text × Text)) (icon : Text) :
    (tally score entries).lookup icon =
      if scoreFor score icon entries = 0 then none else some (scoreFor score icon entries) := by
  induction entries using List.reverseRecOn with
  | nil => rfl
  | append_singleton entries entry ih =>
    rw [tally_concat, scoreFor_concat]
    by_cases hscore : score entry.1 = 0
    · simp [hscore, ih]
    · rw [if_neg hscore, lookup_addScore]
      by_cases hicon : icon = entry.2
      · subst hicon
        rw [ih]
        by_cases hsum : scoreFor score entry.2 entries = 0
        · simp [hsum, hscore]
        · simp [hsum]
      · simp [ih, hicon, Ne.symm hicon]

/-- An icon has one score. -/
theorem nodup_tally (score : Text → Nat) (entries : List (Text × Text)) :
    ((tally score entries).map Prod.fst).Nodup := by
  induction entries using List.reverseRecOn with
  | nil => exact List.nodup_nil
  | append_singleton entries entry ih =>
    rw [tally_concat]
    split
    · exact ih
    · rw [map_fst_addScore]
      split
      · exact ih
      · next hnew => exact nodup_append_singleton ih hnew

theorem mem_tally_iff :
    (icon, n) ∈ tally score entries ↔ scoreFor score icon entries = n ∧ 0 < n := by
  have hlookup : (icon, n) ∈ tally score entries ↔ (tally score entries).lookup icon = some n :=
    ⟨lookup_of_mem (nodup_tally score entries), mem_of_lookup⟩
  rw [hlookup, lookup_tally]
  by_cases hsum : scoreFor score icon entries = 0
  · simp only [hsum, if_pos]
    constructor
    · intro h
      cases h
    · intro h
      omega
  · rw [if_neg hsum, Option.some.injEq]
    constructor
    · intro h
      omega
    · exact And.left

/-- An icon has a score if an entry counts for it. -/
theorem scoreFor_pos_iff : 0 < scoreFor score icon entries ↔
    ∃ entry ∈ entries, entry.2 = icon ∧ 0 < score entry.1 := by
  induction entries using List.reverseRecOn with
  | nil => simp [scoreFor]
  | append_singleton entries entry ih =>
    simp only [scoreFor_concat, Nat.add_pos_iff_pos_or_pos, ih, List.mem_append,
      List.mem_singleton, or_and_right, exists_or, exists_eq_left]
    by_cases h : entry.2 = icon <;> simp [h]

/-- If the icons of a table come after each other in some order, so do those that have scores. -/
theorem pairwise_tally {R : Text → Text → Prop}
    (h : entries.Pairwise fun a b => a.2 = b.2 ∨ R a.2 b.2) :
    (tally score entries).Pairwise fun a b => R a.1 b.1 := by
  suffices hnames : ((tally score entries).map Prod.fst).Pairwise R from List.pairwise_map.1 hnames
  induction entries using List.reverseRecOn with
  | nil => exact List.Pairwise.nil
  | append_singleton entries entry ih =>
    obtain ⟨hentries, -, hlast⟩ := List.pairwise_append.1 h
    rw [tally_concat]
    split
    · exact ih hentries
    · rw [map_fst_addScore]
      split
      · exact ih hentries
      · next hnew =>
        refine List.pairwise_append.2 ⟨ih hentries, List.pairwise_singleton _ _, ?_⟩
        intro icon hicon last hlastmem
        obtain rfl := List.mem_singleton.1 hlastmem
        obtain ⟨⟨name, n⟩, hmem, rfl⟩ := List.mem_map.1 hicon
        obtain ⟨hsum, hn⟩ := mem_tally_iff.1 hmem
        obtain ⟨earlier, hearlier, rfl, -⟩ := scoreFor_pos_iff.1 (hsum ▸ hn)
        refine (hlast earlier hearlier entry List.mem_cons_self).resolve_left fun heq => ?_
        exact hnew (heq ▸ hicon)

end Tally

/-! ## The greatest score -/

theorem best?_eq_none_iff {scores : List (Text × Nat)} : best? scores = none ↔ scores = [] := by
  cases scores with
  | nil => exact ⟨fun _ => rfl, fun _ => rfl⟩
  | cons first rest =>
    rw [best?]
    split <;> simp

/-- The best entry is the first of the greatest score. -/
theorem exists_of_best? {scores : List (Text × Nat)} {best : Text × Nat}
    (h : best? scores = some best) : ∃ before after, scores = before ++ best :: after ∧
      (∀ entry ∈ before, entry.2 < best.2) ∧ ∀ entry ∈ after, entry.2 ≤ best.2 := by
  induction scores generalizing best with
  | nil => cases h
  | cons first rest ih =>
    rw [best?] at h
    split at h
    · next other hother =>
      obtain ⟨before, after, rfl, hbefore, hafter⟩ := ih hother
      by_cases hlt : first.2 < other.2
      · rw [if_pos hlt, Option.some.injEq] at h
        subst h
        exact ⟨first :: before, after, rfl, List.forall_mem_cons.2 ⟨hlt, hbefore⟩, hafter⟩
      · rw [if_neg hlt, Option.some.injEq] at h
        subst h
        refine ⟨[], before ++ other :: after, rfl, List.forall_mem_nil _, fun entry hentry => ?_⟩
        rw [List.mem_append, List.mem_cons] at hentry
        rcases hentry with hentry | rfl | hentry
        · have := hbefore entry hentry
          omega
        · omega
        · have := hafter entry hentry
          omega
    · next hrest =>
      rw [Option.some.injEq] at h
      subst h
      rw [best?_eq_none_iff] at hrest
      subst hrest
      exact ⟨[], [], rfl, List.forall_mem_nil _, List.forall_mem_nil _⟩

/-! ## Keywords -/

/-- What the keywords in a key speak for an icon in sum. -/
def iconScore (key icon : Text) : Nat := scoreFor (keywordScore key) icon iconKeywords

/-- The place of the first keyword of an icon. -/
def iconPlace (icon : Text) : Nat := iconKeywords.findIdx (·.2 = icon)

/-- An icon is better than another if its score is greater, or else if the scores are the same and
its first keyword comes earlier. -/
def IsBetterIcon (key icon other : Text) : Prop :=
  iconScore key other < iconScore key icon ∨
    iconScore key other = iconScore key icon ∧ iconPlace icon < iconPlace other

/-- Some keyword speaks for the icon, and it is better than every other. -/
structure IsBestIcon (key icon : Text) : Prop where
  speaks : 0 < iconScore key icon
  better : ∀ other, other ≠ icon → IsBetterIcon key icon other

theorem IsBestIcon.unique {key icon other : Text} (h : IsBestIcon key icon)
    (hother : IsBestIcon key other) : icon = other := by
  by_contra hne
  rcases h.better other (Ne.symm hne) with hlt | ⟨heq, hplace⟩ <;>
    rcases hother.better icon hne with hlt' | ⟨heq', hplace'⟩ <;> omega

/-- The icons of the keywords stand in blocks. -/
theorem pairwise_iconKeywords :
    iconKeywords.Pairwise fun a b => a.2 = b.2 ∨ iconPlace a.2 < iconPlace b.2 := by
  decide +kernel

/-- A keyword counts if it occurs in the key. -/
theorem keywordScore_pos_iff {key keyword : Text} :
    0 < keywordScore key keyword ↔ keyword <:+: key := by
  rw [keywordScore, ← occursIn_iff]
  by_cases hbegins : (keyWords key).any (startsWith keyword) = true
  · have hoccurs : occursIn keyword key = true := by
      obtain ⟨word, hword, hstart⟩ := List.any_eq_true.1 hbegins
      rw [startsWith, List.isPrefixOf_iff_prefix] at hstart
      exact occursIn_iff.2 (hstart.isInfix.trans (infix_of_mem_runs hword))
    simp [hbegins, hoccurs]
  · by_cases hoccurs : occursIn keyword key = true <;> simp [hbegins, hoccurs]

theorem mem_iconScores_iff {key icon : Text} {n : Nat} :
    (icon, n) ∈ iconScores key ↔ iconScore key icon = n ∧ 0 < n := mem_tally_iff

/-- The best of the scores is the best icon. -/
theorem isBestIcon_of_keywordIcon? {key icon : Text} (h : keywordIcon? key = some icon) :
    IsBestIcon key icon := by
  obtain ⟨⟨best, n⟩, hbest, rfl⟩ := Option.map_eq_some_iff.1 h
  obtain ⟨before, after, hscores, hbefore, hafter⟩ := exists_of_best? hbest
  have hmem : (best, n) ∈ iconScores key := by
    rw [hscores]
    exact List.mem_append_right before List.mem_cons_self
  obtain ⟨hn, hpos⟩ := mem_iconScores_iff.1 hmem
  show IsBestIcon key best
  refine ⟨hn ▸ hpos, fun other hne => ?_⟩
  rw [IsBetterIcon]
  by_cases hother : iconScore key other = 0
  · exact Or.inl (by omega)
  · have hentry := mem_iconScores_iff.2 ⟨rfl, Nat.pos_of_ne_zero hother⟩
    rw [hscores, List.mem_append, List.mem_cons] at hentry
    rcases hentry with hentry | hentry | hentry
    · have hlt := hbefore _ hentry
      simp only at hlt
      omega
    · exact absurd (congrArg Prod.fst hentry) hne
    · -- an icon that is scored later also stands later in the table
      have hle := hafter _ hentry
      have hpairs : (iconScores key).Pairwise fun a b => iconPlace a.1 < iconPlace b.1 :=
        pairwise_tally (R := fun a b => iconPlace a < iconPlace b) pairwise_iconKeywords
      rw [hscores] at hpairs
      have hplace := List.rel_of_pairwise_cons (List.pairwise_append.1 hpairs).2.1 hentry
      simp only at hle hplace
      omega

/-- The keywords speak for an icon if one of them occurs in the key. -/
theorem isSome_keywordIcon?_iff {key : Text} :
    (keywordIcon? key).isSome ↔ ∃ entry ∈ iconKeywords, entry.1 <:+: key := by
  constructor
  · intro h
    obtain ⟨icon, hicon⟩ := Option.isSome_iff_exists.1 h
    have hbest := isBestIcon_of_keywordIcon? hicon
    obtain ⟨entry, hentry, -, hscore⟩ := scoreFor_pos_iff.1 hbest.speaks
    exact ⟨entry, hentry, keywordScore_pos_iff.1 hscore⟩
  · rintro ⟨entry, hentry, hoccurs⟩
    have hspeaks : 0 < iconScore key entry.2 :=
      scoreFor_pos_iff.2 ⟨entry, hentry, rfl, keywordScore_pos_iff.2 hoccurs⟩
    have hmem := mem_iconScores_iff.2 ⟨rfl, hspeaks⟩
    rw [keywordIcon?, Option.isSome_map, Option.isSome_iff_ne_none, Ne, best?_eq_none_iff]
    exact List.ne_nil_of_mem hmem

theorem keywordIcon?_eq_some_iff {key icon : Text} :
    keywordIcon? key = some icon ↔ IsBestIcon key icon := by
  refine ⟨isBestIcon_of_keywordIcon?, fun h => ?_⟩
  obtain ⟨entry, hentry, -, hscore⟩ := scoreFor_pos_iff.1 h.speaks
  have hsome : (keywordIcon? key).isSome :=
    isSome_keywordIcon?_iff.2 ⟨entry, hentry, keywordScore_pos_iff.1 hscore⟩
  obtain ⟨best, hbest⟩ := Option.isSome_iff_exists.1 hsome
  rw [hbest, h.unique (isBestIcon_of_keywordIcon? hbest)]

/-! ## Scores in any order -/

/-- What a table that is kept in no order holds for an icon: its score, and the place of the first
keyword that counted. -/
structure IconCount where
  icon : Text
  score : Nat
  place : Nat

/-- The place of the first keyword in a key that speaks for an icon. -/
def countingPlace (key icon : Text) : Nat :=
  iconKeywords.findIdx fun entry => entry.2 = icon && 0 < keywordScore key entry.1

/-- The table of the scores for a key. -/
def iconCounts (key : Text) : List IconCount :=
  (iconScores key).map fun entry => ⟨entry.1, entry.2, countingPlace key entry.1⟩

/-- Is the score less than the other, or the same and counted later? -/
def IconCount.atMost (a b : IconCount) : Bool :=
  a.score < b.score || (a.score = b.score && b.place ≤ a.place)

theorem IconCount.atMost_iff {a b : IconCount} :
    a.atMost b = true ↔ a.score < b.score ∨ a.score = b.score ∧ b.place ≤ a.place := by
  simp [atMost]

/-- The greatest of some counts, the last of several. -/
def greatest? (counts : List IconCount) : Option IconCount :=
  counts.foldl
    (fun best next =>
      match best with
      | none => some next
      | some best => if best.atMost next then some next else some best) none

/-- The count is one of these, and no other of them is greater. -/
def IsGreatestOf (best : Option IconCount) (counts : List IconCount) : Prop :=
  match best with
  | none => counts = []
  | some best => best ∈ counts ∧ ∀ c ∈ counts, c.atMost best = true

theorem isGreatestOf_greatest? (counts : List IconCount) :
    IsGreatestOf (greatest? counts) counts := by
  have hnil : IsGreatestOf none [] := rfl
  refine foldl_of_seen hnil ?_ counts
  intro best seen next h
  cases best with
  | none =>
    obtain rfl : seen = [] := h
    refine ⟨List.mem_singleton_self next, fun c hc => ?_⟩
    obtain rfl := List.mem_singleton.1 hc
    exact IconCount.atMost_iff.2 (Or.inr ⟨rfl, Nat.le_refl _⟩)
  | some best =>
    obtain ⟨hmem, hgreatest⟩ := h
    by_cases hle : best.atMost next = true
    · simp only [hle, if_true]
      refine ⟨List.mem_append_right seen (List.mem_singleton_self next), fun c hc => ?_⟩
      rcases List.mem_append.1 hc with hc | hc
      · have hbest := IconCount.atMost_iff.1 (hgreatest c hc)
        rw [IconCount.atMost_iff] at hle ⊢
        omega
      · obtain rfl := List.mem_singleton.1 hc
        exact IconCount.atMost_iff.2 (Or.inr ⟨rfl, Nat.le_refl _⟩)
    · simp only [hle]
      refine ⟨List.mem_append_left [next] hmem, fun c hc => ?_⟩
      rcases List.mem_append.1 hc with hc | hc
      · exact hgreatest c hc
      · obtain rfl := List.mem_singleton.1 hc
        rw [IconCount.atMost_iff] at hle ⊢
        omega

theorem mem_iconCounts_iff {key : Text} {c : IconCount} :
    c ∈ iconCounts key ↔
      iconScore key c.icon = c.score ∧ 0 < c.score ∧ c.place = countingPlace key c.icon := by
  obtain ⟨icon, score, place⟩ := c
  rw [← and_assoc, ← mem_iconScores_iff]
  constructor
  · intro h
    obtain ⟨entry, hentry, heq⟩ := List.mem_map.1 h
    cases heq
    exact ⟨hentry, rfl⟩
  · rintro ⟨hentry, hplace⟩
    exact List.mem_map.2 ⟨(icon, score), hentry, congrArg (IconCount.mk icon score) hplace.symm⟩

/-- The first keywords of two icons come in the order of the first ones that count. -/
theorem iconPlace_lt {key icon other : Text} (hne : other ≠ icon) (hicon : 0 < iconScore key icon)
    (hother : 0 < iconScore key other) (h : countingPlace key icon ≤ countingPlace key other) :
    iconPlace icon < iconPlace other := by
  have hfound {icon : Text} (hicon : 0 < iconScore key icon) :
      ∃ hlt : countingPlace key icon < iconKeywords.length,
        (iconKeywords[countingPlace key icon]).2 = icon := by
    obtain ⟨entry, hentry, heq, hscore⟩ := scoreFor_pos_iff.1 hicon
    have hlt : countingPlace key icon < iconKeywords.length :=
      List.findIdx_lt_length_of_exists ⟨entry, hentry, by simp [heq, hscore]⟩
    have hget := List.findIdx_getElem (w := hlt)
    rw [Bool.and_eq_true, decide_eq_true_eq] at hget
    exact ⟨hlt, hget.1⟩
  obtain ⟨hlt, heq⟩ := hfound hicon
  obtain ⟨hlt', heq'⟩ := hfound hother
  have hplaces : countingPlace key icon ≠ countingPlace key other := by
    intro hsame
    simp only [hsame] at heq
    exact hne (heq'.symm.trans heq)
  have hpair := List.pairwise_iff_getElem.1 pairwise_iconKeywords _ _ hlt hlt' (by omega)
  rw [heq, heq'] at hpair
  exact hpair.resolve_left (Ne.symm hne)

/-- The greatest count is that of the best icon, in whatever order the counts are looked through. -/
theorem greatest?_counts {key : Text} {counts : List IconCount}
    (h : counts.Perm (iconCounts key)) :
    (greatest? counts).map IconCount.icon = keywordIcon? key := by
  have hspec := isGreatestOf_greatest? counts
  have hmem {c : IconCount} : c ∈ counts ↔ _ := h.mem_iff.trans mem_iconCounts_iff
  cases hgreatest : greatest? counts with
  | none =>
    rw [hgreatest] at hspec
    obtain rfl : counts = [] := hspec
    rw [List.nil_perm, iconCounts, List.map_eq_nil_iff] at h
    rw [keywordIcon?, h]
    rfl
  | some best =>
    rw [hgreatest] at hspec
    obtain ⟨hbest, hothers⟩ := hspec
    obtain ⟨hscore, hpos, hplace⟩ := hmem.1 hbest
    refine (keywordIcon?_eq_some_iff.2 ⟨by omega, fun other hne => ?_⟩).symm
    rw [IsBetterIcon]
    by_cases hother : iconScore key other = 0
    · omega
    · have hcount := hothers ⟨other, iconScore key other, countingPlace key other⟩
        (hmem.2 ⟨rfl, Nat.pos_of_ne_zero hother, rfl⟩)
      rw [IconCount.atMost_iff] at hcount
      simp only at hcount
      refine hcount.imp (by omega) fun hsame => ⟨by omega, ?_⟩
      exact iconPlace_lt hne (by omega) (by omega) (hplace ▸ hsame.2)

/-! ## The tier of the keywords -/

theorem findSome?_cons_eq_or {β γ : Type} (f : β → Option γ) (x : β) (xs : List β) :
    (x :: xs).findSome? f = (f x).or (xs.findSome? f) := by
  rw [List.findSome?_cons]
  cases f x <;> rfl

/-- What the keys of a component give, its type first. -/
theorem findSome?_keys {f : Text → Option Text} (hf : f [] = none)
    (componentType label : Option Text) :
    ((([componentType, label].filterMap fun x => x).map nameKey).filter (· ≠ [])).findSome? f =
      (componentType.bind (f ∘ nameKey)).or (label.bind (f ∘ nameKey)) := by
  have hkeys (names : List Text) :
      ((names.map nameKey).filter (· ≠ [])).findSome? f = names.findSome? (f ∘ nameKey) := by
    induction names with
    | nil => rfl
    | cons name rest ih =>
      rw [findSome?_cons_eq_or, ← ih, List.map_cons, Function.comp_apply]
      by_cases hkey : nameKey name = []
      · rw [hkey, hf, List.filter_cons_of_neg (by simp), Option.none_or]
      · rw [List.filter_cons_of_pos (by simpa using hkey), findSome?_cons_eq_or]
  rw [hkeys]
  cases componentType <;> cases label <;> simp [findSome?_cons_eq_or]

theorem exactIcon?_nil : exactIcon? [] = none := by
  decide +kernel

theorem keywordIcon?_nil : keywordIcon? [] = none := by
  decide +kernel

/-- The icon that a name of a component is known by. -/
def exactIconOf? (name : Text) : Option Text := exactIcon? (nameKey name)

/-- The icon that the keywords in a name of a component speak for. -/
def keywordIconOf? (name : Text) : Option Text := keywordIcon? (nameKey name)

/-- A component has its icon by keywords if neither of its names is that of an icon, and then it
is that of its type, or else that of its label. -/
theorem findIcon_eq_keyword_iff {α : Type} [Length α] {componentType label : Option Text}
    {stage : Option α} {icon : Text} :
    findIcon componentType label stage = ⟨icon, .keyword⟩ ↔
      componentType.bind exactIconOf? = none ∧ label.bind exactIconOf? = none ∧
        (componentType.bind keywordIconOf?).or (label.bind keywordIconOf?) = some icon := by
  have hexact := findSome?_keys exactIcon?_nil componentType label
  have hkeyword := findSome?_keys keywordIcon?_nil componentType label
  simp only [findIcon, hexact, hkeyword]
  rw [← and_assoc, ← Option.or_eq_none_iff]
  show _ ↔ (componentType.bind (exactIcon? ∘ nameKey)).or (label.bind (exactIcon? ∘ nameKey)) = none
    ∧ (componentType.bind (keywordIcon? ∘ nameKey)).or (label.bind (keywordIcon? ∘ nameKey)) = _
  cases (componentType.bind (exactIcon? ∘ nameKey)).or (label.bind (exactIcon? ∘ nameKey)) with
  | some named => simp
  | none =>
    cases (componentType.bind (keywordIcon? ∘ nameKey)).or
        (label.bind (keywordIcon? ∘ nameKey)) with
    | some best => simp
    | none => cases stage.bind stageIcon? <;> simp

/-- The keywords in a key speak for an icon if one of them occurs there, and that icon is the best
in whatever order the scores are looked through.  A component has its icon in this way only if
neither its type nor its label is known by name, and by its label only if its type has none. -/
theorem keywordIcon?_best {α : Type} [Length α] (key : Text) (componentType label : Option Text)
    (stage : Option α) :
    ((keywordIcon? key).isSome ↔ ∃ entry ∈ iconKeywords, entry.1 <:+: key) ∧
      (∀ icon, keywordIcon? key = some icon ↔ IsBestIcon key icon) ∧
      (∀ counts : List IconCount, counts.Perm (iconCounts key) →
        (greatest? counts).map IconCount.icon = keywordIcon? key) ∧
      ∀ icon, findIcon componentType label stage = ⟨icon, .keyword⟩ ↔
        componentType.bind exactIconOf? = none ∧ label.bind exactIconOf? = none ∧
          (componentType.bind keywordIconOf?).or (label.bind keywordIconOf?) = some icon := by
  refine ⟨isSome_keywordIcon?_iff, fun icon => keywordIcon?_eq_some_iff, ?_, ?_⟩
  · exact fun counts h => greatest?_counts h
  · exact fun icon => findIcon_eq_keyword_iff

end Swimlane
