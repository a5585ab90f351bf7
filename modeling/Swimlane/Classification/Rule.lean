import Swimlane.Classification.Token
import Swimlane.Flowchart.Graph

/-!
# The roles of groups

A group is drawn as a lane, as a section or as a boundary, or not at all.  Its role is
decided by a list of rules that look at its names, its depth and its child groups; the
first rule that applies gives the role.
-/

namespace Swimlane

/-! ## Roles and facts -/

/-- How a group is drawn: as a lane, one of the bands across the drawing; as a section, one
of the bands down the drawing; or as a boundary, a box around what it holds. -/
inductive Role
  | laneBand
  | sectionBand
  | boundary
deriving DecidableEq

/-- What the rules look at. -/
structure GroupFacts where
  id : Text
  label : Text
  depth : Nat
  /-- The identifiers and labels of the child groups that exist. -/
  childGroups : List (Text × Text)

/-- The facts about a group of a graph. -/
def GroupFacts.of (g : Graph) (x : Group) : GroupFacts :=
  ⟨x.id, x.label, x.depth,
    x.childGroupIds.filterMap fun id => (g.group? id).map fun child => (child.id, child.label)⟩

/-! ## Words -/

/-- The words of the identifier and, after them, of the label. -/
def GroupFacts.words (f : GroupFacts) : List Text := nameWords f.id ++ nameWords f.label

/-- The words by which a provider is known, and its name. -/
def providerWords : List (List Text × Text) :=
  [(["snowflake".toList], "snowflake".toList),
   (["aws".toList], "aws".toList),
   (["amazon".toList], "amazon".toList),
   (["azure".toList], "azure".toList),
   (["gcp".toList], "gcp".toList),
   (["google".toList, "cloud".toList], "google_cloud".toList)]

/-- The words for things that contain others. -/
def containerWords : List Text :=
  ["boundary".toList, "account".toList, "vpc".toList, "tenant".toList]

/-- The provider that the names of a group mention, the first in the list if there are
several. -/
def GroupFacts.provider? (f : GroupFacts) : Option Text :=
  (providerWords.find? fun entry => occursIn entry.1 f.words).map (·.2)

/-- Do the names mention a container? -/
def GroupFacts.mentionsContainer (f : GroupFacts) : Bool :=
  containerWords.any fun word => occursIn [word] f.words

/-! ## Rules -/

/-- Is there a token that orders a lane or a section? -/
def hasOrderingToken (id label : Text) : Bool :=
  (laneToken? id label).isSome || (sectionToken? id label).isSome

/-- The beginnings of the identifiers of sections. -/
def sectionKeywords : List Text := ["section".toList, "stage".toList, "step".toList]

/-- Does the identifier begin like that of a lane? -/
def hasLaneKeyword (id : Text) : Bool := startsWith "lane".toList (asciiLower id)

/-- Does the identifier begin like that of a section? -/
def hasSectionKeyword (id : Text) : Bool :=
  sectionKeywords.any fun word => startsWith word (asciiLower id)

/-- Does a group with these names look like a lane or a section? -/
def looksLikeBand (id label : Text) : Bool :=
  hasOrderingToken id label || hasLaneKeyword id || hasSectionKeyword id

/-- A rule: a role and the groups that it is given to. -/
structure Rule where
  role : Role
  name : Text
  applies : GroupFacts → Bool

/-- The rules, in the order in which they are tried. -/
def rules : List Rule :=
  [⟨.boundary, "provider-or-container-word".toList, fun f =>
      (f.provider?.isSome || f.mentionsContainer)
        && (!f.childGroups.isEmpty || !hasOrderingToken f.id f.label)⟩,
   ⟨.boundary, "outermost-container".toList, fun f =>
      f.depth = 0 && !looksLikeBand f.id f.label
        && f.childGroups.any fun child => looksLikeBand child.1 child.2⟩,
   ⟨.laneBand, "alphanumeric-token".toList, fun f => (laneToken? f.id f.label).isSome⟩,
   ⟨.laneBand, "lane-keyword".toList, fun f => hasLaneKeyword f.id⟩,
   ⟨.sectionBand, "numeric-token".toList, fun f => (sectionToken? f.id f.label).isSome⟩,
   ⟨.sectionBand, "section-keyword".toList, fun f => hasSectionKeyword f.id⟩]

/-- The rule that decides about a group. -/
def GroupFacts.rule? (f : GroupFacts) : Option Rule := rules.find? (·.applies f)

/-- What the badge of a group says: its ordering token, or else its label, or else its
identifier. -/
def GroupFacts.badgeLabel (f : GroupFacts) : Text :=
  match laneToken? f.id f.label with
  | some token => token
  | none =>
      match sectionToken? f.id f.label with
      | some token => token
      | none => if trim f.label = [] then f.id else trim f.label

end Swimlane
