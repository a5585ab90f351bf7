import Swimlane.Text.Basic

/-!
# What can be wrong with a flowchart text

A text is refused at its first fault.  The fault comes with the number of the line where
it was found; a group that is never closed is found on the line that opens it.
-/

namespace Swimlane

/-- A fault in a flowchart text. -/
inductive SyntaxFault
  | missingHeader
  | unknownDirection (word : Text)
  | unmatchedEnd
  | unclosedSubgraph (id : Text)
  | unbalancedBrackets (part : Text)
  | missingEndpoint (statement : Text)
  | invalidNode (reference : Text)
deriving DecidableEq

/-- The wording of a fault. -/
def SyntaxFault.message : SyntaxFault → Text
  | missingHeader => "expected a `flowchart <direction>` header".toList
  | unknownDirection word => "unknown direction `".toList ++ word ++ "`".toList
  | unmatchedEnd => "`end` without a matching `subgraph`".toList
  | unclosedSubgraph id => "`subgraph ".toList ++ id ++ "` is never closed".toList
  | unbalancedBrackets part => "unbalanced brackets in `".toList ++ part ++ "`".toList
  | missingEndpoint statement =>
      "arrow is missing an endpoint in `".toList ++ statement ++ "`".toList
  | invalidNode reference => "invalid node reference `".toList ++ reference ++ "`".toList

/-- A fault and the line where it was found. -/
structure SyntaxError where
  line : Nat
  fault : SyntaxFault
deriving DecidableEq

/-- The wording of an error. -/
def SyntaxError.message (e : SyntaxError) : Text :=
  "syntax error on line ".toList ++ decimal e.line ++ ": ".toList ++ e.fault.message

end Swimlane
