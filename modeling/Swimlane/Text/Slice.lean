import Swimlane.Text.Basic

/-!
# Slices

A text can be cut by byte offsets into its UTF-8 form.  That works only at offsets where a
character begins or the text ends, so a slice may not exist.
-/

namespace Swimlane

/-- The text from a byte offset on. -/
def dropBytes? : Nat → Text → Option Text
  | 0, s => some s
  | _ + 1, [] => none
  | n + 1, c :: rest => if c.utf8Size ≤ n + 1 then dropBytes? (n + 1 - c.utf8Size) rest else none

/-- The text up to a byte offset. -/
def takeBytes? : Nat → Text → Option Text
  | 0, _ => some []
  | _ + 1, [] => none
  | n + 1, c :: rest =>
      if c.utf8Size ≤ n + 1 then (takeBytes? (n + 1 - c.utf8Size) rest).map (c :: ·) else none

/-- The text from one byte offset to another, which must not lie before it. -/
def slice? (start stop : Nat) (s : Text) : Option Text :=
  if start ≤ stop then (dropBytes? start s).bind (takeBytes? (stop - start)) else none

end Swimlane
