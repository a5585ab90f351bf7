import Swimlane.Text.Basic

/-!
# Fresh names

A name that is already taken gets a number: `x` is followed by `x_2`, `x_3` and so on.
`freshName` returns the first of these that is free.  Among one more candidates than there
are taken names one must be free, so the search needs no more than that.
-/

namespace Swimlane

/-- The name with a number after an underscore. -/
def numbered (base : Text) (k : Nat) : Text := base ++ '_' :: decimal k

/-- The name itself if it is free, and else its first numbered form that is free,
counting from 2. -/
def freshName (taken : List Text) (base : Text) : Text :=
  if taken.contains base then
    let free (k : Nat) : Bool := !taken.contains (numbered base k)
    ((List.range' 2 (taken.length + 1)).find? free).elim base (numbered base)
  else base

end Swimlane
