/-!
# Strip directives — which neighbouring text is trimmed

A set of directives is a byte. The two lowest bits face the text on the left and
on the right; the others have no meaning here and are kept as they are.
-/

namespace MarkupTemplate

/-- A set of strip directives. -/
structure Directives where
  bits : UInt8
deriving DecidableEq

namespace Directives

/-- No directive. -/
def empty : Directives := ⟨0⟩

/-- Trim the text on the left. -/
def left : Directives := ⟨1⟩

/-- Trim the text on the right. -/
def right : Directives := ⟨2⟩

/-- The directives of either set. -/
def union (s t : Directives) : Directives := ⟨s.bits ||| t.bits⟩

/-- The directives of both sets. -/
def inter (s t : Directives) : Directives := ⟨s.bits &&& t.bits⟩

/-- The directives of the first set that the second one lacks. -/
def diff (s t : Directives) : Directives := ⟨s.bits &&& ~~~t.bits⟩

/-- All directives of the second set are in the first. -/
def contains (s t : Directives) : Bool := s.bits &&& t.bits == t.bits

end Directives

end MarkupTemplate
