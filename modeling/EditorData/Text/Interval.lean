/-!
# Character classes given by intervals

A class of characters is a list of intervals of code points in increasing order. A
lookup stops at the first interval that begins beyond the code point.
-/

namespace EditorData.Text

/-- Whether a code point lies in one of the intervals, which are in increasing order. -/
def inIntervals : List (Nat × Nat) -> Nat -> Bool
  | [], _ => false
  | (low, high) :: rest, code =>
      if code < low then false else code <= high || inIntervals rest code

end EditorData.Text
