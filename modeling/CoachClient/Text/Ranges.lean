/-
CoachClient.Text.Ranges — sets of characters as ranges of code points.

* `inRanges` — membership in an ascending list of closed ranges.
-/

namespace CoachClient.Text

/-- Membership in an ascending list of closed ranges: the scan stops at the
first range that ends at or after the value. -/
def inRanges (n : Nat) : List (Nat × Nat) → Bool
  | [] => false
  | (lo, hi) :: rest => if n ≤ hi then lo ≤ n else inRanges n rest

end CoachClient.Text
