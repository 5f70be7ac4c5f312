/-
Sets of characters given by runs of code points: a list of bounds, each run its first code point
and the one behind its last.
-/
namespace TenantSearch.Text

/-- Whether a code point lies in one of the runs, which stand in increasing order. -/
def inRuns (c : Nat) : List Nat → Bool
  | first :: behind :: rest => first ≤ c && (c < behind || inRuns c rest)
  | _ => false

end TenantSearch.Text
