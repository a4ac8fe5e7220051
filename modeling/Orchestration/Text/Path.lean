/-!
# Paths

The plain form of a path: parts that are empty or a single dot are left out, exactly two slashes at
the start stay two, and the empty path is a dot.
-/

namespace Orchestration.Text

/-- The slashes that a path starts with, in plain form. -/
def pathRoot : List Char → String
  | '/' :: '/' :: '/' :: _ => "/"
  | '/' :: '/' :: _ => "//"
  | '/' :: _ => "/"
  | _ => ""

/-- The parts of a path that lead somewhere. -/
def pathParts (path : String) : List String :=
  (path.splitOn "/").filter fun part => part ≠ "" ∧ part ≠ "."

/-- The path in plain form. -/
def plainPath (path : String) : String :=
  let plain := pathRoot path.toList ++ "/".intercalate (pathParts path)
  if plain = "" then "." else plain

end Orchestration.Text
