/-
  Case folding — characters that differ only in case.

  Two characters fold alike when they have the same representative: the small letter of a capital,
  and for a few letters with several small forms one of these.
-/
import Turnpike.Text.Lowercase

namespace Turnpike.Text

/-- Small forms that give way to another small form, beside it. -/
def variantForms : List (Nat × Nat) := [
  (0xb5, 0x3bc), (0x17f, 0x73), (0x345, 0x3b9), (0x3c2, 0x3c3), (0x3d0, 0x3b2), (0x3d1, 0x3b8),
  (0x3d5, 0x3c6), (0x3d6, 0x3c0), (0x3f0, 0x3ba), (0x3f1, 0x3c1), (0x3f5, 0x3b5),
  (0x1c80, 0x432), (0x1c81, 0x434), (0x1c82, 0x43e), (0x1c83, 0x441), (0x1c84, 0x442),
  (0x1c85, 0x442), (0x1c86, 0x44a), (0x1c87, 0x463), (0x1c88, 0xa64b), (0x1e9b, 0x1e61),
  (0x1fbe, 0x3b9), (0x1fd3, 0x390), (0x1fe3, 0x3b0), (0xfb05, 0xfb06)]

/-- The code points of a run of capitals. -/
def CaseRun.members (r : CaseRun) : List Nat :=
  (List.range ((r.last - r.first) / r.step + 1)).map fun i => r.first + i * r.step

/-- Every character that is not its own representative, with its representative. -/
def foldings : List (Nat × Nat) :=
  (List.range 26).map (fun i => (0x41 + i, 0x61 + i)) ++
  lowerRuns.flatMap (fun r => r.members.map fun (n : Nat) => (n, ((n : Int) + r.shift).toNat)) ++
  variantForms

end Turnpike.Text
