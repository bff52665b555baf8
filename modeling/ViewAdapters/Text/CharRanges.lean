/-!
# Ranges of characters

Sets of characters as lists of inclusive ranges of code points, and maps
between letter cases as lists of runs.
-/

namespace ViewAdapters.Text

/-- A set of characters, as inclusive ranges of code points. -/
structure CharRanges where
  ranges : List (Nat × Nat)

def CharRanges.contains (s : CharRanges) (c : Char) : Bool :=
  s.ranges.any fun r => decide (r.1 ≤ c.toNat) && decide (c.toNat ≤ r.2)

/-- The code points `first`, `first + step`, … up to `last`, all mapped to the
code point at the same distance. -/
structure CaseRun where
  first : Nat
  last : Nat
  step : Nat
  distance : Int

def CaseRun.holds (r : CaseRun) (code : Nat) : Bool :=
  decide (r.first ≤ code) && decide (code ≤ r.last) && (code - r.first) % r.step == 0

/-- The image of a character under the first run that holds it; itself if none does. -/
def CaseRun.apply (runs : List CaseRun) (c : Char) : Char :=
  match runs.find? (·.holds c.toNat) with
  | some r => Char.ofNat (c.toNat + r.distance).toNat
  | none => c

end ViewAdapters.Text
