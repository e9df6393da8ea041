namespace LogScript.Text

/-- Ranges of code points, both ends belonging to the range. -/
abbrev Ranges := List (Nat × Nat)

/-- Membership of a character in one of the ranges. -/
def Ranges.contains (t : Ranges) (c : Char) : Bool :=
  t.any fun r => r.1 ≤ c.toNat && c.toNat ≤ r.2

end LogScript.Text
