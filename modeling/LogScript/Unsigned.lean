import LogScript.Text.Blank
import LogScript.Text.Digits

namespace LogScript.Unsigned

def greatest : Nat := 4294967295

def ofText? (s : String) : Option Nat :=
  (Text.decimal? (Text.trim s.toList)).filter (· ≤ greatest)

end LogScript.Unsigned
