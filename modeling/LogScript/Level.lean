import LogScript.Text.Blank
import LogScript.Text.Digits

namespace LogScript.Level

/-- The least level, below every message. -/
def least : Int := -2147483648

/-- The greatest level, above every message. -/
def greatest : Int := 2147483647

def names : List (List Char × Int) :=
  [("ALL".toList, least), ("TRACE".toList, 1000), ("DEBUG".toList, 2000), ("INFO".toList, 3000),
    ("WARN".toList, 4000), ("ERROR".toList, 5000), ("FATAL".toList, 6000),
    ("OFF".toList, greatest)]

/-- The number written by digits with a sign or none in front. -/
def signed? : List Char → Option Int
  | '+' :: r => (Text.decimal? r).map Int.ofNat
  | '-' :: r => (Text.decimal? r).map fun n => -(n : Int)
  | cs => (Text.decimal? cs).map Int.ofNat

def ofNumber? (cs : List Char) : Option Int :=
  (signed? cs).filter fun n => least ≤ n && n ≤ greatest

/-- The level with a name, whatever the case of its letters. -/
def ofName? (cs : List Char) : Option Int := names.lookup (cs.map Char.toUpper)

def ofText? (s : String) : Option Int :=
  let cs := Text.trim s.toList
  (ofNumber? cs).or (ofName? cs)

end LogScript.Level
