import LogScript.Pattern.CharClass

namespace LogScript.Pattern

/-- A set of characters, one of which is matched. -/
inductive CharSet where
  /-- A set given by its name, and how many states an automaton needs for it if it is known. -/
  | named (states : Option Nat)
  /-- A class in brackets: the elements behind the opening one. -/
  | bracketed (items : List ClassItem)
  deriving DecidableEq, Repr

/-- Whether a set is defined. -/
def CharSet.isValid : CharSet → Bool
  | named states => states.isSome
  | bracketed items => CharClass.isValid items

/-- How many states an automaton needs for a set at least. -/
def CharSet.states : CharSet → Nat
  | named states => states.getD 0
  | bracketed _ => 2

/-- All characters but the end of a line, from one byte to four. -/
def CharSet.any : CharSet := named (some 31)

inductive Node where
  | empty
  /-- A single character. -/
  | char
  | set (s : CharSet)
  /-- A place in the text: an end of a text or line, or an end of a word. -/
  | anchor (ofWord : Bool)
  | sequence (parts : List Node)
  | choice (branches : List Node)
  /-- A group with its number. -/
  | group (number : Nat) (body : Node)
  | look (behind : Bool) (body : Node)
  | repeated (body : Node) (least : Nat) (greatest : Option Nat)
  | reference (number : Nat)
  | atomic (body : Node)
  /-- The match begins here, or the last one ended here. -/
  | mark
  /-- Whether a group has matched. -/
  | hasMatched (number : Nat)
  | conditional (test yes no : Node)
  deriving Repr

namespace Node

mutual

/-- The least number of characters that a match takes. -/
def least : Node → Nat
  | empty => 0
  | char => 1
  | set _ => 1
  | anchor _ => 0
  | sequence ps => leastSum ps
  | choice bs => leastMin bs
  | group _ b => b.least
  | look _ _ => 0
  | repeated b lo _ => b.least * lo
  | reference _ => 0
  | atomic b => b.least
  | mark => 0
  | hasMatched _ => 0
  | conditional t y n => t.least + min y.least n.least

def leastSum : List Node → Nat
  | [] => 0
  | n :: ns => n.least + leastSum ns

def leastMin : List Node → Nat
  | [] => 0
  | [n] => n.least
  | n :: ns => min n.least (leastMin ns)

end

mutual

/-- Whether all matches take the same number of characters. -/
def isFixed : Node → Bool
  | empty => true
  | char => true
  | set _ => true
  | anchor _ => true
  | sequence ps => allFixed ps
  | choice bs => allFixed bs && (bs.map least).all (· = leastMin bs)
  | group _ b => b.isFixed
  | look _ _ => true
  | repeated b lo hi => b.isFixed && hi = some lo
  | reference _ => false
  | atomic b => b.isFixed
  | mark => true
  | hasMatched _ => true
  | conditional t y n =>
    t.isFixed && y.isFixed && n.isFixed && t.least + y.least = n.least

def allFixed : List Node → Bool
  | [] => true
  | n :: ns => n.isFixed && allFixed ns

end

mutual

/-- Whether a pattern needs more than an automaton. Groups that are referred to do. -/
def isHard (referred : List Nat) : Node → Bool
  | empty => false
  | char => false
  | set _ => false
  | anchor ofWord => ofWord
  | sequence ps => anyHard referred ps
  | choice bs => anyHard referred bs
  | group i b => referred.contains i || b.isHard referred
  | look _ _ => true
  | repeated b _ _ => b.isHard referred
  | reference _ => true
  | atomic _ => true
  | mark => true
  | hasMatched _ => true
  | conditional _ _ _ => true

def anyHard (referred : List Nat) : List Node → Bool
  | [] => false
  | n :: ns => n.isHard referred || anyHard referred ns

end

end Node

end LogScript.Pattern
