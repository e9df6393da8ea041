import LogScript.Pattern.Tree
import LogScript.Value

namespace LogScript.Pattern

namespace Node

/-- Whether the bounds of a repetition are ordered and fit in 32 bits. -/
def areBounds (lo : Nat) (hi : Option Nat) : Bool :=
  lo < UInt32.size && match hi with
    | some hi => lo ≤ hi && hi < UInt32.size
    | none => true

mutual

/-- Whether a part makes sense to an automaton. -/
def isPlain : Node → Bool
  | set s => s.isValid
  | sequence ps => allPlain ps
  | choice bs => allPlain bs
  | group _ b => b.isPlain
  | look _ b => b.isPlain
  | repeated b lo hi => areBounds lo hi && b.isPlain
  | atomic b => b.isPlain
  | conditional t y n => t.isPlain && y.isPlain && n.isPlain
  | _ => true

def allPlain : List Node → Bool
  | [] => true
  | n :: ns => n.isPlain && allPlain ns

end

mutual

/-- The number of states that an automaton needs at least. A repetition takes its body as often as
its bounds say, but only once if the body matches nothing else than the empty text. -/
def states : Node → Nat
  | set s => s.states
  | sequence ps => statesSum ps
  | choice bs => statesSum bs
  | group _ b => b.states + 2
  | repeated b lo hi =>
    let copies := hi.getD (max lo 1)
    b.states * if b.isFixed && b.least = 0 then min copies 1 else copies
  | _ => 1

def statesSum : List Node → Nat
  | [] => 0
  | n :: ns => n.states + statesSum ns

end

/-- The number of states that an automaton has room for. -/
def mostStates : Nat := 327680

/-- Whether an automaton can be made of parts that follow one another. -/
def isAutomatic (ns : List Node) : Bool := allPlain ns && statesSum ns ≤ mostStates

/-- Whether an automaton can be put in place of a part inside a sequence that is matched step by
step: its length is known. -/
def isFixedPlain (referred : List Nat) (n : Node) : Bool := n.isFixed && !n.isHard referred

/-- The number of parts at the end of a sequence with a property. -/
def tailCount (p : Node → Bool) (ns : List Node) : Nat := (ns.reverse.takeWhile p).length

/-- The parts of a sequence that are matched step by step: how many stand before them, and how many
they are. -/
def middle (referred : List Nat) (inner : Bool) (ns : List Node) : Nat × Nat :=
  let front := (ns.takeWhile (isFixedPlain referred)).length
  let rest := ns.drop front
  let isEnd (n : Node) : Bool := if inner then n.isFixedPlain referred else !n.isHard referred
  let back := tailCount isEnd rest
  (front, rest.length - back)

/-- Whether the length of what a look behind matches is known. -/
def isFixedBehind : Node → Bool
  | choice bs => allFixed bs
  | n => n.isFixed

mutual

/-- Whether a part is accepted. Inside a part that is matched step by step, its elements are, too,
although an automaton could match them. -/
def isAccepted (referred : List Nat) (inner : Bool) (n : Node) : Bool :=
  if !inner && !n.isHard referred then isAutomatic [n]
  else match n with
    | set s => s.isValid
    | sequence ps =>
      let (front, count) := middle referred inner ps
      isAutomatic (ps.take front) && isAutomatic (ps.drop (front + count)) &&
        ((eachAccepted referred ps).drop front |>.take count).all id
    | choice bs => allAccepted referred inner bs
    | group _ b => b.isAccepted referred inner
    | look behind b => (!behind || b.isFixedBehind) && b.isAccepted referred false
    | repeated b lo hi =>
      if lo = 0 ∧ hi = some 1 then b.isAccepted referred inner
      else b.isAccepted referred (inner || n.isHard referred)
    | atomic b => b.isAccepted referred false
    | conditional t y e =>
      t.isAccepted referred inner && y.isAccepted referred inner && e.isAccepted referred inner
    | _ => true

/-- For each part of a sequence, whether it is accepted where it is matched step by step. -/
def eachAccepted (referred : List Nat) : List Node → List Bool
  | [] => []
  | n :: ns => n.isAccepted referred true :: eachAccepted referred ns

def allAccepted (referred : List Nat) (inner : Bool) : List Node → Bool
  | [] => true
  | n :: ns => n.isAccepted referred inner && allAccepted referred inner ns

end

end Node

/-- Whether a text is taken for a pattern. The parts of it that an automaton can match have to make
sense to the automaton. The rest is matched step by step, where only a look behind is restricted,
because it has to know where to begin. -/
def isPattern (s : String) : Bool :=
  match Tree.ofText? s with
  | some (n, referred) =>
    if n.isHard referred then n.isAccepted referred true else Node.isAutomatic [n]
  | none => false

/-- An engine to run the compiler with in the place of the one that patterns are meant for. It gives
no details, and how much room an automaton needs is only estimated. -/
def engine : Engine := fun s => if isPattern s then none else some "Parsing error"

end LogScript.Pattern
