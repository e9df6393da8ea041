import LogScript.Pattern.Cursor
import LogScript.Pattern.Escape

namespace LogScript.Pattern

/-- Reads a part of a pattern. -/
abbrev Reader := Cursor → Option (Node × Cursor)

namespace Tree

/-- The elements of a class up to the bracket that balances the opening one, which has been read;
so many more classes are open inside it. -/
def classItems? (nest : Nat) (cs : List Char) : Option (List ClassItem × List Char) :=
  match cs with
  | [] => none
  | '\\' :: r =>
    match h : Escape.read? r with
    | none => none
    | some (e, r') =>
      have : r'.length < r.length := Escape.read?_length h
      (classItems? nest r').map fun p => (e.items ++ p.1, p.2)
  | '[' :: r => (classItems? (nest + 1) r).map fun p => (.plain '[' :: p.1, p.2)
  | ']' :: r =>
    match nest with
    | 0 => some ([.plain ']'], r)
    | n + 1 => (classItems? n r).map fun p => (.plain ']' :: p.1, p.2)
  | c :: r => (classItems? nest r).map fun p => (.plain c :: p.1, p.2)
termination_by cs.length
decreasing_by all_goals simp only [List.length_cons]; omega

/-- A class, of which the opening bracket has been read. A closing bracket in the first place, or
behind the sign of negation, stands for itself. -/
def charClass? (cs : List Char) : Option (CharSet × List Char) :=
  let (front, cs) := match cs with
    | '^' :: ']' :: r => (['^', ']'], r)
    | '^' :: r => (['^'], r)
    | ']' :: r => ([']'], r)
    | cs => ([], cs)
  (classItems? 0 cs).map fun p => (.bracketed (front.map .plain ++ p.1), p.2)

/-- An escape outside classes, of which the backslash has been read. -/
def escape? (limit : Nat) : Reader := fun c =>
  match c.rest with
  | 'k' :: '\'' :: r => Cursor.namedReference? true '\'' { c with rest := r }
  | 'k' :: '<' :: r => Cursor.namedReference? true '>' { c with rest := r }
  | 'k' :: _ => none
  | 'A' :: r => some (.anchor false, { c with rest := r })
  | 'z' :: r => some (.anchor false, { c with rest := r })
  | 'b' :: r => if r.head? = some '\x7b' then none else some (.anchor true, { c with rest := r })
  | 'B' :: r => if r.head? = some '\x7b' then none else some (.anchor true, { c with rest := r })
  | '<' :: r => some (.anchor true, { c with rest := r })
  | '>' :: r => some (.anchor true, { c with rest := r })
  | 'K' :: r => some (.mark, { c with rest := r })
  | 'G' :: r => some (.mark, { c with rest := r })
  | d :: r =>
    if d.isDigit then c.numberedReference? limit
    else match Escape.read? (d :: r) with
      | some (.char _, r') => some (.char, { c with rest := r' })
      | some (.set states, r') => some (.set (.named states), { c with rest := r' })
      | some (.hexDigits _, r') => some (.set (.named (some 1)), { c with rest := r' })
      | none => none
  | [] => none

/-- One element without its repetition. Where none can begin, it is empty and takes nothing. -/
def atom? (limit : Nat) (group : Reader) : Reader := fun c => do
  let c ← c.skip
  match c.rest with
  | [] => some (.empty, c)
  | '.' :: r => some (.set .any, { c with rest := r })
  | '^' :: r => some (.anchor false, { c with rest := r })
  | '$' :: r => some (.anchor false, { c with rest := r })
  | '(' :: r => group { c with rest := r }
  | '\\' :: r => escape? limit { c with rest := r }
  | '[' :: r => (charClass? r).map fun p => (.set p.1, { c with rest := p.2 })
  | d :: r =>
    if "+*?|)".toList.contains d then some (.empty, c) else some (.char, { c with rest := r })

/-- The bounds of a repetition, and what follows it. -/
def repetition? (c : Cursor) : Option (Nat × Option Nat × List Char) :=
  match c.rest with
  | '?' :: r => some (0, some 1, r)
  | '*' :: r => some (0, none, r)
  | '+' :: r => some (1, none, r)
  | '\x7b' :: r => Cursor.bounds? c.free r
  | _ => none

/-- Whether a part of a pattern can be repeated. -/
def isRepeatable : Node → Bool
  | .look _ _ => false
  | .empty => false
  | .anchor _ => false
  | _ => true

/-- One element with its repetition, which may be lazy, possessive or both. -/
def piece? (limit : Nat) (group : Reader) : Reader := fun c => do
  let (n, c) ← atom? limit group c
  let c ← c.skip
  match repetition? c with
  | none => some (n, c)
  | some (lo, hi, r) =>
    if !isRepeatable n then none
    else do
      let c ← { c with rest := r }.skip
      let r := match c.rest with
        | '?' :: r => r
        | r => r
      match r with
      | '+' :: r => some (.atomic (.repeated n lo hi), { c with rest := r })
      | r => some (.repeated n lo hi, { c with rest := r })

/-- The elements read last to first as one branch. -/
def branch : List Node → Node
  | [] => .empty
  | [n] => n
  | ns => .sequence ns.reverse

/-- Another element of a branch; empty ones are left out. -/
def append : List Node → Node → List Node
  | ns, .empty => ns
  | ns, n => n :: ns

/-- Branches with bars between them, up to where no element can begin. The branches before the
current one and the elements of the current one are given last to first. Numbers and names cannot
both refer to groups, which is only known at the end of a part without bars. -/
def branches? (limit : Nat) (group : Reader) (done : List Node) (parts : List Node) (c : Cursor) :
    Option (Node × Cursor) :=
  match piece? limit group c with
  | none => none
  | some (n, d) =>
    if d.rest.length < c.rest.length then branches? limit group done (append parts n) d
    else match h : c.rest with
      | '|' :: r =>
        have : r.length < c.rest.length := by simp [h]
        branches? limit group (branch parts :: done) [] { c with rest := r }
      | _ =>
        match done with
        | [] => if c.byNumber && !c.names.isEmpty then none else some (branch parts, c)
        | done => some (.choice (branch parts :: done).reverse, c)
termination_by c.rest.length
decreasing_by all_goals assumption

/-- The flags of a group, up to the end of the group or the colon in front of its body. A flag
that has no body of its own stays set behind the group. -/
def flags? (inner : Reader) (start : Nat) (outer : Bool) (negated : Bool) (c : Cursor) :
    Option (Node × Cursor) :=
  match h : c.skip with
  | none => none
  | some d =>
    match hr : d.rest with
    | [] => none
    | ')' :: r =>
      if d.rest.length = start ∨ (negated ∧ d.rest.length + 1 = start) then none
      else some (.empty, { d with rest := r })
    | ':' :: r =>
      if negated ∧ d.rest.length + 1 = start then none
      else match inner { d with rest := r } with
        | some (n, e) =>
          match e.rest with
          | ')' :: r' => some (n, { e with rest := r', free := outer })
          | _ => none
        | none => none
    | f :: r =>
      have : r.length + 1 ≤ c.rest.length := by simpa [hr] using Cursor.skip_length h
      if f = '-' ∧ !negated then flags? inner start outer true { d with rest := r }
      else if f = 'x' then flags? inner start outer negated { d with rest := r, free := !negated }
      else if "imsU".toList.contains f ∨ (f = 'u' ∧ !negated) then
        flags? inner start outer negated { d with rest := r }
      else none
termination_by c.rest.length
decreasing_by all_goals assumption

/-- The two sides of a conditional group. -/
def sides : Node → Node × Node
  | .choice [yes, no] => (yes, no)
  | .choice (yes :: others) => (yes, .choice others)
  | n => (n, .empty)

/-- A conditional group, of which the parenthesis of the test has been read. A test without sides
has to be a reference. -/
def conditional? (limit : Nat) (inner : Reader) : Reader := fun c => do
  let (test, c) ← match c.rest with
    | [] => none
    | '\'' :: r => Cursor.namedReference? true '\'' { c with rest := r }
    | '<' :: r => Cursor.namedReference? true '>' { c with rest := r }
    | d :: _ => if d.isDigit then c.numberedReference? limit else inner c
  let c ← c.close?
  let (body, d) ← inner c
  let e ← d.close?
  let asked := match test with
    | .reference n => .hasMatched n
    | n => n
  if d.rest.length = c.rest.length then
    match test with
    | .reference n => some (.hasMatched n, e)
    | _ => none
  else match sides body with
    | (.empty, .empty) => some (asked, e)
    | (yes, no) => some (.conditional asked yes no, e)

/-- The body of a group and its closing parenthesis. -/
def body? (inner : Reader) (wrap : Node → Node) : Reader := fun c => do
  let (n, c) ← inner c
  let c ← c.close?
  some (wrap n, c)

/-- A group that has a name, the opening mark of which has been read. -/
def namedGroup? (inner : Reader) : Reader := fun c => do
  let (name, r) ← Cursor.name? false '>' c.rest
  let number := c.groups + 1
  body? inner (.group number)
    { c with rest := r, groups := number, names := (name, number) :: c.names }

/-- A group, of which the opening parenthesis has been read; so many groups may still be opened
inside one another. -/
def group? (limit : Nat) : Nat → Reader
  | 0 => fun _ => none
  | depth + 1 => fun c => do
    let inner : Reader := branches? limit (group? limit depth) [] []
    let c ← c.skip
    match c.rest with
    | '?' :: '=' :: r => body? inner (.look false) { c with rest := r }
    | '?' :: '!' :: r => body? inner (.look false) { c with rest := r }
    | '?' :: '<' :: '=' :: r => body? inner (.look true) { c with rest := r }
    | '?' :: '<' :: '!' :: r => body? inner (.look true) { c with rest := r }
    | '?' :: '<' :: r => namedGroup? inner { c with rest := r }
    | '?' :: 'P' :: '<' :: r => namedGroup? inner { c with rest := r }
    | '?' :: 'P' :: '=' :: r => Cursor.namedReference? false ')' { c with rest := r }
    | '?' :: '>' :: r => body? inner .atomic { c with rest := r }
    | '?' :: '(' :: r => conditional? limit inner { c with rest := r }
    | '?' :: r => flags? inner r.length c.free false { c with rest := r }
    | _ => body? inner (.group (c.groups + 1)) { c with groups := c.groups + 1 }

/-- The greatest number of groups inside one another. -/
def deepest : Nat := 63

/-- The tree of a pattern and the groups that it refers to. -/
def ofText? (s : String) : Option (Node × List Nat) :=
  let limit := s.utf8ByteSize / 2
  match branches? limit (group? limit deepest) [] [] ⟨s.toList, false, 0, [], false, []⟩ with
  | some (n, c) => if c.rest.isEmpty then some (n, c.referred) else none
  | none => none

end Tree

end LogScript.Pattern
