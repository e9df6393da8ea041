import LogScript.Command.Program
import LogScript.Text.Segments

namespace LogScript.Command

/-- Files by the names of the directories above them and their own. A directory is there if a file
is below it; the uppermost always is. -/
structure Files where
  entries : List (List String × ByteArray)

namespace Files

def names (path : String) : List String := (Text.segments '/' path.toList).map String.ofList

/-- Whether a path has to lead to a directory. -/
def endsInSlash (path : String) : Bool := path.toList.getLast? == some '/'

/-- One name further. A dot stays where it is, and two of them lead up; above the uppermost
directory nothing else is known than further ones. -/
def step (p : List String) (name : String) : List String :=
  if name = "" ∨ name = "." then p
  else if name ≠ ".." ∨ p.all (· = "..") then p ++ [name]
  else p.dropLast

/-- The place of names below the uppermost directory. -/
def place (names : List String) : List String := names.foldl step []

def find? (t : Files) (p : List String) : Option ByteArray := t.entries.lookup p

def isDirectory (t : Files) (p : List String) : Bool :=
  p.all (· = "..") || t.entries.any fun e => p.isPrefixOf e.1 && p ≠ e.1

/-- Why nothing is at a place. -/
def absence (t : Files) (p : List String) : FileError :=
  if t.entries.any fun e => e.1.isPrefixOf p then .notDirectory else .notFound

/-- Follows names from a place on. All but the last one have to lead to directories. -/
def follow (t : Files) (p : List String) : List String → Except FileError (List String)
  | [] => .ok p
  | [name] => .ok (step p name)
  | name :: names =>
    if t.isDirectory (step p name) then follow t (step p name) names
    else .error (t.absence (step p name))

/-- Where names begin: a path with a slash in front leads outside. -/
def start (path : String) : List String := if path.toList.head? = some '/' then [".."] else []

def read (t : Files) (path : String) : Except FileError String :=
  if path.isEmpty then .error .notFound
  else match t.follow (start path) (names path) with
    | .error e => .error e
    | .ok p =>
      if t.isDirectory p then .error .isDirectory
      else match t.find? p with
        | none => .error (t.absence p)
        | some content =>
          match String.fromUTF8? content with
          | some s => .ok s
          | none => .error .notText

/-- Writes a text to a file, in a directory that is there. -/
def write (t : Files) (path content : String) : Except FileError Files :=
  let kept := ((names path).reverse.dropWhile (· = "")).reverse
  if path.isEmpty then .error .notFound
  else match t.follow (start path) kept with
    | .error e => .error e
    | .ok p =>
      if t.isDirectory p || endsInSlash path then .error .isDirectory
      else .ok ⟨(p, content.toUTF8) :: t.entries.filter (·.1 ≠ p)⟩

end Files

namespace Program

def run (t : Files) : Program → Files × Ending
  | done e => (t, e)
  | read path next => run t (next (t.read path))
  | write path content next =>
    match t.write path content with
    | .ok t' => run t' (next (.ok ()))
    | .error e => run t (next (.error e))

end Program

end LogScript.Command
