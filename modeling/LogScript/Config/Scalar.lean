import LogScript.Config.Shape
import LogScript.Options

namespace LogScript.Config

/-- Texts, numbers and truth values are all accepted where a single value is expected. -/
inductive Scalar where
  | text (s : String)
  | number (n : Json.Number)
  | bool (b : Bool)
  deriving DecidableEq, Repr

namespace Scalar

/-- The text that a value counts as. -/
def asText : Scalar → String
  | text s => s
  | number n => n.text
  | bool b => if b then "true" else "false"

/-- Reads a value. Whatever stands in its place is read to its end first. -/
def read : Reader Scalar := fun d =>
  match d.mistake? with
  | some e => .error (.malformed e)
  | none =>
    match d with
    | .string s => .ok (text s)
    | .number n => .ok (number n)
    | .bool b => .ok (bool b)
    | _ => .error (.noForm "RawScalar")

end Scalar

/-- An attribute with an optional value. -/
def setting (name : String) (k : Kind) (v : Option Scalar) : Attribute :=
  ⟨name, k, .ofText? (v.map Scalar.asText)⟩

end LogScript.Config
