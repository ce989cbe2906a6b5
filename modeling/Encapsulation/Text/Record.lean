import Encapsulation.Text.Quoted

/-!
# Record text

The text that shows how a value is built. A record is its name and its named members between
braces, an open record ends in two dots because it has members that are not shown, a tuple is its
name and its members between parentheses, and a list stands between brackets. Members are
separated by a comma and a space.
-/
namespace Encapsulation.Text

/-- Texts in order, with a comma and a space between neighbours. -/
def listing (members : List String) : String := ", ".intercalate members

/-- A named member of a record. -/
def member (name value : String) : String := name ++ ": " ++ value

/-- A record with all its members. -/
def record (name : String) (members : List String) : String :=
  name ++ " \x7b " ++ listing members ++ " \x7d"

/-- A record that has members beside the ones shown. -/
def openRecord (name : String) (members : List String) : String :=
  record name (members ++ [".."])

/-- A named tuple. -/
def tuple (name : String) (members : List String) : String :=
  name ++ "(" ++ listing members ++ ")"

/-- A list of texts between brackets. -/
def bracketed (members : List String) : String := "[" ++ listing members ++ "]"

/-- A value that may be absent. -/
def orNone : Option String → String
  | none => "None"
  | some value => tuple "Some" [value]

/-- A truth value. -/
def flag : Bool → String
  | true => "true"
  | false => "false"

/-- Bytes as a list of decimal numbers. -/
def byteList (bytes : List UInt8) : String :=
  bracketed (bytes.map fun byte => toString byte.toNat)

end Encapsulation.Text
