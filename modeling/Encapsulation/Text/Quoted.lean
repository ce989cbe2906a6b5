import Encapsulation.Text.Visible

/-!
# Quoted text

A quoted text stands between double quotes. Inside, a double quote and a backslash follow a
backslash; the zero, tab, line feed and carriage return characters have letters of their own; and
every other character that leaves no mark is written as its code point in lower-case hexadecimal
between braces. All else, the single quote included, stands as it is.
-/
namespace Encapsulation.Text

/-- The hexadecimal digits of a number, lower case, without leading zeros. -/
def hexDigits (number : Nat) : List Char := Nat.toDigits 16 number

/-- How a character is written inside quotes. -/
def escape (char : Char) : List Char :=
  if char = '"' then ['\\', '"']
  else if char = '\\' then ['\\', '\\']
  else if char = '\n' then ['\\', 'n']
  else if char = '\r' then ['\\', 'r']
  else if char = '\t' then ['\\', 't']
  else if char = '\x00' then ['\\', '0']
  else if isVisible char then [char]
  else "\\u\x7b".toList ++ hexDigits char.toNat ++ "\x7d".toList

/-- A text between double quotes. -/
def quoted (text : String) : String :=
  String.ofList ('"' :: text.toList.flatMap escape ++ ['"'])

end Encapsulation.Text
