import ShippingRules.Json.Basic
import ShippingRules.Number.Decimal

/-!
The compact text of a JSON value: no blanks, the fields of an object in key order. A text escapes
only the quote, the backslash and the characters below U+0020. A double is written with its
shortest digits, which always tell it from a whole number.
-/
namespace ShippingRules.Json

/-- Doubles have a point or an exponent. From 10^-5 to below 10^16 they are written without an
exponent; a tie goes to the even digit. -/
def doubleLayout : Decimal.Layout where
  positional lead := -5 ≤ lead ∧ lead < 16
  wholeMark := ['.', '0']
  tie := .toEven

def hexDigit (n : Nat) : Char := Nat.digitChar (n % 16)

/-- A character as it stands between quotes. -/
def escape (c : Char) : List Char :=
  if c = '"' then ['\\', '"']
  else if c = '\\' then ['\\', '\\']
  else if c = '\n' then ['\\', 'n']
  else if c = '\r' then ['\\', 'r']
  else if c = '\t' then ['\\', 't']
  else if c.toNat = 8 then ['\\', 'b']
  else if c.toNat = 12 then ['\\', 'f']
  else if c.toNat < 32 then ['\\', 'u', '0', '0', hexDigit (c.toNat / 16), hexDigit c.toNat]
  else [c]

def quoted (s : String) : List Char := '"' :: s.toList.flatMap escape ++ ['"']

def Number.toChars : Number → List Char
  | .whole value _ =>
    (if value < 0 then ['-'] else []) ++ Nat.toDigits 10 value.natAbs
  | .double value _ => doubleLayout.text value

def Number.render (n : Number) : String := String.ofList n.toChars

namespace Tree

mutual

def toChars : Tree → List Char
  | .null => ['n', 'u', 'l', 'l']
  | .bool true => ['t', 'r', 'u', 'e']
  | .bool false => ['f', 'a', 'l', 's', 'e']
  | .number n => n.toChars
  | .text s => quoted s
  | .array items => '[' :: itemsToChars items ++ [']']
  | .object fields => '{' :: fieldsToChars fields ++ ['}']

def itemsToChars : List Tree → List Char
  | [] => []
  | item :: rest => item.toChars ++ moreItemsToChars rest

def moreItemsToChars : List Tree → List Char
  | [] => []
  | item :: rest => ',' :: item.toChars ++ moreItemsToChars rest

def fieldsToChars : List (String × Tree) → List Char
  | [] => []
  | field :: rest => quoted field.1 ++ ':' :: field.2.toChars ++ moreFieldsToChars rest

def moreFieldsToChars : List (String × Tree) → List Char
  | [] => []
  | field :: rest => ',' :: quoted field.1 ++ ':' :: field.2.toChars ++ moreFieldsToChars rest

end

end Tree

def toChars (json : Json) : List Char := json.tree.toChars

def render (json : Json) : String := String.ofList json.toChars

end ShippingRules.Json
