import ShippingRules.Text.Visibility

/-!
Texts between double quotes for a reader's eye: the quote, the backslash and the common controls
have short escapes, and a character that is not shown as itself is written by its code point in
hexadecimal digits.
-/
namespace ShippingRules.Text

def showChar (c : Char) : List Char :=
  if c.toNat = 0 then ['\\', '0']
  else if c = '\t' then ['\\', 't']
  else if c = '\r' then ['\\', 'r']
  else if c = '\n' then ['\\', 'n']
  else if c = '\\' ∨ c = '"' then ['\\', c]
  else if isShown c then [c]
  else ['\\', 'u', '{'] ++ Nat.toDigits 16 c.toNat ++ ['}']

def showQuoted (s : String) : String :=
  String.ofList ('"' :: s.toList.flatMap showChar ++ ['"'])

end ShippingRules.Text
