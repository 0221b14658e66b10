import ShippingRules.Text.CaseData

/-!
Lower-casing of texts. Each character has its own lower-case form, with two exceptions: capital I
with a dot becomes an i and a combining dot, and a capital sigma at the end of a word becomes the
final sigma. A word ends at a sigma when a cased character stands before it and none after it,
passing over the characters that case does not depend on.
-/
namespace ShippingRules.Text

/-- The code point of the lower-case form, if the range has one for this code point. -/
def CaseRange.lowered? (range : CaseRange) (code : Nat) : Option Nat :=
  if range.first ≤ code ∧ code ≤ range.last ∧ (code - range.first) % range.stride = 0 then
    some (code + range.shift).toNat
  else none

/-- The lower-case form of a character on its own. -/
def lowerChar (c : Char) : List Char :=
  if c.toNat = 0x130 then ['i', Char.ofNat 0x307]
  else match lowerRanges.findSome? (·.lowered? c.toNat) with
    | some code => [Char.ofNat code]
    | none => [c]

/-- Whether the first character that case depends on is cased. -/
def startsCased (s : List Char) : Bool :=
  match s.dropWhile isCaseIgnorable with
  | [] => false
  | c :: _ => isCased c

/-- The lower-case form of a text, given the characters before it, nearest first. -/
def lowerFrom (before : List Char) : List Char → List Char
  | [] => []
  | c :: rest =>
    let here :=
      if c.toNat = 0x3a3 then
        if startsCased before && !startsCased rest then [Char.ofNat 0x3c2] else [Char.ofNat 0x3c3]
      else lowerChar c
    here ++ lowerFrom (c :: before) rest

def lowerChars (s : List Char) : List Char := lowerFrom [] s

def lower (s : String) : String := String.ofList (lowerChars s.toList)

/-- The ASCII letter's lower-case form; other characters stay. -/
def lowerAscii (s : List Char) : List Char := s.map Char.toLower

end ShippingRules.Text
