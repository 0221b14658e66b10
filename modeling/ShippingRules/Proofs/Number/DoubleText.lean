import ShippingRules.Proofs.Number.Numeral
import ShippingRules.Value

/-!
Doubles as whole texts. A whole text is a double if cutting it at its exponent mark and at its point
leaves digits only, or if it is one of the words for an infinity or for no number. Every numeral is
such a text, and what it counts as is what it is read for at the front of a longer text. So the
reading of a text is the double that the longest numeral in front stands for.
-/
namespace ShippingRules

namespace Double

/-- What stands before the first character of a kind, and the text from that character on. -/
def cutAt (kind : Char → Bool) (s : List Char) : List Char × List Char :=
  (s.takeWhile fun c => !kind c, s.dropWhile fun c => !kind c)

def isPoint (c : Char) : Bool := c = '.'

def isExponentMark (c : Char) : Bool := c = 'e' ∨ c = 'E'

/-- The digits of a mantissa, and how many of them stand behind the point. -/
def mantissaOf? (s : List Char) : Option (Nat × Nat) :=
  let (whole, behind) := cutAt isPoint s
  let digits := whole ++ behind.drop 1
  if digits ≠ [] ∧ digits.all Char.isDigit = true then
    some (Nat.ofDigitChars 10 digits 0, (behind.drop 1).length)
  else none

/-- The exponent that stands behind a mark. Where there is no mark it is zero. -/
def exponentOf? : List Char → Option Int
  | [] => some 0
  | _ :: more =>
    let (negative, digits) := Numeral.readSign more
    if digits ≠ [] ∧ digits.all Char.isDigit = true then
      some (Numeral.signed negative (Nat.ofDigitChars 10 digits 0))
    else none

/-- The words among doubles, in any case. -/
def wordOf? (negative : Bool) (s : List Char) : Option Double :=
  let word := String.ofList (s.map Char.toLower)
  if word = "inf" ∨ word = "infinity" then some (infinity negative)
  else if word = "nan" then some (ofMagnitude negative nan.magnitude)
  else none

/-- The double that a whole text is: the nearest one to its decimal, or what its word names. -/
def ofChars? (s : List Char) : Option Double :=
  let (negative, body) := Numeral.readSign s
  let (mantissa, power) := cutAt isExponentMark body
  match mantissaOf? mantissa, exponentOf? power with
  | some (coefficient, places), some exponent =>
    let quotient := Decimal.quotient ⟨coefficient, exponent - places⟩
    some (nearest negative quotient.1 quotient.2)
  | _, _ => wordOf? negative body

theorem cutAt_append {kind : Char → Bool} {before behind : List Char}
    (hbefore : ∀ c ∈ before, kind c = false)
    (hbehind : ∀ c, behind.head? = some c → kind c = true) :
    cutAt kind (before ++ behind) = (before, behind) := by
  have hinside : ∀ c ∈ before, (!kind c) = true := fun c hc => by rw [hbefore c hc]; rfl
  rw [cutAt, List.takeWhile_append_of_pos hinside, List.dropWhile_append_of_pos hinside]
  cases behind with
  | nil => simp
  | cons c tail => simp [hbehind c rfl]

theorem exponentOf?_powerChars (power : Option Numeral.PowerSpelling) :
    exponentOf? (Numeral.powerChars power) =
      some ((power.map Numeral.PowerSpelling.value).getD 0) := by
  cases power with
  | none => rfl
  | some power =>
    have hsign := Numeral.readSign_power power []
    rw [List.append_nil] at hsign
    have hdigits := List.all_eq_true.mpr power.digits.isDigit
    simp only [Numeral.powerChars, Numeral.PowerSpelling.toChars, exponentOf?, hsign,
      if_pos (And.intro power.present hdigits)]
    rfl

theorem mantissaOf?_toChars (spelling : Numeral.Spelling) :
    mantissaOf? (spelling.whole.chars ++ Numeral.pointChars spelling.fraction) =
      some (Nat.ofDigitChars 10 (spelling.numeral.whole ++ spelling.numeral.fraction) 0,
        spelling.numeral.fraction.length) := by
  have hwhole : ∀ c ∈ spelling.whole.chars, isPoint c = false := fun c hc =>
    decide_eq_false (Numeral.ne_of_isDigit (spelling.whole.isDigit c hc) (by decide))
  have hpoint : ∀ c, (Numeral.pointChars spelling.fraction).head? = some c → isPoint c = true := by
    intro c hc
    cases hfraction : spelling.fraction with
    | none => simp [hfraction, Numeral.pointChars] at hc
    | some digits =>
      rw [hfraction] at hc
      cases hc
      rfl
  have hdigits := List.all_eq_true.mpr fun _ hc => spelling.isDigit_of_mem hc
  simp only [mantissaOf?, cutAt_append hwhole hpoint, spelling.drop_pointChars]
  exact if_pos ⟨spelling.digits_ne_nil, hdigits⟩

/-- No mark stands in a mantissa. -/
theorem isExponentMark_of_mem (spelling : Numeral.Spelling) {c : Char}
    (h : c ∈ spelling.whole.chars ++ Numeral.pointChars spelling.fraction) :
    isExponentMark c = false := by
  have hdigit : c.isDigit = true → isExponentMark c = false := fun hc =>
    decide_eq_false (not_or.mpr
      ⟨Numeral.ne_of_isDigit hc (by decide), Numeral.ne_of_isDigit hc (by decide)⟩)
  rcases List.mem_append.mp h with hwhole | hpoint
  · exact hdigit (spelling.whole.isDigit c hwhole)
  · cases hfraction : spelling.fraction with
    | none => simp [hfraction, Numeral.pointChars] at hpoint
    | some digits =>
      rw [hfraction] at hpoint
      rcases List.mem_cons.mp hpoint with rfl | hmem
      · decide
      · exact hdigit (digits.isDigit c hmem)

/-- A numeral as a whole text counts as it does at the front of a text. -/
theorem ofChars?_toChars (spelling : Numeral.Spelling) :
    ofChars? spelling.toChars = some spelling.numeral.toDouble := by
  have hsign := Numeral.readSign_body spelling.sign spelling.whole spelling.fraction
    (Numeral.powerChars spelling.power) spelling.present
  have hmark : ∀ c, (Numeral.powerChars spelling.power).head? = some c →
      isExponentMark c = true := by
    intro c hc
    cases hpower : spelling.power with
    | none => simp [hpower, Numeral.powerChars] at hc
    | some power =>
      rw [hpower] at hc
      cases hc
      exact decide_eq_true power.isMark
  have hcut := cutAt_append (fun _ hc => isExponentMark_of_mem spelling hc) hmark
  rw [List.append_assoc] at hcut
  simp only [ofChars?, Numeral.Spelling.toChars, hsign, hcut, mantissaOf?_toChars,
    exponentOf?_powerChars, Numeral.toDouble, Decimal.toDouble, Decimal.nearestBits_eq_quotient]
  rfl

end Double

namespace Numeral

/-- The text from its first character that is no blank. -/
def front (s : String) : List Char := s.toList.dropWhile isBlank

theorem isSome_ofChars? {p : List Char} (h : IsNumeral p) : (Double.ofChars? p).isSome = true := by
  obtain ⟨spelling, rfl⟩ := h
  rw [Double.ofChars?_toChars]
  rfl

theorem leading?_eq_none_iff {s : String} :
    leading? s = none ↔ ∀ p, p <+: front s → ¬IsNumeral p := by
  rw [leading?, Option.map_eq_none_iff, front, readFront?_eq_none_iff]

/-- The numeral in front of a text decides its reading. -/
theorem leading?_of_isLongestNumeral {s : String} {p : List Char}
    (h : IsLongestNumeral p (front s)) : leading? s = Double.ofChars? p := by
  cases hread : readFront? (front s) with
  | none => exact absurd h.isNumeral (readFront?_eq_none_iff.mp hread p h.starts)
  | some found =>
    obtain ⟨spelling, hlongest, hnumeral⟩ := exists_longest_of_readFront? hread
    rw [leading?, ← front, hread, h.unique hlongest, Double.ofChars?_toChars, hnumeral]
    rfl

theorem exists_isLongestNumeral {s : String} {x : Double} (h : leading? s = some x) :
    ∃ p, IsLongestNumeral p (front s) := by
  obtain ⟨found, hread, -⟩ := Option.map_eq_some_iff.mp h
  obtain ⟨spelling, hlongest, -⟩ := exists_longest_of_readFront? hread
  exact ⟨_, hlongest⟩

/-- A text is read as the double that its longest numeral in front is, whatever follows that
numeral, and as none just where no numeral is in front. As a value it counts as that double or as
zero. -/
theorem leading?_iff_longest (s : String) :
    (leading? s = none ↔ ∀ p, p <+: front s → ¬IsNumeral p) ∧
      (∀ x, leading? s = some x ↔
        ∃ p, IsLongestNumeral p (front s) ∧ Double.ofChars? p = some x) ∧
      (∀ p, IsNumeral p → (Double.ofChars? p).isSome = true) ∧
      (∀ p, IsLongestNumeral p (front s) →
        leading? s = Double.ofChars? p ∧ Double.ofChars? p = some (Value.text s).asNumber) ∧
      ((∀ p, p <+: front s → ¬IsNumeral p) → (Value.text s).asNumber = Double.zero) := by
  refine ⟨leading?_eq_none_iff, fun x => ⟨fun h => ?_, ?_⟩, fun p => isSome_ofChars?,
    fun p h => ?_, fun h => ?_⟩
  · obtain ⟨p, hp⟩ := exists_isLongestNumeral h
    exact ⟨p, hp, (leading?_of_isLongestNumeral hp).symm.trans h⟩
  · rintro ⟨p, hp, hx⟩
    exact (leading?_of_isLongestNumeral hp).trans hx
  · have hleading := leading?_of_isLongestNumeral h
    obtain ⟨x, hx⟩ := Option.isSome_iff_exists.mp (isSome_ofChars? h.isNumeral)
    refine ⟨hleading, ?_⟩
    rw [Value.asNumber, hleading, hx]
    rfl
  · rw [Value.asNumber, leading?_eq_none_iff.mpr h]
    rfl

end Numeral

end ShippingRules
