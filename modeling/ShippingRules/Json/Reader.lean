import ShippingRules.Json.Basic
import ShippingRules.Number.Scaled

/-!
Reading JSON text. A reader takes its part from the front of the text and returns what remains,
which is always shorter. Blanks are space, tab, line feed and carriage return; arrays and objects
nest at most to a given depth; of repeated keys the last counts; a number too large for a double
is refused, and so is half of a surrogate pair. A number that is no whole number of 64 bits is read
by scaling, so a double is not always read back from its own shortest digits.
-/
namespace ShippingRules.Json

/-- A reader that takes at least one character. -/
structure Reader (α : Type) where
  run : List Char → Option (α × List Char)
  shorter : ∀ {s : List Char} {a : α} {rest : List Char},
    run s = some (a, rest) → rest.length < s.length

def isBlank (c : Char) : Bool := c = ' ' ∨ c = '\t' ∨ c = '\n' ∨ c = '\r'

def skipBlanks (s : List Char) : List Char := s.dropWhile isBlank

theorem length_dropWhile_le (p : Char → Bool) (s : List Char) :
    (s.dropWhile p).length ≤ s.length :=
  (List.dropWhile_sublist p).length_le

theorem length_skipBlanks_le (s : List Char) : (skipBlanks s).length ≤ s.length :=
  length_dropWhile_le isBlank s

/-- What follows the given characters, if the text starts with them. -/
def expect : List Char → List Char → Option (List Char)
  | [], s => some s
  | _ :: _, [] => none
  | c :: cs, head :: rest => if head = c then expect cs rest else none

theorem length_of_expect {word s rest : List Char} (h : expect word s = some rest) :
    s.length = rest.length + word.length := by
  induction word generalizing s with
  | nil => simp_all [expect]
  | cons c cs ih =>
    cases s with
    | nil => simp [expect] at h
    | cons head tail =>
      simp only [expect] at h
      split at h
      · have := ih h
        simp only [List.length_cons]
        omega
      · simp at h

def hexValue? (c : Char) : Option Nat :=
  if c.isDigit then some (c.toNat - '0'.toNat)
  else if 'a' ≤ c ∧ c ≤ 'f' then some (c.toNat - 'a'.toNat + 10)
  else if 'A' ≤ c ∧ c ≤ 'F' then some (c.toNat - 'A'.toNat + 10)
  else none

/-- Four hexadecimal digits. -/
def readUnit : List Char → Option (Nat × List Char)
  | a :: b :: c :: d :: rest => do
    let a ← hexValue? a
    let b ← hexValue? b
    let c ← hexValue? c
    let d ← hexValue? d
    return (((a * 16 + b) * 16 + c) * 16 + d, rest)
  | _ => none

theorem length_of_readUnit {s : List Char} {n : Nat} {rest : List Char}
    (h : readUnit s = some (n, rest)) : rest.length < s.length := by
  match s, h with
  | _ :: _ :: _ :: _ :: tail, h =>
    simp only [readUnit, Option.bind_eq_bind, Option.bind_eq_some_iff, pure, Option.some.injEq,
      Prod.mk.injEq] at h
    obtain ⟨_, _, _, _, _, _, _, _, _, rfl⟩ := h
    simp only [List.length_cons]
    omega

/-- The character of a `\u` escape after its first four digits: a high half of a surrogate pair
needs a second escape that holds a low half. -/
def readScalar (unit : Nat) (s : List Char) : Option (Char × List Char) :=
  if unit < 0xD800 ∨ 0xE000 ≤ unit then some (Char.ofNat unit, s)
  else if 0xDC00 ≤ unit then none
  else do
    let rest ← expect ['\\', 'u'] s
    let (low, rest) ← readUnit rest
    if 0xDC00 ≤ low ∧ low < 0xE000 then
      return (Char.ofNat (0x10000 + (unit - 0xD800) * 0x400 + (low - 0xDC00)), rest)
    else none

theorem length_of_readScalar {unit : Nat} {s : List Char} {c : Char} {rest : List Char}
    (h : readScalar unit s = some (c, rest)) : rest.length ≤ s.length := by
  unfold readScalar at h
  split at h
  · simp_all
  · split at h
    · simp at h
    · simp only [Option.bind_eq_bind, Option.bind_eq_some_iff] at h
      obtain ⟨mid, hmid, ⟨low, tail⟩, htail, h⟩ := h
      have h1 := length_of_expect hmid
      have h2 := length_of_readUnit htail
      dsimp only at h
      split at h
      · simp only [pure, Option.some.injEq, Prod.mk.injEq] at h
        obtain ⟨_, rfl⟩ := h
        omega
      · simp at h

/-- The character that an escape stands for, after the backslash. -/
def readEscape : List Char → Option (Char × List Char)
  | [] => none
  | c :: rest =>
    if c = '"' ∨ c = '\\' ∨ c = '/' then some (c, rest)
    else if c = 'n' then some ('\n', rest)
    else if c = 'r' then some ('\r', rest)
    else if c = 't' then some ('\t', rest)
    else if c = 'b' then some (Char.ofNat 8, rest)
    else if c = 'f' then some (Char.ofNat 12, rest)
    else if c = 'u' then (readUnit rest).bind fun (unit, tail) => readScalar unit tail
    else none

theorem length_of_readEscape {s : List Char} {c : Char} {rest : List Char}
    (h : readEscape s = some (c, rest)) : rest.length < s.length := by
  cases s with
  | nil => simp [readEscape] at h
  | cons head tail =>
    simp only [readEscape] at h
    repeat' split at h
    all_goals try (simp only [Option.some.injEq, Prod.mk.injEq] at h; obtain ⟨_, rfl⟩ := h; simp)
    · obtain ⟨⟨unit, mid⟩, hmid, h⟩ := Option.bind_eq_some_iff.mp h
      have h1 := length_of_readUnit hmid
      have h2 := length_of_readScalar h
      dsimp only at h2
      simp only [List.length_cons]
      omega
    · simp at h

/-- The characters of a text up to its closing quote, after those already read. -/
def readText (acc : List Char) (s : List Char) : Option (List Char × List Char) :=
  match s with
  | [] => none
  | c :: rest =>
    if c = '"' then some (acc.reverse, rest)
    else if c = '\\' then
      match h : readEscape rest with
      | some (c, tail) =>
        have := length_of_readEscape h
        readText (c :: acc) tail
      | none => none
    else if c.toNat < 32 then none
    else readText (c :: acc) rest
termination_by s.length
decreasing_by all_goals simp only [List.length_cons]; omega

theorem length_of_readText {acc s cs rest : List Char} (h : readText acc s = some (cs, rest)) :
    rest.length < s.length := by
  fun_induction readText acc s with
  | case1 => simp at h
  | case2 =>
    simp only [Option.some.injEq, Prod.mk.injEq] at h
    obtain ⟨_, rfl⟩ := h
    simp
  | case3 _ _ _ _ tail _ hlen ih =>
    have := ih h
    simp only [List.length_cons]
    omega
  | case4 => simp at h
  | case5 => simp at h
  | case6 _ _ _ _ _ _ ih =>
    have := ih h
    simp only [List.length_cons]
    omega

/-- The digits after a point; there is at least one where the point stands. -/
def readFraction (s : List Char) : Option (List Char × List Char) :=
  match s with
  | '.' :: rest =>
    let (digits, tail) := Numeral.digitRun rest
    if digits = [] then none else some (digits, tail)
  | _ => some ([], s)

/-- The exponent, or none where no exponent mark stands; a mark needs digits. -/
def readPower (s : List Char) : Option (Option Int × List Char) :=
  match s with
  | [] => some (none, s)
  | mark :: more =>
    if mark = 'e' ∨ mark = 'E' then
      let (negative, rest) := Numeral.readSign more
      let (digits, tail) := Numeral.digitRun rest
      if digits = [] then none
      else some (some (Numeral.signed negative (Nat.ofDigitChars 10 digits 0)), tail)
    else some (none, s)

/-- A whole number that fits is kept exactly. Minus zero, and what does not fit, is a double;
every double has to be finite. -/
def Number.of? (n : Numeral) (isWhole : Bool) : Option Number :=
  let value := Numeral.signed n.negative (Nat.ofDigitChars 10 n.whole 0)
  if h : (isWhole ∧ ¬(n.negative ∧ value = 0)) ∧ FitsWord value then
    some (.whole value h.2)
  else if h : n.scaled.isFinite = true then some (.double n.scaled h)
  else none

/-- Whether a minus sign stands in front, and what follows it. -/
def readMinus : List Char → Bool × List Char
  | '-' :: rest => (true, rest)
  | s => (false, s)

/-- The numeral in front, and whether it is written without a point and without an exponent. -/
def readNumeral (s : List Char) : Option ((Numeral × Bool) × List Char) := do
  let (negative, rest) := readMinus s
  let (whole, rest) := Numeral.digitRun rest
  if whole = [] ∨ (whole.head? = some '0' ∧ whole ≠ ['0']) then none
  else
    let (fraction, rest) ← readFraction rest
    let (power, rest) ← readPower rest
    return ((⟨negative, whole, fraction, power.getD 0⟩, fraction.isEmpty && power.isNone), rest)

def readNumber (s : List Char) : Option (Number × List Char) := do
  let ((numeral, isWhole), rest) ← readNumeral s
  let number ← Number.of? numeral isWhole
  return (number, rest)

theorem length_readSign_le (s : List Char) : (Numeral.readSign s).2.length ≤ s.length := by
  unfold Numeral.readSign
  split <;> simp

theorem length_of_readFraction {s digits rest : List Char}
    (h : readFraction s = some (digits, rest)) : rest.length ≤ s.length := by
  unfold readFraction at h
  split at h
  · rename_i more
    dsimp only at h
    split at h
    · simp at h
    · simp only [Option.some.injEq, Prod.mk.injEq] at h
      have := length_dropWhile_le Char.isDigit more
      simp only [← h.2, Numeral.digitRun, List.length_cons]
      omega
  · simp_all

theorem length_of_readPower {s : List Char} {power : Option Int} {rest : List Char}
    (h : readPower s = some (power, rest)) : rest.length ≤ s.length := by
  unfold readPower at h
  split at h
  · simp_all
  · rename_i mark more
    split at h
    · dsimp only at h
      split at h
      · simp at h
      · simp only [Option.some.injEq, Prod.mk.injEq] at h
        have h1 := length_dropWhile_le Char.isDigit (Numeral.readSign more).2
        have h2 := length_readSign_le more
        simp only [← h.2, Numeral.digitRun, List.length_cons]
        omega
    · simp_all

theorem length_digitRun_lt {s : List Char} (h : (Numeral.digitRun s).1 ≠ []) :
    (Numeral.digitRun s).2.length < s.length := by
  cases s with
  | nil => simp [Numeral.digitRun] at h
  | cons c rest =>
    cases hc : c.isDigit with
    | false => simp [Numeral.digitRun, hc] at h
    | true =>
      have := length_dropWhile_le Char.isDigit rest
      simp only [Numeral.digitRun, List.dropWhile_cons, hc, if_true, List.length_cons]
      omega

theorem length_readMinus_le (s : List Char) : (readMinus s).2.length ≤ s.length := by
  unfold readMinus
  split <;> simp

theorem length_of_readNumeral {s : List Char} {numeral : Numeral × Bool} {rest : List Char}
    (h : readNumeral s = some (numeral, rest)) : rest.length < s.length := by
  have hfront := length_readMinus_le s
  unfold readNumeral at h
  dsimp only at h
  split at h
  · simp at h
  · rename_i hwhole
    have h1 := length_digitRun_lt (not_or.mp hwhole).1
    simp only [Option.bind_eq_bind, Option.bind_eq_some_iff] at h
    obtain ⟨⟨fraction, r1⟩, hr1, ⟨power, r2⟩, hr2, h⟩ := h
    have h2 := length_of_readFraction hr1
    have h3 := length_of_readPower hr2
    simp only [pure, Option.some.injEq, Prod.mk.injEq] at h
    obtain ⟨_, rfl⟩ := h
    dsimp only at h3
    omega

theorem length_of_readNumber {s : List Char} {n : Number} {rest : List Char}
    (h : readNumber s = some (n, rest)) : rest.length < s.length := by
  simp only [readNumber, Option.bind_eq_bind, Option.bind_eq_some_iff] at h
  obtain ⟨⟨numeral, r⟩, hr, number, _, h⟩ := h
  simp only [pure, Option.some.injEq, Prod.mk.injEq] at h
  obtain ⟨_, rfl⟩ := h
  exact length_of_readNumeral hr

/-- Items with commas between them, up to the closing character. -/
def readItems {α : Type} (item : Reader α) (close : Char) (s : List Char) :
    Option (List α × List Char) :=
  match h : item.run s with
  | none => none
  | some (a, rest) =>
    match hrest : skipBlanks rest with
    | [] => none
    | c :: more =>
      if c = ',' then
        have : (skipBlanks more).length < s.length := by
          have h1 := item.shorter h
          have h2 := length_skipBlanks_le rest
          have h3 := length_skipBlanks_le more
          simp only [hrest, List.length_cons] at h2
          omega
        (readItems item close (skipBlanks more)).map fun (items, tail) => (a :: items, tail)
      else if c = close then some ([a], more)
      else none
termination_by s.length

theorem length_of_readItems {α : Type} {item : Reader α} {close : Char} {s : List Char}
    {items : List α} {rest : List Char} (h : readItems item close s = some (items, rest)) :
    rest.length < s.length := by
  fun_induction readItems item close s generalizing items with
  | case1 => simp at h
  | case2 => simp at h
  | case3 s a front hrun more hrest hlen ih =>
    obtain ⟨⟨tail, r⟩, htail, h⟩ := Option.map_eq_some_iff.mp h
    simp only [Prod.mk.injEq] at h
    have := ih (h.2 ▸ htail)
    omega
  | case4 s a front hrun more hrest =>
    simp only [Option.some.injEq, Prod.mk.injEq] at h
    have h1 := item.shorter hrun
    have h2 := length_skipBlanks_le front
    simp only [hrest, List.length_cons] at h2
    rw [← h.2]
    omega
  | case5 => simp at h

/-- A possibly empty sequence of items, after its opening character. -/
def readSequence {α : Type} (item : Reader α) (close : Char) (s : List Char) :
    Option (List α × List Char) :=
  match skipBlanks s with
  | [] => none
  | c :: rest => if c = close then some ([], rest) else readItems item close (c :: rest)

theorem length_of_readSequence {α : Type} {item : Reader α} {close : Char} {s : List Char}
    {items : List α} {rest : List Char} (h : readSequence item close s = some (items, rest)) :
    rest.length < s.length := by
  have hskip := length_skipBlanks_le s
  unfold readSequence at h
  split at h
  · simp at h
  · rename_i c tail hs
    rw [hs] at hskip
    split at h
    · simp only [Option.some.injEq, Prod.mk.injEq] at h
      rw [← h.2]
      simp only [List.length_cons] at hskip
      omega
    · have := length_of_readItems h
      omega

/-- A key, a colon and the value of the field. -/
def member (value : Reader Json) : Reader (String × Json) where
  run s := do
    let rest ← expect ['"'] s
    let (key, rest) ← readText [] rest
    let rest ← expect [':'] (skipBlanks rest)
    let (json, rest) ← value.run (skipBlanks rest)
    return ((String.ofList key, json), rest)
  shorter {s a rest} h := by
    simp only [Option.bind_eq_bind, Option.bind_eq_some_iff] at h
    obtain ⟨r1, h1, ⟨key, r2⟩, h2, r3, h3, ⟨json, r4⟩, h4, h⟩ := h
    simp only [pure, Option.some.injEq, Prod.mk.injEq] at h
    obtain ⟨_, rfl⟩ := h
    have h1 := length_of_expect h1
    have h2 := length_of_readText h2
    have h3 := length_of_expect h3
    have h4 := value.shorter h4
    have h5 := length_skipBlanks_le r2
    have h6 := length_skipBlanks_le r3
    simp only [List.length_cons, List.length_nil] at h1 h3
    omega

/-- What opens an array or object, given the reader of nested values; without one, none may
open. -/
def readNested (nested : Option (Reader Json)) (c : Char) (s : List Char) :
    Option (Json × List Char) := do
  let value ← nested
  if c = '[' then
    (readSequence value ']' s).map fun (items, rest) => (array items, rest)
  else
    (readSequence (member value) '}' s).map fun (entries, rest) =>
      (object (Fields.ofList entries), rest)

theorem length_of_readNested {nested : Option (Reader Json)} {c : Char} {s : List Char}
    {json : Json} {rest : List Char} (h : readNested nested c s = some (json, rest)) :
    rest.length < s.length := by
  cases nested with
  | none => simp [readNested] at h
  | some value =>
    simp only [readNested, Option.bind_eq_bind, Option.bind_some] at h
    split at h
    · obtain ⟨⟨items, r⟩, hr, h⟩ := Option.map_eq_some_iff.mp h
      simp only [Prod.mk.injEq] at h
      exact h.2 ▸ length_of_readSequence hr
    · obtain ⟨⟨items, r⟩, hr, h⟩ := Option.map_eq_some_iff.mp h
      simp only [Prod.mk.injEq] at h
      exact h.2 ▸ length_of_readSequence hr

def readValue (nested : Option (Reader Json)) : List Char → Option (Json × List Char)
  | [] => none
  | c :: rest =>
    if c = 'n' then (expect ['u', 'l', 'l'] rest).map (null, ·)
    else if c = 't' then (expect ['r', 'u', 'e'] rest).map (bool true, ·)
    else if c = 'f' then (expect ['a', 'l', 's', 'e'] rest).map (bool false, ·)
    else if c = '"' then (readText [] rest).map fun (cs, tail) => (text (String.ofList cs), tail)
    else if c = '[' ∨ c = '{' then readNested nested c rest
    else (readNumber (c :: rest)).map fun (n, tail) => (number n, tail)

theorem length_of_readValue {nested : Option (Reader Json)} {s : List Char}
    {json : Json} {rest : List Char} (h : readValue nested s = some (json, rest)) :
    rest.length < s.length := by
  cases s with
  | nil => simp [readValue] at h
  | cons c tail =>
    simp only [readValue] at h
    repeat' split at h
    all_goals simp only [List.length_cons]
    · obtain ⟨r, hr, h⟩ := Option.map_eq_some_iff.mp h
      simp only [Prod.mk.injEq] at h
      have := length_of_expect hr
      rw [← h.2]
      omega
    · obtain ⟨r, hr, h⟩ := Option.map_eq_some_iff.mp h
      simp only [Prod.mk.injEq] at h
      have := length_of_expect hr
      rw [← h.2]
      omega
    · obtain ⟨r, hr, h⟩ := Option.map_eq_some_iff.mp h
      simp only [Prod.mk.injEq] at h
      have := length_of_expect hr
      rw [← h.2]
      omega
    · obtain ⟨⟨cs, r⟩, hr, h⟩ := Option.map_eq_some_iff.mp h
      simp only [Prod.mk.injEq] at h
      have := length_of_readText hr
      rw [← h.2]
      omega
    · have := length_of_readNested h
      omega
    · obtain ⟨⟨n, r⟩, hr, h⟩ := Option.map_eq_some_iff.mp h
      simp only [Prod.mk.injEq] at h
      have := length_of_readNumber hr
      simp only [List.length_cons] at this
      rw [← h.2]
      omega

/-- Values that nest to at most the given depth. -/
def value : Nat → Reader Json
  | 0 => ⟨readValue none, length_of_readValue⟩
  | depth + 1 => ⟨readValue (some (value depth)), length_of_readValue⟩

/-- How deep arrays and objects may nest in a text. -/
def maxNesting : Nat := 127

def parseChars? (s : List Char) : Option Json := do
  let (json, rest) ← (value maxNesting).run (skipBlanks s)
  if skipBlanks rest = [] then return json else none

/-- The value of a whole text. -/
def parse? (s : String) : Option Json := parseChars? s.toList

end ShippingRules.Json
