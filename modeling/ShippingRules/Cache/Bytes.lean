/-!
Numbers as bytes. Fixed-width numbers have their lowest byte first. A length takes one byte below
251; otherwise a marker tells how wide the number is that follows it. A number may be written
wider than it needs, but not wider than its field.
-/
namespace ShippingRules.Cache

abbrev Bytes := List UInt8

/-- The lowest bytes of a number, the lowest first. -/
def littleEndian : Nat → Nat → Bytes
  | 0, _ => []
  | width + 1, n => UInt8.ofNat n :: littleEndian width (n / 256)

/-- The number that these bytes stand for. -/
def ofLittleEndian : Bytes → Nat
  | [] => 0
  | byte :: rest => byte.toNat + 256 * ofLittleEndian rest

theorem length_littleEndian (width n : Nat) : (littleEndian width n).length = width := by
  induction width generalizing n with
  | zero => rfl
  | succ width ih => simp [littleEndian, ih]

theorem ofLittleEndian_littleEndian (width n : Nat) (h : n < Nat.pow 256 width) :
    ofLittleEndian (littleEndian width n) = n := by
  induction width generalizing n with
  | zero =>
    have : n = 0 := Nat.lt_one_iff.mp h
    simp [littleEndian, ofLittleEndian, this]
  | succ width ih =>
    have hq : n / 256 < Nat.pow 256 width := by
      apply Nat.div_lt_of_lt_mul
      rw [Nat.mul_comm]
      exact h
    simp only [littleEndian, ofLittleEndian, ih _ hq, UInt8.toNat_ofNat']
    omega

/-- The given number of bytes from the front. -/
def takeBytes (count : Nat) (bytes : Bytes) : Option (Bytes × Bytes) :=
  let front := bytes.take count
  if front.length = count then some (front, bytes.drop count) else none

theorem takeBytes_append (front rest : Bytes) :
    takeBytes front.length (front ++ rest) = some (front, rest) := by
  simp [takeBytes]

def readFixed (width : Nat) (bytes : Bytes) : Option (Nat × Bytes) :=
  (takeBytes width bytes).map fun (front, rest) => (ofLittleEndian front, rest)

/-- The widest form that a field admits. -/
inductive Width where
  | four
  | eight
deriving DecidableEq

def writeLength (n : Nat) : Bytes :=
  if n < 251 then [UInt8.ofNat n]
  else if n < Nat.pow 256 2 then 251 :: littleEndian 2 n
  else if n < Nat.pow 256 4 then 252 :: littleEndian 4 n
  else 253 :: littleEndian 8 n

def readLength (width : Width) : Bytes → Option (Nat × Bytes)
  | [] => none
  | byte :: rest =>
    if byte.toNat < 251 then some (byte.toNat, rest)
    else if byte = 251 then readFixed 2 rest
    else if byte = 252 then readFixed 4 rest
    else if byte = 253 ∧ width = .eight then readFixed 8 rest
    else none

end ShippingRules.Cache
