import ShippingRules.Blake3
import ShippingRules.Cache.Bytes
import ShippingRules.Number.Double

/-!
The parts that a cache payload is made of: flags, texts, numbers, optional parts and sequences. A
part is a way to write values and a way to read one from the front of the bytes, with what remains.
A sequence is its length followed by its items, an optional part a flag before its value.
-/
namespace ShippingRules.Cache

structure Part (α : Type) where
  write : α → Bytes
  read : Bytes → Option (α × Bytes)

namespace Part

variable {α β : Type}

def flag : Part Bool where
  write b := [if b then 1 else 0]
  read
    | [] => none
    | byte :: rest =>
      if byte = 0 then some (false, rest) else if byte = 1 then some (true, rest) else none

/-- A count or length. -/
def size : Part Nat := ⟨writeLength, readLength .eight⟩

/-- The number of an alternative. -/
def alternative : Part Nat := ⟨writeLength, readLength .four⟩

/-- A double by its bits. -/
def double : Part Double where
  write x := littleEndian 8 x.bits.toNat
  read bytes := (readFixed 8 bytes).map fun (bits, rest) => (⟨UInt64.ofNat bits⟩, rest)

def textBytes (s : String) : Bytes := s.toUTF8.data.toList

def textOfBytes? (bytes : Bytes) : Option String := String.fromUTF8? ⟨bytes.toArray⟩

/-- A text in UTF-8 after its length in bytes. -/
def text : Part String where
  write s := writeLength (textBytes s).length ++ textBytes s
  read bytes := do
    let (length, rest) ← readLength .eight bytes
    let (front, rest) ← takeBytes length rest
    let s ← textOfBytes? front
    return (s, rest)

def digest : Part Blake3.Digest where
  write d := d.bytes
  read bytes :=
    let front := bytes.take 32
    if h : front.length = 32 then some (⟨front, h⟩, bytes.drop 32) else none

def optional (part : Part α) : Part (Option α) where
  write
    | none => flag.write false
    | some a => flag.write true ++ part.write a
  read bytes := do
    let (present, rest) ← flag.read bytes
    if present then
      let (a, rest) ← part.read rest
      return (some a, rest)
    else return (none, rest)

/-- One part after the other. -/
def pair (first : Part α) (second : Part β) : Part (α × β) where
  write p := first.write p.1 ++ second.write p.2
  read bytes := do
    let (a, rest) ← first.read bytes
    let (b, rest) ← second.read rest
    return ((a, b), rest)

def readMany (part : Part α) : Nat → Bytes → Option (List α × Bytes)
  | 0, bytes => some ([], bytes)
  | count + 1, bytes => do
    let (a, rest) ← part.read bytes
    let (tail, rest) ← readMany part count rest
    return (a :: tail, rest)

def sequence (part : Part α) : Part (List α) where
  write items := writeLength items.length ++ items.flatMap part.write
  read bytes := do
    let (count, rest) ← readLength .eight bytes
    readMany part count rest

/-- The same bytes for another type. -/
def convert (part : Part α) (build : α → β) (view : β → α) : Part β where
  write b := part.write (view b)
  read bytes := (part.read bytes).map fun (a, rest) => (build a, rest)

end Part

end ShippingRules.Cache
