import ShippingRules.Cache.Payload

/-!
Cached rule sets as bytes: a header of 32 bytes and the payload. The header starts with a mark and
the revision of the format, and has the length of the payload and the first half of its hash, so
that a blob of another kind, revision or length, or with changed bytes, is told apart. What follows
the payload has no meaning.
-/
namespace ShippingRules

namespace Cache

def mark : Bytes := [0x52, 0x47, 0x52, 0x53]

def formatRevision : Nat := 1

/-- The revision of the writer, which readers do not check. -/
def writerRevision : Nat := 1

def headerSize : Nat := 32

/-- The first half of the payload's hash. -/
def checksum (payload : Bytes) : Bytes := (Blake3.hash payload).bytes.take 16

def header (payload : Bytes) : Bytes :=
  mark ++ littleEndian 2 formatRevision ++ littleEndian 2 writerRevision ++ List.replicate 4 0 ++
    littleEndian 4 payload.length ++ checksum payload

/-- Why a set cannot be cached: the header has four bytes for the length of the payload. -/
inductive WriteError where
  | tooLarge (length : Nat)
deriving DecidableEq, Repr

def WriteError.message : WriteError → String
  | tooLarge length => s!"encoded rule set of {length} bytes is too large to cache"

/-- Why a blob cannot be read. -/
inductive ReadError where
  | badMark
  | otherRevision (found supported : Nat)
  | badChecksum
  | badLength (expected actual : Nat)
  | undecodable
  | defective (defect : Defect)
  | notFound
deriving DecidableEq, Repr

def ReadError.message : ReadError → String
  | badMark => "not a rategate binary: invalid magic bytes"
  | otherRevision found supported =>
    s!"incompatible format version: blob is v{found}, engine supports v{supported}"
  | badChecksum => "integrity check failed: BLAKE3 checksum mismatch"
  | badLength expected actual =>
    s!"payload length mismatch: expected {expected} bytes, got {actual}"
  | undecodable => "failed to decode payload"
  | defective defect => "validation failed: " ++ defect.message
  | notFound => "no such file"

def part (bytes : Bytes) (first count : Nat) : Bytes := (bytes.drop first).take count

/-- The bytes of the payload, once the header is recognized and agrees with them. -/
def payloadBytes (bytes : Bytes) : Except ReadError Bytes :=
  if bytes.length < headerSize then .error (.badLength headerSize bytes.length)
  else if part bytes 0 4 ≠ mark then .error .badMark
  else
    let revision := ofLittleEndian (part bytes 4 2)
    if revision ≠ formatRevision then .error (.otherRevision revision formatRevision)
    else
      let expected := ofLittleEndian (part bytes 12 4)
      let body := bytes.drop headerSize
      if body.length < expected then .error (.badLength expected body.length)
      else
        let payload := body.take expected
        if checksum payload ≠ part bytes 16 16 then .error .badChecksum else .ok payload

def readPayload (bytes : Bytes) : Except ReadError Payload :=
  match payloadBytes bytes with
  | .error error => .error error
  | .ok payload =>
    match Part.payload.read payload with
    | some (decoded, _) => .ok decoded
    | none => .error .undecodable

/-- The digest of the text that a cached set was read from, if its writer gave one. -/
def sourceDigest (bytes : Bytes) : Except ReadError (Option Blake3.Digest) :=
  (readPayload bytes).map Payload.sourceDigest

end Cache

namespace RuleSet

/-- The cached form of a set, with the digest of its source text if that is given. -/
def toBytes (set : RuleSet) (source : Option String) : Except Cache.WriteError Cache.Bytes :=
  let payload := Cache.Part.payload.write (Cache.Payload.ofSet set source)
  if payload.length < Nat.pow 256 4 then .ok (Cache.header payload ++ payload)
  else .error (.tooLarge payload.length)

def ofBytes (bytes : Cache.Bytes) : Except Cache.ReadError RuleSet :=
  match Cache.readPayload bytes with
  | .error error => .error error
  | .ok payload => payload.toSet.mapError .defective

/-- The set cached in a file, given by its bytes where there is a file. -/
def ofCacheFile (file : Option Cache.Bytes) : Except Cache.ReadError RuleSet :=
  match file with
  | none => .error .notFound
  | some bytes => ofBytes bytes

end RuleSet

end ShippingRules
