import ShippingRules.Proofs.Cache.RoundTrip

/-!
What becomes of a cached blob whose bytes were damaged. A blob that was cut off lacks bytes of its
header or of its payload. In a blob of the right length the first damaged field decides: the mark,
the revision, a length beyond the end, and then the checksum, which covers what the length
announces. Six bytes of the header are not read, nor is what follows the payload.
-/
namespace ShippingRules

namespace Cache

theorem littleEndian_ofLittleEndian (bytes : Bytes) :
    littleEndian bytes.length (ofLittleEndian bytes) = bytes := by
  induction bytes with
  | nil => rfl
  | cons byte rest ih =>
    have hlow : UInt8.ofNat (byte.toNat + 256 * ofLittleEndian rest) = byte := by
      apply UInt8.toNat_inj.mp
      have hbyte := byte.toNat_lt
      rw [UInt8.toNat_ofNat']
      omega
    have hhigh : (byte.toNat + 256 * ofLittleEndian rest) / 256 = ofLittleEndian rest := by
      have hbyte := byte.toNat_lt
      omega
    rw [List.length_cons, ofLittleEndian, littleEndian, hlow, hhigh, ih]

section Fields

/-- The length of the payload as the header tells it. -/
def lengthField (blob : Bytes) : Nat := ofLittleEndian (part blob 12 4)

/-- The payload as far as the length field says. -/
def announced (blob : Bytes) : Bytes := (blob.drop headerSize).take (lengthField blob)

variable {blob : Bytes}

theorem part_eq_of_take_eq {other : Bytes} {first count size : Nat}
    (h : blob.take size = other.take size) (hsize : first + count ≤ size) :
    part blob first count = part other first count := by
  have hpart : ∀ bytes : Bytes, part bytes first count = part (bytes.take size) first count := by
    intro bytes
    rw [part, part, List.drop_take, List.take_take, Nat.min_eq_left (by omega)]
  rw [hpart blob, hpart other, h]

theorem part_eq_of_drop_eq {other : Bytes} {first count skipped : Nat}
    (h : blob.drop skipped = other.drop skipped) (hskipped : skipped ≤ first) :
    part blob first count = part other first count := by
  have hpart : ∀ bytes : Bytes,
      part bytes first count = part (bytes.drop skipped) (first - skipped) count := by
    intro bytes
    rw [part, part, List.drop_drop]
    congr 2
    omega
  rw [hpart blob, hpart other, h]

end Fields

section Checks

variable {blob : Bytes}

theorem payloadBytes_of_short (h : blob.length < headerSize) :
    payloadBytes blob = .error (.badLength headerSize blob.length) := by
  rw [payloadBytes, if_pos h]

theorem payloadBytes_of_mark_ne (hsize : headerSize ≤ blob.length) (h : part blob 0 4 ≠ mark) :
    payloadBytes blob = .error .badMark := by
  rw [payloadBytes, if_neg (Nat.not_lt.mpr hsize), if_pos h]

theorem payloadBytes_of_revision_ne (hsize : headerSize ≤ blob.length)
    (hmark : part blob 0 4 = mark) (h : ofLittleEndian (part blob 4 2) ≠ formatRevision) :
    payloadBytes blob =
      .error (.otherRevision (ofLittleEndian (part blob 4 2)) formatRevision) := by
  rw [payloadBytes, if_neg (Nat.not_lt.mpr hsize), if_neg (not_not_intro hmark)]
  dsimp only
  rw [if_pos h]

/-- A header of the right kind and revision. -/
structure Recognized (blob : Bytes) : Prop where
  size : headerSize ≤ blob.length
  mark : part blob 0 4 = mark
  revision : part blob 4 2 = littleEndian 2 formatRevision

/-- Once a header is recognized, its length and then its checksum have to agree with the bytes that
follow it. -/
theorem Recognized.payloadBytes_eq (h : Recognized blob) :
    payloadBytes blob =
      if blob.length - headerSize < lengthField blob then
        .error (.badLength (lengthField blob) (blob.length - headerSize))
      else if checksum (announced blob) ≠ part blob 16 16 then .error .badChecksum
      else .ok (announced blob) := by
  have hrevision : ofLittleEndian (part blob 4 2) = formatRevision := by
    rw [h.revision, ofLittleEndian_littleEndian 2 _ (by decide)]
  rw [payloadBytes, if_neg (Nat.not_lt.mpr h.size), if_neg (not_not_intro h.mark)]
  dsimp only
  rw [if_neg (not_not_intro hrevision), List.length_drop]
  rfl

theorem recognized_header (payload : Bytes) : Recognized (header payload ++ payload) := by
  refine ⟨?_, part_mark payload, part_revision payload⟩
  rw [List.length_append, length_header]
  exact Nat.le_add_right _ _

theorem lengthField_of_take_eq {payload : Bytes} (h : payload.length < Nat.pow 256 4)
    (htake : blob.take headerSize = (header payload ++ payload).take headerSize) :
    lengthField blob = payload.length := by
  rw [lengthField, part_eq_of_take_eq htake (by decide), part_length,
    ofLittleEndian_littleEndian 4 _ h]

theorem Recognized.of_take_eq {other : Bytes} {size : Nat} (h : Recognized other)
    (hlength : headerSize ≤ blob.length) (htake : blob.take size = other.take size)
    (hsize : 6 ≤ size) : Recognized blob :=
  ⟨hlength, (part_eq_of_take_eq htake (by omega)).trans h.mark,
    (part_eq_of_take_eq htake (by omega)).trans h.revision⟩

/-- Bytes after the payload make no difference. -/
theorem payloadBytes_append {payload : Bytes} (h : payload.length < Nat.pow 256 4) (tail : Bytes) :
    payloadBytes (header payload ++ payload ++ tail) = .ok payload := by
  have hheader := recognized_header payload
  have htake : (header payload ++ payload ++ tail).take headerSize =
      (header payload ++ payload).take headerSize := List.take_append_of_le_length hheader.size
  have hlength := lengthField_of_take_eq h htake
  have hannounced : announced (header payload ++ payload ++ tail) = payload := by
    rw [announced, hlength, List.append_assoc, List.drop_left' (length_header payload),
      List.take_left]
  have hchecksum : part (header payload ++ payload ++ tail) 16 16 = checksum payload :=
    (part_eq_of_take_eq htake (by decide)).trans (part_checksum payload)
  have hsize : headerSize ≤ (header payload ++ payload ++ tail).length := by
    rw [List.length_append]
    exact Nat.le_trans hheader.size (Nat.le_add_right _ _)
  have hfits : ¬(header payload ++ payload ++ tail).length - headerSize < payload.length := by
    simp only [List.length_append, length_header]
    omega
  rw [(hheader.of_take_eq hsize htake (by decide)).payloadBytes_eq, hlength, if_neg hfits,
    hannounced, hchecksum, if_neg (not_not_intro rfl)]

/-- A blob that was cut off is told by its length, or by that of its payload. -/
theorem payloadBytes_of_cut {payload damaged : Bytes} (h : payload.length < Nat.pow 256 4)
    (hcut : damaged <+: header payload ++ payload) (hne : damaged ≠ header payload ++ payload)
    (hsize : headerSize ≤ damaged.length) :
    payloadBytes damaged = .error (.badLength payload.length (damaged.length - headerSize)) := by
  obtain ⟨rest, hrest⟩ := hcut
  have htake : damaged.take headerSize = (header payload ++ payload).take headerSize := by
    rw [← hrest]
    exact (List.take_append_of_le_length hsize).symm
  have hmissing : rest ≠ [] := by
    rintro rfl
    exact hne (List.append_nil damaged ▸ hrest)
  have hshort : damaged.length - headerSize < payload.length := by
    have htotal := congrArg List.length hrest
    have hpositive := List.length_pos_iff.mpr hmissing
    rw [List.length_append, List.length_append, length_header] at htotal
    omega
  rw [((recognized_header payload).of_take_eq hsize htake (by decide)).payloadBytes_eq,
    lengthField_of_take_eq h htake, if_pos hshort]

/-- Bytes 6 to 11 are not read. -/
theorem payloadBytes_congr {other : Bytes} (h : Recognized other)
    (hlength : blob.length = other.length) (htake : blob.take 6 = other.take 6)
    (hdrop : blob.drop 12 = other.drop 12) : payloadBytes blob = payloadBytes other := by
  have hrecognized : Recognized blob := h.of_take_eq (hlength ▸ h.size) htake le_rfl
  have hfield : lengthField blob = lengthField other :=
    congrArg ofLittleEndian (part_eq_of_drop_eq hdrop (by decide))
  have hbody : blob.drop headerSize = other.drop headerSize := by
    have hskipped := congrArg (List.drop 20) hdrop
    rwa [List.drop_drop, List.drop_drop] at hskipped
  have hannounced : announced blob = announced other := by
    rw [announced, announced, hfield, hbody]
  have hchecksum : part blob 16 16 = part other 16 16 := part_eq_of_drop_eq hdrop (by decide)
  rw [hrecognized.payloadBytes_eq, h.payloadBytes_eq, hlength, hfield, hannounced, hchecksum]

end Checks

end Cache

namespace RuleSet

open Cache

section Errors

variable {blob : Bytes}

theorem ofBytes_congr {other : Bytes} (h : payloadBytes blob = payloadBytes other) :
    ofBytes blob = ofBytes other := by
  rw [ofBytes, ofBytes, readPayload, readPayload, h]

theorem ofBytes_of_error {error : ReadError} (h : payloadBytes blob = .error error) :
    ofBytes blob = .error error := by
  rw [ofBytes, readPayload, h]

/-- Only the header can tell of a wrong checksum. -/
theorem ofBytes_eq_badChecksum_iff :
    ofBytes blob = .error .badChecksum ↔ payloadBytes blob = .error .badChecksum := by
  refine ⟨fun h => ?_, ofBytes_of_error⟩
  cases hbytes : payloadBytes blob with
  | error error =>
    rw [ofBytes_of_error hbytes] at h
    cases h
    rfl
  | ok payload =>
    simp only [ofBytes, readPayload, hbytes] at h
    split at h
    · rename_i hread
      split at hread
      · cases hread
      · cases hread
        cases h
    · rename_i decoded _
      cases hset : decoded.toSet <;> rw [hset] at h <;> cases h

end Errors

/-- What is read of a blob that was damaged without a change of its length: the first damaged field
decides. -/
structure Diagnosed (bytes damaged : Bytes) : Prop where
  mark : part damaged 0 4 ≠ part bytes 0 4 → ofBytes damaged = .error .badMark
  revision : part damaged 0 4 = part bytes 0 4 → part damaged 4 2 ≠ part bytes 4 2 →
    ofBytes damaged = .error (.otherRevision (ofLittleEndian (part damaged 4 2)) formatRevision)
  length : damaged.take 6 = bytes.take 6 → bytes.length - headerSize < lengthField damaged →
    ofBytes damaged = .error (.badLength (lengthField damaged) (bytes.length - headerSize))
  content : damaged.take 6 = bytes.take 6 → lengthField damaged ≤ bytes.length - headerSize →
    (ofBytes damaged = .error .badChecksum ↔ checksum (announced damaged) ≠ part damaged 16 16)
  unread : damaged.take 6 = bytes.take 6 → damaged.drop 12 = bytes.drop 12 →
    ofBytes damaged = ofBytes bytes

theorem diagnosed_of_length_eq {payload damaged : Bytes}
    (hlength : damaged.length = (header payload ++ payload).length) :
    Diagnosed (header payload ++ payload) damaged := by
  have hheader := recognized_header payload
  have hsize : headerSize ≤ damaged.length := hlength ▸ hheader.size
  constructor
  · intro hmark
    apply ofBytes_of_error
    exact payloadBytes_of_mark_ne hsize fun h => hmark (h.trans hheader.mark.symm)
  · intro hmark hrevision
    apply ofBytes_of_error
    apply payloadBytes_of_revision_ne hsize (hmark.trans hheader.mark)
    intro hnumber
    have htwo : (part damaged 4 2).length = 2 := by
      rw [part, List.length_take, List.length_drop]
      have hthirtyTwo : headerSize = 32 := rfl
      omega
    have hbytes := littleEndian_ofLittleEndian (part damaged 4 2)
    rw [htwo, hnumber] at hbytes
    exact hrevision (hbytes.symm.trans hheader.revision.symm)
  · intro htake hbeyond
    rw [← hlength] at hbeyond ⊢
    apply ofBytes_of_error
    rw [(hheader.of_take_eq hsize htake le_rfl).payloadBytes_eq, if_pos hbeyond]
  · intro htake hfits
    rw [← hlength] at hfits
    rw [ofBytes_eq_badChecksum_iff, (hheader.of_take_eq hsize htake le_rfl).payloadBytes_eq,
      if_neg (Nat.not_lt.mpr hfits)]
    split
    · rename_i hchecksum
      exact iff_of_true rfl hchecksum
    · rename_i hchecksum
      exact iff_of_false (fun h => by cases h) hchecksum
  · intro htake hdrop
    exact ofBytes_congr (payloadBytes_congr hheader hlength htake hdrop)

theorem exists_payload_of_toBytes {set : RuleSet} {source : Option String} {bytes : Bytes}
    (h : set.toBytes source = .ok bytes) :
    ∃ payload, payload.length < Nat.pow 256 4 ∧ bytes = header payload ++ payload := by
  unfold toBytes at h
  dsimp only at h
  split at h
  · rename_i hlength
    cases h
    exact ⟨_, hlength, rfl⟩
  · cases h

/-- Damage to a cached set is told for what it is: a blob that was cut off by its length, one of the
same length by its first damaged field. Bytes that follow the set are ignored. -/
theorem ofBytes_damaged {set : RuleSet} {source : Option String} {bytes : Bytes}
    (h : set.toBytes source = .ok bytes) :
    (∃ payload, bytes = header payload ++ payload ∧ (header payload).length = headerSize) ∧
      (∀ damaged, damaged <+: bytes → damaged ≠ bytes →
        ofBytes damaged = .error (
          if damaged.length < headerSize then .badLength headerSize damaged.length
          else .badLength (bytes.length - headerSize) (damaged.length - headerSize))) ∧
      (∀ damaged, damaged.length = bytes.length → Diagnosed bytes damaged) ∧
      ∀ tail, ofBytes (bytes ++ tail) = ofBytes bytes := by
  obtain ⟨payload, hlength, rfl⟩ := exists_payload_of_toBytes h
  have hpayload : (header payload ++ payload).length - headerSize = payload.length := by
    rw [List.length_append, length_header]
    omega
  refine ⟨⟨payload, rfl, length_header payload⟩, ?_, fun _ => diagnosed_of_length_eq, ?_⟩
  · intro damaged hcut hne
    rw [hpayload]
    apply ofBytes_of_error
    split
    · rename_i hshort
      exact payloadBytes_of_short hshort
    · rename_i hlong
      exact payloadBytes_of_cut hlength hcut hne (Nat.not_lt.mp hlong)
  · intro tail
    apply ofBytes_congr
    rw [payloadBytes_append hlength tail, payloadBytes_header hlength]

def hidingSet : RuleSet := { RuleSet.empty with hideUnconditionally := true }

/-- Its cached form: the header in two lines, and ten bytes of payload. -/
def hidingBytes : Bytes := [
  82, 71, 82, 83, 1, 0, 1, 0, 0, 0, 0, 0, 10, 0, 0, 0,
  95, 234, 195, 6, 52, 106, 107, 186, 111, 253, 115, 136, 180, 160, 95, 136,
  0, 0, 0, 1, 0, 0, 0, 2, 123, 125]

theorem toBytes_hidingSet : hidingSet.toBytes none = .ok hidingBytes := by
  have hlength : (Part.payload.write (Payload.ofSet hidingSet none)).length < Nat.pow 256 4 := by
    decide +kernel
  have hbytes : header (Part.payload.write (Payload.ofSet hidingSet none)) ++
      Part.payload.write (Payload.ofSet hidingSet none) = hidingBytes := by
    decide +kernel
  unfold toBytes
  dsimp only
  rw [if_pos hlength, hbytes]

theorem ofBytes_damaged_hidingBytes :
    hidingSet.toBytes none = .ok hidingBytes ∧
      ofBytes (hidingBytes.take 31) = .error (.badLength 32 31) ∧
      ofBytes (hidingBytes.take 40) = .error (.badLength 10 8) ∧
      ofBytes (hidingBytes.set 3 0) = .error .badMark ∧
      ofBytes (hidingBytes.set 5 2) = .error (.otherRevision 513 1) ∧
      ofBytes (hidingBytes.set 13 1) = .error (.badLength 266 10) ∧
      ofBytes (hidingBytes.set 12 0) = .error .badChecksum ∧
      ofBytes (hidingBytes.set 35 0) = .error .badChecksum ∧
      ofBytes (hidingBytes.set 7 9) = ofBytes hidingBytes ∧
      ofBytes (hidingBytes ++ [0, 1]) = ofBytes hidingBytes := by
  obtain ⟨-, hcut, hsame, htail⟩ := ofBytes_damaged toBytes_hidingSet
  have hdiagnosed : ∀ i byte, Diagnosed hidingBytes (hidingBytes.set i byte) :=
    fun i byte => hsame _ List.length_set
  refine ⟨toBytes_hidingSet, hcut _ (List.take_prefix 31 _) (by decide +kernel),
    hcut _ (List.take_prefix 40 _) (by decide +kernel), ?_, ?_, ?_, ?_, ?_, ?_, htail _⟩
  · exact (hdiagnosed 3 0).mark (by decide +kernel)
  · exact (hdiagnosed 5 2).revision (by decide +kernel) (by decide +kernel)
  · exact (hdiagnosed 13 1).length (by decide +kernel) (by decide +kernel)
  · apply ((hdiagnosed 12 0).content (by decide +kernel) (by decide +kernel)).mpr
    decide +kernel
  · apply ((hdiagnosed 35 0).content (by decide +kernel) (by decide +kernel)).mpr
    decide +kernel
  · exact (hdiagnosed 7 9).unread (by decide +kernel) (by decide +kernel)

end RuleSet

end ShippingRules
