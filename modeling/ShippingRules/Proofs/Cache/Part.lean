import ShippingRules.Cache.Payload

/-!
What the parts of a payload write is read back, whatever follows it. A part that is faithful writes
at least one byte and restores everything it writes in less than 2^64 bytes, so the lengths that
stand inside what it writes fit their fields.
-/
namespace ShippingRules.Cache

theorem readFixed_littleEndian {width n : Nat} (h : n < Nat.pow 256 width) (rest : Bytes) :
    readFixed width (littleEndian width n ++ rest) = some (n, rest) := by
  have htake := takeBytes_append (littleEndian width n) rest
  rw [length_littleEndian] at htake
  rw [readFixed, htake, Option.map_some]
  dsimp only
  rw [ofLittleEndian_littleEndian width n h]

theorem toNat_ofNat_of_lt {n : Nat} (h : n < 256) : (UInt8.ofNat n).toNat = n := by
  rw [UInt8.toNat_ofNat']
  exact Nat.mod_eq_of_lt h

theorem readLength_small {n : Nat} (width : Width) (h : n < 251) (rest : Bytes) :
    readLength width (writeLength n ++ rest) = some (n, rest) := by
  have hbyte : (UInt8.ofNat n).toNat = n := toNat_ofNat_of_lt (by omega)
  rw [writeLength, if_pos h, List.singleton_append, readLength, hbyte, if_pos h]

theorem readLength_writeLength {n : Nat} (h : n < Nat.pow 256 8) (rest : Bytes) :
    readLength .eight (writeLength n ++ rest) = some (n, rest) := by
  by_cases hsmall : n < 251
  · exact readLength_small .eight hsmall rest
  · rw [writeLength, if_neg hsmall]
    split
    · rename_i htwo
      rw [List.cons_append, readLength, if_neg (by decide), if_pos rfl]
      exact readFixed_littleEndian htwo rest
    · split
      · rename_i hfour
        rw [List.cons_append, readLength, if_neg (by decide), if_neg (by decide), if_pos rfl]
        exact readFixed_littleEndian hfour rest
      · rw [List.cons_append, readLength, if_neg (by decide), if_neg (by decide),
          if_neg (by decide), if_pos ⟨rfl, rfl⟩]
        exact readFixed_littleEndian h rest

theorem writeLength_ne_nil (n : Nat) : writeLength n ≠ [] := by
  unfold writeLength
  split
  · nofun
  · split
    · nofun
    · split <;> nofun

namespace Part

variable {α β : Type}

/-- What the part writes for this value is read back as it. -/
def Restores (part : Part α) (a : α) : Prop :=
  ∀ rest, part.read (part.write a ++ rest) = some (a, rest)

/-- The part restores all that it writes within the bytes that a length can count. -/
structure Faithful (part : Part α) : Prop where
  nonempty : ∀ a, part.write a ≠ []
  restores : ∀ a, (part.write a).length < Nat.pow 256 8 → part.Restores a

theorem restores_size {n : Nat} (h : n < Nat.pow 256 8) : size.Restores n :=
  readLength_writeLength h

theorem restores_alternative {n : Nat} (h : n < 251) : alternative.Restores n :=
  readLength_small .four h

theorem faithful_flag : flag.Faithful := by
  constructor
  · nofun
  · intro b _ rest
    cases b <;> rfl

theorem faithful_double : double.Faithful := by
  constructor
  · intro x h
    have hlength := length_littleEndian 8 x.bits.toNat
    rw [show littleEndian 8 x.bits.toNat = [] from h] at hlength
    cases hlength
  · intro x _ rest
    have hbits : x.bits.toNat < Nat.pow 256 8 := x.bits.toNat_lt
    simp only [double, readFixed_littleEndian hbits, Option.map_some, UInt64.ofNat_toNat]

theorem textOfBytes?_textBytes (s : String) : textOfBytes? (textBytes s) = some s := by
  unfold textOfBytes? textBytes
  rw [Array.toArray_toList]
  exact dif_pos s.isValidUTF8

theorem faithful_text : text.Faithful := by
  constructor
  · intro s h
    exact writeLength_ne_nil _ (List.append_eq_nil_iff.mp h).1
  · intro s h rest
    have hlength : (textBytes s).length < Nat.pow 256 8 := by
      have happend : (text.write s).length =
          (writeLength (textBytes s).length).length + (textBytes s).length := List.length_append
      omega
    simp only [text, List.append_assoc, readLength_writeLength hlength, takeBytes_append,
      textOfBytes?_textBytes, Option.bind_eq_bind, Option.bind_some]
    rfl

theorem faithful_digest : digest.Faithful := by
  constructor
  · intro d h
    have hlength := d.length_eq
    rw [show d.bytes = [] from h] at hlength
    cases hlength
  · intro d _ rest
    have hfront : (d.bytes ++ rest).take 32 = d.bytes := List.take_left' d.length_eq
    have hback : (d.bytes ++ rest).drop 32 = rest := List.drop_left' d.length_eq
    simp only [digest, hfront, hback, d.length_eq, dif_pos]

variable {first : Part α} {second : Part β} {part : Part α}

theorem restores_pair {p : α × β} (hfirst : first.Restores p.1) (hsecond : second.Restores p.2) :
    (pair first second).Restores p := by
  intro rest
  simp only [pair, List.append_assoc, hfirst (second.write p.2 ++ rest), hsecond rest,
    Option.bind_eq_bind, Option.bind_some]
  rfl

theorem faithful_pair (hfirst : first.Faithful) (hsecond : second.Faithful) :
    (pair first second).Faithful := by
  constructor
  · intro p h
    exact hfirst.nonempty p.1 (List.append_eq_nil_iff.mp h).1
  · intro p h
    have hlength : ((pair first second).write p).length =
        (first.write p.1).length + (second.write p.2).length := List.length_append
    apply restores_pair
    · exact hfirst.restores p.1 (by omega)
    · exact hsecond.restores p.2 (by omega)

theorem faithful_optional (h : part.Faithful) : (optional part).Faithful := by
  constructor
  · intro o
    cases o <;> nofun
  · intro o hlength rest
    cases o with
    | none => rfl
    | some a =>
      have happend : ((optional part).write (some a)).length = 1 + (part.write a).length :=
        Nat.add_comm _ _
      have hread := h.restores a (by omega) rest
      have hflag : flag.read (flag.write true ++ (part.write a ++ rest)) =
          some (true, part.write a ++ rest) := rfl
      simp only [optional, List.append_assoc, hflag, hread, Option.bind_eq_bind, Option.bind_some,
        if_true]
      rfl

theorem length_le_flatMap (hpart : part.Faithful) (items : List α) :
    items.length ≤ (items.flatMap part.write).length := by
  induction items with
  | nil => exact Nat.le_refl 0
  | cons head rest ih =>
    have hpos := List.length_pos_iff.mpr (hpart.nonempty head)
    rw [List.flatMap_cons, List.length_append, List.length_cons]
    omega

theorem length_write_le_flatMap {items : List α} {item : α} (h : item ∈ items) :
    (part.write item).length ≤ (items.flatMap part.write).length := by
  induction items with
  | nil => cases h
  | cons head rest ih =>
    rw [List.flatMap_cons, List.length_append]
    rcases List.mem_cons.mp h with rfl | hrest
    · omega
    · have hle := ih hrest
      omega

theorem readMany_flatMap {items : List α} (h : ∀ item ∈ items, part.Restores item)
    (rest : Bytes) :
    readMany part items.length (items.flatMap part.write ++ rest) = some (items, rest) := by
  induction items with
  | nil => rfl
  | cons head tail ih =>
    have hhead := h head List.mem_cons_self (tail.flatMap part.write ++ rest)
    have htail := ih fun item hitem => h item (List.mem_cons_of_mem _ hitem)
    simp only [List.flatMap_cons, List.append_assoc, List.length_cons, readMany, hhead, htail,
      Option.bind_eq_bind, Option.bind_some]
    rfl

theorem faithful_sequence (hpart : part.Faithful) : (sequence part).Faithful := by
  constructor
  · intro items h
    exact writeLength_ne_nil _ (List.append_eq_nil_iff.mp h).1
  · intro items h rest
    have hlength : ((sequence part).write items).length =
        (writeLength items.length).length + (items.flatMap part.write).length := List.length_append
    have hcount := length_le_flatMap hpart items
    have hitems : ∀ item ∈ items, part.Restores item := by
      intro item hitem
      have hle : (part.write item).length ≤ (items.flatMap part.write).length :=
        length_write_le_flatMap hitem
      exact hpart.restores item (by omega)
    have hread := readLength_writeLength (show items.length < Nat.pow 256 8 by omega)
      (items.flatMap part.write ++ rest)
    simp only [sequence, List.append_assoc, hread, Option.bind_eq_bind, Option.bind_some]
    exact readMany_flatMap hitems rest

theorem restores_convert {build : α → β} {view : β → α} {b : β} (h : build (view b) = b)
    (hpart : part.Restores (view b)) : (part.convert build view).Restores b := by
  intro rest
  have hread := hpart rest
  simp only [convert, hread, Option.map_some, h]

theorem faithful_convert {build : α → β} {view : β → α} (h : ∀ b, build (view b) = b)
    (hpart : part.Faithful) : (part.convert build view).Faithful := by
  constructor
  · intro b
    exact hpart.nonempty (view b)
  · intro b hlength
    exact restores_convert (h b) (hpart.restores (view b) hlength)

theorem faithful_mode : mode.Faithful := by
  constructor
  · intro m
    exact writeLength_ne_nil _
  · intro m _ rest
    cases m <;> rfl

theorem alternative_write_ne_nil (n : Nat) : alternative.write n ≠ [] := writeLength_ne_nil n

/-- What stands after the number of its alternative is read back with it. -/
theorem Faithful.restores_tagged (h : part.Faithful) {tag : Nat} (htag : tag < 251) {a : α}
    (hlength : (alternative.write tag ++ part.write a).length < Nat.pow 256 8) (rest : Bytes) :
    alternative.read (alternative.write tag ++ (part.write a ++ rest)) =
        some (tag, part.write a ++ rest) ∧
      part.read (part.write a ++ rest) = some (a, rest) := by
  rw [List.length_append] at hlength
  exact ⟨restores_alternative htag _, h.restores a (by omega) rest⟩

theorem faithful_value : value.Faithful := by
  constructor
  · intro v h
    cases v <;> exact alternative_write_ne_nil _ (List.append_eq_nil_iff.mp h).1
  · intro v h rest
    cases v with
    | number x =>
      have hread := faithful_double.restores_tagged (by decide) h rest
      simp only [value, List.append_assoc, hread, Option.bind_eq_bind, Option.bind_some,
        Option.map_some]
    | text s =>
      have hread := faithful_text.restores_tagged (by decide) h rest
      simp only [value, List.append_assoc, hread, Option.bind_eq_bind, Option.bind_some,
        Option.map_some]
    | list items =>
      have hread := (faithful_sequence faithful_text).restores_tagged (by decide) h rest
      simp only [value, List.append_assoc, hread, Option.bind_eq_bind, Option.bind_some,
        Option.map_some]
    | instant s =>
      have hread := faithful_text.restores_tagged (by decide) h rest
      simp only [value, List.append_assoc, hread, Option.bind_eq_bind, Option.bind_some,
        Option.map_some]
    | bool b =>
      have hread := faithful_flag.restores_tagged (by decide) h rest
      simp only [value, List.append_assoc, hread, Option.bind_eq_bind, Option.bind_some,
        Option.map_some]

theorem faithful_rule : rule.Faithful := by
  apply faithful_convert
  · intro r
    rfl
  · exact faithful_pair faithful_text (faithful_pair faithful_text (faithful_pair
      (faithful_sequence (faithful_pair faithful_text faithful_value)) faithful_text))

/-- A payload is read back if its rule count and the bytes it takes fit a length. -/
theorem restores_payload {p : Payload} (hcount : p.ruleCount < Nat.pow 256 8)
    (hlength : (payload.write p).length < Nat.pow 256 8) : payload.Restores p := by
  have hrest := faithful_pair (faithful_optional faithful_digest) (faithful_pair faithful_mode
    (faithful_pair faithful_flag (faithful_pair faithful_flag (faithful_pair
      (faithful_optional faithful_text) (faithful_pair (faithful_sequence faithful_rule)
        faithful_text)))))
  apply restores_convert
  · rfl
  · apply restores_pair (restores_size hcount)
    apply hrest.restores
    refine Nat.lt_of_le_of_lt ?_ hlength
    exact Nat.le_trans (Nat.le_add_left _ _) (Nat.le_of_eq List.length_append.symm)

theorem length_rules_le (p : Payload) : p.rules.length ≤ (payload.write p).length := by
  have hrules := length_le_flatMap faithful_rule p.rules
  simp only [payload, convert, pair, sequence, List.length_append]
  omega

end Part

end ShippingRules.Cache
