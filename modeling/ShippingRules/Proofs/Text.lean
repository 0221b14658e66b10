import Mathlib.Data.List.TakeWhile
import ShippingRules.Text.Blank
import ShippingRules.Text.LowerCase
import ShippingRules.Text.Pieces

/-!
Texts that trimming, cutting and lower-casing have nothing special to do on: there is no blank to
trim, no separator to cut at, or no letter whose lower-case form depends on its neighbours.
-/
namespace ShippingRules.Text

theorem dropWhile_of_forall {p : Char → Bool} {s : List Char} (h : ∀ c ∈ s, p c = false) :
    s.dropWhile p = s :=
  List.dropWhile_eq_self_iff.mpr fun hne => Bool.eq_false_iff.mp (h _ (List.getElem_mem hne))

theorem trimChars_eq_self {s : List Char} (h : ∀ c ∈ s, isBlank c = false) : trimChars s = s := by
  have hreverse : ∀ c ∈ s.reverse, isBlank c = false := fun c hc => h c (List.mem_reverse.mp hc)
  rw [trimChars, dropWhile_of_forall h, dropEndWhile, dropWhile_of_forall hreverse,
    List.reverse_reverse]

theorem pieces_of_not_mem {separator : Char} {s : List Char} (h : separator ∉ s) :
    pieces separator s = [s] := by
  induction s with
  | nil => rfl
  | cons c rest ih =>
    rw [List.mem_cons, not_or] at h
    rw [pieces, if_neg (Ne.symm h.1), ih h.2]

/-- Only a capital sigma looks at the characters around it. -/
theorem lowerFrom_eq_flatMap {before s : List Char} (h : ∀ c ∈ s, c.toNat ≠ 0x3a3) :
    lowerFrom before s = s.flatMap lowerChar := by
  induction s generalizing before with
  | nil => rfl
  | cons c rest ih =>
    have hrest : lowerFrom (c :: before) rest = rest.flatMap lowerChar :=
      ih fun d hd => h d (List.mem_cons_of_mem c hd)
    rw [lowerFrom, if_neg (h c List.mem_cons_self), hrest, List.flatMap_cons]

theorem lowerChar_ne_nil (c : Char) : lowerChar c ≠ [] := by
  unfold lowerChar
  split
  · exact List.cons_ne_nil _ _
  · split <;> exact List.cons_ne_nil _ _

end ShippingRules.Text
