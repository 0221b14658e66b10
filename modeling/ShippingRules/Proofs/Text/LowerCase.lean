import Mathlib.Data.List.DropRight
import ShippingRules.Proofs.Text

/-!
Lower-casing a text piece by piece. Commas and blanks have no case, no cased neighbour is looked for
across them, and nothing else turns into one of them. So a text may be cut at its commas before it
is lower-cased as well as after, and it may be trimmed before as well as after.
-/
namespace ShippingRules.Text

section Spacing

/-- The code points of a comma and of the blanks. -/
def spacingRanges : List (Nat × Nat) := [
  (9, 13), (0x20, 0x20), (0x2c, 0x2c), (0x85, 0x85), (0xa0, 0xa0), (0x1680, 0x1680),
  (0x2000, 0x200a), (0x2028, 0x2029), (0x202f, 0x202f), (0x205f, 0x205f), (0x3000, 0x3000)]

def isSpacing (c : Char) : Bool := inRanges spacingRanges c.toNat

/-- No code point of the range is that of a comma or a blank. -/
def clearOfSpacing (range : Nat × Nat) : Bool :=
  spacingRanges.all fun spacing => range.2 < spacing.1 || spacing.2 < range.1

theorem isSpacing_comma : isSpacing ',' = true := by decide

theorem isSpacing_of_isBlank {c : Char} (h : isBlank c = true) : isSpacing c = true := by
  have hcode := of_decide_eq_true h
  simp only [isSpacing, inRanges, spacingRanges, List.any_cons, List.any_nil, Bool.or_eq_true,
    decide_eq_true_eq]
  omega

theorem not_spacing_of_clear {range : Nat × Nat} (h : clearOfSpacing range = true) {code : Nat}
    (hlow : range.1 ≤ code) (hhigh : code ≤ range.2) : inRanges spacingRanges code = false := by
  refine List.any_eq_false.mpr fun spacing hmem hcode => ?_
  have happart := List.all_eq_true.mp h spacing hmem
  simp only [Bool.or_eq_true, decide_eq_true_eq] at happart hcode
  omega

theorem not_inRanges_of_isSpacing {ranges : List (Nat × Nat)}
    (h : ranges.all clearOfSpacing = true) {c : Char} (hc : isSpacing c = true) :
    inRanges ranges c.toNat = false := by
  refine List.any_eq_false.mpr fun range hmem hcode => ?_
  obtain ⟨hlow, hhigh⟩ := of_decide_eq_true hcode
  have hclear := not_spacing_of_clear (List.all_eq_true.mp h range hmem) hlow hhigh
  exact absurd (hc.symm.trans hclear) (by decide)

theorem isCased_of_isSpacing {c : Char} (h : isSpacing c = true) : isCased c = false :=
  not_inRanges_of_isSpacing (by decide +kernel) h

theorem isCaseIgnorable_of_isSpacing {c : Char} (h : isSpacing c = true) :
    isCaseIgnorable c = false :=
  not_inRanges_of_isSpacing (by decide +kernel) h

/-- No range of the table has a comma or a blank in it, nor among the lower-case forms. -/
theorem clearOfSpacing_of_mem_lowerRanges {range : CaseRange} (h : range ∈ lowerRanges) :
    clearOfSpacing (range.first, range.last) = true ∧
      clearOfSpacing ((range.first + range.shift).toNat, (range.last + range.shift).toNat) =
        true := by
  have hall : (lowerRanges.all fun range => clearOfSpacing (range.first, range.last) &&
      clearOfSpacing ((range.first + range.shift).toNat, (range.last + range.shift).toNat)) =
        true := by decide +kernel
  simpa using List.all_eq_true.mp hall range h

theorem not_spacing_of_lowered? {range : CaseRange} (h : range ∈ lowerRanges) {code lowered : Nat}
    (hlowered : range.lowered? code = some lowered) :
    inRanges spacingRanges code = false ∧ inRanges spacingRanges lowered = false := by
  obtain ⟨hsource, htarget⟩ := clearOfSpacing_of_mem_lowerRanges h
  unfold CaseRange.lowered? at hlowered
  split at hlowered
  · rename_i hcode
    cases hlowered
    obtain ⟨hlow, hhigh, -⟩ := hcode
    refine ⟨not_spacing_of_clear hsource hlow hhigh, not_spacing_of_clear htarget ?_ ?_⟩
    · exact Int.toNat_le_toNat (by omega)
    · exact Int.toNat_le_toNat (by omega)
  · cases hlowered

theorem lowerChar_of_isSpacing {c : Char} (h : isSpacing c = true) : lowerChar c = [c] := by
  have hne : c.toNat ≠ 0x130 := by
    intro hcode
    rw [isSpacing, hcode] at h
    exact absurd h (by decide)
  cases hfound : lowerRanges.findSome? (·.lowered? c.toNat) with
  | none => rw [lowerChar, if_neg hne, hfound]
  | some code =>
    obtain ⟨range, hrange, hlowered⟩ := List.exists_of_findSome?_eq_some hfound
    exact absurd (h.symm.trans (not_spacing_of_lowered? hrange hlowered).1) (by decide)

theorem ne_sigma_of_isSpacing {c : Char} (h : isSpacing c = true) : c.toNat ≠ 0x3a3 := by
  intro hcode
  rw [isSpacing, hcode] at h
  exact absurd h (by decide)

theorem startsCased_cons (c : Char) (s : List Char) :
    startsCased (c :: s) = if isCaseIgnorable c then startsCased s else isCased c := by
  rw [startsCased, List.dropWhile_cons]
  cases isCaseIgnorable c with
  | true => rfl
  | false => rfl

/-- The search for a cased character ends at a comma or a blank. -/
theorem startsCased_append {c : Char} (hc : isSpacing c = true) (s rest : List Char) :
    startsCased (s ++ c :: rest) = startsCased s := by
  induction s with
  | nil =>
    rw [List.nil_append, startsCased_cons, isCaseIgnorable_of_isSpacing hc,
      isCased_of_isSpacing hc]
    rfl
  | cons d tail ih => rw [List.cons_append, startsCased_cons, startsCased_cons, ih]

theorem lowerFrom_before {c : Char} (hc : isSpacing c = true) (before more s : List Char) :
    lowerFrom (before ++ c :: more) s = lowerFrom before s := by
  induction s generalizing before with
  | nil => rfl
  | cons d rest ih => rw [lowerFrom, lowerFrom, startsCased_append hc, ← List.cons_append, ih]

/-- What stands on both sides of a comma or a blank is lower-cased apart. -/
theorem lowerFrom_append {c : Char} (hc : isSpacing c = true) (before s rest : List Char) :
    lowerFrom before (s ++ c :: rest) = lowerFrom before s ++ c :: lowerChars rest := by
  induction s generalizing before with
  | nil =>
    have hrest : lowerFrom (c :: before) rest = lowerChars rest := lowerFrom_before hc [] _ _
    rw [List.nil_append, lowerFrom, lowerFrom, if_neg (ne_sigma_of_isSpacing hc),
      lowerChar_of_isSpacing hc, hrest]
    rfl
  | cons d tail ih =>
    rw [List.cons_append, lowerFrom, lowerFrom, startsCased_append hc, ih, List.append_assoc]

end Spacing

section Forms

theorem toNat_ofNat (code : Nat) :
    (Char.ofNat code).toNat = code ∨ (Char.ofNat code).toNat = 0 := by
  by_cases h : code.isValidChar
  · exact .inl (congrArg Char.toNat (dif_pos h))
  · exact .inr (congrArg Char.toNat (dif_neg h))

/-- A character stays, or else its lower-case form is neither a comma nor blank. -/
theorem lowerChar_eq_self_or (c : Char) :
    lowerChar c = [c] ∨ (lowerChar c).any isSpacing = false := by
  unfold lowerChar
  split
  · exact .inr (by decide)
  · cases hfound : lowerRanges.findSome? (·.lowered? c.toNat) with
    | none => exact .inl rfl
    | some code =>
      obtain ⟨range, hrange, hlowered⟩ := List.exists_of_findSome?_eq_some hfound
      have hcode := (not_spacing_of_lowered? hrange hlowered).2
      refine .inr ?_
      rw [List.any_cons, List.any_nil, Bool.or_false, isSpacing]
      rcases toNat_ofNat code with hnat | hnat
      · rwa [hnat]
      · rw [hnat]
        decide

/-- Within a text a character stays, or else it gives way to characters that are neither commas nor
blank. -/
theorem exists_lowerFrom_cons (before : List Char) (c : Char) (rest : List Char) :
    ∃ here, lowerFrom before (c :: rest) = here ++ lowerFrom (c :: before) rest ∧
      here ≠ [] ∧ (here = [c] ∨ here.any isSpacing = false) := by
  refine ⟨_, rfl, ?_⟩
  split
  · split
    · exact ⟨List.cons_ne_nil _ _, .inr (by decide)⟩
    · exact ⟨List.cons_ne_nil _ _, .inr (by decide)⟩
  · exact ⟨lowerChar_ne_nil c, lowerChar_eq_self_or c⟩

theorem comma_not_mem_lowerFrom {before s : List Char} (h : ',' ∉ s) :
    ',' ∉ lowerFrom before s := by
  induction s generalizing before with
  | nil => exact List.not_mem_nil
  | cons c rest ih =>
    rw [List.mem_cons, not_or] at h
    obtain ⟨here, hlower, -, hform⟩ := exists_lowerFrom_cons before c rest
    rw [hlower, List.mem_append, not_or]
    refine ⟨?_, ih h.2⟩
    rcases hform with rfl | havoids
    · exact fun hmem => h.1 (List.mem_singleton.mp hmem)
    · exact fun hmem => List.any_eq_false.mp havoids ',' hmem isSpacing_comma

end Forms

section Pieces

theorem pieces_append_cons {separator : Char} {s : List Char} (h : separator ∉ s)
    (rest : List Char) :
    pieces separator (s ++ separator :: rest) = s :: pieces separator rest := by
  induction s with
  | nil => exact if_pos rfl
  | cons c tail ih =>
    rw [List.mem_cons, not_or] at h
    rw [List.cons_append, pieces, if_neg (Ne.symm h.1), ih h.2]

/-- A text may be cut at its commas before it is lower-cased or after. -/
theorem pieces_lowerChars (s : List Char) :
    pieces ',' (lowerChars s) = (pieces ',' s).map lowerChars := by
  by_cases h : ',' ∈ s
  · obtain ⟨front, rest, hs, hfront⟩ := List.eq_append_cons_of_mem h
    have hshorter : rest.length < s.length := by
      rw [hs, List.length_append, List.length_cons]
      omega
    have ih := pieces_lowerChars rest
    have hlower : ',' ∉ lowerChars front := comma_not_mem_lowerFrom hfront
    rw [hs, pieces_append_cons hfront, lowerChars, lowerFrom_append isSpacing_comma, ← lowerChars,
      pieces_append_cons hlower, ih, List.map_cons]
  · have hlower : ',' ∉ lowerChars s := comma_not_mem_lowerFrom h
    rw [pieces_of_not_mem h, pieces_of_not_mem hlower]
    rfl
termination_by s.length

end Pieces

section Trimming

theorem not_isBlank_of_form {c : Char} (hc : isBlank c = false) {here : List Char}
    (hform : here = [c] ∨ here.any isSpacing = false) : ∀ d ∈ here, ¬isBlank d = true := by
  intro d hd hblank
  rcases hform with rfl | havoids
  · rw [List.mem_singleton.mp hd, hc] at hblank
    exact Bool.false_ne_true hblank
  · exact List.any_eq_false.mp havoids d hd (isSpacing_of_isBlank hblank)

/-- The last character gives way as any other does. -/
theorem exists_lowerFrom_concat (before s : List Char) (c : Char) :
    ∃ front here, lowerFrom before (s ++ [c]) = front ++ here ∧
      here ≠ [] ∧ (here = [c] ∨ here.any isSpacing = false) := by
  induction s generalizing before with
  | nil =>
    obtain ⟨here, hlower, hne, hform⟩ := exists_lowerFrom_cons before c []
    rw [lowerFrom, List.append_nil] at hlower
    exact ⟨[], here, hlower, hne, hform⟩
  | cons d rest ih =>
    obtain ⟨first, hlower, -, -⟩ := exists_lowerFrom_cons before d (rest ++ [c])
    obtain ⟨front, here, hrest, hne, hform⟩ := ih (d :: before)
    refine ⟨first ++ front, here, ?_, hne, hform⟩
    rw [List.cons_append, hlower, hrest, List.append_assoc]

theorem dropWhile_lowerChars (s : List Char) :
    (lowerChars s).dropWhile isBlank = lowerChars (s.dropWhile isBlank) := by
  induction s with
  | nil => rfl
  | cons c rest ih =>
    cases hc : isBlank c with
    | true =>
      have hlower : lowerChars (c :: rest) = c :: lowerChars rest :=
        lowerFrom_append (isSpacing_of_isBlank hc) [] [] rest
      rw [hlower, List.dropWhile_cons_of_pos hc, List.dropWhile_cons_of_pos hc, ih]
    | false =>
      obtain ⟨here, hlower, hne, hform⟩ := exists_lowerFrom_cons [] c rest
      obtain ⟨d, tail, rfl⟩ := List.exists_cons_of_ne_nil hne
      have hd := not_isBlank_of_form hc hform d List.mem_cons_self
      rw [List.dropWhile_cons_of_neg (Bool.eq_false_iff.mp hc), lowerChars, hlower,
        List.cons_append, List.dropWhile_cons_of_neg hd]

theorem dropEndWhile_eq_rdropWhile (p : Char → Bool) (s : List Char) :
    dropEndWhile p s = s.rdropWhile p := rfl

theorem rdropWhile_lowerChars (s : List Char) :
    (lowerChars s).rdropWhile isBlank = lowerChars (s.rdropWhile isBlank) := by
  induction s using List.reverseRecOn with
  | nil => rfl
  | append_singleton front c ih =>
    cases hc : isBlank c with
    | true =>
      have hlower : lowerChars (front ++ [c]) = lowerChars front ++ [c] :=
        lowerFrom_append (isSpacing_of_isBlank hc) [] front []
      rw [hlower, List.rdropWhile_concat_pos _ _ _ hc, List.rdropWhile_concat_pos _ _ _ hc, ih]
    | false =>
      obtain ⟨before, here, hlower, hne, hform⟩ := exists_lowerFrom_concat [] front c
      obtain ⟨body, d, rfl⟩ := (List.eq_nil_or_concat' here).resolve_left hne
      have hd := not_isBlank_of_form hc hform d (List.mem_append_right _ List.mem_cons_self)
      rw [List.rdropWhile_concat_neg _ _ _ (Bool.eq_false_iff.mp hc), lowerChars, hlower,
        ← List.append_assoc, List.rdropWhile_concat_neg _ _ _ hd]

/-- A text may be trimmed before it is lower-cased or after. -/
theorem trimChars_lowerChars (s : List Char) :
    trimChars (lowerChars s) = lowerChars (trimChars s) := by
  rw [trimChars, trimChars, dropEndWhile_eq_rdropWhile, dropEndWhile_eq_rdropWhile,
    dropWhile_lowerChars, rdropWhile_lowerChars]

theorem lowerChars_eq_nil_iff {s : List Char} : lowerChars s = [] ↔ s = [] := by
  constructor
  · intro hnil
    cases s with
    | nil => rfl
    | cons c rest =>
      obtain ⟨here, hlower, hne, -⟩ := exists_lowerFrom_cons [] c rest
      rw [lowerChars, hlower] at hnil
      exact absurd (List.append_eq_nil_iff.mp hnil).1 hne
  · intro hs
    rw [hs]
    rfl

/-- A piece is blank just when it is blank in lower case. -/
theorem trimChars_lowerChars_eq_nil_iff {s : List Char} :
    trimChars (lowerChars s) = [] ↔ trimChars s = [] := by
  rw [trimChars_lowerChars, lowerChars_eq_nil_iff]

end Trimming

end ShippingRules.Text
