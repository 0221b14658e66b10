import ShippingRules.Fields.Lemmas
import ShippingRules.Proofs.Json.NumberText

/-!
Texts and sequences are read as they were written. Every character of a text survives its escape. A
sequence survives its commas: if each item is read from the front of a text with an outcome of its
own, the sequence is read as the list of the outcomes, and refused if one of them is.
-/
namespace ShippingRules.Json

theorem hexValue?_hexDigit (n : Nat) : hexValue? (hexDigit n) = some (n % 16) := by
  have hdigit : ∀ m, m < 16 → hexValue? (Nat.digitChar m) = some m := by decide
  exact hdigit (n % 16) (Nat.mod_lt _ (by decide))

theorem readUnit_hexDigits {n : Nat} (h : n < 32) (rest : List Char) :
    readUnit ('0' :: '0' :: hexDigit (n / 16) :: hexDigit n :: rest) = some (n, rest) := by
  have hzero : hexValue? '0' = some 0 := by decide
  simp only [readUnit, hzero, hexValue?_hexDigit, Option.bind_eq_bind, Option.bind_some, pure,
    Option.some.injEq, Prod.mk.injEq, and_true]
  omega

theorem readText_backslash {acc s tail : List Char} {c : Char}
    (h : readEscape s = some (c, tail)) :
    readText acc ('\\' :: s) = readText (c :: acc) tail := by
  rw [readText, if_neg (by decide), if_pos rfl]
  split
  · rename_i hread
    cases h.symm.trans hread
    rfl
  · rename_i hread
    cases h.symm.trans hread

/-- A character that does not stand for itself is a backslash and what names it. -/
theorem exists_readEscape {c : Char} (hplain : escape c ≠ [c]) (rest : List Char) :
    ∃ code, escape c = '\\' :: code ∧ readEscape (code ++ rest) = some (c, rest) := by
  unfold escape at hplain ⊢
  split
  · exact ⟨['"'], rfl, by simp_all [readEscape]⟩
  split
  · exact ⟨['\\'], rfl, by simp_all [readEscape]⟩
  split
  · exact ⟨['n'], rfl, by simp_all [readEscape]⟩
  split
  · exact ⟨['r'], rfl, by simp_all [readEscape]⟩
  split
  · exact ⟨['t'], rfl, by simp_all [readEscape]⟩
  split
  · rename_i h
    have hc : Char.ofNat 8 = c := h ▸ Char.ofNat_toNat c
    exact ⟨['b'], rfl, by simpa [readEscape] using hc⟩
  split
  · rename_i h
    have hc : Char.ofNat 12 = c := h ▸ Char.ofNat_toNat c
    exact ⟨['f'], rfl, by simpa [readEscape] using hc⟩
  split
  · rename_i h
    have hunit := readUnit_hexDigits h rest
    have hlow : c.toNat < 0xD800 := by omega
    have hscalar : readScalar c.toNat rest = some (c, rest) := by simp [readScalar, hlow]
    refine ⟨['u', '0', '0', hexDigit (c.toNat / 16), hexDigit c.toNat], rfl, ?_⟩
    simp [readEscape, hunit, hscalar]
  · simp_all

/-- The escape of a character is read as that character. -/
theorem readText_escape (c : Char) (acc rest : List Char) :
    readText acc (escape c ++ rest) = readText (c :: acc) rest := by
  by_cases hplain : escape c = [c]
  · rw [hplain]
    grind [escape, readText]
  · obtain ⟨code, hcode, hread⟩ := exists_readEscape hplain rest
    rw [hcode]
    exact readText_backslash hread

theorem readText_flatMap (cs acc rest : List Char) :
    readText acc (cs.flatMap escape ++ '"' :: rest) = some (acc.reverse ++ cs, rest) := by
  induction cs generalizing acc with
  | nil => simp [readText]
  | cons c tail ih =>
    rw [List.flatMap_cons, List.append_assoc, readText_escape, ih]
    simp

theorem readText_quoted (s : String) (rest : List Char) :
    (quoted s ++ rest) = '"' :: (s.toList.flatMap escape ++ '"' :: rest) ∧
      readText [] (s.toList.flatMap escape ++ '"' :: rest) = some (s.toList, rest) := by
  refine ⟨by simp [quoted], ?_⟩
  simpa using readText_flatMap s.toList [] rest

theorem skipBlanks_cons {c : Char} (hc : isBlank c = false) (rest : List Char) :
    skipBlanks (c :: rest) = c :: rest := by
  simp [skipBlanks, hc]

/-- A text that starts with a visible character other than the given one. -/
def StartsApart (close : Char) (s : List Char) : Prop :=
  ∃ c tail, s = c :: tail ∧ isBlank c = false ∧ c ≠ close

theorem StartsApart.skipBlanks_append {close : Char} {s : List Char} (h : StartsApart close s)
    (rest : List Char) : skipBlanks (s ++ rest) = s ++ rest := by
  obtain ⟨c, tail, rfl, hc, _⟩ := h
  exact skipBlanks_cons hc _

/-- What closes a sequence: it is not blank, is no comma and extends no number. -/
structure Closes (close : Char) : Prop where
  visible : isBlank close = false
  notComma : close ≠ ','
  ends : close.isDigit = false ∧ close ≠ '.' ∧ close ≠ 'e' ∧ close ≠ 'E'

section Sequences

variable {α β : Type} {item : Reader β} {write : α → List Char} {outcome : α → Option β}
  {close : Char}

/-- Wherever a text stands, it is read with the same outcome. -/
def ReadAs (item : Reader β) (s : List Char) (outcome : Option β) : Prop :=
  ∀ rest, EndsNumber rest → item.run (s ++ rest) = outcome.map (·, rest)

theorem readItems_of_none {s : List Char} (hrun : item.run s = none) :
    readItems item close s = none := by
  rw [readItems]
  split
  · rfl
  · rename_i hsome
    cases hrun.symm.trans hsome

theorem readItems_of_comma {s rest more : List Char} {b : β} (hrun : item.run s = some (b, rest))
    (hrest : skipBlanks rest = ',' :: more) :
    readItems item close s =
      (readItems item close (skipBlanks more)).map fun (items, tail) => (b :: items, tail) := by
  rw [readItems]
  split
  · simp_all
  · rename_i hsome
    cases hrun.symm.trans hsome
    split <;> simp_all

theorem readItems_of_close {s rest more : List Char} {b : β} (hclose : Closes close)
    (hrun : item.run s = some (b, rest)) (hrest : skipBlanks rest = close :: more) :
    readItems item close s = some ([b], more) := by
  have hne := hclose.notComma
  rw [readItems]
  split
  · simp_all
  · rename_i hsome
    cases hrun.symm.trans hsome
    split <;> simp_all

theorem endsNumber_comma (rest : List Char) : EndsNumber (',' :: rest) :=
  endsNumber_cons rest (by decide)

theorem readItems_commas (hclose : Closes close) (rest : List Char) (more : List α) (a : α)
    (hread : ∀ b ∈ a :: more, ReadAs item (write b) (outcome b))
    (hstart : ∀ b ∈ more, StartsApart close (write b)) :
    readItems item close
        (write a ++ ((more.flatMap fun b => ',' :: write b) ++ close :: rest)) =
      ((a :: more).mapM outcome).map (·, rest) := by
  induction more generalizing a with
  | nil =>
    have hrun := hread a List.mem_cons_self (close :: rest) (endsNumber_cons rest hclose.ends)
    cases houtcome : outcome a with
    | none =>
      rw [houtcome] at hrun
      simp [houtcome, readItems_of_none hrun]
    | some b =>
      rw [houtcome] at hrun
      have hitems := readItems_of_close hclose hrun (skipBlanks_cons hclose.visible rest)
      simp [houtcome, hitems]
  | cons b more ih =>
    have htail := ih b (fun x hx => hread x (List.mem_cons_of_mem _ hx))
      (fun x hx => hstart x (List.mem_cons_of_mem _ hx))
    have hrun := hread a List.mem_cons_self _ (endsNumber_comma
      (write b ++ ((more.flatMap fun b => ',' :: write b) ++ close :: rest)))
    have hblank := (hstart b List.mem_cons_self).skipBlanks_append
      ((more.flatMap fun b => ',' :: write b) ++ close :: rest)
    rw [List.flatMap_cons, List.cons_append, List.cons_append, List.append_assoc, List.mapM_cons]
    cases houtcome : outcome a with
    | none =>
      rw [houtcome] at hrun
      rw [readItems_of_none hrun]
      rfl
    | some first =>
      rw [houtcome] at hrun
      rw [readItems_of_comma hrun (skipBlanks_cons (by decide) _), hblank, htail]
      cases (b :: more).mapM outcome <;> rfl

/-- A sequence as it is written, without its opening character. -/
def commaList (write : α → List Char) : List α → List Char
  | [] => []
  | a :: more => write a ++ more.flatMap fun b => ',' :: write b

theorem readSequence_commaList (hclose : Closes close) (rest : List Char) (items : List α)
    (hread : ∀ a ∈ items, ReadAs item (write a) (outcome a))
    (hstart : ∀ a ∈ items, StartsApart close (write a)) :
    readSequence item close (commaList write items ++ close :: rest) =
      (items.mapM outcome).map (·, rest) := by
  cases items with
  | nil => simp [commaList, readSequence, skipBlanks_cons hclose.visible]
  | cons a more =>
    have hitems := readItems_commas hclose rest more a hread
      fun b hb => hstart b (List.mem_cons_of_mem _ hb)
    obtain ⟨c, tail, hwrite, hblank, hne⟩ := hstart a List.mem_cons_self
    rw [commaList, List.append_assoc, readSequence]
    rw [hwrite, List.cons_append] at hitems ⊢
    simp only [skipBlanks_cons hblank, if_neg hne, hitems]

end Sequences

end ShippingRules.Json
