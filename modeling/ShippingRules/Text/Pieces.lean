/-!
Texts cut at a separator. A text without the separator is one piece; the pieces joined with the
separator are the text.
-/
namespace ShippingRules.Text

def pieces (separator : Char) : List Char → List (List Char)
  | [] => [[]]
  | c :: rest =>
    if c = separator then [] :: pieces separator rest
    else
      match pieces separator rest with
      | [] => [[c]]
      | head :: tail => (c :: head) :: tail

theorem pieces_ne_nil (separator : Char) (s : List Char) : pieces separator s ≠ [] := by
  cases s with
  | nil => simp [pieces]
  | cons c rest =>
    unfold pieces
    split
    · simp
    · split <;> simp

theorem intercalate_pieces (separator : Char) (s : List Char) :
    [separator].intercalate (pieces separator s) = s := by
  induction s with
  | nil => rfl
  | cons c rest ih =>
    have hne := pieces_ne_nil separator rest
    unfold pieces
    cases hp : pieces separator rest with
    | nil => exact absurd hp hne
    | cons head tail =>
      rw [hp] at ih
      split
      · rename_i hc
        rw [← ih, hc]
        simp [List.intercalate]
      · rw [← ih]
        cases tail <;> simp [List.intercalate]

end ShippingRules.Text
