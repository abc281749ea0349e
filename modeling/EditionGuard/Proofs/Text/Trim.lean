import EditionGuard.Proofs.Text.CharClass
import Mathlib.Data.List.DropRight

/-!
# Trimming

White space that is put around a text is trimmed again, and trimming does not look at the case of
letters.  A text that begins with visible characters is trimmed behind them only.
-/

namespace EditionGuard.Text

theorem isAlpha_toLower (char : Char) : char.toLower.isAlpha = char.isAlpha := by
  cases letter : char.isAlpha with
  | false => rw [toLower_eq_of_isAlpha_eq_false letter, letter]
  | true =>
      -- The last letter is `z`, the character 122.
      have each : ∀ point < 123, (Char.ofNat point).isAlpha = true →
          (Char.ofNat point).toLower.isAlpha = true := by
        decide
      have range := isAlpha_iff.mp letter
      have lowered := each char.toNat (by omega)
      rw [Char.ofNat_toNat] at lowered
      exact lowered letter

theorem isWhiteSpace_toLower (char : Char) : isWhiteSpace char.toLower = isWhiteSpace char := by
  cases letter : char.isAlpha with
  | false => rw [toLower_eq_of_isAlpha_eq_false letter]
  | true =>
      have stillLetter : char.toLower.isAlpha = true := by rw [isAlpha_toLower, letter]
      rw [isWhiteSpace_eq_false_of_isAlpha letter, isWhiteSpace_eq_false_of_isAlpha stillLetter]

variable {front text back : List Char}

theorem trim_eq_rdropWhile (text : List Char) :
    trim text = (text.dropWhile isWhiteSpace).rdropWhile isWhiteSpace :=
  rfl

theorem rdropWhile_append_of_all (white : ∀ char ∈ back, isWhiteSpace char = true) :
    (text ++ back).rdropWhile isWhiteSpace = text.rdropWhile isWhiteSpace := by
  have turned : ∀ char ∈ back.reverse, isWhiteSpace char = true :=
    fun char member => white char (List.mem_reverse.mp member)
  rw [List.rdropWhile, List.rdropWhile, List.reverse_append, List.dropWhile_append_of_pos turned]

theorem trim_padded (whiteFront : ∀ char ∈ front, isWhiteSpace char = true)
    (whiteBack : ∀ char ∈ back, isWhiteSpace char = true) :
    trim (front ++ text ++ back) = trim text := by
  rw [trim_eq_rdropWhile, trim_eq_rdropWhile, List.append_assoc,
    List.dropWhile_append_of_pos whiteFront, List.dropWhile_append]
  split
  · next nothingLeft =>
      have textWhite : text.dropWhile isWhiteSpace = [] := List.isEmpty_iff.mp nothingLeft
      rw [textWhite, List.dropWhile_eq_nil_iff.mpr whiteBack]
  · exact rdropWhile_append_of_all whiteBack

theorem lowerAscii_trim (text : List Char) : lowerAscii (trim text) = trim (lowerAscii text) := by
  have sameClass : isWhiteSpace ∘ Char.toLower = isWhiteSpace := funext isWhiteSpace_toLower
  simp only [trim, lowerAscii, List.dropWhile_map, ← List.map_reverse, sameClass]

theorem trim_visible_append (nonempty : front ≠ [])
    (visible : ∀ char ∈ front, isWhiteSpace char = false) (back : List Char) :
    trim (front ++ back) = front ++ back.rdropWhile isWhiteSpace := by
  have keepsFront : (front ++ back).dropWhile isWhiteSpace = front ++ back := by
    obtain ⟨first, rest, rfl⟩ := List.exists_cons_of_ne_nil nonempty
    rw [List.cons_append, List.dropWhile_cons_of_neg (by simp [visible first List.mem_cons_self])]
  have keepsTurned : front.reverse.dropWhile isWhiteSpace = front.reverse := by
    obtain ⟨last, rest, turned⟩ :=
      List.exists_cons_of_ne_nil (mt List.reverse_eq_nil_iff.mp nonempty)
    have member : last ∈ front := List.mem_reverse.mp (turned ▸ List.mem_cons_self)
    rw [turned, List.dropWhile_cons_of_neg (by simp [visible last member])]
  rw [trim_eq_rdropWhile, keepsFront, List.rdropWhile, List.reverse_append, List.dropWhile_append,
    keepsTurned]
  split
  · next nothingLeft =>
      have backWhite : back.reverse.dropWhile isWhiteSpace = [] := List.isEmpty_iff.mp nothingLeft
      rw [List.rdropWhile, backWhite, List.reverse_reverse, List.reverse_nil, List.append_nil]
  · rw [List.reverse_append, List.reverse_reverse, List.rdropWhile]

end EditionGuard.Text
