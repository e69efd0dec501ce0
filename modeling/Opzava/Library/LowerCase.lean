import Opzava.Library.JavaScript

/-!
Texts in lower case, and their blanks.

* `toLower_toLower`: a text in lower case stays as it is.
* `jsTrim_map_toLower`: the blanks of a text are those of the text in lower case.
-/

namespace Opzava.Library

lemma toList_toLower (text : String) : text.toLower.toList = text.toList.map Char.toLower := by
  simp [String.toLower]

/-- A letter in upper case is one of ASCII, and the letter in lower case is 32 further. -/
lemma charToLower_cases (c : Char) : c.toLower = c ∨
    (65 ≤ c.toNat ∧ c.toNat ≤ 90 ∧ c.toLower.toNat = c.toNat + 32) := by
  unfold Char.toLower
  split
  · rename_i h
    have hlow : 65 ≤ c.toNat := UInt32.le_iff_toNat_le.mp h.1
    have hhigh : c.toNat ≤ 90 := UInt32.le_iff_toNat_le.mp h.2
    refine .inr ⟨hlow, hhigh, ?_⟩
    change (c.val + 32).toNat = c.toNat + 32
    rw [UInt32.toNat_add]
    change (c.toNat + 32) % 2 ^ 32 = c.toNat + 32
    omega
  · exact .inl rfl

lemma charToLower_charToLower (c : Char) : c.toLower.toLower = c.toLower := by
  rcases charToLower_cases c with h | ⟨hlow, hhigh, hlower⟩
  · rw [h, h]
  · rcases charToLower_cases c.toLower with h' | ⟨-, hhigh', -⟩
    · exact h'
    · omega

lemma isJsSpace_toLower (c : Char) : isJsSpace c.toLower = isJsSpace c := by
  rcases charToLower_cases c with h | ⟨hlow, hhigh, hlower⟩
  · rw [h]
  · have hspace : ∀ d : Char, 65 ≤ d.toNat → d.toNat ≤ 122 → isJsSpace d = false := by
      intro d hd hd'
      simp [isJsSpace]
      omega
    rw [hspace c hlow (by omega), hspace c.toLower (by omega) (by omega)]

lemma toLower_toLower (text : String) : text.toLower.toLower = text.toLower := by
  refine String.toList_injective ?_
  rw [toList_toLower, toList_toLower, List.map_map]
  exact List.map_congr_left fun c _ => charToLower_charToLower c

lemma dropWhile_map_toLower (text : List Char) : (text.map Char.toLower).dropWhile isJsSpace =
    (text.dropWhile isJsSpace).map Char.toLower := by
  induction text with
  | nil => rfl
  | cons c text ih =>
      rw [List.map_cons, List.dropWhile_cons, List.dropWhile_cons, isJsSpace_toLower, ih]
      split_ifs <;> rfl

lemma jsTrim_map_toLower (text : List Char) :
    jsTrim (text.map Char.toLower) = (jsTrim text).map Char.toLower := by
  rw [jsTrim, jsTrim, dropWhile_map_toLower, ← List.map_reverse, dropWhile_map_toLower,
    ← List.map_reverse]

end Opzava.Library
