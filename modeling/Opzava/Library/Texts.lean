import Mathlib

/-!
Texts that are put together from parts, and read back by their separators.

* `append_separator_inj`, `append_separator_inj_last`: the parts before the first separator, and
  after the last one.
* `toString_toList_inj`: a number is read back from its digits.
* `splitOn_append_last`: a text with more behind it is the same up to its last part.
-/

namespace Opzava.Library

/-- Where the beginning of a text that has two parts ends: before the end of the first part, or in
the second. -/
lemma prefix_append_cases {α : Type*} {l l₁ l₂ : List α} (h : l <+: l₁ ++ l₂) :
    (l <+: l₁ ∧ l ≠ l₁) ∨ ∃ rest, l = l₁ ++ rest ∧ rest <+: l₂ := by
  rcases List.prefix_or_prefix_of_prefix h (List.prefix_append l₁ l₂) with hl | ⟨rest, rfl⟩
  · by_cases heq : l = l₁
    · exact .inr ⟨[], by rw [heq, List.append_nil], List.nil_prefix⟩
    · exact .inl ⟨hl, heq⟩
  · exact .inr ⟨rest, rfl, (List.prefix_append_right_inj l₁).mp h⟩

/-- Two texts up to the first separator. -/
lemma append_separator_inj {α : Type} {a b x y : List α} {c : α} (ha : c ∉ a) (hb : c ∉ b)
    (h : a ++ c :: x = b ++ c :: y) : a = b ∧ x = y := by
  induction a generalizing b with
  | nil =>
      cases b with
      | nil => exact ⟨rfl, List.tail_eq_of_cons_eq h⟩
      | cons d rest =>
          obtain ⟨rfl, -⟩ := List.cons.inj h
          exact absurd List.mem_cons_self hb
  | cons d rest ih =>
      cases b with
      | nil =>
          obtain ⟨rfl, -⟩ := List.cons.inj h
          exact absurd List.mem_cons_self ha
      | cons e rest' =>
          obtain ⟨rfl, htail⟩ := List.cons.inj h
          obtain ⟨rfl, hxy⟩ := ih (fun hmem => ha (List.mem_cons_of_mem _ hmem))
            (fun hmem => hb (List.mem_cons_of_mem _ hmem)) htail
          exact ⟨rfl, hxy⟩

/-- Two texts from the last separator on. -/
lemma append_separator_inj_last {α : Type} {a b x y : List α} {c : α} (hx : c ∉ x) (hy : c ∉ y)
    (h : a ++ c :: x = b ++ c :: y) : a = b ∧ x = y := by
  have hreverse := congrArg List.reverse h
  simp only [List.reverse_append, List.reverse_cons, List.append_assoc, List.singleton_append]
    at hreverse
  obtain ⟨hxy, hab⟩ := append_separator_inj (by rwa [List.mem_reverse]) (by rwa [List.mem_reverse])
    hreverse
  exact ⟨List.reverse_injective hab, List.reverse_injective hxy⟩

lemma toString_toList_inj {m n : ℕ} (h : (toString m).toList = (toString n).toList) : m = n := by
  rw [Nat.toString_eq_ofList_toDigits, Nat.toString_eq_ofList_toDigits, String.toList_ofList,
    String.toList_ofList] at h
  rw [← Nat.ofDigitChars_ten_toDigits (n := m), h, Nat.ofDigitChars_ten_toDigits]

/-- The text of a number has digits only. -/
lemma notMem_toString {c : Char} (hc : c.isDigit = false) (n : ℕ) : c ∉ (toString n).toList := by
  intro hmem
  rw [Nat.toString_eq_ofList_toDigits, String.toList_ofList] at hmem
  rw [Nat.isDigit_of_mem_toDigits (by omega) (Nat.le_refl 10) hmem] at hc
  exact absurd hc (by simp)

/-- A number at the end of a text, after a separator. -/
lemma append_number_inj {a b : String} {m n : ℕ}
    (h : a ++ ":" ++ toString m = b ++ ":" ++ toString n) : a = b ∧ m = n := by
  have hlist : a.toList ++ ':' :: (toString m).toList = b.toList ++ ':' :: (toString n).toList := by
    have := congrArg String.toList h
    simpa [String.toList_append] using this
  obtain ⟨hab, hmn⟩ := append_separator_inj_last (notMem_toString rfl m) (notMem_toString rfl n)
    hlist
  exact ⟨String.toList_injective hab, toString_toList_inj hmn⟩
/-- A text with a separator is cut where the separator stands. -/
lemma takeWhile_separator {a b : List Char} {c : Char} (ha : c ∉ a) :
    (a ++ c :: b).takeWhile (· ≠ c) = a := by
  rw [List.takeWhile_append_of_pos, List.takeWhile_cons_of_neg, List.append_nil]
  · simp
  · intro d hd
    simp only [decide_eq_true_eq]
    rintro rfl
    exact ha hd

lemma dropWhile_separator {a b : List Char} {c : Char} (ha : c ∉ a) :
    (a ++ c :: b).dropWhile (· ≠ c) = c :: b := by
  rw [List.dropWhile_append_of_pos, List.dropWhile_cons_of_neg]
  · simp
  · intro d hd
    simp only [decide_eq_true_eq]
    rintro rfl
    exact ha hd

lemma takeWhile_of_notMem {a : List Char} {c : Char} (ha : c ∉ a) : a.takeWhile (· ≠ c) = a := by
  refine List.takeWhile_eq_self_iff.mpr fun d hd => ?_
  simp only [decide_eq_true_eq]
  rintro rfl
  exact ha hd

/-- The last part of a text goes on with what is behind it. -/
lemma splitOn_append_last (c : Char) (text : List Char) :
    ∃ before last, ∀ more, (text ++ more).splitOn c =
      before ++ (more.splitOn c).modifyHead (last ++ ·) := by
  induction text with
  | nil =>
      refine ⟨[], [], fun more => ?_⟩
      rw [List.nil_append, List.nil_append]
      exact (congrFun List.modifyHead_id (more.splitOn c)).symm
  | cons d text ih =>
      obtain ⟨before, last, hsplit⟩ := ih
      by_cases hd : d = c
      · refine ⟨[] :: before, last, fun more => ?_⟩
        rw [List.cons_append, List.splitOn_cons_eq_if_modifyHead, if_pos (beq_iff_eq.mpr hd),
          hsplit, List.cons_append]
      · have hne : ¬ (d == c) = true := fun heq => hd (beq_iff_eq.mp heq)
        cases before with
        | nil =>
            refine ⟨[], d :: last, fun more => ?_⟩
            rw [List.cons_append, List.splitOn_cons_eq_if_modifyHead, if_neg hne, hsplit,
              List.nil_append, List.nil_append, List.modifyHead_modifyHead]
            rfl
        | cons line before =>
            refine ⟨(d :: line) :: before, last, fun more => ?_⟩
            rw [List.cons_append, List.splitOn_cons_eq_if_modifyHead, if_neg hne, hsplit]
            rfl

end Opzava.Library
