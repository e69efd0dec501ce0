import Opzava.Library.Json

/-!
The numbers of JSON texts, as decimals.

* `decimalOf`: the number that a numeral stands for.
* `isNumeral_int`, `decimalOf_int`: an integer is written as a numeral, and read back.
-/

namespace Opzava.Library

/-- The number `mantissa * 10 ^ exponent`. -/
structure Decimal where
  mantissa : ℤ
  exponent : ℤ
  deriving DecidableEq

namespace Decimal

/-- The number times `10 ^ shift`, without its fraction. -/
def truncated (number : Decimal) (shift : ℤ) : ℤ :=
  let exponent := number.exponent + shift
  if 0 ≤ exponent then number.mantissa * 10 ^ exponent.toNat
  else number.mantissa.tdiv (10 ^ (-exponent).toNat)

/-- The number, if it is an integer. -/
def integer? (number : Decimal) : Option ℤ :=
  if 0 ≤ number.exponent then some (number.mantissa * 10 ^ number.exponent.toNat)
  else if (10 : ℤ) ^ (-number.exponent).toNat ∣ number.mantissa then
    some (number.mantissa / 10 ^ (-number.exponent).toNat)
  else none

end Decimal

/-- The exponent at the end of a numeral. -/
def exponentOf : List Char → ℤ
  | [] => 0
  | _ :: '-' :: digits => -(Nat.ofDigitChars 10 digits 0)
  | _ :: '+' :: digits => Nat.ofDigitChars 10 digits 0
  | _ :: digits => Nat.ofDigitChars 10 digits 0

/-- The number that digits, a fraction and an exponent stand for. -/
def unsignedDecimal (text : List Char) : Decimal :=
  let digits := text.takeWhile Char.isDigit
  match text.dropWhile Char.isDigit with
  | '.' :: rest =>
      let fraction := rest.takeWhile Char.isDigit
      { mantissa := Nat.ofDigitChars 10 (digits ++ fraction) 0
        exponent := exponentOf (rest.dropWhile Char.isDigit) - fraction.length }
  | rest => { mantissa := Nat.ofDigitChars 10 digits 0, exponent := exponentOf rest }

/-- The number that a numeral stands for. -/
def decimalOf : List Char → Decimal
  | '-' :: text => { unsignedDecimal text with mantissa := -(unsignedDecimal text).mantissa }
  | text => unsignedDecimal text

/-! ### Integers -/

lemma toList_toString (n : ℕ) : (toString n).toList = Nat.toDigits 10 n := by
  rw [Nat.toString_eq_ofList_toDigits, String.toList_ofList]

lemma isDigit_of_mem_toDigits {n : ℕ} {c : Char} (h : c ∈ Nat.toDigits 10 n) : c.isDigit = true :=
  Nat.isDigit_of_mem_toDigits (by omega) (Nat.le_refl 10) h

/-- A number that is not zero does not begin with a zero. -/
lemma head?_toDigits {n : ℕ} (hn : 0 < n) :
    ∃ d < 10, 0 < d ∧ (Nat.toDigits 10 n).head? = some (Nat.digitChar d) := by
  induction n using Nat.strongRecOn with
  | ind n ih =>
      by_cases hlt : n < 10
      · exact ⟨n, hlt, hn, by rw [Nat.toDigits_of_lt_base hlt]; rfl⟩
      · obtain ⟨d, hd, hpos, hhead⟩ := ih (n / 10) (by omega) (by omega)
        refine ⟨d, hd, hpos, ?_⟩
        rw [Nat.toDigits_of_base_le (by omega) (by omega), List.head?_append, hhead]
        rfl

lemma head?_toDigits_ne_minus (n : ℕ) : (Nat.toDigits 10 n).head? ≠ some '-' := by
  intro h
  have hdigit := isDigit_of_mem_toDigits (List.mem_of_mem_head? h)
  exact absurd hdigit (by decide)

lemma dropWhile_toDigits (n : ℕ) : (Nat.toDigits 10 n).dropWhile Char.isDigit = [] :=
  List.dropWhile_eq_nil_iff.mpr fun _ hc => isDigit_of_mem_toDigits hc

lemma takeWhile_toDigits (n : ℕ) :
    (Nat.toDigits 10 n).takeWhile Char.isDigit = Nat.toDigits 10 n :=
  List.takeWhile_eq_self_iff.mpr fun _ hc => isDigit_of_mem_toDigits hc

/-- The digits of a number are a numeral, with or without a sign. -/
lemma isNumeral_toDigits (n : ℕ) :
    isNumeral (Nat.toDigits 10 n) = true ∧ isNumeral ('-' :: Nat.toDigits 10 n) = true := by
  have hunsigned : (if (Nat.toDigits 10 n).head? = some '0' then
      isFraction (Nat.toDigits 10 n).tail
      else (dropDigits (Nat.toDigits 10 n)).any isFraction) = true := by
    rcases Nat.eq_zero_or_pos n with rfl | hn
    · rfl
    · obtain ⟨d, hd, hpos, hhead⟩ := head?_toDigits hn
      have hne : (Nat.toDigits 10 n).head? ≠ some '0' := by
        rw [hhead]
        intro h
        have hzero := Nat.digitChar_eq_zero.mp (Option.some.inj h)
        omega
      have hdigit : (Nat.toDigits 10 n).head?.any Char.isDigit = true := by
        rw [hhead, Option.any_some]
        exact Nat.isDigit_digitChar.trans (decide_eq_true hd)
      rw [if_neg hne, dropDigits, if_pos hdigit, dropWhile_toDigits]
      rfl
  constructor
  · rw [isNumeral, if_neg (head?_toDigits_ne_minus n)]
    exact hunsigned
  · rw [isNumeral, List.head?_cons, if_pos rfl, List.tail_cons]
    exact hunsigned

lemma unsignedDecimal_toDigits (n : ℕ) : unsignedDecimal (Nat.toDigits 10 n) = ⟨n, 0⟩ := by
  rw [unsignedDecimal, dropWhile_toDigits, takeWhile_toDigits, Nat.ofDigitChars_ten_toDigits]
  rfl

/-- The digits of an integer. -/
lemma toList_toString_int (n : ℤ) :
    (0 ≤ n ∧ (toString n).toList = Nat.toDigits 10 n.natAbs) ∨ (n < 0 ∧
      (toString n).toList = '-' :: Nat.toDigits 10 n.natAbs) := by
  cases n with
  | ofNat m => exact .inl ⟨Int.natCast_nonneg m, toList_toString m⟩
  | negSucc m =>
      refine .inr ⟨Int.negSucc_lt_zero m, ?_⟩
      have htext : toString (Int.negSucc m) = "-" ++ toString (m + 1) := rfl
      rw [htext, String.toList_append, toList_toString]
      rfl

lemma isNumeral_int (n : ℤ) : isNumeral (toString n).toList = true := by
  rcases toList_toString_int n with ⟨-, h⟩ | ⟨-, h⟩ <;> rw [h]
  · exact (isNumeral_toDigits _).1
  · exact (isNumeral_toDigits _).2

lemma decimalOf_of_head {text : List Char} (h : text.head? ≠ some '-') :
    decimalOf text = unsignedDecimal text := by
  rw [decimalOf]
  rintro rest rfl
  exact h rfl

lemma decimalOf_int (n : ℤ) : decimalOf (toString n).toList = ⟨n, 0⟩ := by
  rcases toList_toString_int n with ⟨hn, h⟩ | ⟨hn, h⟩ <;> rw [h]
  · rw [decimalOf_of_head (head?_toDigits_ne_minus _), unsignedDecimal_toDigits,
      Int.natAbs_of_nonneg hn]
  · have hneg : -(n.natAbs : ℤ) = n := by omega
    rw [decimalOf, unsignedDecimal_toDigits]
    dsimp only
    rw [hneg]

end Opzava.Library
