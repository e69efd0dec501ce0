import Opzava.Library.JavaScript

/-!
Base64 in the URL alphabet: `Buffer.from(bytes).toString("base64url")` and
`Buffer.from(text, "base64url")`.

* `base64Decode_base64UrlEncode`: the bytes are read back.
* `forall_mem_base64UrlEncode`: the characters that are written.
-/

namespace Opzava.Library

/-- The character of six bits. -/
def base64UrlDigit (n : ℕ) : Char :=
  if n < 26 then Char.ofNat (65 + n)
  else if n < 52 then Char.ofNat (71 + n)
  else if n < 62 then Char.ofNat (n - 4)
  else if n = 62 then '-' else '_'

/-- The six bits of a character, of the URL alphabet or the other one. -/
def base64Value (c : Char) : Option ℕ :=
  if 'A' ≤ c ∧ c ≤ 'Z' then some (c.toNat - 65)
  else if 'a' ≤ c ∧ c ≤ 'z' then some (c.toNat - 71)
  else if '0' ≤ c ∧ c ≤ '9' then some (c.toNat + 4)
  else if c = '-' ∨ c = '+' then some 62
  else if c = '_' ∨ c = '/' then some 63
  else none

/-- The groups of six bits of some bytes. The last one is filled with zeros. -/
def sextets : List UInt8 → List ℕ
  | a :: b :: c :: rest =>
      a.toNat / 4 :: (a.toNat % 4 * 16 + b.toNat / 16) :: (b.toNat % 16 * 4 + c.toNat / 64) ::
        c.toNat % 64 :: sextets rest
  | [a, b] => [a.toNat / 4, a.toNat % 4 * 16 + b.toNat / 16, b.toNat % 16 * 4]
  | [a] => [a.toNat / 4, a.toNat % 4 * 16]
  | [] => []

/-- The whole bytes of some groups of six bits. -/
def octets : List ℕ → List UInt8
  | a :: b :: c :: d :: rest =>
      UInt8.ofNat (a * 4 + b / 16) :: UInt8.ofNat (b % 16 * 16 + c / 4) ::
        UInt8.ofNat (c % 4 * 64 + d) :: octets rest
  | [a, b, c] => [UInt8.ofNat (a * 4 + b / 16), UInt8.ofNat (b % 16 * 16 + c / 4)]
  | [a, b] => [UInt8.ofNat (a * 4 + b / 16)]
  | _ => []

/-- `toString("base64url")`, which does not pad. -/
def base64UrlEncode (bytes : List UInt8) : List Char := (sextets bytes).map base64UrlDigit

/-- `Buffer.from(text, "base64url")`: it stops at a padding character and passes over the
characters of no alphabet. -/
def base64Decode (text : List Char) : List UInt8 :=
  octets ((text.takeWhile (· != '=')).filterMap base64Value)

/-! ### What is written is read back -/

lemma lt_of_mem_sextets (bytes : List UInt8) : ∀ n ∈ sextets bytes, n < 64 := by
  fun_induction sextets bytes with
  | case1 a b c rest ih =>
      have ha := a.toNat_lt
      have hb := b.toNat_lt
      simp only [List.mem_cons]
      rintro n (rfl | rfl | rfl | rfl | hn)
      · omega
      · omega
      · have hc := c.toNat_lt
        omega
      · omega
      · exact ih n hn
  | case2 a b =>
      have ha := a.toNat_lt
      have hb := b.toNat_lt
      simp only [List.mem_cons, List.not_mem_nil, or_false]
      omega
  | case3 a =>
      have ha := a.toNat_lt
      simp only [List.mem_cons, List.not_mem_nil, or_false]
      omega
  | case4 => simp

lemma ofNat_of_eq {n : ℕ} (byte : UInt8) (h : n = byte.toNat) : UInt8.ofNat n = byte := by
  rw [h, UInt8.ofNat_toNat]

lemma octets_sextets (bytes : List UInt8) : octets (sextets bytes) = bytes := by
  fun_induction sextets bytes with
  | case1 a b c rest ih =>
      have ha := a.toNat_lt
      have hb := b.toNat_lt
      have hc := c.toNat_lt
      rw [octets, ih, ofNat_of_eq a (by omega), ofNat_of_eq b (by omega),
        ofNat_of_eq c (by omega)]
  | case2 a b =>
      have ha := a.toNat_lt
      have hb := b.toNat_lt
      rw [octets, ofNat_of_eq a (by omega), ofNat_of_eq b (by omega)]
  | case3 a =>
      have ha := a.toNat_lt
      rw [octets, ofNat_of_eq a (by omega)]
  | case4 => rfl

lemma base64Value_base64UrlDigit : ∀ n < 64, base64Value (base64UrlDigit n) = some n := by
  decide

/-- What holds of the sixty-four digits holds of every character that is written. -/
lemma forall_mem_base64UrlEncode {P : Char → Prop} (h : ∀ n < 64, P (base64UrlDigit n))
    (bytes : List UInt8) : ∀ c ∈ base64UrlEncode bytes, P c := by
  intro c hc
  obtain ⟨n, hn, rfl⟩ := List.mem_map.mp hc
  exact h n (lt_of_mem_sextets bytes n hn)

lemma filterMap_base64UrlDigit {digits : List ℕ} (h : ∀ n ∈ digits, n < 64) :
    (digits.map base64UrlDigit).filterMap base64Value = digits := by
  induction digits with
  | nil => rfl
  | cons n digits ih =>
      have htail := ih fun m hm => h m (List.mem_cons_of_mem n hm)
      rw [List.map_cons, List.filterMap_cons_some
        (base64Value_base64UrlDigit n (h n List.mem_cons_self)), htail]

lemma base64Decode_base64UrlEncode (bytes : List UInt8) :
    base64Decode (base64UrlEncode bytes) = bytes := by
  have hall : ∀ c ∈ base64UrlEncode bytes, (c != '=') = true :=
    forall_mem_base64UrlEncode (by decide) bytes
  rw [base64Decode, List.takeWhile_eq_self_iff.mpr hall, base64UrlEncode,
    filterMap_base64UrlDigit (lt_of_mem_sextets bytes), octets_sextets]

lemma base64UrlEncode_ne_nil {bytes : List UInt8} (h : bytes ≠ []) : base64UrlEncode bytes ≠ [] := by
  intro hnil
  have hback := base64Decode_base64UrlEncode bytes
  rw [hnil] at hback
  exact h hback.symm

end Opzava.Library
