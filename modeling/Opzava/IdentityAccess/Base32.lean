import Mathlib
import Opzava.Library.BitGroups
import Opzava.Library.JavaScript

/-!
The text of a TOTP secret (`mfa-crypto.ts`).

* `base32Encode`, `base32Decode`: the bytes in base 32, and back.
* `base32Encode_eq`, `base32Decode_eq`: both regroup the bits of one number.
* `base32_round_trip`: a text that a person copied is read as the bytes it was made from.
-/

namespace Opzava.IdentityAccess

open Opzava.Library

/-! ### The code -/

def base32Alphabet : List Char := "ABCDEFGHIJKLMNOPQRSTUVWXYZ234567".toList

/-- `base32Alphabet[Number(value & 31n)]`. -/
def base32Digit (value : ℕ) : Char :=
  base32Alphabet.get ⟨value &&& 31, Nat.lt_succ_of_le Nat.and_le_right⟩

/-- The variables of `base32Encode`. -/
structure Base32Writer where
  value : ℕ
  bits : ℕ
  output : List Char

/-- `while (bits >= 5)`. -/
def Base32Writer.flush (writer : Base32Writer) : Base32Writer :=
  if 5 ≤ writer.bits then
    flush { writer with
      output := writer.output ++ [base32Digit (writer.value >>> (writer.bits - 5))]
      bits := writer.bits - 5 }
  else writer
termination_by writer.bits

def Base32Writer.write (writer : Base32Writer) (byte : UInt8) : Base32Writer :=
  { writer with
    value := writer.value <<< 8 ||| byte.toNat
    bits := writer.bits + 8 : Base32Writer }.flush

def base32Encode (bytes : List UInt8) : List Char :=
  let writer := bytes.foldl Base32Writer.write ⟨0, 0, []⟩
  if writer.bits = 0 then writer.output
  else writer.output ++ [base32Digit (writer.value <<< (5 - writer.bits))]

/-- `toUpperCase` of a character, as far as it gives letters of ASCII. -/
def toUpperCase (c : Char) : List Char :=
  match c with
  | 'ß' => ['S', 'S']
  | 'ı' => ['I']
  | 'ſ' => ['S']
  | 'ﬀ' => ['F', 'F']
  | 'ﬁ' => ['F', 'I']
  | 'ﬂ' => ['F', 'L']
  | 'ﬃ' => ['F', 'F', 'I']
  | 'ﬄ' => ['F', 'F', 'L']
  | 'ﬅ' => ['S', 'T']
  | 'ﬆ' => ['S', 'T']
  | c => [c.toUpper]

/-- What is removed before the text is read: blanks and hyphens. -/
def isSeparator (c : Char) : Bool := isJsSpace c || c == '-'

/-- The variables of `base32Decode`. -/
structure Base32Reader where
  accumulator : ℕ
  bits : ℕ
  bytes : List UInt8

def Base32Reader.read (reader : Base32Reader) (index : ℕ) : Base32Reader :=
  let accumulator := reader.accumulator <<< 5 ||| index
  let bits := reader.bits + 5
  if 8 ≤ bits then
    ⟨accumulator, bits - 8,
      reader.bytes ++ [UInt8.ofNat (accumulator >>> (bits - 8) &&& 255)]⟩
  else ⟨accumulator, bits, reader.bytes⟩

def Base32Reader.readCharacter (reader : Base32Reader) (character : Char) :
    Except String Base32Reader :=
  match base32Alphabet.idxOf? character with
  | some index => .ok (reader.read index)
  | none => .error "Invalid TOTP secret."

def base32Decode (value : List Char) : Except String (List UInt8) :=
  let normalized := (value.filter fun c => !isSeparator c).flatMap toUpperCase
  (normalized.foldlM Base32Reader.readCharacter ⟨0, 0, []⟩).map Base32Reader.bytes

/-! ### The writer -/

lemma base32Digit_eq (value : ℕ) : base32Digit value = base32Digit (value % 2 ^ 5) := by
  have hmod : value &&& 31 = value % 2 ^ 5 &&& 31 := by
    rw [Nat.and_two_pow_sub_one_eq_mod value 5, Nat.and_two_pow_sub_one_eq_mod _ 5, Nat.mod_mod]
  simp only [base32Digit, hmod]

lemma flush_eq (writer : Base32Writer) : writer.flush = { writer with
    output := writer.output ++ (bitGroups 5 writer.value writer.bits).map base32Digit
    bits := writer.bits % 5 } := by
  fun_induction Base32Writer.flush writer with
  | case1 writer hle ih =>
      rw [ih, bitGroups_of_le (by norm_num) hle, List.map_cons, ← base32Digit_eq,
        ← Nat.shiftRight_eq_div_pow, List.append_assoc, Nat.mod_eq_sub_mod hle]
      rfl
  | case2 writer hlt =>
      rw [bitGroups_of_lt (not_le.mp hlt), Nat.mod_eq_of_lt (not_le.mp hlt), List.map_nil,
        List.append_nil]

lemma shiftLeft_or {value low j : ℕ} (h : low < 2 ^ j) :
    value <<< j ||| low = value * 2 ^ j + low := by
  rw [← Nat.shiftLeft_add_eq_or_of_lt h, Nat.shiftLeft_eq]

/-- The number that some bytes make. -/
def bytesNumber (bytes : List UInt8) : ℕ := ofBitGroups 8 (bytes.map UInt8.toNat)

lemma bytesNumber_concat {bytes : List UInt8} {byte : UInt8} :
    bytesNumber (bytes ++ [byte]) = bytesNumber bytes * 2 ^ 8 + byte.toNat := by
  rw [bytesNumber, List.map_append, List.map_singleton, ofBitGroups_concat]
  rfl

/-- What the loop over the bytes keeps: the number they make, and its whole groups written. -/
lemma foldl_write (bytes : List UInt8) : bytes.foldl Base32Writer.write ⟨0, 0, []⟩ =
    ⟨bytesNumber bytes, 8 * bytes.length % 5,
      (bitGroups 5 (bytesNumber bytes) (8 * bytes.length)).map base32Digit⟩ := by
  induction bytes using List.reverseRecOn with
  | nil => rw [List.length_nil, Nat.mul_zero, bitGroups_zero]; rfl
  | append_singleton bytes byte ih =>
      have hbyte : byte.toNat < 2 ^ 8 := byte.toNat_lt
      rw [List.foldl_append, ih, List.foldl_cons, List.foldl_nil, Base32Writer.write, flush_eq,
        List.length_append, List.length_singleton, Nat.mul_succ, bytesNumber_concat,
        bitGroups_append (by norm_num) hbyte, List.map_append]
      dsimp only
      rw [shiftLeft_or hbyte, Nat.mod_add_mod]

/-- The bits that are added to make the last group whole. -/
def padding (n : ℕ) : ℕ := (5 - 8 * n % 5) % 5

/-- The text is the number in groups of five bits, filled up with zeros. -/
lemma base32Encode_eq (bytes : List UInt8) : base32Encode bytes =
    (bitGroups 5 (bytesNumber bytes * 2 ^ padding bytes.length)
      (8 * bytes.length + padding bytes.length)).map base32Digit := by
  rw [base32Encode, foldl_write]
  dsimp only
  have hpadding : 0 < 2 ^ padding bytes.length := by positivity
  have happend := @bitGroups_append 5 (bytesNumber bytes) (8 * bytes.length)
    (padding bytes.length) (by norm_num) 0 hpadding
  rw [add_zero] at happend
  rw [happend]
  split
  · next hzero =>
      have hnone : 8 * bytes.length % 5 + padding bytes.length < 5 := by
        rw [padding, hzero]
        norm_num
      rw [bitGroups_of_lt hnone, List.append_nil]
  · next hpos =>
      have hlt := Nat.mod_lt (8 * bytes.length) (by norm_num : 5 > 0)
      have hsum : 8 * bytes.length % 5 + padding bytes.length = 5 := by
        unfold padding
        omega
      have heq : padding bytes.length = 5 - 8 * bytes.length % 5 := by omega
      rw [hsum, bitGroups_self (by norm_num), List.map_append, List.map_singleton,
        ← base32Digit_eq, Nat.shiftLeft_eq, heq]

lemma padding_lt (n : ℕ) : padding n < 5 := Nat.mod_lt _ (by norm_num)

lemma bits_eq (n : ℕ) : 8 * n + padding n = 5 * ((8 * n) ⌈/⌉ 5) := by
  rw [Nat.ceilDiv_eq_add_pred_div, padding]
  omega

lemma length_base32Encode (bytes : List UInt8) :
    (base32Encode bytes).length = (8 * bytes.length) ⌈/⌉ 5 := by
  rw [base32Encode_eq, List.length_map, length_bitGroups (by norm_num), bits_eq,
    Nat.mul_div_cancel_left _ (by norm_num)]

lemma base32Digit_mem (value : ℕ) : base32Digit value ∈ base32Alphabet := List.get_mem _ _

lemma mem_alphabet_of_mem {bytes : List UInt8} {c : Char} (h : c ∈ base32Encode bytes) :
    c ∈ base32Alphabet := by
  rw [base32Encode_eq] at h
  obtain ⟨value, -, rfl⟩ := List.mem_map.mp h
  exact base32Digit_mem value

/-! ### The reader -/

/-- What the loop over the characters keeps. -/
lemma foldl_read {indices : List ℕ} (h : ∀ index ∈ indices, index < 2 ^ 5) :
    indices.foldl Base32Reader.read ⟨0, 0, []⟩ =
      ⟨ofBitGroups 5 indices, 5 * indices.length % 8,
        (bitGroups 8 (ofBitGroups 5 indices) (5 * indices.length)).map UInt8.ofNat⟩ := by
  induction indices using List.reverseRecOn with
  | nil => rw [List.length_nil, Nat.mul_zero, bitGroups_zero]; rfl
  | append_singleton indices index ih =>
      have hindex := h index (List.mem_append_right _ List.mem_cons_self)
      have hlt := Nat.mod_lt (5 * indices.length) (by norm_num : 8 > 0)
      rw [List.foldl_append, ih fun i hi => h i (List.mem_append_left _ hi), List.foldl_cons,
        List.foldl_nil, Base32Reader.read, List.length_append, List.length_singleton,
        Nat.mul_succ, ofBitGroups_concat, bitGroups_append (by norm_num) hindex, List.map_append]
      dsimp only
      rw [shiftLeft_or hindex, ← Nat.mod_add_mod (5 * indices.length) 8 5]
      -- At most one byte is whole after five bits more.
      split
      · next hle =>
          have hrest : 5 * indices.length % 8 + 5 - 8 < 8 := by omega
          have hbyte := @bitGroups_of_le 8 (ofBitGroups 5 indices * 2 ^ 5 + index) _
            (by norm_num) hle
          rw [bitGroups_of_lt hrest] at hbyte
          rw [hbyte, List.map_singleton, Nat.and_two_pow_sub_one_eq_mod _ 8,
            Nat.shiftRight_eq_div_pow, Nat.mod_eq_sub_mod hle, Nat.mod_eq_of_lt hrest]
      · next hgt =>
          have hrest : 5 * indices.length % 8 + 5 < 8 := not_le.mp hgt
          have hnone := @bitGroups_of_lt 8 (ofBitGroups 5 indices * 2 ^ 5 + index) _ hrest
          rw [hnone, List.map_nil, List.append_nil, Nat.mod_eq_of_lt hrest]

lemma idxOf_base32Digit : ∀ index < 2 ^ 5,
    base32Alphabet.idxOf? (base32Digit index) = some index := by
  decide

lemma foldlM_readCharacter {indices : List ℕ} (h : ∀ index ∈ indices, index < 2 ^ 5)
    (reader : Base32Reader) :
    (indices.map base32Digit).foldlM Base32Reader.readCharacter reader =
      .ok (indices.foldl Base32Reader.read reader) := by
  induction indices generalizing reader with
  | nil => rfl
  | cons index indices ih =>
      have hindex := idxOf_base32Digit index (h index List.mem_cons_self)
      have hread : reader.readCharacter (base32Digit index) = .ok (reader.read index) := by
        rw [Base32Reader.readCharacter, hindex]
      rw [List.map_cons, List.foldlM_cons, hread, List.foldl_cons]
      exact ih (fun i hi => h i (List.mem_cons_of_mem _ hi)) (reader.read index)

/-- The characters of the text that are read, in upper case. -/
def normalized (value : List Char) : List Char :=
  (value.filter fun c => !isSeparator c).flatMap toUpperCase

/-- A text whose characters are those of the bytes is read as the bytes. -/
lemma base32Decode_eq {bytes : List UInt8} {value : List Char}
    (h : normalized value = base32Encode bytes) : base32Decode value = .ok bytes := by
  have hfive : (0 : ℕ) < 5 := by norm_num
  have hlt : bytesNumber bytes * 2 ^ padding bytes.length <
      2 ^ (5 * ((8 * bytes.length) ⌈/⌉ 5)) := by
    have hnumber : bytesNumber bytes < 2 ^ (8 * bytes.length) := by
      have hbytes := @ofBitGroups_lt 8 (bytes.map UInt8.toNat) fun group hgroup => by
        obtain ⟨byte, -, rfl⟩ := List.mem_map.mp hgroup
        exact byte.toNat_lt
      rwa [List.length_map] at hbytes
    rw [← bits_eq, pow_add]
    exact Nat.mul_lt_mul_of_pos_right hnumber (by positivity)
  change ((normalized value).foldlM Base32Reader.readCharacter ⟨0, 0, []⟩).map _ = _
  rw [h, base32Encode_eq, foldlM_readCharacter fun index hindex => lt_of_mem_bitGroups hfive hindex,
    foldl_read fun index hindex => lt_of_mem_bitGroups hfive hindex, length_bitGroups hfive,
    bits_eq, Nat.mul_div_cancel_left _ hfive, ofBitGroups_bitGroups hfive _ hlt, ← bits_eq,
    bitGroups_mul_pow (by norm_num) (Nat.dvd_mul_right _ _) ((padding_lt _).trans (by norm_num))]
  have hgroups := @bitGroups_ofBitGroups 8 (bytes.map UInt8.toNat) (by norm_num)
    fun group hgroup => by
      obtain ⟨byte, -, rfl⟩ := List.mem_map.mp hgroup
      exact byte.toNat_lt
  rw [List.length_map] at hgroups
  change Except.ok ((bitGroups 8 (bytesNumber bytes) (8 * bytes.length)).map UInt8.ofNat) = _
  rw [bytesNumber, hgroups, List.map_map]
  exact congrArg Except.ok (List.map_id'' (fun byte => UInt8.ofNat_toNat) bytes)

/-! ### The round trip -/

/-- `copy` is `text` with letters in another case, and with blanks and hyphens anywhere. -/
inductive CopyOf : List Char → List Char → Prop
  | nil : CopyOf [] []
  | character {c d : Char} {text copy : List Char} (hcase : d = c ∨ d = c.toLower ∨ d = c.toUpper)
      (hcopy : CopyOf text copy) : CopyOf (c :: text) (d :: copy)
  | separator {d : Char} {text copy : List Char} (hseparator : isSeparator d)
      (hcopy : CopyOf text copy) : CopyOf text (d :: copy)

lemma upperCase_of_mem : ∀ c ∈ base32Alphabet, ∀ d ∈ [c, c.toLower, c.toUpper],
    isSeparator d = false ∧ toUpperCase d = [c] := by
  have hall : (base32Alphabet.all fun c => [c, c.toLower, c.toUpper].all fun d =>
      isSeparator d = false ∧ toUpperCase d = [c]) = true := by decide
  intro c hc d hd
  exact of_decide_eq_true (List.all_eq_true.mp (List.all_eq_true.mp hall c hc) d hd)

lemma normalized_of_copyOf {text copy : List Char} (h : CopyOf text copy)
    (halphabet : ∀ c ∈ text, c ∈ base32Alphabet) : normalized copy = text := by
  induction h with
  | nil => rfl
  | @character c d text copy hcase hcopy ih =>
      have hmem : d ∈ [c, c.toLower, c.toUpper] := by
        simpa using hcase
      obtain ⟨hkept, hupper⟩ := upperCase_of_mem c (halphabet c List.mem_cons_self) d hmem
      have htail := ih fun e he => halphabet e (List.mem_cons_of_mem _ he)
      rw [normalized, List.filter_cons, if_pos (by rw [hkept]; rfl), List.flatMap_cons, hupper]
      exact congrArg (c :: ·) htail
  | @separator d text copy hseparator hcopy ih =>
      rw [normalized, List.filter_cons, if_neg (by rw [hseparator]; nofun)]
      exact ih halphabet

/-- **The round trip of a secret**: every copy of the text is read as the bytes, and the text has
as few characters as its bits need, all from the alphabet. -/
theorem base32_round_trip (bytes : List UInt8) :
    (∀ copy, CopyOf (base32Encode bytes) copy → base32Decode copy = .ok bytes) ∧
      (base32Encode bytes).length = (8 * bytes.length) ⌈/⌉ 5 ∧
      ∀ c ∈ base32Encode bytes, c ∈ base32Alphabet :=
  ⟨fun _ hcopy => base32Decode_eq (normalized_of_copyOf hcopy fun _ => mem_alphabet_of_mem),
    length_base32Encode bytes, fun _ => mem_alphabet_of_mem⟩

end Opzava.IdentityAccess
