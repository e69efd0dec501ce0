import Mathlib

/-!
The bits of a number in groups of `k`, the first bits first, and the number back from its groups.

* `bitGroups_append`: the groups when bits are appended.
* `ofBitGroups_bitGroups`, `bitGroups_ofBitGroups`: a number and its groups determine each other.
* `bitGroups_mul_pow`: bits that make no whole group change nothing.
-/

namespace Opzava.Library

/-- The groups of `k` bits among the last `bits` bits of a number, as far as they are whole. -/
def bitGroups (k value bits : ℕ) : List ℕ :=
  if 0 < k ∧ k ≤ bits then
    value / 2 ^ (bits - k) % 2 ^ k :: bitGroups k value (bits - k)
  else []
termination_by bits
decreasing_by omega

/-- The number that some groups of `k` bits make. -/
def ofBitGroups (k : ℕ) (groups : List ℕ) : ℕ :=
  groups.foldl (fun value group => value * 2 ^ k + group) 0

variable {k value bits j group : ℕ} {groups : List ℕ}

lemma bitGroups_of_lt (h : bits < k) : bitGroups k value bits = [] := by
  rw [bitGroups, if_neg (by omega)]

lemma bitGroups_of_le (hk : 0 < k) (h : k ≤ bits) : bitGroups k value bits =
    value / 2 ^ (bits - k) % 2 ^ k :: bitGroups k value (bits - k) := by
  rw [bitGroups, if_pos ⟨hk, h⟩]

@[simp] lemma bitGroups_zero : bitGroups k value 0 = [] := by
  rw [bitGroups, if_neg (by omega)]

lemma bitGroups_self (hk : 0 < k) : bitGroups k value k = [value % 2 ^ k] := by
  rw [bitGroups_of_le hk le_rfl, Nat.sub_self, pow_zero, Nat.div_one, bitGroups_zero]

@[simp] lemma ofBitGroups_nil : ofBitGroups k [] = 0 := rfl

@[simp] lemma ofBitGroups_concat :
    ofBitGroups k (groups ++ [group]) = ofBitGroups k groups * 2 ^ k + group := by
  rw [ofBitGroups, List.foldl_append]
  rfl

lemma length_bitGroups (hk : 0 < k) : (bitGroups k value bits).length = bits / k := by
  induction bits using Nat.strong_induction_on with
  | h bits ih =>
      rcases Nat.lt_or_ge bits k with hlt | hle
      · rw [bitGroups_of_lt hlt, Nat.div_eq_of_lt hlt]
        rfl
      · rw [bitGroups_of_le hk hle, List.length_cons, ih (bits - k) (by omega),
          Nat.div_eq_sub_div hk hle]

lemma lt_of_mem_bitGroups (hk : 0 < k) (h : group ∈ bitGroups k value bits) : group < 2 ^ k := by
  induction bits using Nat.strong_induction_on with
  | h bits ih =>
      rcases Nat.lt_or_ge bits k with hlt | hle
      · rw [bitGroups_of_lt hlt] at h
        cases h
      · rw [bitGroups_of_le hk hle] at h
        rcases List.mem_cons.mp h with rfl | hmem
        · exact Nat.mod_lt _ (by positivity)
        · exact ih (bits - k) (by omega) hmem

/-- Appended bits join the bits that were left over. -/
lemma bitGroups_append (hk : 0 < k) {low : ℕ} (hlow : low < 2 ^ j) :
    bitGroups k (value * 2 ^ j + low) (bits + j) =
      bitGroups k value bits ++ bitGroups k (value * 2 ^ j + low) (bits % k + j) := by
  induction bits using Nat.strong_induction_on with
  | h bits ih =>
      rcases Nat.lt_or_ge bits k with hlt | hle
      · rw [bitGroups_of_lt hlt, Nat.mod_eq_of_lt hlt, List.nil_append]
      · have hbits : bits + j - k = bits - k + j := by omega
        have hvalue : (value * 2 ^ j + low) / 2 ^ (bits - k + j) = value / 2 ^ (bits - k) := by
          rw [pow_add, mul_comm (2 ^ (bits - k)), ← Nat.div_div_eq_div_mul, mul_comm value,
            Nat.mul_add_div (by positivity), Nat.div_eq_of_lt hlow, add_zero]
        rw [bitGroups_of_le hk (by omega : k ≤ bits + j), hbits, hvalue, ih (bits - k) (by omega),
          bitGroups_of_le hk hle, List.cons_append, Nat.mod_eq_sub_mod hle]

/-- Bits that make no whole group change nothing. -/
lemma bitGroups_mul_pow (hk : 0 < k) (hdvd : k ∣ bits) (hj : j < k) :
    bitGroups k (value * 2 ^ j) (bits + j) = bitGroups k value bits := by
  have happend := @bitGroups_append k value bits j hk 0 (by positivity)
  rw [Nat.mod_eq_zero_of_dvd hdvd, zero_add, add_zero, bitGroups_of_lt hj, List.append_nil]
    at happend
  exact happend

lemma ofBitGroups_lt (h : ∀ group ∈ groups, group < 2 ^ k) :
    ofBitGroups k groups < 2 ^ (k * groups.length) := by
  induction groups using List.reverseRecOn with
  | nil => exact Nat.one_pos
  | append_singleton groups group ih =>
      have hgroup := h group (List.mem_append_right _ List.mem_cons_self)
      have hgroups := ih fun g hg => h g (List.mem_append_left _ hg)
      rw [ofBitGroups_concat, List.length_append, List.length_singleton, Nat.mul_succ, pow_add]
      calc ofBitGroups k groups * 2 ^ k + group
          < ofBitGroups k groups * 2 ^ k + 2 ^ k := Nat.add_lt_add_left hgroup _
        _ = (ofBitGroups k groups + 1) * 2 ^ k := (Nat.succ_mul _ _).symm
        _ ≤ 2 ^ (k * groups.length) * 2 ^ k := Nat.mul_le_mul_right _ hgroups

/-- The groups of a number make the number. -/
lemma ofBitGroups_bitGroups (hk : 0 < k) (n : ℕ) (h : value < 2 ^ (k * n)) :
    ofBitGroups k (bitGroups k value (k * n)) = value := by
  induction n generalizing value with
  | zero =>
      rw [Nat.mul_zero, pow_zero, Nat.lt_one_iff] at h
      rw [h, Nat.mul_zero, bitGroups_zero, ofBitGroups_nil]
  | succ n ih =>
      have hdiv : value / 2 ^ k < 2 ^ (k * n) := by
        rw [Nat.div_lt_iff_lt_mul (by positivity), ← pow_add]
        exact h
      have hvalue : value / 2 ^ k * 2 ^ k + value % 2 ^ k = value := Nat.div_add_mod' _ _
      have happend := @bitGroups_append k (value / 2 ^ k) (k * n) k hk (value % 2 ^ k)
        (Nat.mod_lt _ (by positivity))
      rw [hvalue, Nat.mul_mod_right, zero_add, bitGroups_self hk] at happend
      rw [Nat.mul_succ, happend, ofBitGroups_concat, ih hdiv, hvalue]

/-- The groups of the number that they make. -/
lemma bitGroups_ofBitGroups (hk : 0 < k) (h : ∀ group ∈ groups, group < 2 ^ k) :
    bitGroups k (ofBitGroups k groups) (k * groups.length) = groups := by
  induction groups using List.reverseRecOn with
  | nil => exact bitGroups_zero
  | append_singleton groups group ih =>
      have hgroup := h group (List.mem_append_right _ List.mem_cons_self)
      have hgroups := ih fun g hg => h g (List.mem_append_left _ hg)
      rw [ofBitGroups_concat, List.length_append, List.length_singleton, Nat.mul_succ,
        bitGroups_append hk hgroup, hgroups, Nat.mul_mod_right, zero_add, bitGroups_self hk,
        Nat.mul_add_mod_self_right, Nat.mod_eq_of_lt hgroup]

end Opzava.Library
