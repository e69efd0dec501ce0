import Opzava.Library.Json

/-!
JSON values up to the order of the names of their objects.

* `SameUpToKeyOrder`: two values are equal but for the order of the fields, at every level.
* `sortKeys`: the value with the fields of every object sorted as `Array.prototype.sort` sorts
  their names.
* `sortKeys_eq_iff`: two values are equal up to key order iff they are equal once sorted.
* `print_sortKeys_inj`: so they are iff their sorted texts are equal.
-/

namespace Opzava.Library

/-! ### The order of strings -/

lemma unitsLe_total : ∀ a b : List ℕ, unitsLe a b = true ∨ unitsLe b a = true
  | [], b => .inl (by cases b <;> rfl)
  | _ :: _, [] => .inr rfl
  | a :: as, b :: bs => by
      rw [unitsLe, unitsLe]
      split_ifs
      · exact .inl rfl
      · exact .inl rfl
      · exact .inr rfl
      · exact unitsLe_total as bs

lemma unitsLe_trans : ∀ {a b c : List ℕ}, unitsLe a b = true → unitsLe b c = true →
    unitsLe a c = true
  | [], _, c, _, _ => by cases c <;> rfl
  | _ :: _, [], _, h, _ => by cases h
  | _ :: _, _ :: _, [], _, h => by cases h
  | a :: as, b :: bs, c :: cs, h, h' => by
      rw [unitsLe] at h h' ⊢
      split_ifs at h h' ⊢ <;> first | rfl | omega | exact unitsLe_trans h h'

lemma unitsLe_antisymm : ∀ {a b : List ℕ}, unitsLe a b = true → unitsLe b a = true → a = b
  | [], [], _, _ => rfl
  | [], _ :: _, _, h => by cases h
  | _ :: _, [], h, _ => by cases h
  | a :: as, b :: bs, h, h' => by
      rw [unitsLe] at h h'
      split_ifs at h h'
      · omega
      · rw [show a = b by omega, unitsLe_antisymm h h']

/-- A text is given by its code units. -/
lemma utf16Units_inj {s s' : String}
    (h : s.toList.flatMap utf16Units = s'.toList.flatMap utf16Units) : s = s' := by
  have htexts := congrArg fromUtf16 h
  rw [fromUtf16_utf16Units, fromUtf16_utf16Units] at htexts
  exact String.toList_inj.mp htexts

lemma jsStringLe_antisymm {s s' : String} (h : jsStringLe s s' = true)
    (h' : jsStringLe s' s = true) : s = s' :=
  utf16Units_inj (unitsLe_antisymm h h')

/-! ### Sorted fields -/

section Fields

variable {β : Type*}

/-- The field comes first by its name. -/
def keyLe (a b : String × β) : Bool := jsStringLe a.1 b.1

instance : Std.Total fun a b : String × β => keyLe a b = true := ⟨fun _ _ => unitsLe_total _ _⟩

instance : IsTrans (String × β) fun a b => keyLe a b = true := ⟨fun _ _ _ => unitsLe_trans⟩

/-- The fields sorted by their names. -/
def sortFields (fields : List (String × β)) : List (String × β) :=
  fields.insertionSort fun a b => keyLe a b

lemma sortFields_perm (fields : List (String × β)) : (sortFields fields).Perm fields :=
  List.perm_insertionSort _ fields

/-- Two orders of the same fields are sorted alike. -/
lemma sortFields_eq_iff {fields fields' : List (String × β)} (h : (fields.map Prod.fst).Nodup) :
    sortFields fields = sortFields fields' ↔ fields.Perm fields' := by
  refine ⟨fun heq => ?_, fun hperm => ?_⟩
  · exact (sortFields_perm fields).symm.trans (heq ▸ sortFields_perm fields')
  · have hantisymm : ∀ a b, a ∈ sortFields fields → b ∈ sortFields fields' → keyLe a b = true →
        keyLe b a = true → a = b := by
      intro a b ha hb hab hba
      have hmemA := (sortFields_perm fields).mem_iff.mp ha
      have hmemB := hperm.mem_iff.mpr ((sortFields_perm fields').mem_iff.mp hb)
      exact List.inj_on_of_nodup_map h hmemA hmemB (jsStringLe_antisymm hab hba)
    exact List.Perm.eq_of_pairwise hantisymm (List.pairwise_insertionSort _ _)
      (List.pairwise_insertionSort _ _)
      ((sortFields_perm fields).trans (hperm.trans (sortFields_perm fields').symm))

end Fields

/-! ### Values up to the order of their keys -/

mutual

/-- Equal but for the order of the fields of their objects. -/
def SameUpToKeyOrder : Json → Json → Prop
  | .null, .null => True
  | .boolean b, .boolean b' => b = b'
  | .number text, .number text' => text = text'
  | .string s, .string s' => s = s'
  | .array items, .array items' => SameItems items items'
  | .object fields, .object fields' =>
      fields.length = fields'.length ∧ FieldsIn fields fields'
  | _, _ => False

/-- The items agree one by one. -/
def SameItems : List Json → List Json → Prop
  | [], [] => True
  | item :: items, item' :: items' => SameUpToKeyOrder item item' ∧ SameItems items items'
  | _, _ => False

/-- Every field is one of the others. -/
def FieldsIn : List (String × Json) → List (String × Json) → Prop
  | [], _ => True
  | field :: fields, fields' => FieldIn field fields' ∧ FieldsIn fields fields'

/-- One of the fields has the name and the value of this one. -/
def FieldIn : String × Json → List (String × Json) → Prop
  | (name, value), fields' => ∃ value', (name, value') ∈ fields' ∧ SameUpToKeyOrder value value'

end

mutual

/-- The value with the fields of every object sorted by their names. -/
def sortKeys : Json → Json
  | .array items => .array (sortItems items)
  | .object fields => .object (sortFields (sortValues fields))
  | value => value

/-- The items with their keys sorted. -/
def sortItems : List Json → List Json
  | [] => []
  | item :: items => sortKeys item :: sortItems items

/-- The fields, in their order, with the keys of their values sorted. -/
def sortValues : List (String × Json) → List (String × Json)
  | [] => []
  | field :: fields => sortValue field :: sortValues fields

/-- One field. -/
def sortValue : String × Json → String × Json
  | (name, value) => (name, sortKeys value)

end

lemma sortItems_eq (items : List Json) : sortItems items = items.map sortKeys := by
  induction items with
  | nil => rfl
  | cons item items ih => rw [sortItems, ih, List.map_cons]

lemma sortValues_eq (fields : List (String × Json)) :
    sortValues fields = fields.map fun field => (field.1, sortKeys field.2) := by
  induction fields with
  | nil => rfl
  | cons field fields ih => rw [sortValues, ih, List.map_cons, sortValue]

lemma fieldsIn_iff {fields fields' : List (String × Json)} :
    FieldsIn fields fields' ↔ ∀ name value, (name, value) ∈ fields →
      ∃ value', (name, value') ∈ fields' ∧ SameUpToKeyOrder value value' := by
  induction fields with
  | nil => simp [FieldsIn]
  | cons field fields ih =>
      obtain ⟨name, value⟩ := field
      rw [FieldsIn, FieldIn, ih]
      constructor
      · rintro ⟨hfirst, hrest⟩ name' value' hmem
        rcases List.mem_cons.mp hmem with heq | hmem
        · cases heq
          exact hfirst
        · exact hrest name' value' hmem
      · intro h
        exact ⟨h name value List.mem_cons_self,
          fun name' value' hmem => h name' value' (List.mem_cons_of_mem _ hmem)⟩

variable {canonical : List Char → String}

/-! ### Sorting decides -/

lemma map_fst_sortValues (fields : List (String × Json)) :
    (sortValues fields).map Prod.fst = fields.map Prod.fst := by
  rw [sortValues_eq, List.map_map]
  rfl

lemma fieldsOk_iff {fields : List (String × Json)} :
    FieldsOk canonical fields ↔ ∀ name value, (name, value) ∈ fields → value.Ok canonical := by
  induction fields with
  | nil => simp [FieldsOk]
  | cons field fields ih =>
      obtain ⟨name, value⟩ := field
      rw [FieldsOk, FieldOk, ih]
      constructor
      · rintro ⟨hfirst, hrest⟩ name' value' hmem
        rcases List.mem_cons.mp hmem with heq | hmem
        · cases heq
          exact hfirst
        · exact hrest name' value' hmem
      · intro h
        exact ⟨h name value List.mem_cons_self,
          fun name' value' hmem => h name' value' (List.mem_cons_of_mem _ hmem)⟩

mutual

/-- **Sorting decides key-order equality.** -/
theorem sortKeys_eq_iff : ∀ (v w : Json), v.Ok canonical → w.Ok canonical →
    (sortKeys v = sortKeys w ↔ SameUpToKeyOrder v w)
  | .array items, .array items', hv, hw => by
      rw [Json.Ok] at hv hw
      rw [sortKeys, sortKeys, SameUpToKeyOrder, Json.array.injEq]
      exact sortItems_eq_iff items items' hv hw
  | .object fields, .object fields', hv, hw => by
      rw [Json.Ok] at hv hw
      rw [sortKeys, sortKeys, SameUpToKeyOrder, Json.object.injEq,
        sortFields_eq_iff (by rw [map_fst_sortValues]; exact hv.2)]
      have hin : FieldsIn fields fields' ↔ sortValues fields ⊆ sortValues fields' :=
        fieldsIn_iff_subset fields fields' hv.1 hw.1
      rw [hin]
      constructor
      · intro hperm
        have hlength := hperm.length_eq
        rw [sortValues_eq, sortValues_eq, List.length_map, List.length_map] at hlength
        exact ⟨hlength, hperm.subset⟩
      · rintro ⟨hlength, hsub⟩
        have hnodup : (sortValues fields).Nodup := by
          refine List.Nodup.of_map Prod.fst ?_
          rw [map_fst_sortValues]
          exact hv.2
        refine (List.subperm_of_subset hnodup hsub).perm_of_length_le ?_
        rw [sortValues_eq, sortValues_eq, List.length_map, List.length_map, hlength]
  | .null, w, _, _ => by cases w <;> simp [sortKeys, SameUpToKeyOrder]
  | .boolean b, w, _, _ => by cases w <;> simp [sortKeys, SameUpToKeyOrder]
  | .number text, w, _, _ => by cases w <;> simp [sortKeys, SameUpToKeyOrder]
  | .string s, w, _, _ => by cases w <;> simp [sortKeys, SameUpToKeyOrder]
  | .array items, .null, _, _ => by simp [sortKeys, SameUpToKeyOrder]
  | .array items, .boolean _, _, _ => by simp [sortKeys, SameUpToKeyOrder]
  | .array items, .number _, _, _ => by simp [sortKeys, SameUpToKeyOrder]
  | .array items, .string _, _, _ => by simp [sortKeys, SameUpToKeyOrder]
  | .array items, .object _, _, _ => by simp [sortKeys, SameUpToKeyOrder]
  | .object fields, .null, _, _ => by simp [sortKeys, SameUpToKeyOrder]
  | .object fields, .boolean _, _, _ => by simp [sortKeys, SameUpToKeyOrder]
  | .object fields, .number _, _, _ => by simp [sortKeys, SameUpToKeyOrder]
  | .object fields, .string _, _, _ => by simp [sortKeys, SameUpToKeyOrder]
  | .object fields, .array _, _, _ => by simp [sortKeys, SameUpToKeyOrder]

theorem sortItems_eq_iff : ∀ (items items' : List Json), ItemsOk canonical items →
    ItemsOk canonical items' → (sortItems items = sortItems items' ↔ SameItems items items')
  | [], [], _, _ => by simp [sortItems, SameItems]
  | [], _ :: _, _, _ => by simp [sortItems, SameItems]
  | _ :: _, [], _, _ => by simp [sortItems, SameItems]
  | item :: items, item' :: items', hv, hw => by
      rw [ItemsOk] at hv hw
      rw [sortItems, sortItems, SameItems, List.cons.injEq, sortKeys_eq_iff item item' hv.1 hw.1,
        sortItems_eq_iff items items' hv.2 hw.2]

theorem fieldsIn_iff_subset : ∀ (fields fields' : List (String × Json)),
    FieldsOk canonical fields → FieldsOk canonical fields' →
    (FieldsIn fields fields' ↔ sortValues fields ⊆ sortValues fields')
  | [], _, _, _ => by simp [FieldsIn, sortValues]
  | field :: fields, fields', hv, hw => by
      rw [FieldsOk] at hv
      rw [FieldsIn, sortValues, List.cons_subset, fieldIn_iff_mem field fields' hv.1 hw,
        fieldsIn_iff_subset fields fields' hv.2 hw]

theorem fieldIn_iff_mem : ∀ (field : String × Json) (fields' : List (String × Json)),
    FieldOk canonical field → FieldsOk canonical fields' →
    (FieldIn field fields' ↔ sortValue field ∈ sortValues fields')
  | (name, value), fields', hv, hw => by
      rw [FieldOk] at hv
      rw [FieldIn, sortValue, sortValues_eq, List.mem_map]
      constructor
      · rintro ⟨value', hmem, hsame⟩
        refine ⟨(name, value'), hmem, ?_⟩
        rw [(sortKeys_eq_iff value value' hv (fieldsOk_iff.mp hw name value' hmem)).mpr hsame]
      · rintro ⟨⟨name', value'⟩, hmem, heq⟩
        obtain ⟨rfl, hsorted⟩ := Prod.mk.injEq .. ▸ heq
        exact ⟨value', hmem, (sortKeys_eq_iff value value' hv
          (fieldsOk_iff.mp hw name' value' hmem)).mp hsorted.symm⟩

end

/-! ### Sorted texts -/

mutual

/-- Sorting leaves a value that can be printed. -/
theorem sortKeys_ok : ∀ v : Json, v.Ok canonical → (sortKeys v).Ok canonical
  | .array items, hv => by
      rw [Json.Ok] at hv
      rw [sortKeys, Json.Ok]
      exact sortItems_ok items hv
  | .object fields, hv => by
      rw [Json.Ok] at hv
      rw [sortKeys, Json.Ok]
      refine ⟨fieldsOk_iff.mpr fun name value hmem => ?_, ?_⟩
      · exact fieldsOk_iff.mp (sortValues_ok fields hv.1) name value
          ((sortFields_perm _).mem_iff.mp hmem)
      · rw [((sortFields_perm _).map Prod.fst).nodup_iff, map_fst_sortValues]
        exact hv.2
  | .null, hv => hv
  | .boolean _, hv => hv
  | .number _, hv => hv
  | .string _, hv => hv

theorem sortItems_ok : ∀ items : List Json, ItemsOk canonical items →
    ItemsOk canonical (sortItems items)
  | [], hv => hv
  | item :: items, hv => by
      rw [ItemsOk] at hv
      exact ⟨sortKeys_ok item hv.1, sortItems_ok items hv.2⟩

theorem sortValues_ok : ∀ fields : List (String × Json), FieldsOk canonical fields →
    FieldsOk canonical (sortValues fields)
  | [], hv => hv
  | field :: fields, hv => by
      rw [FieldsOk] at hv
      exact ⟨sortValue_ok field hv.1, sortValues_ok fields hv.2⟩

theorem sortValue_ok : ∀ field : String × Json, FieldOk canonical field →
    FieldOk canonical (sortValue field)
  | (_, value), hv => sortKeys_ok value hv

end

/-- A value is given by its text. -/
lemma print_inj {v w : Json} (hv : v.Ok canonical) (hw : w.Ok canonical)
    (h : v.print = w.print) : v = w := by
  have hread := jsonParse_print hv
  rw [h, jsonParse_print hw] at hread
  exact (Option.some.inj hread).symm

/-- **The sorted text is a canonical form**: it is the same for two values iff they are equal up
to key order. -/
theorem print_sortKeys_inj {v w : Json} (hv : v.Ok canonical) (hw : w.Ok canonical) :
    (sortKeys v).print = (sortKeys w).print ↔ SameUpToKeyOrder v w := by
  rw [← sortKeys_eq_iff v w hv hw]
  exact ⟨print_inj (sortKeys_ok v hv) (sortKeys_ok w hw), fun h => by rw [h]⟩

end Opzava.Library
