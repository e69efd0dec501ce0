import Opzava.Library.JsonFields

/-!
Patches of JSON objects: the fields of a patch are merged into those of an object, where a null
removes a field; a value that is no object replaces what was there.

* `mergeValue`, `mergeFields`: the merge.
* `lookup_mergeFields`, `inner_mergeFields`: what is read after a merge.
* `mergeFields_of_lookup`, `mergeValue_self`: what is merged into itself stays as it is.
* `mergeFields_of_null`, `filter_mergeFields_of_neg`: what a patch removes, and what it leaves alone.
-/

namespace Opzava.Library

/-- The fields of what is there, when it is an object. -/
def objectFields : Option Json → List (String × Json)
  | some (.object fields) => fields
  | _ => []

mutual

/-- The value of a field after a patch with a value that is not null. -/
def mergeValue (target : Option Json) : Json → Json
  | .object patch => .object (mergeFields (objectFields target) patch)
  | value => value

/-- The fields of an object after a patch. -/
def mergeFields : List (String × Json) → List (String × Json) → List (String × Json)
  | fields, [] => fields
  | fields, (name, .null) :: patch =>
      mergeFields (fields.filter fun field => field.1 ≠ name) patch
  | fields, (name, value) :: patch =>
      mergeFields (writeField fields name (mergeValue (fields.lookup name) value)) patch

end

mutual

/-- There is no null in the value, and no name twice in an object. -/
def Json.isPlain : Json → Bool
  | .null => false
  | .array items => itemsPlain items
  | .object fields => fieldsPlain fields && (fields.map Prod.fst).Nodup
  | _ => true

def itemsPlain : List Json → Bool
  | [] => true
  | item :: items => item.isPlain && itemsPlain items

def fieldsPlain : List (String × Json) → Bool
  | [] => true
  | (_, value) :: fields => value.isPlain && fieldsPlain fields

end

namespace JsonFields

variable {fields patch : List (String × Json)} {name name' : String} {value : Json}

/-! ### Reading -/

lemma lookup_filter_ne : (fields.filter fun field => field.1 ≠ name').lookup name =
    if name = name' then none else fields.lookup name := by
  induction fields with
  | nil => simp
  | cons field fields ih =>
      obtain ⟨first, value⟩ := field
      by_cases hfirst : first = name'
      · rw [List.filter_cons_of_neg (by simpa using hfirst), ih, lookup_cons, hfirst]
        split_ifs <;> rfl
      · rw [List.filter_cons_of_pos (by simpa using hfirst), lookup_cons, ih, lookup_cons]
        by_cases hname : name = first
        · rw [if_pos hname, if_pos hname, if_neg (hname ▸ hfirst)]
        · rw [if_neg hname, if_neg hname]

lemma lookup_eq_none_of_notMem (h : name ∉ fields.map Prod.fst) : fields.lookup name = none := by
  induction fields with
  | nil => rfl
  | cons field fields ih =>
      rw [List.map_cons, List.mem_cons, not_or] at h
      rw [lookup_cons, if_neg h.1, ih h.2]

lemma lookup_of_mem (hnodup : (fields.map Prod.fst).Nodup) (h : (name, value) ∈ fields) :
    fields.lookup name = some value := by
  induction fields with
  | nil => cases h
  | cons field fields ih =>
      obtain ⟨hfirst, hrest⟩ := List.nodup_cons.mp hnodup
      rcases List.mem_cons.mp h with rfl | hmem
      · rw [lookup_cons, if_pos rfl]
      · have hne : name ≠ field.1 := by
          rintro rfl
          exact hfirst (List.mem_map.mpr ⟨_, hmem, rfl⟩)
        rw [lookup_cons, if_neg hne, ih hrest hmem]

/-- A field after a patch. -/
lemma lookup_mergeFields (hnodup : (patch.map Prod.fst).Nodup) :
    (mergeFields fields patch).lookup name =
      match patch.lookup name with
      | none => fields.lookup name
      | some .null => none
      | some value => some (mergeValue (fields.lookup name) value) := by
  induction patch generalizing fields with
  | nil => rw [mergeFields, List.lookup_nil]
  | cons field patch ih =>
      obtain ⟨first, value⟩ := field
      obtain ⟨hfirst, hrest⟩ := List.nodup_cons.mp hnodup
      rw [lookup_cons]
      by_cases hname : name = first
      · -- The rest of the patch does not name the field again.
        subst hname
        rw [if_pos rfl]
        have hnone : patch.lookup name = none := lookup_eq_none_of_notMem hfirst
        cases value with
        | null => rw [mergeFields, ih hrest, hnone, lookup_filter_ne, if_pos rfl]
        | _ =>
            rw [mergeFields, ih hrest, hnone, lookup_writeField, if_pos rfl]
            nofun
      · rw [if_neg hname]
        cases value with
        | null => rw [mergeFields, ih hrest, lookup_filter_ne, if_neg hname]
        | _ =>
            rw [mergeFields, ih hrest, lookup_writeField, if_neg hname]
            nofun

/-- The fields of a field that is an object. -/
def inner (fields : List (String × Json)) (name : String) : List (String × Json) :=
  objectFields (fields.lookup name)

lemma lookup_mergeFields_of_none (hnodup : (patch.map Prod.fst).Nodup)
    (hnone : patch.lookup name = none) :
    (mergeFields fields patch).lookup name = fields.lookup name := by
  rw [lookup_mergeFields hnodup, hnone]

lemma lookup_mergeFields_array {items : List Json} (hnodup : (patch.map Prod.fst).Nodup)
    (hsome : patch.lookup name = some (.array items)) :
    (mergeFields fields patch).lookup name = some (.array items) := by
  rw [lookup_mergeFields hnodup, hsome]
  rfl

/-- A patch that says nothing of a field, or that patches it as an object. -/
lemma inner_mergeFields (hnodup : (patch.map Prod.fst).Nodup)
    (hobject : ∀ value, patch.lookup name = some value → ∃ inside, value = .object inside) :
    inner (mergeFields fields patch) name = mergeFields (inner fields name) (inner patch name) := by
  cases hpatch : patch.lookup name with
  | none =>
      have hempty : inner patch name = [] := by rw [inner, hpatch, objectFields]; nofun
      rw [hempty, mergeFields, inner, lookup_mergeFields_of_none hnodup hpatch, inner]
  | some value =>
      obtain ⟨inside, rfl⟩ := hobject value hpatch
      rw [inner, lookup_mergeFields hnodup, hpatch]
      change objectFields (some (mergeValue _ (.object inside))) = _
      rw [mergeValue, inner, inner, hpatch, objectFields, objectFields]

/-! ### Writing -/

/-- A patch of an object in an object. -/
lemma inner_mergeFields_object {inside : List (String × Json)}
    (hnodup : (patch.map Prod.fst).Nodup) (hpatch : patch.lookup name = some (.object inside)) :
    inner (mergeFields fields patch) name = mergeFields (inner fields name) inside := by
  have hinside : inner patch name = inside := by rw [inner, hpatch, objectFields]
  rw [inner_mergeFields hnodup fun value hvalue =>
    ⟨inside, Option.some.inj (hvalue.symm.trans hpatch)⟩, hinside]

lemma writeField_of_lookup (h : fields.lookup name = some value) :
    writeField fields name value = fields := by
  induction fields with
  | nil => cases h
  | cons field fields ih =>
      rw [lookup_cons] at h
      rw [writeField]
      by_cases hname : name = field.1
      · rw [if_pos hname, Option.some_inj] at h
        rw [if_pos hname.symm, hname, ← h]
      · rw [if_neg hname] at h
        rw [if_neg (Ne.symm hname), ih h]

lemma mem_names_writeField : name' ∈ (writeField fields name value).map Prod.fst ↔
    name' = name ∨ name' ∈ fields.map Prod.fst := by
  induction fields with
  | nil => simp [writeField]
  | cons field fields ih =>
      rw [writeField]
      split_ifs with hfield
      · rw [List.map_cons, List.mem_cons, List.map_cons, List.mem_cons, ← hfield]
        exact ⟨.inr, fun h => h.elim .inl id⟩
      · rw [List.map_cons, List.mem_cons, List.map_cons, List.mem_cons, ih]
        exact or_left_comm

lemma nodup_writeField (h : (fields.map Prod.fst).Nodup) :
    ((writeField fields name value).map Prod.fst).Nodup := by
  induction fields with
  | nil => simp [writeField]
  | cons field fields ih =>
      obtain ⟨hfirst, hrest⟩ := List.nodup_cons.mp h
      rw [writeField]
      split_ifs with hfield
      · exact List.nodup_cons.mpr ⟨hfield ▸ hfirst, hrest⟩
      · refine List.nodup_cons.mpr ⟨fun hmem => ?_, ih hrest⟩
        rcases mem_names_writeField.mp hmem with heq | hold
        · exact hfield heq
        · exact hfirst hold

/-! ### Merging a value into itself -/

lemma isPlain_of_lookup (h : fieldsPlain fields = true) (hget : fields.lookup name = some value) :
    value.isPlain = true := by
  induction fields with
  | nil => cases hget
  | cons field fields ih =>
      obtain ⟨hvalue, hrest⟩ := Bool.and_eq_true_iff.mp h
      rw [lookup_cons] at hget
      split_ifs at hget with hname
      · rw [← Option.some.inj hget]
        exact hvalue
      · exact ih hrest hget

/-- A plain object: no null in it, and no name twice. -/
structure PlainFields (fields : List (String × Json)) : Prop where
  values : fieldsPlain fields = true
  nodup : (fields.map Prod.fst).Nodup

lemma PlainFields.of_isPlain (h : (Json.object fields).isPlain = true) : PlainFields fields :=
  let ⟨hvalues, hnodup⟩ := Bool.and_eq_true_iff.mp h
  ⟨hvalues, of_decide_eq_true hnodup⟩

lemma PlainFields.inner (h : PlainFields fields) : PlainFields (inner fields name) := by
  rw [JsonFields.inner]
  cases hget : fields.lookup name with
  | none => exact ⟨rfl, List.nodup_nil⟩
  | some value =>
      cases value with
      | object inside => exact .of_isPlain (isPlain_of_lookup h.values hget)
      | _ => exact ⟨rfl, List.nodup_nil⟩

end JsonFields

open JsonFields

mutual

/-- A plain value that is merged into itself. -/
lemma mergeValue_self : ∀ {value : Json}, value.isPlain = true →
    mergeValue (some value) value = value
  | .object fields, h => by
      obtain ⟨hfields, hnodup⟩ := Bool.and_eq_true_iff.mp h
      rw [mergeValue, objectFields, mergeFields_of_lookup hfields fun name value hmem =>
        lookup_of_mem (of_decide_eq_true hnodup) hmem]
  | .boolean _, _ => rfl
  | .number _, _ => rfl
  | .string _, _ => rfl
  | .array _, _ => rfl

/-- A patch with fields that are already there. -/
lemma mergeFields_of_lookup : ∀ {patch fields : List (String × Json)},
    fieldsPlain patch = true →
    (∀ name value, (name, value) ∈ patch → fields.lookup name = some value) →
    mergeFields fields patch = fields
  | [], _, _, _ => by rw [mergeFields]
  | (name, value) :: patch, fields, h, hget => by
      obtain ⟨hvalue, hrest⟩ := Bool.and_eq_true_iff.mp h
      have hlookup : fields.lookup name = some value := hget name value List.mem_cons_self
      have hself : mergeValue (some value) value = value := mergeValue_self hvalue
      have hstep : mergeFields fields ((name, value) :: patch) =
          mergeFields (writeField fields name (mergeValue (fields.lookup name) value)) patch := by
        cases value with
        | null => cases hvalue
        | _ =>
            rw [mergeFields]
            nofun
      rw [hstep, hlookup, hself, writeField_of_lookup hlookup,
        mergeFields_of_lookup hrest fun name' value' hmem =>
          hget name' value' (List.mem_cons_of_mem _ hmem)]

end

namespace JsonFields

variable {fields patch : List (String × Json)} {name : String} {value : Json}

/-- A plain field that a patch has with its own value. -/
lemma lookup_mergeFields_self (hnodup : (patch.map Prod.fst).Nodup) (hplain : value.isPlain = true)
    (hpatch : patch.lookup name = some value) (hget : fields.lookup name = some value) :
    (mergeFields fields patch).lookup name = some value := by
  rw [lookup_mergeFields hnodup, hpatch, hget]
  cases value with
  | null => cases hplain
  | _ => exact congrArg some (mergeValue_self hplain)

/-- A field other than the one that is patched. -/
lemma lookup_mergeFields_of_ne {name' : String} (hne : name ≠ name') :
    (mergeFields fields [(name', value)]).lookup name = fields.lookup name :=
  lookup_mergeFields_of_none (List.nodup_singleton _) (by rw [lookup_cons, if_neg hne]; rfl)

/-- A field that is patched as an object. -/
lemma lookup_mergeFields_object :
    (mergeFields fields [(name, .object patch)]).lookup name =
      some (.object (mergeFields (inner fields name) patch)) := by
  have hpatch : [(name, Json.object patch)].lookup name = some (.object patch) := by
    rw [lookup_cons, if_pos rfl]
  have hnodup : ([(name, Json.object patch)].map Prod.fst).Nodup := List.nodup_singleton name
  rw [lookup_mergeFields hnodup, hpatch]
  exact congrArg some (by rw [mergeValue, inner])

/-! ### Keeping and removing fields -/

lemma mergeFields_append {patch' : List (String × Json)} :
    mergeFields fields (patch ++ patch') = mergeFields (mergeFields fields patch) patch' := by
  induction patch generalizing fields with
  | nil => rw [List.nil_append, mergeFields]
  | cons field patch ih =>
      obtain ⟨first, value⟩ := field
      cases value with
      | null => rw [List.cons_append, mergeFields, mergeFields, ih]
      | _ => rw [List.cons_append, mergeFields, mergeFields, ih] <;> nofun

/-- A patch that only removes fields. -/
lemma mergeFields_of_null (h : ∀ field ∈ patch, field.2 = .null) :
    mergeFields fields patch = fields.filter fun field => field.1 ∉ patch.map Prod.fst := by
  induction patch generalizing fields with
  | nil =>
      rw [mergeFields]
      exact (List.filter_eq_self.mpr fun field _ => by simp).symm
  | cons field patch ih =>
      obtain ⟨first, value⟩ := field
      obtain rfl : value = .null := h _ List.mem_cons_self
      rw [mergeFields, ih fun field hmem => h field (List.mem_cons_of_mem _ hmem),
        List.filter_filter]
      refine List.filter_congr fun field _ => ?_
      rw [List.map_cons, ← Bool.decide_and, decide_eq_decide, List.mem_cons, not_or, and_comm]

variable {p : String → Bool}

/-- A field with a name that is left out is written. -/
lemma filter_writeField_of_neg (h : p name = false) :
    (writeField fields name value).filter (p ·.1) = fields.filter (p ·.1) := by
  induction fields with
  | nil => simp [writeField, h]
  | cons field fields ih =>
      rw [writeField]
      split_ifs with hname
      · have hfield : p field.1 = false := hname ▸ h
        rw [List.filter_cons_of_neg (by simp [h]), List.filter_cons_of_neg (by simp [hfield])]
      · rw [List.filter_cons, ih, List.filter_cons]

/-- A field with a name that is kept is written. -/
lemma filter_writeField_of_pos (h : p name = true) :
    (writeField fields name value).filter (p ·.1) =
      writeField (fields.filter (p ·.1)) name value := by
  induction fields with
  | nil => simp [writeField, h]
  | cons field fields ih =>
      rw [writeField]
      split_ifs with hname
      · have hkept : p field.1 = true := hname ▸ h
        rw [List.filter_cons_of_pos (by simpa using h),
          List.filter_cons_of_pos (by simpa using hkept), writeField, if_pos hname]
      · rw [List.filter_cons, ih, List.filter_cons]
        split_ifs with hkept
        · rw [writeField, if_neg hname]
        · rfl

/-- A patch of other fields. -/
lemma filter_mergeFields_of_neg (h : ∀ field ∈ patch, p field.1 = false) :
    (mergeFields fields patch).filter (p ·.1) = fields.filter (p ·.1) := by
  induction patch generalizing fields with
  | nil => rw [mergeFields]
  | cons field patch ih =>
      obtain ⟨first, value⟩ := field
      have hfirst : p first = false := h _ List.mem_cons_self
      cases value with
      | null =>
          rw [mergeFields, ih fun field hmem => h field (List.mem_cons_of_mem _ hmem),
            List.filter_filter]
          refine List.filter_congr fun field _ => ?_
          by_cases hname : field.1 = first
          · simp [hname, hfirst]
          · simp [hname]
      | _ =>
          rw [mergeFields, ih fun field hmem => h field (List.mem_cons_of_mem _ hmem),
            filter_writeField_of_neg hfirst]
          nofun

/-- The names in an object after a patch. -/
lemma nodup_mergeFields (h : (fields.map Prod.fst).Nodup) :
    ((mergeFields fields patch).map Prod.fst).Nodup := by
  induction patch generalizing fields with
  | nil => rwa [mergeFields]
  | cons field patch ih =>
      obtain ⟨first, value⟩ := field
      cases value with
      | null =>
          rw [mergeFields]
          exact ih (h.sublist (List.filter_sublist.map Prod.fst))
      | _ =>
          rw [mergeFields]
          · exact ih (nodup_writeField h)
          · nofun

end JsonFields

end Opzava.Library
