import Mathlib
import Opzava.Library.Json

/-!
The fields of a JSON object: reading, selecting and writing them by their names.

* `pick`: the fields with some names, in the order of the names.
* `lookup_pick`, `pick_pick`, `ok_pick`: what is read from them, and that they can be printed.
* `lookup_writeField`: a field is read as it was written.
-/

namespace Opzava.Library

/-- The fields of an object, in their order. -/
abbrev JsonFields := List (String × Json)

namespace JsonFields

variable {fields : JsonFields} {names names' : List String} {name : String} {value : Json}

/-- The fields with these names, in this order. Those that are not there are left out. -/
def pick (fields : JsonFields) (names : List String) : JsonFields :=
  names.filterMap fun name => (fields.lookup name).map (name, ·)

/-- Every name is allowed. -/
def namesIn (fields : JsonFields) (allowed : List String) : Bool :=
  fields.all (·.1 ∈ allowed)

lemma lookup_cons (name' : String) :
    List.lookup name ((name', value) :: fields) =
      if name = name' then some value else fields.lookup name := by
  by_cases h : name = name'
  · rw [if_pos h, h, List.lookup_cons_self]
  · rw [if_neg h, List.lookup, beq_eq_false_iff_ne.mpr h]

/-- What is read from the selected fields. -/
lemma lookup_pick : (fields.pick names).lookup name =
    if name ∈ names then fields.lookup name else none := by
  induction names with
  | nil => rfl
  | cons first names ih =>
      cases hfirst : fields.lookup first with
      | none =>
          have hpick : fields.pick (first :: names) = fields.pick names := by
            rw [pick, List.filterMap_cons_none (by rw [hfirst]; rfl), pick]
          rw [hpick, ih]
          by_cases h : name = first
          · subst h
            simp [hfirst]
          · simp [h]
      | some value =>
          have hpick : fields.pick (first :: names) = (first, value) :: fields.pick names := by
            rw [pick, List.filterMap_cons_some (by rw [hfirst]; rfl), pick]
          rw [hpick, lookup_cons, ih]
          by_cases h : name = first
          · subst h
            simp [hfirst]
          · simp [h]

lemma lookup_pick_of_mem (h : name ∈ names) :
    (fields.pick names).lookup name = fields.lookup name := by
  rw [lookup_pick, if_pos h]

/-- Names that were selected can be selected again. -/
lemma pick_pick (h : ∀ name ∈ names', name ∈ names) :
    (fields.pick names).pick names' = fields.pick names' := by
  refine List.filterMap_congr fun name hname => ?_
  rw [lookup_pick_of_mem (h name hname)]

/-- The names of the selected fields, in the order of the selection. -/
lemma map_fst_pick_sublist : ((fields.pick names).map Prod.fst).Sublist names := by
  induction names with
  | nil => exact List.Sublist.refl _
  | cons first names ih =>
      rw [pick]
      cases hfirst : fields.lookup first with
      | none =>
          rw [List.filterMap_cons_none (by rw [hfirst]; rfl)]
          exact ih.cons first
      | some value =>
          rw [List.filterMap_cons_some (by rw [hfirst]; rfl)]
          exact ih.cons_cons first

lemma namesIn_pick : (fields.pick names).namesIn names = true :=
  List.all_eq_true.mpr fun _ hfield =>
    decide_eq_true (map_fst_pick_sublist.subset (List.mem_map_of_mem hfield))

lemma namesIn_mono (h : fields.namesIn names = true) (hmem : ∀ name ∈ names, name ∈ names') :
    fields.namesIn names' = true :=
  List.all_eq_true.mpr fun field hfield =>
    decide_eq_true (hmem field.1 (of_decide_eq_true (List.all_eq_true.mp h field hfield)))

lemma mem_of_lookup (h : fields.lookup name = some value) : (name, value) ∈ fields := by
  induction fields with
  | nil => cases h
  | cons field fields ih =>
      rw [lookup_cons] at h
      by_cases hname : name = field.1
      · rw [if_pos hname, Option.some_inj] at h
        exact List.mem_cons.mpr (.inl (Prod.ext hname h.symm))
      · rw [if_neg hname] at h
        exact List.mem_cons_of_mem _ (ih h)

/-- What is read after a field was written. -/
lemma lookup_writeField (name' : String) : (writeField fields name value).lookup name' =
    if name' = name then some value else fields.lookup name' := by
  induction fields with
  | nil => rw [writeField, lookup_cons]
  | cons field fields ih =>
      rw [writeField]
      by_cases hfield : field.1 = name
      · rw [if_pos hfield, lookup_cons, lookup_cons, hfield]
        by_cases h : name' = name <;> simp [h]
      · rw [if_neg hfield, lookup_cons, ih, lookup_cons]
        by_cases h : name' = field.1
        · have hne : name' ≠ name := fun heq => hfield (h.symm.trans heq)
          simp [h, hfield]
        · simp [h]

/-- The names after a field was written. -/
lemma namesIn_writeField (h : fields.namesIn names = true) (hname : name ∈ names) :
    namesIn (writeField fields name value) names = true := by
  induction fields with
  | nil => simpa [writeField, namesIn] using hname
  | cons field fields ih =>
      obtain ⟨hfirst, hrest⟩ := Bool.and_eq_true_iff.mp h
      rw [writeField]
      by_cases hfield : field.1 = name
      · rw [if_pos hfield]
        exact Bool.and_eq_true_iff.mpr ⟨decide_eq_true hname, hrest⟩
      · rw [if_neg hfield]
        exact Bool.and_eq_true_iff.mpr ⟨hfirst, ih hrest⟩

/-! ### Printing -/

section Ok

variable {canonical : List Char → String}

lemma ok_of_mem {items : List Json} (h : ItemsOk canonical items) {item : Json}
    (hitem : item ∈ items) : item.Ok canonical := by
  induction items with
  | nil => cases hitem
  | cons first items ih =>
      rcases List.mem_cons.mp hitem with rfl | hrest
      · exact h.1
      · exact ih h.2 hrest

lemma itemsOk_of_forall {items : List Json} (h : ∀ item ∈ items, item.Ok canonical) :
    ItemsOk canonical items := by
  induction items with
  | nil => trivial
  | cons first items ih =>
      exact ⟨h first List.mem_cons_self, ih fun item hitem => h item (List.mem_cons_of_mem _ hitem)⟩

lemma ok_of_mem_fields (h : FieldsOk canonical fields) {field : String × Json}
    (hfield : field ∈ fields) : field.2.Ok canonical := by
  induction fields with
  | nil => cases hfield
  | cons first fields ih =>
      obtain ⟨hfirst, hrest⟩ := h
      rw [FieldOk] at hfirst
      rcases List.mem_cons.mp hfield with rfl | hmem
      · exact hfirst
      · exact ih hrest hmem

lemma fieldsOk_of_forall (h : ∀ field ∈ fields, field.2.Ok canonical) :
    FieldsOk canonical fields := by
  induction fields with
  | nil => trivial
  | cons first fields ih =>
      refine ⟨?_, ih fun field hfield => h field (List.mem_cons_of_mem _ hfield)⟩
      rw [FieldOk]
      exact h first List.mem_cons_self

/-- The selected fields of an object that can be printed. -/
lemma ok_pick (h : FieldsOk canonical fields) (hnames : names.Nodup) :
    (Json.object (fields.pick names)).Ok canonical := by
  refine ⟨fieldsOk_of_forall fun field hfield => ?_, hnames.sublist map_fst_pick_sublist⟩
  obtain ⟨name, -, heq⟩ := List.mem_filterMap.mp hfield
  obtain ⟨value, hvalue, rfl⟩ := Option.map_eq_some_iff.mp heq
  exact ok_of_mem_fields h (mem_of_lookup hvalue)

end Ok

/-! ### Items -/

/-- What a partial function gives for every item. -/
lemma forall₂_of_mapM {α β : Type} {f : α → Option β} : ∀ {items : List α} {results : List β},
    items.mapM f = some results → List.Forall₂ (fun item result => f item = some result) items results
  | [], results, h => by
      rw [List.mapM_nil, Option.pure_def, Option.some_inj] at h
      rw [← h]
      exact List.Forall₂.nil
  | item :: items, results, h => by
      rw [List.mapM_cons] at h
      obtain ⟨first, hfirst, h⟩ := Option.bind_eq_some_iff.mp h
      obtain ⟨rest, hrest, h⟩ := Option.bind_eq_some_iff.mp h
      rw [Option.pure_def, Option.some_inj] at h
      rw [← h]
      exact List.Forall₂.cons hfirst (forall₂_of_mapM hrest)

lemma mapM_eq_self {α : Type} {f : α → Option α} {items : List α}
    (h : ∀ item ∈ items, f item = some item) : items.mapM f = some items := by
  induction items with
  | nil => rfl
  | cons item items ih =>
      rw [List.mapM_cons, h item List.mem_cons_self,
        ih fun other hother => h other (List.mem_cons_of_mem _ hother)]
      rfl

/-- A result comes from an item. -/
lemma exists_of_mem_mapM {α β : Type} {f : α → Option β} {items : List α} {results : List β}
    (h : items.mapM f = some results) {result : β} (hresult : result ∈ results) :
    ∃ item ∈ items, f item = some result := by
  have hall := forall₂_of_mapM h
  clear h
  induction hall with
  | nil => cases hresult
  | cons hfirst _ ih =>
      rcases List.mem_cons.mp hresult with rfl | hrest
      · exact ⟨_, List.mem_cons_self, hfirst⟩
      · obtain ⟨item, hitem, heq⟩ := ih hrest
        exact ⟨item, List.mem_cons_of_mem _ hitem, heq⟩

end JsonFields

end Opzava.Library
