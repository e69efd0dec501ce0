import Opzava.DevBoard.Commands.Queue
import Opzava.Library.KeyOrder

/-!
`canonicalJson` as a canonical form of JSON values.

* `ofJson`: a JSON value as an argument of `canonicalJson`.
* `canonicalJson_ofJson`: the text is the one of the value with all its keys sorted.
* `canonicalJson_is_canonical`: the text, the binding checks and the content hash tell two values
  apart exactly when they differ in more than the order of their keys.
-/

namespace Opzava.DevBoard

open Opzava.Library

mutual

/-- A JSON value as a value of the language. -/
def ofJson : Json → JsValue
  | .null => .null
  | .boolean b => .boolean b
  | .number text => .number text
  | .string s => .string s
  | .array items => .array (ofItems items)
  | .object fields => .object (ofFields fields)

/-- The items of an array. -/
def ofItems : List Json → List JsValue
  | [] => []
  | item :: items => ofJson item :: ofItems items

/-- The fields of an object. -/
def ofFields : List (String × Json) → JsRecord
  | [] => []
  | field :: fields => ofField field :: ofFields fields

/-- One field. -/
def ofField : String × Json → String × JsValue
  | (name, value) => (name, ofJson value)

end

/-- The text of a JSON value. -/
def textOf (value : Json) : String := String.ofList value.print

/-! ### Joined texts -/

/-- The texts joined behind a first one. -/
lemma toList_intercalate_cons (first : String) (rest : List String) :
    (",".intercalate (first :: rest)).toList =
      first.toList ++ (rest.map fun text => ',' :: text.toList).flatten := by
  induction rest generalizing first with
  | nil => simp [String.intercalate_singleton]
  | cons second rest ih =>
      rw [String.intercalate_cons_cons]
      simp [ih]

lemma printItems_eq (items : List Json) :
    printItems items = (items.map fun item => ',' :: item.print).flatten := by
  induction items with
  | nil => rfl
  | cons item items ih => rw [printItems, ih, List.map_cons, List.flatten_cons]; rfl

lemma printFields_eq (fields : List (String × Json)) :
    printFields fields = (fields.map fun field => ',' :: printField field).flatten := by
  induction fields with
  | nil => rfl
  | cons field fields ih => rw [printFields, ih, List.map_cons, List.flatten_cons]; rfl

/-- The text of an array. -/
lemma textOf_array (items : List Json) :
    "[" ++ ",".intercalate (items.map textOf) ++ "]" = textOf (.array items) := by
  refine String.toList_inj.mp ?_
  cases items with
  | nil => simp [textOf, Json.print]
  | cons item items =>
      rw [List.map_cons, String.toList_append, String.toList_append, toList_intercalate_cons,
        textOf, textOf, String.toList_ofList, String.toList_ofList, Json.print, printItems_eq,
        List.map_map]
      simp [textOf, Function.comp_def]

/-- The text of an object. -/
lemma textOf_object (fields : List (String × Json)) :
    "\x7b" ++ ",".intercalate (fields.map fun field => jsonString field.1 ++ ":" ++ textOf field.2)
      ++ "\x7d" = textOf (.object fields) := by
  have hfield : ∀ field : String × Json,
      (jsonString field.1 ++ ":" ++ textOf field.2).toList = printField field := by
    rintro ⟨name, value⟩
    simp [printField, printString, jsonString, textOf]
  refine String.toList_inj.mp ?_
  cases fields with
  | nil => simp [textOf, Json.print]
  | cons field fields =>
      rw [List.map_cons, String.toList_append, String.toList_append, toList_intercalate_cons,
        hfield, textOf, String.toList_ofList, Json.print, printFields_eq, List.map_map]
      simp [Function.comp_def, hfield]

/-! ### The canonical text -/

/-- The fields of an object by name, as `canonicalJson` sorts them. -/
lemma canonicalJson_object {fields : JsRecord} {texts : List (String × String)}
    (h : canonicalFields fields = .ok texts) :
    canonicalJson (.object fields) = .ok ("\x7b" ++ ",".intercalate
      ((sortFields texts).map fun text => jsonString text.1 ++ ":" ++ text.2) ++ "\x7d") := by
  rw [canonicalJson, h]
  rfl

lemma sortFields_map {β γ : Type} (f : β → γ) (fields : List (String × β)) :
    sortFields (fields.map fun field => (field.1, f field.2)) =
      (sortFields fields).map fun field => (field.1, f field.2) :=
  (List.map_insertionSort (fun a b => keyLe a b = true) (fun a b => keyLe a b = true)
    (fun field : String × β => (field.1, f field.2)) fields fun _ _ _ _ => Iff.rfl).symm

mutual

/-- The canonical text is the text with all keys sorted. -/
theorem canonicalJson_ofJson : ∀ value : Json,
    canonicalJson (ofJson value) = .ok (textOf (sortKeys value))
  | .null => by simp [ofJson, canonicalJson, sortKeys, textOf, Json.print]
  | .boolean b => by
      cases b <;> simp [ofJson, canonicalJson, sortKeys, textOf, Json.print]
  | .number text => by simp [ofJson, canonicalJson, sortKeys, textOf, Json.print]
  | .string s => by
      simp [ofJson, canonicalJson, sortKeys, textOf, Json.print, jsonString, printString]
  | .array items => by
      rw [ofJson, canonicalJson, canonicalItems_ofItems items, sortKeys, ← textOf_array]
      rfl
  | .object fields => by
      rw [ofJson, canonicalJson_object (canonicalFields_ofFields fields), sortFields_map, sortKeys,
        ← textOf_object, List.map_map]
      rfl

theorem canonicalItems_ofItems : ∀ items : List Json,
    canonicalItems (ofItems items) = .ok ((sortItems items).map textOf)
  | [] => rfl
  | item :: items => by
      rw [ofItems, canonicalItems, canonicalJson_ofJson item, canonicalItems_ofItems items]
      rfl

theorem canonicalFields_ofFields : ∀ fields : List (String × Json),
    canonicalFields (ofFields fields) =
      .ok ((sortValues fields).map fun field => (field.1, textOf field.2))
  | [] => rfl
  | field :: fields => by
      rw [ofFields, canonicalFields, canonicalField_ofField field, canonicalFields_ofFields fields]
      rfl

theorem canonicalField_ofField : ∀ field : String × Json,
    canonicalField (ofField field) = .ok ((sortValue field).1, textOf (sortValue field).2)
  | (name, value) => by
      rw [ofField, canonicalField, canonicalJson_ofJson value]
      rfl

end

/-! ### The claims about it -/

variable {canonical : List Char → String} {v w : Json}

lemma textOf_sortKeys_inj (hv : v.Ok canonical) (hw : w.Ok canonical) :
    textOf (sortKeys v) = textOf (sortKeys w) ↔ SameUpToKeyOrder v w := by
  rw [← print_sortKeys_inj hv hw, textOf, textOf, String.ofList_inj]

/-- The comparison of two values by their canonical texts. -/
lemma sameCanonicalJson_ofJson :
    sameCanonicalJson (ofJson v) (ofJson w) =
      .ok (decide (textOf (sortKeys v) = textOf (sortKeys w))) := by
  rw [sameCanonicalJson, canonicalJson_ofJson, canonicalJson_ofJson]
  rfl

lemma computeReadyContractContentHash_ofJson [Platform] (fields : List (String × Json)) :
    computeReadyContractContentHash (ofFields fields) =
      .ok (Platform.sha256 (textOf (sortKeys (.object fields)))) := by
  have htext := canonicalJson_ofJson (.object fields)
  rw [ofJson] at htext
  rw [computeReadyContractContentHash, htext]
  rfl

/-- The numbers of JSON values are the texts printed for them. -/
def IsJson (v : Json) : Prop := v.Ok String.ofList

/-- The object a classification check compares with. -/
def classificationJson (type : DevTicketType) (areas : List WorkArea) (priority : Priority)
    (severity : Option Severity) (declared : Option ChangeRisk) : List (String × Json) :=
  [("type", .string type.text), ("workAreas", .array (areas.map fun area => .string area.text)),
    ("priority", .string priority.text)] ++
    (severity.toList.map fun severity => ("severity", .string severity.text)) ++
    [("declaredChangeRisk", (declared.map fun risk => Json.string risk.text).getD .null)]

/-- The object a policy check compares with. -/
def evaluationJson (evaluation : ChangeRiskEvaluation) : Json :=
  .object
    [("policyVersion", .string evaluation.policyVersion),
      ("policyHash", .string evaluation.policyHash),
      ("normalizedInputs", .object
        [("type", .string evaluation.type.text),
          ("workAreas", .array (evaluation.workAreas.map fun area => .string area.text)),
          ("hasActiveDependencies", .boolean evaluation.hasActiveDependencies)]),
      ("matchedRuleIds", .array (evaluation.matchedRuleIds.map .string)),
      ("minimumChangeRisk", .string evaluation.minimumChangeRisk.text)]

lemma ofItems_strings (texts : List String) :
    ofItems (texts.map .string) = texts.map .string := by
  induction texts with
  | nil => rfl
  | cons text texts ih => rw [List.map_cons, ofItems, ih]; rfl

lemma itemsOk_strings (texts : List String) : ItemsOk canonical (texts.map .string) := by
  induction texts with
  | nil => trivial
  | cons text texts ih => exact ⟨trivial, ih⟩

lemma workAreasValue_eq (areas : List WorkArea) :
    workAreasValue areas = ofJson (.array (areas.map fun area => .string area.text)) := by
  have htexts := ofItems_strings (areas.map (·.text))
  rw [List.map_map, List.map_map] at htexts
  exact congrArg JsValue.array htexts.symm

lemma expectedClassification_eq (ticket : DevTicketRow) (type : DevTicketType)
    (priority : Priority) :
    expectedClassification ticket type priority = ofJson (.object (classificationJson type
      ticket.workAreas priority ticket.severity ticket.declaredChangeRisk)) := by
  rw [expectedClassification, classificationValue, workAreasValue_eq, ofJson]
  congr 1
  cases ticket.severity <;> cases ticket.declaredChangeRisk <;> rfl

lemma toValue_eq (evaluation : ChangeRiskEvaluation) :
    evaluation.toValue = ofJson (evaluationJson evaluation) := by
  have hrules : JsValue.array (evaluation.matchedRuleIds.map .string) =
      ofJson (.array (evaluation.matchedRuleIds.map .string)) :=
    congrArg JsValue.array (ofItems_strings _).symm
  rw [ChangeRiskEvaluation.toValue, workAreasValue_eq, hrules]
  rfl

lemma isJson_workAreas (areas : List WorkArea) :
    IsJson (.array (areas.map fun area => .string area.text)) := by
  have htexts : ItemsOk String.ofList ((areas.map (·.text)).map .string) := itemsOk_strings _
  rw [List.map_map] at htexts
  exact htexts

lemma isJson_classification (type : DevTicketType) (areas : List WorkArea) (priority : Priority)
    (severity : Option Severity) (declared : Option ChangeRisk) :
    IsJson (.object (classificationJson type areas priority severity declared)) := by
  have hareas := isJson_workAreas areas
  have hnames : ["type", "workAreas", "priority", "declaredChangeRisk"].Nodup := by decide
  have hnamesBug : ["type", "workAreas", "priority", "severity", "declaredChangeRisk"].Nodup := by
    decide
  cases severity with
  | none => cases declared <;> exact ⟨⟨trivial, hareas, trivial, trivial, trivial⟩, hnames⟩
  | some severity =>
      cases declared <;>
        exact ⟨⟨trivial, hareas, trivial, trivial, trivial, trivial⟩, hnamesBug⟩

lemma isJson_evaluation (evaluation : ChangeRiskEvaluation) :
    IsJson (evaluationJson evaluation) := by
  have hnames : ["policyVersion", "policyHash", "normalizedInputs", "matchedRuleIds",
      "minimumChangeRisk"].Nodup := by decide
  have hinputs : ["type", "workAreas", "hasActiveDependencies"].Nodup := by decide
  exact ⟨⟨trivial, trivial, ⟨⟨trivial, isJson_workAreas _, trivial, trivial⟩, hinputs⟩,
    itemsOk_strings _, trivial, trivial⟩, hnames⟩

lemma sameCanonicalJson_iff (hv : IsJson v) (hw : IsJson w) :
    sameCanonicalJson (ofJson v) (ofJson w) = .ok true ↔ SameUpToKeyOrder v w := by
  rw [sameCanonicalJson_ofJson, Except.ok.injEq, decide_eq_true_eq]
  exact textOf_sortKeys_inj hv hw

/-- **`canonicalJson` is a canonical form.** For all JSON values, of any depth: the text exists,
and two values have one text iff they are equal up to the order of the keys of their objects. So
the binding checks of an approval accept exactly the key-order variants of the classification and
of the policy evaluation of the ticket, and contents have one hash, when the digest is injective,
iff they are such variants. -/
theorem canonicalJson_is_canonical [Platform] (hv : IsJson v) (hw : IsJson w) :
    (∃ text, canonicalJson (ofJson v) = .ok text) ∧
      (canonicalJson (ofJson v) = canonicalJson (ofJson w) ↔ SameUpToKeyOrder v w) ∧
      (sameCanonicalJson (ofJson v) (ofJson w) = .ok true ↔ SameUpToKeyOrder v w) ∧
      (∀ (ticket : DevTicketRow) type priority,
        sameCanonicalJson (ofJson v) (expectedClassification ticket type priority) = .ok true ↔
          SameUpToKeyOrder v (.object (classificationJson type ticket.workAreas priority
            ticket.severity ticket.declaredChangeRisk))) ∧
      (∀ evaluation : ChangeRiskEvaluation,
        sameCanonicalJson (ofJson v) evaluation.toValue = .ok true ↔
          SameUpToKeyOrder v (evaluationJson evaluation)) ∧
      (Function.Injective Platform.sha256 → ∀ fields fields', v = .object fields →
        w = .object fields' → (computeReadyContractContentHash (ofFields fields) =
          computeReadyContractContentHash (ofFields fields') ↔ SameUpToKeyOrder v w)) := by
  refine ⟨⟨_, canonicalJson_ofJson v⟩, ?_, sameCanonicalJson_iff hv hw,
    fun ticket type priority => ?_, fun evaluation => ?_, ?_⟩
  · rw [canonicalJson_ofJson, canonicalJson_ofJson, Except.ok.injEq]
    exact textOf_sortKeys_inj hv hw
  · rw [expectedClassification_eq]
    exact sameCanonicalJson_iff hv (isJson_classification _ _ _ _ _)
  · rw [toValue_eq]
    exact sameCanonicalJson_iff hv (isJson_evaluation evaluation)
  · rintro hdigest fields fields' rfl rfl
    rw [computeReadyContractContentHash_ofJson, computeReadyContractContentHash_ofJson,
      Except.ok.injEq, hdigest.eq_iff]
    exact textOf_sortKeys_inj hv hw

/-- Two orders of one contract content have one text. -/
theorem canonicalJson_is_canonical_swapped :
    canonicalJson (ofJson (.object [("scope", .array [.string "a"]), ("outcome", .null)])) =
      canonicalJson (ofJson (.object [("outcome", .null), ("scope", .array [.string "a"])])) := by
  let _ : Platform := ⟨id, fun _ _ => .eq⟩
  have hv : IsJson (.object [("scope", .array [.string "a"]), ("outcome", .null)]) :=
    ⟨⟨⟨trivial, trivial⟩, trivial, trivial⟩, by decide⟩
  have hw : IsJson (.object [("outcome", .null), ("scope", .array [.string "a"])]) :=
    ⟨⟨trivial, ⟨trivial, trivial⟩, trivial⟩, by decide⟩
  refine (canonicalJson_is_canonical hv hw).2.1.mpr ?_
  simp [SameUpToKeyOrder, FieldsIn, FieldIn, SameItems]

end Opzava.DevBoard
