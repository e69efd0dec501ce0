import Opzava.DevBoard.CanonicalJson
import Opzava.Library.Numerals
import Opzava.RuntimeControl.TaskTools

/-!
The arguments of the task tools in normal form.

A tool performs the call with the arguments as they were parsed, and its receipt keeps them in the
request summary, which a repeated call is compared with.

* `NormalForm`: what a reader of one argument returns, and that it reads this again.
* `ParsedToolArgs.WellFormed`: the arguments `parseArgs` returns.
* `stableJson_ofJson`: the text of a JSON value is the one of the value with all its keys sorted.
* `tool_arguments_normal_form`: the parsed arguments are the well-formed ones, are parsed to
  themselves, and are told apart by their request summaries.
-/

namespace Opzava.RuntimeControl

open Opzava.Library
open DevBoard (DomainError ofJson ofItems ofFields ofField ofItems_strings itemsOk_strings textOf
  textOf_array textOf_object sortFields_map)
open ProjectManagement (TaskStatus TaskPriority bind_eq_ok)

/-! ### One argument -/

/-- The reader returns the values of a form, and reads each of them again where it is written. -/
structure NormalForm {α : Type} (parse : JsValue → Except DomainError α) (print : α → JsValue)
    (Form : α → Prop) : Prop where
  form : ∀ {value a}, parse value = .ok a → Form a
  reads : ∀ {a}, Form a → parse (print a) = .ok a

/-- A text with single blanks between its words. -/
def IsLine (maxLength : ℕ) (text : String) : Prop :=
  normalizeSpaces text = text ∧ jsLength text ≠ 0 ∧ jsLength text ≤ maxLength

/-- A text without blanks around it. -/
def IsTrimmed (maxLength : ℕ) (text : String) : Prop :=
  String.ofList (jsTrim text.toList) = text ∧ jsLength text ≤ maxLength

/-- An argument that may be absent. -/
def optionalValue {α : Type} (print : α → JsValue) : Option α → JsValue
  | none => .undefined
  | some a => print a

lemma requiredString_normalForm (field : String) (maxLength : ℕ) :
    NormalForm (requiredString · field maxLength) .string (IsLine maxLength) where
  form := by
    intro value text h
    unfold requiredString at h
    split at h
    · dsimp only at h
      split_ifs at h with hlength
      cases h
      rw [not_or, not_lt] at hlength
      exact ⟨normalizeSpaces_normalizeSpaces _, hlength⟩
    · cases h
  reads := by
    rintro text ⟨hsame, hpos, hmax⟩
    simp only [requiredString, hsame]
    rw [if_neg (not_or.mpr ⟨hpos, not_lt.mpr hmax⟩)]

lemma optionalString_normalForm (field : String) (maxLength : ℕ) :
    NormalForm (optionalString · field maxLength) (optionalValue .string)
      fun text => ∀ present ∈ text, IsTrimmed maxLength present where
  form := by
    intro value text h
    unfold optionalString at h
    split at h
    · cases h
      rintro _ ⟨⟩
    · dsimp only at h
      split_ifs at h with hlength
      cases h
      rintro _ ⟨⟩
      exact ⟨by rw [String.toList_ofList, jsTrim_jsTrim], not_lt.mp hlength⟩
    · cases h
  reads := by
    intro text hform
    cases text with
    | none => rfl
    | some text =>
        obtain ⟨hsame, hmax⟩ := hform text rfl
        simp only [optionalValue, optionalString, hsame]
        rw [if_neg (not_lt.mpr hmax)]

lemma requiredTaskId_normalForm :
    NormalForm requiredTaskId .string
      fun id => IsLine 180 id ∧ matchesUuidPattern id = true where
  form := by
    intro value id h
    obtain ⟨parsed, hparsed, h⟩ := bind_eq_ok h
    split_ifs at h with hpattern
    cases h
    exact ⟨(requiredString_normalForm "taskId" 180).form hparsed, hpattern⟩
  reads := by
    rintro id ⟨hline, hpattern⟩
    rw [requiredTaskId, (requiredString_normalForm "taskId" 180).reads hline]
    exact if_pos hpattern

lemma optionalTitle_normalForm :
    NormalForm optionalTitle (optionalValue .string)
      fun title => ∀ present ∈ title, IsLine 180 present where
  form := by
    intro value title h
    unfold optionalTitle at h
    split at h
    · cases h
      rintro _ ⟨⟩
    · obtain ⟨parsed, hparsed, h⟩ := bind_eq_ok h
      cases h
      rintro _ ⟨⟩
      exact (requiredString_normalForm "title" 180).form hparsed
  reads := by
    intro title hform
    cases title with
    | none => rfl
    | some title =>
        rw [optionalValue, optionalTitle, (requiredString_normalForm "title" 180).reads
          (hform title rfl)]
        · rfl
        · rintro ⟨⟩

/-- The text of a status as an argument. -/
def statusValue (status : TaskStatus) : JsValue := .string (taskStatusText status)

/-- The text of a priority as an argument. -/
def priorityValue (priority : TaskPriority) : JsValue := .string (taskPriorityText priority)

/-- The texts of labels as an argument. -/
def labelsValue (labels : List String) : JsValue := .array (labels.map .string)

lemma optionalStatus_normalForm :
    NormalForm optionalStatus (optionalValue statusValue) fun _ => True where
  form := fun _ => trivial
  reads := by
    rintro (- | status) -
    · rfl
    · cases status <;> rfl

lemma optionalWritableStatus_normalForm :
    NormalForm optionalWritableStatus (optionalValue statusValue) (· ≠ some .done) where
  form := by
    rintro value _ h rfl
    unfold optionalWritableStatus at h
    split at h
    · cases h
    · cases h
    · split at h
      · rename_i status hfound
        cases h
        unfold parseMember at hfound
        split at hfound
        · exact absurd (List.mem_of_find?_eq_some hfound) (by decide)
        · cases hfound
      · cases h
  reads := by
    rintro (- | status) hwritable
    · rfl
    · cases status with
      | done => exact absurd rfl hwritable
      | _ => rfl

lemma optionalPriority_normalForm :
    NormalForm optionalPriority (optionalValue priorityValue) fun _ => True where
  form := fun _ => trivial
  reads := by
    rintro (- | priority) -
    · rfl
    · cases priority <;> rfl

lemma stringItems_map (texts : List String) : stringItems (texts.map .string) = some texts := by
  induction texts with
  | nil => rfl
  | cons text texts ih => rw [List.map_cons, stringItems, ih, Option.map_some]

lemma optionalLabels_normalForm :
    NormalForm optionalLabels (optionalValue labelsValue) fun _ => True where
  form := fun _ => trivial
  reads := by
    rintro (- | labels) -
    · rfl
    · simp only [optionalValue, labelsValue, optionalLabels, stringItems_map]

lemma optionalLimit_normalForm :
    NormalForm optionalLimit .nat fun limit => 1 ≤ limit ∧ limit ≤ 50 where
  form := by
    intro value limit h
    unfold optionalLimit at h
    split at h
    · cases h
      decide
    · split at h
      · rename_i found hfound
        cases h
        have hmem := List.mem_range'_1.mp (List.mem_of_find?_eq_some hfound)
        omega
      · cases h
    · cases h
  reads := by
    rintro limit ⟨hone, hmax⟩
    have hfound : ∀ n ∈ List.range' 1 50,
        (List.range' 1 50).find? (fun m => toString m = toString n) = some n := by decide
    simp only [JsValue.nat, optionalLimit, hfound limit (List.mem_range'_1.mpr (by omega))]

/-! ### The arguments of a call -/

/-- The arguments that `parseArgs` returns for a tool. -/
def ParsedToolArgs.WellFormed : TaskToolName → ParsedToolArgs → Prop
  | .list, .list _ limit => 1 ≤ limit ∧ limit ≤ 50
  | .create, .create args =>
      IsLine 180 args.title ∧ (∀ text ∈ args.description, IsTrimmed 4000 text) ∧
        args.status ≠ some .done
  | .update, .update args =>
      (IsLine 180 args.taskId ∧ matchesUuidPattern args.taskId = true) ∧
        (∀ text ∈ args.title, IsLine 180 text) ∧
        (∀ text ∈ args.description, IsTrimmed 4000 text) ∧ args.status ≠ some .done ∧
        ¬ (args.title.isNone ∧ args.description.isNone ∧ args.status.isNone ∧
          args.priority.isNone ∧ args.labels.isNone)
  | _, _ => False

/-- The arguments that are returned are well-formed. -/
lemma wellFormed_of_parseArgs {tool : TaskToolName} {value : JsValue} {parsed : ParsedToolArgs}
    (h : parseArgs tool value = .ok parsed) : parsed.WellFormed tool := by
  cases tool with
  | list =>
      change parseListArgs value = .ok parsed at h
      unfold parseListArgs at h
      split at h
      · obtain ⟨_, -, h⟩ := bind_eq_ok h
        obtain ⟨status, -, h⟩ := bind_eq_ok h
        obtain ⟨limit, hlimit, h⟩ := bind_eq_ok h
        cases h
        exact optionalLimit_normalForm.form hlimit
      · cases h
  | create =>
      change parseCreateArgs value = .ok parsed at h
      unfold parseCreateArgs at h
      split at h
      · obtain ⟨_, -, h⟩ := bind_eq_ok h
        obtain ⟨title, htitle, h⟩ := bind_eq_ok h
        obtain ⟨description, hdescription, h⟩ := bind_eq_ok h
        obtain ⟨status, hstatus, h⟩ := bind_eq_ok h
        obtain ⟨priority, -, h⟩ := bind_eq_ok h
        obtain ⟨labels, -, h⟩ := bind_eq_ok h
        cases h
        exact ⟨(requiredString_normalForm "title" 180).form htitle,
          (optionalString_normalForm "description" 4000).form hdescription,
          optionalWritableStatus_normalForm.form hstatus⟩
      · cases h
  | update =>
      change parseUpdateArgs value = .ok parsed at h
      unfold parseUpdateArgs at h
      split at h
      · obtain ⟨_, -, h⟩ := bind_eq_ok h
        obtain ⟨taskId, htaskId, h⟩ := bind_eq_ok h
        obtain ⟨title, htitle, h⟩ := bind_eq_ok h
        obtain ⟨description, hdescription, h⟩ := bind_eq_ok h
        obtain ⟨status, hstatus, h⟩ := bind_eq_ok h
        obtain ⟨priority, -, h⟩ := bind_eq_ok h
        obtain ⟨labels, -, h⟩ := bind_eq_ok h
        split_ifs at h with hnothing
        · cases h
        · cases h
          exact ⟨requiredTaskId_normalForm.form htaskId, optionalTitle_normalForm.form htitle,
            (optionalString_normalForm "description" 4000).form hdescription,
            optionalWritableStatus_normalForm.form hstatus, hnothing⟩
      · cases h

/-! ### Reading the arguments -/

lemma read_nil (name : String) : JsRecord.read [] name = .undefined := rfl

lemma read_cons (field : String × JsValue) (rest : JsRecord) (name : String) :
    JsRecord.read (field :: rest) name =
      if field.1 = name then field.2 else JsRecord.read rest name := by
  rw [JsRecord.read, List.find?_cons]
  by_cases h : field.1 = name
  · simp [h]
  · simp only [decide_eq_false h, if_neg h]
    rfl

lemma optionalValue_of_isSome {α : Type} (print : α → JsValue) (value : Option α) :
    (if value.isSome then optionalValue print value else .undefined) =
      optionalValue print value := by
  cases value <;> rfl

/-- A field that may be left out, before others. -/
lemma read_optionalField {α : Type} (print : α → JsValue) (name : String) (value : Option α)
    (rest : JsRecord) (other : String) :
    JsRecord.read (optionalField name (value.map print) ++ rest) other =
      if name = other ∧ value.isSome then optionalValue print value
      else JsRecord.read rest other := by
  cases value with
  | none => simp [optionalField]
  | some a =>
      simp only [Option.map_some, optionalField, List.singleton_append, read_cons, optionalValue,
        Option.isSome_some, and_true]

/-- The fields of a task, as they are read. -/
lemma read_taskFields (description : Option String) (status : Option TaskStatus)
    (priority : Option TaskPriority) (labels : Option (List String)) :
    let fields := taskFields description status priority labels
    fields.read "description" = optionalValue .string description ∧
      fields.read "status" = optionalValue statusValue status ∧
      fields.read "priority" = optionalValue priorityValue priority ∧
      fields.read "labels" = optionalValue labelsValue labels ∧
      fields.read "title" = .undefined ∧ fields.read "taskId" = .undefined := by
  have hfields : taskFields description status priority labels =
      optionalField "description" (description.map .string) ++
        (optionalField "status" (status.map statusValue) ++
          (optionalField "priority" (priority.map priorityValue) ++
            (optionalField "labels" (labels.map labelsValue) ++ []))) := by
    simp only [taskFields, List.append_assoc, List.append_nil]
    rfl
  simp only [hfields, read_optionalField, read_nil, String.reduceEq, true_and, false_and, if_false,
    optionalValue_of_isSome, and_self]

/-! ### Reading the arguments again -/

lemma rejectUnknownKeys_eq_ok {fields : JsRecord} {allowedKeys : List String} :
    rejectUnknownKeys fields allowedKeys = .ok () ↔
      ∀ name ∈ fields.map Prod.fst, name ∈ allowedKeys := by
  unfold rejectUnknownKeys
  cases hfound : (fields.map Prod.fst).find? fun key => key ∉ allowedKeys with
  | none =>
      rw [List.find?_eq_none] at hfound
      simpa using hfound
  | some key =>
      have hmem := List.mem_of_find?_eq_some hfound
      have hunknown := List.find?_some hfound
      refine iff_of_false (by rintro ⟨⟩) fun hall => ?_
      exact of_decide_eq_true hunknown (hall key hmem)

/-- The names of a record whose optional fields are left out or not. -/
lemma map_fst_optionalField (name : String) (value : Option JsValue) :
    ((optionalField name value).map Prod.fst).Sublist [name] := by
  cases value with
  | none => exact List.nil_sublist _
  | some value => exact .refl _

lemma map_fst_taskFields (description : Option String) (status : Option TaskStatus)
    (priority : Option TaskPriority) (labels : Option (List String)) :
    ((taskFields description status priority labels).map Prod.fst).Sublist
      ["description", "status", "priority", "labels"] := by
  rw [taskFields, List.map_append, List.map_append, List.map_append]
  exact (((map_fst_optionalField _ _).append (map_fst_optionalField _ _)).append
    (map_fst_optionalField _ _)).append (map_fst_optionalField _ _)

/-- The names of the arguments of a tool. -/
def TaskToolName.argNames : TaskToolName → List String
  | .list => ["status", "limit"]
  | .create => ["title", "description", "status", "priority", "labels"]
  | .update => ["taskId", "title", "description", "status", "priority", "labels"]

lemma map_fst_args {tool : TaskToolName} {parsed : ParsedToolArgs}
    (h : parsed.WellFormed tool) : (parsed.args.map Prod.fst).Sublist tool.argNames := by
  cases tool <;> cases parsed <;> try exact h.elim
  · rw [ParsedToolArgs.args, List.map_append]
    exact (map_fst_optionalField _ _).append (.refl _)
  · exact (map_fst_taskFields _ _ _ _).cons_cons _
  · rw [ParsedToolArgs.args, List.map_cons, List.map_append]
    exact ((map_fst_optionalField _ _).append (map_fst_taskFields _ _ _ _)).cons_cons _

lemma read_listArgs (status : Option TaskStatus) (limit : ℕ) :
    let fields := (ParsedToolArgs.list status limit).args
    JsRecord.read fields "status" = optionalValue statusValue status ∧
      JsRecord.read fields "limit" = .nat limit := by
  have hfields : (ParsedToolArgs.list status limit).args =
      optionalField "status" (status.map statusValue) ++ [("limit", .nat limit)] := rfl
  simp only [hfields, read_optionalField, read_cons, read_nil, String.reduceEq, true_and, false_and,
    if_false, if_true, optionalValue_of_isSome, and_self]

lemma read_createArgs (args : CreateArgs) :
    let fields := (ParsedToolArgs.create args).args
    JsRecord.read fields "title" = .string args.title ∧
      JsRecord.read fields "description" = optionalValue .string args.description ∧
      JsRecord.read fields "status" = optionalValue statusValue args.status ∧
      JsRecord.read fields "priority" = optionalValue priorityValue args.priority ∧
      JsRecord.read fields "labels" = optionalValue labelsValue args.labels := by
  obtain ⟨hdescription, hstatus, hpriority, hlabels, -, -⟩ :=
    read_taskFields args.description args.status args.priority args.labels
  simp only [ParsedToolArgs.args, read_cons, String.reduceEq, if_false, if_true, hdescription,
    hstatus, hpriority, hlabels, and_self]

lemma read_updateArgs (args : UpdateArgs) :
    let fields := (ParsedToolArgs.update args).args
    JsRecord.read fields "taskId" = .string args.taskId ∧
      JsRecord.read fields "title" = optionalValue .string args.title ∧
      JsRecord.read fields "description" = optionalValue .string args.description ∧
      JsRecord.read fields "status" = optionalValue statusValue args.status ∧
      JsRecord.read fields "priority" = optionalValue priorityValue args.priority ∧
      JsRecord.read fields "labels" = optionalValue labelsValue args.labels := by
  obtain ⟨hdescription, hstatus, hpriority, hlabels, htitle, -⟩ :=
    read_taskFields args.description args.status args.priority args.labels
  simp only [ParsedToolArgs.args, read_cons, read_optionalField, String.reduceEq, true_and,
    false_and, if_false, if_true, hdescription, hstatus, hpriority, hlabels, htitle,
    optionalValue_of_isSome, and_self]

/-- Well-formed arguments are parsed to themselves. -/
lemma parseArgs_args {tool : TaskToolName} {parsed : ParsedToolArgs}
    (h : parsed.WellFormed tool) : parseArgs tool (.object parsed.args) = .ok parsed := by
  have hkeys : rejectUnknownKeys parsed.args tool.argNames = .ok () :=
    rejectUnknownKeys_eq_ok.mpr fun name hname => (map_fst_args h).subset hname
  cases tool <;> cases parsed <;> try exact h.elim
  case list.list status limit =>
    obtain ⟨hstatus, hlimit⟩ := read_listArgs status limit
    dsimp only [TaskToolName.argNames] at hkeys
    dsimp only [parseArgs, parseListArgs]
    rw [hkeys, hstatus, hlimit, optionalStatus_normalForm.reads trivial,
      optionalLimit_normalForm.reads h]
    rfl
  case create.create args =>
    obtain ⟨htitle, hdescription, hstatus, hpriority, hlabels⟩ := read_createArgs args
    obtain ⟨hline, htrimmed, hwritable⟩ := h
    dsimp only [TaskToolName.argNames] at hkeys
    dsimp only [parseArgs, parseCreateArgs]
    rw [hkeys, htitle, hdescription, hstatus, hpriority, hlabels,
      (requiredString_normalForm "title" 180).reads hline,
      (optionalString_normalForm "description" 4000).reads htrimmed,
      optionalWritableStatus_normalForm.reads hwritable,
      optionalPriority_normalForm.reads trivial, optionalLabels_normalForm.reads trivial]
    rfl
  case update.update args =>
    obtain ⟨htaskId, htitle, hdescription, hstatus, hpriority, hlabels⟩ := read_updateArgs args
    obtain ⟨hid, hline, htrimmed, hwritable, hsome⟩ := h
    dsimp only [TaskToolName.argNames] at hkeys
    dsimp only [parseArgs, parseUpdateArgs]
    rw [hkeys, htaskId, htitle, hdescription, hstatus, hpriority, hlabels,
      requiredTaskId_normalForm.reads hid, optionalTitle_normalForm.reads hline,
      (optionalString_normalForm "description" 4000).reads htrimmed,
      optionalWritableStatus_normalForm.reads hwritable,
      optionalPriority_normalForm.reads trivial, optionalLabels_normalForm.reads trivial]
    exact if_neg hsome

/-! ### The text of a summary -/

mutual

/-- The stable text is the text with all keys sorted. -/
theorem stableJson_ofJson : ∀ value : Json, stableJson (ofJson value) = textOf (sortKeys value)
  | .null => by simp [ofJson, stableJson, sortKeys, textOf, Json.print]
  | .boolean b => by cases b <;> simp [ofJson, stableJson, sortKeys, textOf, Json.print]
  | .number text => by simp [ofJson, stableJson, sortKeys, textOf, Json.print]
  | .string s => by
      simp [ofJson, stableJson, sortKeys, textOf, Json.print, jsonString, printString]
  | .array items => by
      rw [ofJson, stableJson, stableItems_ofItems items, sortKeys, ← textOf_array]
  | .object fields => by
      rw [ofJson, stableJson, stableFields_ofFields fields, sortKeys, ← textOf_object]
      change "\x7b" ++ ",".intercalate ((sortFields ((sortValues fields).map fun field =>
        (field.1, textOf field.2))).map _) ++ "\x7d" = _
      rw [sortFields_map, List.map_map]
      rfl

theorem stableItems_ofItems : ∀ items : List Json,
    stableItems (ofItems items) = (sortItems items).map textOf
  | [] => rfl
  | item :: items => by
      rw [ofItems, stableItems, stableJson_ofJson item, stableItems_ofItems items]
      rfl

theorem stableFields_ofFields : ∀ fields : List (String × Json),
    stableFields (ofFields fields) =
      (sortValues fields).map fun field => (field.1, textOf field.2)
  | [] => rfl
  | field :: fields => by
      rw [ofFields, stableFields, stableField_ofField field, stableFields_ofFields fields]
      rfl

theorem stableField_ofField : ∀ field : String × Json,
    stableField (ofField field) = ((sortValue field).1, textOf (sortValue field).2)
  | (name, value) => by
      rw [ofField, stableField, stableJson_ofJson value]
      rfl

end

/-- A value whose keys are sorted as it is. -/
def FlatValue (value : Json) : Prop := value.Ok String.ofList ∧ sortKeys value = value

/-- The fields are JSON values without objects among them. -/
def Flat (fields : JsRecord) : Prop :=
  ∃ values, ofFields values = fields ∧ ∀ field ∈ values, FlatValue field.2

lemma ofFields_append (fields fields' : List (String × Json)) :
    ofFields (fields ++ fields') = ofFields fields ++ ofFields fields' := by
  induction fields with
  | nil => rfl
  | cons field fields ih => rw [List.cons_append, ofFields, ofFields, ih, List.cons_append]

lemma ofFields_eq_map (fields : List (String × Json)) :
    ofFields fields = fields.map fun field => (field.1, ofJson field.2) := by
  induction fields with
  | nil => rfl
  | cons field fields ih =>
      obtain ⟨name, value⟩ := field
      rw [ofFields, ih, ofField, List.map_cons]

lemma Flat.append {fields fields' : JsRecord} (h : Flat fields) (h' : Flat fields') :
    Flat (fields ++ fields') := by
  obtain ⟨values, rfl, hvalues⟩ := h
  obtain ⟨values', rfl, hvalues'⟩ := h'
  refine ⟨values ++ values', ofFields_append values values', fun field hmem => ?_⟩
  rcases List.mem_append.mp hmem with hmem | hmem
  · exact hvalues field hmem
  · exact hvalues' field hmem

lemma flat_single (name : String) {value : Json} (h : FlatValue value) :
    Flat [(name, ofJson value)] := by
  refine ⟨[(name, value)], rfl, ?_⟩
  rintro field (- | ⟨_, ⟨⟩⟩)
  exact h

lemma flat_optionalField {α : Type} (name : String) (value : Option α) {print : α → JsValue}
    {json : α → Json} (hflat : ∀ a, FlatValue (json a)) (hprint : ∀ a, ofJson (json a) = print a) :
    Flat (optionalField name (value.map print)) := by
  cases value with
  | none => exact ⟨[], rfl, by rintro field ⟨⟩⟩
  | some a =>
      have hsingle := flat_single name (hflat a)
      rwa [hprint] at hsingle

lemma flatValue_string (text : String) : FlatValue (.string text) := ⟨trivial, rfl⟩

lemma flatValue_labels (labels : List String) : FlatValue (.array (labels.map .string)) := by
  constructor
  · exact itemsOk_strings labels
  · rw [sortKeys, sortItems_eq, List.map_map]
    rfl

lemma flat_taskFields (description : Option String) (status : Option TaskStatus)
    (priority : Option TaskPriority) (labels : Option (List String)) :
    Flat (taskFields description status priority labels) :=
  (((flat_optionalField "description" description flatValue_string fun _ => rfl).append
    (flat_optionalField "status" status
      (fun status => flatValue_string (taskStatusText status)) fun _ => rfl)).append
    (flat_optionalField "priority" priority
      (fun priority => flatValue_string (taskPriorityText priority)) fun _ => rfl)).append
    (flat_optionalField "labels" labels flatValue_labels
      fun labels => congrArg JsValue.array (ofItems_strings labels))

lemma flat_args (parsed : ParsedToolArgs) : Flat parsed.args := by
  cases parsed with
  | list status limit =>
      have hlimit : FlatValue (.number (toString limit)) :=
        ⟨⟨isNumeral_int limit, String.ofList_toList⟩, rfl⟩
      exact (flat_optionalField "status" status
        (fun status => flatValue_string (taskStatusText status)) fun _ => rfl).append
          (flat_single "limit" hlimit)
  | create args =>
      exact (flat_single "title" (flatValue_string args.title)).append
        (flat_taskFields args.description args.status args.priority args.labels)
  | update args =>
      exact (flat_single "taskId" (flatValue_string args.taskId)).append
        ((flat_optionalField "title" args.title flatValue_string fun _ => rfl).append
          (flat_taskFields args.description args.status args.priority args.labels))

lemma map_fst_ofFields (values : List (String × Json)) :
    (ofFields values).map Prod.fst = values.map Prod.fst := by
  rw [ofFields_eq_map, List.map_map]
  rfl

lemma sortValues_of_flat {values : List (String × Json)}
    (h : ∀ field ∈ values, FlatValue field.2) : sortValues values = values := by
  induction values with
  | nil => rfl
  | cons field values ih =>
      obtain ⟨name, value⟩ := field
      rw [sortValues, sortValue, (h _ List.mem_cons_self).2,
        ih fun other hmem => h other (List.mem_cons_of_mem _ hmem)]

/-- A summary, as a JSON value. -/
def summaryJson (name : String) (values : List (String × Json)) : Json :=
  .object [("toolName", .string name), ("args", .object values)]

lemma summaryJson_ok (name : String) {values : List (String × Json)}
    (h : ∀ field ∈ values, FlatValue field.2) (hnames : (values.map Prod.fst).Nodup) :
    (summaryJson name values).Ok String.ofList := by
  have hfields : FieldsOk String.ofList values :=
    fieldsOk_iff.mpr fun name value hmem => (h _ hmem).1
  refine ⟨⟨trivial, ⟨hfields, hnames⟩, trivial⟩, ?_⟩
  change ["toolName", "args"].Nodup
  decide

/-- Flat arguments with the same summary are the same up to their order. -/
lemma perm_of_sameSummary {name name' : String} {fields fields' : JsRecord}
    (h : Flat fields) (h' : Flat fields') (hnames : (fields.map Prod.fst).Nodup)
    (hnames' : (fields'.map Prod.fst).Nodup)
    (hsame : sameJson [("toolName", .string name), ("args", .object fields)]
      [("toolName", .string name'), ("args", .object fields')] = true) :
    name = name' ∧ fields.Perm fields' := by
  obtain ⟨values, rfl, hvalues⟩ := h
  obtain ⟨values', rfl, hvalues'⟩ := h'
  rw [map_fst_ofFields] at hnames hnames'
  have htext : textOf (sortKeys (summaryJson name values)) =
      textOf (sortKeys (summaryJson name' values')) := by
    rw [← stableJson_ofJson, ← stableJson_ofJson]
    exact of_decide_eq_true hsame
  have hsorted : sortKeys (summaryJson name values) = sortKeys (summaryJson name' values') :=
    print_inj (sortKeys_ok _ (summaryJson_ok name hvalues hnames))
      (sortKeys_ok _ (summaryJson_ok name' hvalues' hnames')) (String.ofList_inj.mp htext)
  -- a summary has its two fields in one order or the other
  have hperm : [("toolName", Json.string name), ("args", sortKeys (.object values))].Perm
      [("toolName", Json.string name'), ("args", sortKeys (.object values'))] := by
    refine (sortFields_eq_iff ?_).mp (Json.object.inj hsorted)
    change ["toolName", "args"].Nodup
    decide
  have hname := hperm.mem_iff.mp List.mem_cons_self
  have hargs := hperm.mem_iff.mp (List.mem_cons_of_mem _ List.mem_cons_self)
  simp only [List.mem_cons, Prod.mk.injEq, String.reduceEq, true_and, false_and, or_false,
    false_or, List.not_mem_nil, Json.string.injEq] at hname hargs
  refine ⟨hname, ?_⟩
  have hfields := Json.object.inj hargs
  rw [sortValues_of_flat hvalues, sortValues_of_flat hvalues', sortFields_eq_iff hnames] at hfields
  rw [ofFields_eq_map, ofFields_eq_map]
  exact hfields.map _

/-! ### Requests -/

lemma read_of_notMem {fields : JsRecord} {name : String} (h : name ∉ fields.map Prod.fst) :
    JsRecord.read fields name = .undefined := by
  induction fields with
  | nil => rfl
  | cons field fields ih =>
      rw [List.map_cons, List.mem_cons, not_or] at h
      rw [read_cons, if_neg (Ne.symm h.1), ih h.2]

lemma read_of_mem {fields : JsRecord} (hnames : (fields.map Prod.fst).Nodup) {name : String}
    {value : JsValue} (hmem : (name, value) ∈ fields) : JsRecord.read fields name = value := by
  induction fields with
  | nil => cases hmem
  | cons field fields ih =>
      obtain ⟨hnew, hrest⟩ := List.nodup_cons.mp hnames
      rw [read_cons]
      rcases List.mem_cons.mp hmem with rfl | hmem
      · exact if_pos rfl
      · have hne : field.1 ≠ name := by
          rintro rfl
          exact hnew (List.mem_map.mpr ⟨_, hmem, rfl⟩)
        rw [if_neg hne, ih hrest hmem]

lemma read_perm {fields fields' : JsRecord} (hnames : (fields.map Prod.fst).Nodup)
    (hperm : fields.Perm fields') (name : String) :
    JsRecord.read fields name = JsRecord.read fields' name := by
  have hmap := hperm.map Prod.fst
  by_cases hname : name ∈ fields.map Prod.fst
  · obtain ⟨⟨_, value⟩, hmem, rfl⟩ := List.mem_map.mp hname
    rw [read_of_mem hnames hmem,
      read_of_mem (hmap.nodup_iff.mp hnames) (hperm.mem_iff.mp hmem)]
  · rw [read_of_notMem hname, read_of_notMem fun hmem => hname (hmap.mem_iff.mpr hmem)]

/-- The order of the fields does not matter. -/
lemma parseArgs_perm {tool : TaskToolName} {fields fields' : JsRecord} {parsed : ParsedToolArgs}
    (hnames : (fields.map Prod.fst).Nodup) (hperm : fields.Perm fields')
    (h : parseArgs tool (.object fields) = .ok parsed) :
    parseArgs tool (.object fields') = .ok parsed := by
  have hread := read_perm hnames hperm
  have hkeys : ∀ allowedKeys, rejectUnknownKeys fields allowedKeys = .ok () →
      rejectUnknownKeys fields' allowedKeys = .ok () := by
    intro allowedKeys
    rw [rejectUnknownKeys_eq_ok, rejectUnknownKeys_eq_ok]
    exact fun hall name hname => hall name ((hperm.map Prod.fst).mem_iff.mpr hname)
  -- the readers see the fields by `read` alone, once all their names are allowed
  cases tool
  all_goals
    dsimp only [parseArgs, parseListArgs, parseCreateArgs, parseUpdateArgs] at h ⊢
    obtain ⟨_, hallowed, h⟩ := bind_eq_ok h
    rw [hkeys _ hallowed]
    simp only [hread] at h
    exact h

/-- **The arguments of the task tools**: `parseArgs` returns exactly the well-formed arguments; it
parses the object of such arguments, which the tool is performed with and the receipt keeps, to
themselves; and two calls have the same request summary if and only if they are calls of the same
tool with the same parsed arguments. -/
theorem tool_arguments_normal_form (tool : TaskToolName) (parsed : ParsedToolArgs) :
    ((∃ value, parseArgs tool value = .ok parsed) ↔ parsed.WellFormed tool) ∧
      (parsed.WellFormed tool →
        parseArgs tool (.object parsed.args) = .ok parsed ∧
          ∀ tool' parsed', parsed'.WellFormed tool' →
            (sameJson (requestSummary tool parsed) (requestSummary tool' parsed') = true ↔
              tool = tool' ∧ parsed = parsed')) := by
  refine ⟨⟨?_, fun h => ⟨_, parseArgs_args h⟩⟩, fun h => ⟨parseArgs_args h, ?_⟩⟩
  · rintro ⟨value, hvalue⟩
    exact wellFormed_of_parseArgs hvalue
  · intro tool' parsed' h'
    constructor
    · intro hsame
      have hnames : ∀ tool : TaskToolName, tool.argNames.Nodup := by
        intro tool
        cases tool <;> decide
      have hargs := (hnames tool).sublist (map_fst_args h)
      obtain ⟨htool, hperm⟩ := perm_of_sameSummary (flat_args parsed) (flat_args parsed') hargs
        ((hnames tool').sublist (map_fst_args h')) hsame
      obtain rfl : tool = tool' := by
        cases tool <;> cases tool' <;> first | rfl | exact absurd htool (by decide)
      have hparsed := parseArgs_perm hargs hperm (parseArgs_args h)
      rw [parseArgs_args h'] at hparsed
      exact ⟨rfl, (Except.ok.inj hparsed).symm⟩
    · rintro ⟨rfl, rfl⟩
      exact decide_eq_true rfl

end Opzava.RuntimeControl
