import Opzava.RuntimeControl.TaskTools

/-!
The tool `opzava_tasks_update` beside other actors (`task-tools.ts`, `tasks.ts`).

The tool reads the card, writes all of its text back with the fields its arguments name, and
then moves it to the position it has seen. Each of the three is a transaction of its own,
and the other actors may commit between them.

* `toolStep`: the next transaction of the tool.
* `Kept`: the fields the arguments do not name are as the other actors have left them.
* `Undisturbed`: what the tool is about to write back is still what is stored.
* `unnamed_fields_kept`: the runs in which every step of the tool is undisturbed.
-/

namespace Opzava.RuntimeControl

open Opzava.Library
open DevBoard (DomainError)
open ProjectManagement

/-! ### The tool -/

/-- Where `performTool` is. -/
inductive UpdateTool where
  | start
  | read (current : TaskRow)
  | moving (status : TaskStatus) (row : TaskRow)
  | finished (result : Except DomainError TaskRow)

/-- `shouldUpdateFields`. -/
def shouldUpdateFields (args : UpdateArgs) : Bool :=
  args.title.isSome ∨ args.description.isSome ∨ args.priority.isSome ∨ args.labels.isSome

/-- The fields are written, or left; the card is moved if its status is another one. -/
def afterFields (args : UpdateArgs) (row : TaskRow) : UpdateTool :=
  match args.status with
  | none => .finished (.ok row)
  | some status => if status = row.status then .finished (.ok row) else .moving status row

/-- The input of `updateTask`. -/
def fieldUpdateInput (context : TaskContext) (args : UpdateArgs) (current : TaskRow) :
    UpdateTaskInput where
  toTaskContext := context
  taskId := args.taskId
  title := args.title.getD current.title
  description := some (args.description.getD current.description)
  priority := taskPriorityText (args.priority.getD current.priority)
  assigneeUserId := current.assigneeUserId
  labels := some (args.labels.getD current.labels)

/-- The input of `moveTask`. -/
def statusUpdateInput (context : TaskContext) (args : UpdateArgs) (status : TaskStatus)
    (row : TaskRow) : MoveTaskInput where
  toTaskContext := context
  taskId := args.taskId
  status := taskStatusText status
  position := row.position

/-- The next transaction of `performTool`. -/
def toolStep (context : TaskContext) (args : UpdateArgs) (env : TaskEnv) (db : TaskDb)
    (tool : UpdateTool) : UpdateTool × TaskDb :=
  match tool with
  | .start =>
      match getTask context args.taskId env db with
      | .error error => (.finished (.error error), db)
      | .ok current =>
          if shouldUpdateFields args then (.read current, db) else (afterFields args current, db)
  | .read current =>
      match updateTask (fieldUpdateInput context args current) env db with
      | (.error error, db') => (.finished (.error error), db')
      | (.ok row, db') => (afterFields args row, db')
  | .moving status row =>
      let (result, db') := moveTask (statusUpdateInput context args status row) env db
      (.finished result, db')
  | .finished result => (.finished result, db)

/-! ### Runs -/

/-- What commits next: a call of another actor, or a transaction of the tool. -/
inductive EditEvent where
  | update (input : UpdateTaskInput) (env : TaskEnv)
  | move (input : MoveTaskInput) (env : TaskEnv)
  | tool (env : TaskEnv)

/-- What the call reads from outside. -/
def EditEvent.env : EditEvent → TaskEnv
  | .update _ env | .move _ env | .tool env => env

/-- The tables, the tables as the other actors alone would have left them, and the tool. -/
structure EditState where
  db : TaskDb
  others : TaskDb
  tool : UpdateTool

/-- The state after a commit. -/
def EditState.next (context : TaskContext) (args : UpdateArgs) (st : EditState) :
    EditEvent → EditState
  | .update input env =>
      { st with db := (updateTask input env st.db).2, others := (updateTask input env st.others).2 }
  | .move input env =>
      { st with db := (moveTask input env st.db).2, others := (moveTask input env st.others).2 }
  | .tool env =>
      let (tool, db) := toolStep context args env st.db st.tool
      { st with db := db, tool := tool }

/-- The text of a card as the commands store it: they would store it again as it is. -/
structure Stored (toLowerCase : String → String) (row : TaskRow) : Prop where
  title : normalizeTaskTitle row.title = .ok row.title
  description : normalizeTaskDescription row.description = .ok row.description
  assigneeUserId : trimmedOrNull row.assigneeUserId = row.assigneeUserId
  labels : normalizeTaskLabels toLowerCase row.labels = .ok row.labels

/-- Tables whose cards the commands have written. -/
structure StoredDb (toLowerCase : String → String) where
  db : TaskDb
  stored : ∀ row ∈ db.tasks, Stored toLowerCase row

/-- The states of the runs whose steps are all allowed. -/
inductive Edited (toLowerCase : String → String) (context : TaskContext) (args : UpdateArgs)
    (allowed : EditState → EditEvent → Prop) (initial : StoredDb toLowerCase) : EditState → Prop
  | start : Edited toLowerCase context args allowed initial ⟨initial.db, initial.db, .start⟩
  | step {st : EditState} (event : EditEvent)
      (before : Edited toLowerCase context args allowed initial st)
      (lower : event.env.toLowerCase = toLowerCase) (ok : allowed st event) :
      Edited toLowerCase context args allowed initial (st.next context args event)

/-- The fields the arguments do not name are those of the other card. -/
structure Kept (args : UpdateArgs) (row other : TaskRow) : Prop where
  title : args.title = none → row.title = other.title
  description : args.description = none → row.description = other.description
  priority : args.priority = none → row.priority = other.priority
  assigneeUserId : row.assigneeUserId = other.assigneeUserId
  labels : args.labels = none → row.labels = other.labels
  status : args.status = none → row.status = other.status
  position : row.position = other.position

/-- The tool is about to write back what is still stored: of the text the fields it does not
name, and then the position. -/
def Undisturbed (context : TaskContext) (args : UpdateArgs) (st : EditState) (event : EditEvent) :
    Prop :=
  ∀ env, event = .tool env → ∀ row ∈ st.db.tasks, isTask context args.taskId row = true →
    match st.tool with
    | .read current =>
        (args.title = none → row.title = current.title) ∧
        (args.description = none → row.description = current.description) ∧
        (args.priority = none → row.priority = current.priority) ∧
        row.assigneeUserId = current.assigneeUserId ∧
        (args.labels = none → row.labels = current.labels)
    | .moving _ last => row.position = last.position
    | _ => True

/-! ### Normal forms -/

lemma prepareTaskFields_eq_ok {toLowerCase : String → String} {actorUserId : String}
    {input : RawTaskFields} {fields : PreparedTaskFields}
    (h : prepareTaskFields toLowerCase actorUserId input = .ok fields) :
    normalizeTaskTitle input.title = .ok fields.title ∧
    normalizeTaskDescription (input.description.getD "") = .ok fields.description ∧
    parseTaskPriority input.priority = .ok fields.priority ∧
    normalizeAssignee input.assigneeUserId actorUserId = .ok fields.assigneeUserId ∧
    normalizeTaskLabels toLowerCase (input.labels.getD []) = .ok fields.labels := by
  rw [prepareTaskFields] at h
  obtain ⟨title, htitle, h⟩ := bind_eq_ok h
  obtain ⟨description, hdescription, h⟩ := bind_eq_ok h
  obtain ⟨priority, hpriority, h⟩ := bind_eq_ok h
  obtain ⟨assigneeUserId, hassigneeUserId, h⟩ := bind_eq_ok h
  obtain ⟨labels, hlabels, h⟩ := bind_eq_ok h
  obtain ⟨dueAt, -, h⟩ := bind_eq_ok h
  obtain ⟨provenanceSource, -, h⟩ := bind_eq_ok h
  obtain ⟨provenanceExternalRef, -, h⟩ := bind_eq_ok h
  obtain rfl := Except.ok.inj h
  exact ⟨htitle, hdescription, hpriority, hassigneeUserId, hlabels⟩

lemma normalizeTaskTitle_again {value title : String} (h : normalizeTaskTitle value = .ok title) :
    normalizeTaskTitle title = .ok title := by
  rw [normalizeTaskTitle] at h
  split_ifs at h with hempty hlong
  obtain rfl := Except.ok.inj h
  rw [normalizeTaskTitle, normalizeSpaces_normalizeSpaces, if_neg hempty, if_neg hlong]

lemma normalizeTaskDescription_again {value description : String}
    (h : normalizeTaskDescription value = .ok description) :
    normalizeTaskDescription description = .ok description := by
  rw [normalizeTaskDescription] at h
  split_ifs at h with hlong
  obtain rfl := Except.ok.inj h
  rw [normalizeTaskDescription, String.toList_ofList, jsTrim_jsTrim, if_neg hlong]

lemma trimmedOrNull_again (value : Option String) :
    trimmedOrNull (trimmedOrNull value) = trimmedOrNull value := by
  cases value with
  | none => rfl
  | some text =>
      by_cases hnil : jsTrim text.toList = []
      · simp [trimmedOrNull, hnil]
      · simp [trimmedOrNull, hnil, jsTrim_jsTrim]

lemma normalizeAssignee_eq_ok {value assignee : Option String} {actorUserId : String}
    (h : normalizeAssignee value actorUserId = .ok assignee) : assignee = trimmedOrNull value := by
  rw [normalizeAssignee] at h
  split at h
  · rename_i hnone
    rw [hnone]
    exact (Except.ok.inj h).symm
  · rename_i text hsome
    split_ifs at h
    rw [hsome]
    exact (Except.ok.inj h).symm

/-- `value.trim().toLowerCase()`. -/
def lowered (toLowerCase : String → String) (value : String) : String :=
  toLowerCase (String.ofList (jsTrim value.toList))

/-- A label that is trimmed and in lower case is so already. -/
def LowerCases (toLowerCase : String → String) : Prop :=
  ∀ value, lowered toLowerCase (lowered toLowerCase value) = lowered toLowerCase value

lemma normalizeTaskLabels_again {toLowerCase : String → String} (hlower : LowerCases toLowerCase)
    {values labels : List String} (h : normalizeTaskLabels toLowerCase values = .ok labels) :
    normalizeTaskLabels toLowerCase labels = .ok labels := by
  rw [normalizeTaskLabels] at h
  set normalized := (values.map fun value =>
    toLowerCase (String.ofList (jsTrim value.toList))).filter fun label => jsLength label ≠ 0
    with hnormalized
  split_ifs at h with hmany hlong
  obtain rfl := Except.ok.inj h
  have hmem : ∀ label ∈ normalized.reverse.dedup.reverse,
      toLowerCase (String.ofList (jsTrim label.toList)) = label ∧ jsLength label ≠ 0 := by
    intro label hlabel
    have hlabel' : label ∈ normalized := by simpa using hlabel
    obtain ⟨hmap, hlength⟩ := List.mem_filter.mp (hnormalized ▸ hlabel')
    obtain ⟨value, -, rfl⟩ := List.mem_map.mp hmap
    exact ⟨hlower value, by simpa using hlength⟩
  have hmapped : (normalized.reverse.dedup.reverse.map fun value =>
      toLowerCase (String.ofList (jsTrim value.toList))) = normalized.reverse.dedup.reverse :=
    (List.map_congr_left fun label hlabel => (hmem label hlabel).1).trans (List.map_id _)
  have hfiltered : (normalized.reverse.dedup.reverse.filter fun label => jsLength label ≠ 0) =
      normalized.reverse.dedup.reverse :=
    List.filter_eq_self.mpr fun label hlabel => by simpa using (hmem label hlabel).2
  have hdedup : normalized.reverse.dedup.reverse.reverse.dedup.reverse =
      normalized.reverse.dedup.reverse := by
    rw [List.reverse_reverse, List.dedup_idem]
  rw [normalizeTaskLabels, hmapped, hfiltered, hdedup, if_neg hmany, if_neg hlong]

/-- What the commands write is in normal form. -/
lemma Stored.of_prepared {toLowerCase : String → String} (hlower : LowerCases toLowerCase)
    {actorUserId : String} {input : RawTaskFields} {fields : PreparedTaskFields} {row : TaskRow}
    (h : prepareTaskFields toLowerCase actorUserId input = .ok fields) (now : Timestamp) :
    Stored toLowerCase (row.updated fields now) := by
  obtain ⟨htitle, hdescription, -, hassignee, hlabels⟩ := prepareTaskFields_eq_ok h
  refine ⟨normalizeTaskTitle_again htitle, normalizeTaskDescription_again hdescription, ?_,
    normalizeTaskLabels_again hlower hlabels⟩
  change trimmedOrNull fields.assigneeUserId = fields.assigneeUserId
  rw [normalizeAssignee_eq_ok hassignee, trimmedOrNull_again]

/-! ### Commands -/

lemma changeTask_tasks (context : TaskContext) (taskId : String) (set : TaskRow → TaskRow)
    (db : TaskDb) : (withTenant (changeTask context taskId set) db).2.tasks =
      updateWhere (isTask context taskId) set db.tasks := by
  cases hreturning : returning (isTask context taskId) set db.tasks with
  | nil =>
      have hnone : ∀ row ∈ db.tasks, isTask context taskId row = false := by
        intro row hrow
        by_contra htask
        rw [Bool.not_eq_false] at htask
        have hmem : set row ∈ returning (isTask context taskId) set db.tasks :=
          mem_returning.mpr ⟨row, hrow, htask, rfl⟩
        rw [hreturning] at hmem
        cases hmem
      rw [withTenant, changeTask, updateTaskRow, hreturning, updateWhere_of_forall hnone]
  | cons row rest =>
      rw [withTenant, changeTask, updateTaskRow, hreturning]

/-- The cards after `updateTask`. -/
lemma updateTask_tasks (input : UpdateTaskInput) (env : TaskEnv) (db : TaskDb) :
    (updateTask input env db).2.tasks =
      match checkUpdateTask input env with
      | .error _ => db.tasks
      | .ok fields =>
          updateWhere (isTask input.toTaskContext input.taskId) (TaskRow.updated fields env.now)
            db.tasks := by
  unfold updateTask afterChecks
  cases checkUpdateTask input env with
  | error error => rfl
  | ok fields => exact changeTask_tasks _ _ _ _

/-- The cards after `moveTask`. -/
lemma moveTask_tasks (input : MoveTaskInput) (env : TaskEnv) (db : TaskDb) :
    (moveTask input env db).2.tasks =
      match checkMoveTask input env with
      | .error _ => db.tasks
      | .ok (status, position) =>
          updateWhere (isTask input.toTaskContext input.taskId)
            (TaskRow.moved status position env.now) db.tasks := by
  unfold moveTask afterChecks
  cases checkMoveTask input env with
  | error error => rfl
  | ok checked => exact changeTask_tasks _ _ _ _

lemma checkUpdateTask_eq_ok {input : UpdateTaskInput} {env : TaskEnv} {fields : PreparedTaskFields}
    (h : checkUpdateTask input env = .ok fields) :
    prepareTaskFields env.toLowerCase input.userId ⟨input.title, input.description, input.priority,
      input.assigneeUserId, input.labels, none, none, none⟩ = .ok fields := by
  rw [checkUpdateTask] at h
  obtain ⟨-, -, h⟩ := bind_eq_ok h
  obtain ⟨-, -, h⟩ := bind_eq_ok h
  obtain ⟨prepared, hprepared, h⟩ := bind_eq_ok h
  obtain ⟨-, -, h⟩ := bind_eq_ok h
  obtain rfl := Except.ok.inj h
  exact hprepared

lemma checkMoveTask_eq_ok {input : MoveTaskInput} {env : TaskEnv} {status : TaskStatus}
    {position : ℕ} (h : checkMoveTask input env = .ok (status, position)) :
    position = input.position.toNat := by
  rw [checkMoveTask] at h
  obtain ⟨-, -, h⟩ := bind_eq_ok h
  obtain ⟨-, -, h⟩ := bind_eq_ok h
  obtain ⟨parsed, -, h⟩ := bind_eq_ok h
  dsimp only at h
  by_cases hterminal : isTerminalTaskStatus parsed = true
  · rw [if_pos hterminal] at h
    cases h
  · rw [if_neg hterminal] at h
    split at h
    · cases h
    · obtain ⟨-, -, h⟩ := bind_eq_ok h
      cases h
      rfl

/-! ### The invariant -/

/-- A card beside the one the other actors alone have left. -/
structure Beside (context : TaskContext) (args : UpdateArgs) (row other : TaskRow) : Prop where
  isTask_eq : ∀ context' taskId, isTask context' taskId row = isTask context' taskId other
  kept : isTask context args.taskId row = true → Kept args row other

/-- The invariant of the runs. -/
structure EditOk (toLowerCase : String → String) (context : TaskContext) (args : UpdateArgs)
    (st : EditState) : Prop where
  beside : List.Forall₂ (Beside context args) st.db.tasks st.others.tasks
  stored : ∀ row ∈ st.db.tasks, Stored toLowerCase row
  read : ∀ current, st.tool = .read current → Stored toLowerCase current
  moving : ∀ status row, st.tool = .moving status row → args.status = some status

variable {toLowerCase : String → String} {context : TaskContext} {args : UpdateArgs}

/-- Both cards change in the same way. -/
lemma forall₂_updateWhere {tasks others : List TaskRow} {cond : TaskRow → Bool}
    {set : TaskRow → TaskRow} (h : List.Forall₂ (Beside context args) tasks others)
    (hcond : ∀ {row other}, Beside context args row other → cond row = cond other)
    (hset : ∀ {row other}, Beside context args row other →
      Beside context args (set row) (set other)) :
    List.Forall₂ (Beside context args) (updateWhere cond set tasks)
      (updateWhere cond set others) := by
  rw [updateWhere, updateWhere, List.forall₂_map_left_iff, List.forall₂_map_right_iff]
  refine h.imp fun row other hbeside => ?_
  rw [hcond hbeside]
  split_ifs
  · exact hset hbeside
  · exact hbeside

/-- Only the card itself changes, and keeps what is not named. -/
lemma forall₂_updateWhere_left {tasks others : List TaskRow} {set : TaskRow → TaskRow}
    (h : List.Forall₂ (Beside context args) tasks others)
    (hisTask : ∀ row context' taskId, isTask context' taskId (set row) = isTask context' taskId row)
    (hset : ∀ row ∈ tasks, isTask context args.taskId row = true → Kept args (set row) row) :
    List.Forall₂ (Beside context args)
      (updateWhere (isTask context args.taskId) set tasks) others := by
  rw [updateWhere, List.forall₂_map_left_iff]
  have hboth := (List.forall₂_and_left tasks others).mpr ⟨hset, h⟩
  refine hboth.imp fun row other hrow => ?_
  obtain ⟨hkept, hbeside⟩ := hrow
  split_ifs with htask
  · refine ⟨fun context' taskId => (hisTask row context' taskId).trans
      (hbeside.isTask_eq context' taskId), fun _ => ?_⟩
    have hfirst := hkept htask
    have hsecond := hbeside.kept htask
    exact ⟨fun h => (hfirst.title h).trans (hsecond.title h),
      fun h => (hfirst.description h).trans (hsecond.description h),
      fun h => (hfirst.priority h).trans (hsecond.priority h),
      hfirst.assigneeUserId.trans hsecond.assigneeUserId,
      fun h => (hfirst.labels h).trans (hsecond.labels h),
      fun h => (hfirst.status h).trans (hsecond.status h),
      hfirst.position.trans hsecond.position⟩
  · exact hbeside

lemma stored_updateWhere {tasks : List TaskRow} {cond : TaskRow → Bool} {set : TaskRow → TaskRow}
    (h : ∀ row ∈ tasks, Stored toLowerCase row)
    (hset : ∀ row ∈ tasks, Stored toLowerCase (set row)) :
    ∀ row ∈ updateWhere cond set tasks, Stored toLowerCase row := by
  intro row hrow
  rcases mem_updateWhere.mp hrow with ⟨hold, -⟩ | ⟨old, hold, -, rfl⟩
  · exact h row hold
  · exact hset old hold

lemma Beside.updated {row other : TaskRow} (h : Beside context args row other)
    (fields : PreparedTaskFields) (now : Timestamp) :
    Beside context args (row.updated fields now) (other.updated fields now) := by
  refine ⟨h.isTask_eq, fun htask => ?_⟩
  have hkept := h.kept htask
  exact ⟨fun _ => rfl, fun _ => rfl, fun _ => rfl, rfl, fun _ => rfl, hkept.status, hkept.position⟩

lemma Beside.moved {row other : TaskRow} (h : Beside context args row other) (status : TaskStatus)
    (position : ℕ) (now : Timestamp) :
    Beside context args (row.moved status position now) (other.moved status position now) := by
  refine ⟨h.isTask_eq, fun htask => ?_⟩
  have hkept := h.kept htask
  exact ⟨hkept.title, hkept.description, hkept.priority, hkept.assigneeUserId, hkept.labels,
    fun _ => rfl, rfl⟩

lemma Stored.moved {row : TaskRow} (h : Stored toLowerCase row) (status : TaskStatus)
    (position : ℕ) (now : Timestamp) : Stored toLowerCase (row.moved status position now) :=
  ⟨h.title, h.description, h.assigneeUserId, h.labels⟩

/-! ### Steps -/

variable {st : EditState}

lemma EditOk.update (hlower : LowerCases toLowerCase) (h : EditOk toLowerCase context args st)
    {env : TaskEnv} (henv : env.toLowerCase = toLowerCase) (input : UpdateTaskInput) :
    EditOk toLowerCase context args (st.next context args (.update input env)) := by
  have hdb := updateTask_tasks input env st.db
  have hothers := updateTask_tasks input env st.others
  cases hchecked : checkUpdateTask input env with
  | error error =>
      rw [hchecked] at hdb hothers
      refine ⟨?_, ?_, h.read, h.moving⟩
      · rw [EditState.next, hdb, hothers]
        exact h.beside
      · rw [EditState.next, hdb]
        exact h.stored
  | ok fields =>
      rw [hchecked] at hdb hothers
      have hprepared := checkUpdateTask_eq_ok hchecked
      rw [henv] at hprepared
      refine ⟨?_, ?_, h.read, h.moving⟩
      · rw [EditState.next, hdb, hothers]
        exact forall₂_updateWhere h.beside (fun hbeside => hbeside.isTask_eq _ _)
          (fun hbeside => hbeside.updated fields env.now)
      · rw [EditState.next, hdb]
        exact stored_updateWhere h.stored fun row _ => .of_prepared hlower hprepared env.now

lemma EditOk.move (h : EditOk toLowerCase context args st) (env : TaskEnv)
    (input : MoveTaskInput) :
    EditOk toLowerCase context args (st.next context args (.move input env)) := by
  have hdb := moveTask_tasks input env st.db
  have hothers := moveTask_tasks input env st.others
  cases hchecked : checkMoveTask input env with
  | error error =>
      rw [hchecked] at hdb hothers
      refine ⟨?_, ?_, h.read, h.moving⟩
      · rw [EditState.next, hdb, hothers]
        exact h.beside
      · rw [EditState.next, hdb]
        exact h.stored
  | ok checked =>
      rw [hchecked] at hdb hothers
      refine ⟨?_, ?_, h.read, h.moving⟩
      · rw [EditState.next, hdb, hothers]
        exact forall₂_updateWhere h.beside (fun hbeside => hbeside.isTask_eq _ _)
          (fun hbeside => hbeside.moved _ _ env.now)
      · rw [EditState.next, hdb]
        exact stored_updateWhere h.stored fun row hrow => (h.stored row hrow).moved _ _ env.now

lemma afterFields_ne_read {row current : TaskRow} : afterFields args row ≠ .read current := by
  rw [afterFields]
  split
  · exact UpdateTool.noConfusion
  · split_ifs <;> exact UpdateTool.noConfusion

lemma afterFields_moving {row row' : TaskRow} {status : TaskStatus}
    (h : afterFields args row = .moving status row') : args.status = some status := by
  rw [afterFields] at h
  split at h
  · cases h
  · rename_i hstatus
    split_ifs at h
    cases h
    exact hstatus

lemma parseTaskPriority_text (priority : TaskPriority) :
    parseTaskPriority (taskPriorityText priority) = .ok priority := by
  cases priority <;> rfl

/-- What the tool is about to write, of a card that still is what it has read. -/
lemma kept_of_prepared {current row : TaskRow} {userId : String} {fields : PreparedTaskFields}
    {now : Timestamp} (hstored : Stored toLowerCase current)
    (hprepared : prepareTaskFields toLowerCase userId ⟨args.title.getD current.title,
      some (args.description.getD current.description),
      taskPriorityText (args.priority.getD current.priority), current.assigneeUserId,
      some (args.labels.getD current.labels), none, none, none⟩ = .ok fields)
    (htitle : args.title = none → row.title = current.title)
    (hdescription : args.description = none → row.description = current.description)
    (hpriority : args.priority = none → row.priority = current.priority)
    (hassignee : row.assigneeUserId = current.assigneeUserId)
    (hlabels : args.labels = none → row.labels = current.labels) :
    Kept args (row.updated fields now) row := by
  obtain ⟨hnewTitle, hnewDescription, hnewPriority, hnewAssignee, hnewLabels⟩ :=
    prepareTaskFields_eq_ok hprepared
  refine ⟨?_, ?_, ?_, ?_, ?_, fun _ => rfl, rfl⟩
  · intro hnone
    rw [hnone] at hnewTitle
    exact (Except.ok.inj (hstored.title.symm.trans hnewTitle)).symm.trans (htitle hnone).symm
  · intro hnone
    rw [hnone] at hnewDescription
    exact (Except.ok.inj (hstored.description.symm.trans hnewDescription)).symm.trans
      (hdescription hnone).symm
  · intro hnone
    rw [hnone] at hnewPriority
    exact (Except.ok.inj ((parseTaskPriority_text _).symm.trans hnewPriority)).symm.trans
      (hpriority hnone).symm
  · change fields.assigneeUserId = row.assigneeUserId
    rw [normalizeAssignee_eq_ok hnewAssignee, hstored.assigneeUserId, hassignee]
  · intro hnone
    rw [hnone] at hnewLabels
    exact (Except.ok.inj (hstored.labels.symm.trans hnewLabels)).symm.trans (hlabels hnone).symm

/-- The tool writes the text back. -/
lemma EditOk.toolUpdate (hlower : LowerCases toLowerCase) (h : EditOk toLowerCase context args st)
    {env : TaskEnv} (henv : env.toLowerCase = toLowerCase) {current : TaskRow}
    (htool : st.tool = .read current) (hundisturbed : Undisturbed context args st (.tool env)) :
    EditOk toLowerCase context args (st.next context args (.tool env)) := by
  have hdb := updateTask_tasks (fieldUpdateInput context args current) env st.db
  have hnext : (st.next context args (.tool env)).db =
        (updateTask (fieldUpdateInput context args current) env st.db).2 ∧
      (st.next context args (.tool env)).others = st.others ∧
      (∀ current', (st.next context args (.tool env)).tool ≠ .read current') ∧
      ∀ status row, (st.next context args (.tool env)).tool = .moving status row →
        args.status = some status := by
    rw [EditState.next, htool, toolStep]
    rcases updateTask (fieldUpdateInput context args current) env st.db with ⟨_ | row, db'⟩
    · refine ⟨rfl, rfl, fun _ => UpdateTool.noConfusion, ?_⟩
      rintro status row ⟨⟩
    · exact ⟨rfl, rfl, fun _ => afterFields_ne_read, fun _ _ => afterFields_moving⟩
  obtain ⟨hnextDb, hnextOthers, hnextTool, hnextMoving⟩ := hnext
  refine ⟨?_, ?_, fun current' hcurrent' => absurd hcurrent' (hnextTool current'), hnextMoving⟩
  · rw [hnextDb, hnextOthers, hdb]
    split
    · exact h.beside
    · rename_i fields hchecked
      have hprepared := checkUpdateTask_eq_ok hchecked
      rw [henv] at hprepared
      refine forall₂_updateWhere_left h.beside (fun _ _ _ => rfl) fun row hrow htask => ?_
      have hsame := hundisturbed env rfl row hrow htask
      rw [htool] at hsame
      obtain ⟨htitle, hdescription, hpriority, hassignee, hlabels⟩ := hsame
      exact kept_of_prepared (h.read current htool) hprepared htitle hdescription hpriority
        hassignee hlabels
  · rw [hnextDb, hdb]
    split
    · exact h.stored
    · rename_i fields hchecked
      have hprepared := checkUpdateTask_eq_ok hchecked
      rw [henv] at hprepared
      exact stored_updateWhere h.stored fun row _ => .of_prepared hlower hprepared env.now

/-- The tool moves the card. -/
lemma EditOk.toolMove (h : EditOk toLowerCase context args st) {env : TaskEnv} {status : TaskStatus}
    {last : TaskRow} (htool : st.tool = .moving status last)
    (hundisturbed : Undisturbed context args st (.tool env)) :
    EditOk toLowerCase context args (st.next context args (.tool env)) := by
  have hdb := moveTask_tasks (statusUpdateInput context args status last) env st.db
  have hnext : (st.next context args (.tool env)).db =
        (moveTask (statusUpdateInput context args status last) env st.db).2 ∧
      (st.next context args (.tool env)).others = st.others ∧
      ∃ result, (st.next context args (.tool env)).tool = .finished result := by
    rw [EditState.next, htool, toolStep]
    exact ⟨rfl, rfl, _, rfl⟩
  obtain ⟨hnextDb, hnextOthers, result, hnextTool⟩ := hnext
  have hnamed : args.status ≠ none := by
    rw [h.moving status last htool]
    exact Option.some_ne_none status
  refine ⟨?_, ?_, fun _ hread => (nomatch hnextTool.symm.trans hread),
    fun _ _ hmoving => (nomatch hnextTool.symm.trans hmoving)⟩
  · rw [hnextDb, hnextOthers, hdb]
    split
    · exact h.beside
    · rename_i moved position hchecked
      obtain rfl := checkMoveTask_eq_ok hchecked
      refine forall₂_updateWhere_left h.beside (fun _ _ _ => rfl) fun row hrow htask => ?_
      have hsame := hundisturbed env rfl row hrow htask
      rw [htool] at hsame
      exact ⟨fun _ => rfl, fun _ => rfl, fun _ => rfl, rfl, fun _ => rfl,
        fun hnone => absurd hnone hnamed, hsame.symm⟩
  · rw [hnextDb, hdb]
    split
    · exact h.stored
    · exact stored_updateWhere h.stored fun row hrow => (h.stored row hrow).moved _ _ env.now

/-- The tool reads the card. -/
lemma EditOk.toolRead (h : EditOk toLowerCase context args st) (env : TaskEnv)
    (htool : st.tool = .start) :
    EditOk toLowerCase context args (st.next context args (.tool env)) := by
  have hfound : ∀ {current}, getTask context args.taskId env st.db = .ok current →
      Stored toLowerCase current := by
    intro current hget
    rw [getTask] at hget
    obtain ⟨-, -, hget⟩ := bind_eq_ok hget
    obtain ⟨-, -, hget⟩ := bind_eq_ok hget
    obtain ⟨-, -, hget⟩ := bind_eq_ok hget
    split at hget
    · cases hget
    · rename_i row hfind
      obtain rfl := Except.ok.inj hget
      exact h.stored _ (List.mem_of_find?_eq_some hfind)
  rw [EditState.next, htool, toolStep]
  cases hget : getTask context args.taskId env st.db with
  | error error =>
      refine ⟨h.beside, h.stored, ?_, ?_⟩
      · rintro current ⟨⟩
      · rintro status row ⟨⟩
  | ok current =>
      by_cases hfields : shouldUpdateFields args = true
      · simp only [hfields, if_true]
        refine ⟨h.beside, h.stored, ?_, ?_⟩
        · rintro current' ⟨⟩
          exact hfound hget
        · rintro status row ⟨⟩
      · simp only [hfields]
        exact ⟨h.beside, h.stored, fun current' hread => absurd hread afterFields_ne_read,
          fun status row hmoving => afterFields_moving hmoving⟩

lemma EditOk.next (hlower : LowerCases toLowerCase) (h : EditOk toLowerCase context args st)
    {event : EditEvent} (henv : event.env.toLowerCase = toLowerCase)
    (hundisturbed : Undisturbed context args st event) :
    EditOk toLowerCase context args (st.next context args event) := by
  cases event with
  | update input env => exact h.update hlower henv input
  | move input env => exact h.move env input
  | tool env =>
      cases htool : st.tool with
      | start => exact h.toolRead env htool
      | read current => exact h.toolUpdate hlower henv htool hundisturbed
      | moving status row => exact h.toolMove htool hundisturbed
      | finished result =>
          rw [EditState.next, htool, toolStep]
          refine ⟨h.beside, h.stored, ?_, ?_⟩
          · rintro current ⟨⟩
          · rintro status row ⟨⟩

lemma Edited.ok (hlower : LowerCases toLowerCase) {initial : StoredDb toLowerCase}
    (h : Edited toLowerCase context args (Undisturbed context args) initial st) :
    EditOk toLowerCase context args st := by
  induction h with
  | start =>
      refine ⟨?_, initial.stored, ?_, ?_⟩
      · refine List.forall₂_same.mpr fun row _ => ⟨fun _ _ => rfl, fun _ => ?_⟩
        exact ⟨fun _ => rfl, fun _ => rfl, fun _ => rfl, rfl, fun _ => rfl, fun _ => rfl, rfl⟩
      · rintro current ⟨⟩
      · rintro status row ⟨⟩
  | step event _ lower ok ih => exact ih.next hlower lower ok

lemma find?_beside {tasks others : List TaskRow} {row : TaskRow}
    (h : List.Forall₂ (Beside context args) tasks others)
    (hrow : tasks.find? (isTask context args.taskId) = some row) :
    ∃ other, others.find? (isTask context args.taskId) = some other ∧ Kept args row other := by
  induction h with
  | nil => cases hrow
  | @cons a b _ _ hbeside _ ih =>
      rw [List.find?_cons] at hrow
      rw [List.find?_cons, ← hbeside.isTask_eq]
      cases htask : isTask context args.taskId a with
      | true =>
          rw [htask] at hrow
          obtain rfl := Option.some.inj hrow
          exact ⟨b, rfl, hbeside.kept htask⟩
      | false =>
          rw [htask] at hrow
          exact ih hrow

/-- **The edits of the other actors are kept**: in every run in which the tool writes back only
what is still stored, and in every state of it, the fields the arguments do not name are as
the other actors have left them. -/
theorem unnamed_fields_kept (hlower : LowerCases toLowerCase) {initial : StoredDb toLowerCase}
    (h : Edited toLowerCase context args (Undisturbed context args) initial st)
    {row : TaskRow} (hrow : st.db.tasks.find? (isTask context args.taskId) = some row) :
    ∃ other, st.others.tasks.find? (isTask context args.taskId) = some other ∧ Kept args row other :=
  find?_beside (h.ok hlower).beside hrow

/-! ### A run -/

/-- The card the tool is to change. -/
def sampleTask : TaskRow where
  id := "task"
  organizationId := "org"
  workspaceId := "ws"
  cardNumber := 1
  title := "old"
  description := ""
  status := .todo
  priority := .normal
  assigneeUserId := none
  labels := []
  position := 1
  dueAt := none
  provenanceSource := "manual"
  provenanceExternalRef := none
  idempotencyKey := none
  createdAt := 0
  updatedAt := 0

/-- The tables, with texts that are in lower case. -/
def sampleTasks : StoredDb id where
  db := { TaskDb.empty with tasks := [sampleTask] }
  stored := by
    intro row hrow
    obtain rfl := List.mem_singleton.mp hrow
    exact ⟨rfl, rfl, rfl, rfl⟩

/-- A call at a time. -/
def sampleTaskEnv (now : Timestamp) : TaskEnv := ⟨now, "unused", "unused", "unused", .ok true, id⟩

/-- The tool is to write the description, and nothing else. -/
def describeArgs : UpdateArgs := ⟨"task", none, some "text", none, none, none⟩

/-- The context of the tool. -/
def toolContext : TaskContext := ⟨"org", "ws", "user"⟩

/-- Another actor writes a new title. -/
def retitle : UpdateTaskInput :=
  ⟨⟨"org", "ws", "other"⟩, "task", "new", some "", "normal", none, some []⟩

/-- The other actor commits before the tool reads the card. -/
def keptState : EditState :=
  [EditEvent.update retitle (sampleTaskEnv 1), .tool (sampleTaskEnv 2), .tool (sampleTaskEnv 3)].foldl
    (EditState.next toolContext describeArgs) ⟨sampleTasks.db, sampleTasks.db, .start⟩

/-- The other actor commits after the tool has read the card. -/
def lostState : EditState :=
  [EditEvent.tool (sampleTaskEnv 1), .update retitle (sampleTaskEnv 2), .tool (sampleTaskEnv 3)].foldl
    (EditState.next toolContext describeArgs) ⟨sampleTasks.db, sampleTasks.db, .start⟩

lemma lowerCases_id : LowerCases id := by
  intro value
  simp [lowered, jsTrim_jsTrim]

/-- The title of the other actor is kept, beside the description of the tool. -/
theorem unnamed_fields_kept_retitled :
    keptState.tool matches .finished (.ok _) ∧
    (keptState.db.tasks.map fun row => (row.title, row.description)) = [("new", "text")] ∧
    ∃ row other, keptState.db.tasks.find? (isTask toolContext "task") = some row ∧
      keptState.others.tasks.find? (isTask toolContext "task") = some other ∧
      Kept describeArgs row other := by
  have hread : Edited id toolContext describeArgs (Undisturbed toolContext describeArgs) sampleTasks
      ((EditState.next toolContext describeArgs ⟨sampleTasks.db, sampleTasks.db, .start⟩
        (.update retitle (sampleTaskEnv 1))).next toolContext describeArgs
        (.tool (sampleTaskEnv 2))) := by
    refine .step _ (.step _ .start rfl ?_) rfl ?_
    · rintro env ⟨⟩
    · rintro env - row - -
      trivial
  have hkept : Edited id toolContext describeArgs (Undisturbed toolContext describeArgs) sampleTasks
      keptState := by
    refine .step (.tool (sampleTaskEnv 3)) hread rfl ?_
    rintro env - row hrow -
    obtain rfl := List.mem_singleton.mp hrow
    exact ⟨fun _ => rfl, fun h => (nomatch h), fun _ => rfl, rfl, fun _ => rfl⟩
  have hrow : keptState.db.tasks.find? (isTask toolContext "task") = keptState.db.tasks.head? := rfl
  obtain ⟨other, hother, hfields⟩ := unnamed_fields_kept lowerCases_id hkept hrow
  exact ⟨rfl, by decide, _, other, hrow, hother, hfields⟩

/-- The title of the other actor is lost: the tool has read the card before, and writes the
old title back. -/
theorem retitle_lost :
    (lostState.db.tasks.map fun row => (row.title, row.description)) = [("old", "text")] ∧
    ¬ ∀ (toLowerCase : String → String) (context : TaskContext) (args : UpdateArgs)
      (initial : StoredDb toLowerCase) (st : EditState) (result : Except DomainError TaskRow)
      (row : TaskRow), LowerCases toLowerCase →
      Edited toLowerCase context args (fun _ _ => True) initial st → st.tool = .finished result →
      st.db.tasks.find? (isTask context args.taskId) = some row →
      ∃ other, st.others.tasks.find? (isTask context args.taskId) = some other ∧
        Kept args row other := by
  refine ⟨by decide, fun hclaim => ?_⟩
  have hlost : Edited id toolContext describeArgs (fun _ _ => True) sampleTasks lostState :=
    .step (.tool (sampleTaskEnv 3)) (.step (.update retitle (sampleTaskEnv 2))
      (.step (.tool (sampleTaskEnv 1)) .start rfl trivial) rfl trivial) rfl trivial
  have hrow : lostState.db.tasks.find? (isTask toolContext "task") = lostState.db.tasks.head? := rfl
  obtain ⟨other, hother, hkept⟩ := hclaim id toolContext describeArgs sampleTasks lostState _ _
    lowerCases_id hlost rfl hrow
  have htitle := hkept.title rfl
  have hnew : (lostState.others.tasks.find? (isTask toolContext describeArgs.taskId)).map (·.title) =
      some "new" := by decide
  rw [hother] at hnew
  have hold : "old" = other.title := htitle
  have hchanged : "old" = "new" := hold.trans (Option.some.inj hnew)
  exact absurd hchanged (by decide)

end Opzava.RuntimeControl
