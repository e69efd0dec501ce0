import Opzava.Library.Texts
import Opzava.ProjectManagement.DoneAdmission
import Opzava.ProjectManagement.OutboxProtocol

/-!
The close intent a Done leaves behind.

* `dedupeKey_inj`: a dedupe key names one task and one issue.
* `CloseRow`, `closeRows_of_reachable`: the rows of the outbox carry the key of their task
  and issue.
* `close_intent`: an error of the composed command leaves everything as it was; an ok
  leaves the row of the task and the issue, live unless it was closed or dead already.
-/

namespace Opzava.ProjectManagement

open Opzava.Library
open DevBoard (DomainError)

/-! ### Names -/

lemma isNameChar_toNat {c : Char} (h : isNameChar c = true) : 45 ≤ c.toNat ∧ c.toNat ≤ 122 := by
  rw [isNameChar, decide_eq_true_iff] at h
  rcases h with ⟨h₁, h₂⟩ | ⟨h₁, h₂⟩ | ⟨h₁, h₂⟩ | h
  · have h₁' : 65 ≤ c.toNat := h₁
    have h₂' : c.toNat ≤ 90 := h₂
    omega
  · have h₁' : 97 ≤ c.toNat := h₁
    have h₂' : c.toNat ≤ 122 := h₂
    omega
  · have h₁' : 48 ≤ c.toNat := h₁
    have h₂' : c.toNat ≤ 57 := h₂
    omega
  · simp only [List.mem_cons, List.not_mem_nil, or_false] at h
    rcases h with rfl | rfl | rfl <;> decide

/-- The characters of a repository. -/
lemma isRepository_toNat {cs : List Char} (h : isRepository cs = true) :
    ∀ c ∈ cs, 45 ≤ c.toNat ∧ c.toNat ≤ 122 := by
  rw [isRepository] at h
  split at h
  · rename_i owner name hsplit
    obtain ⟨-, -, howner, hname⟩ := of_decide_eq_true h
    have hjoin : owner ++ '/' :: name = cs := by
      have hinter : ['/'].intercalate (cs.splitOn '/') = cs := List.intercalate_splitOn '/'
      rw [hsplit] at hinter
      simpa [List.intercalate] using hinter
    intro c hc
    rw [← hjoin, List.mem_append, List.mem_cons] at hc
    rcases hc with hc | rfl | hc
    · exact isNameChar_toNat (List.all_eq_true.mp howner c hc)
    · decide
    · exact isNameChar_toNat (List.all_eq_true.mp hname c hc)
  · cases h

lemma isJsSpace_of_toNat {c : Char} (h : 45 ≤ c.toNat ∧ c.toNat ≤ 122) : isJsSpace c = false := by
  rw [isJsSpace, Bool.or_eq_false_iff]
  constructor
  · rw [decide_eq_false_iff_not]
    simp only [List.mem_cons, List.not_mem_nil, or_false]
    omega
  · rw [Bool.and_eq_false_iff]
    exact .inl (decide_eq_false (by omega))

lemma normalizeRepository_of {repository : String} (h : isRepository repository.toList = true) :
    normalizeRepository repository = .ok repository := by
  have htrim : jsTrim repository.toList = repository.toList :=
    jsTrim_of_forall fun c hc => isJsSpace_of_toNat (isRepository_toNat h c hc)
  rw [normalizeRepository, htrim, if_pos h, String.ofList_toList]

lemma issueRefFromTask_repository {task : TaskRow} {ref : IssueRef}
    (h : issueRefFromTask task = some ref) : isRepository ref.repository.toList = true := by
  rw [issueRefFromTask] at h
  split at h
  · cases h
  · rename_i value hvalue
    rcases Option.or_eq_some_iff.mp h with hshort | ⟨-, hurl⟩
    · rw [shortRef] at hshort
      split at hshort
      · cases hshort
      · split at hshort
        · split_ifs at hshort with hcond
          cases hshort
          rw [String.toList_ofList]
          exact hcond.1
        · cases hshort
    · rw [urlRef] at hurl
      split at hurl
      · cases hurl
      · split at hurl
        · split_ifs at hurl with hcond
          cases hurl
          rw [String.toList_ofList]
          exact hcond.1
        · cases hurl

/-- An id of the application has no colon. -/
lemma isOpaqueId_colon {text : String} (h : isOpaqueId text = true) : ':' ∉ text.toList := by
  rw [isOpaqueId] at h
  split at h
  · cases h
  · rename_i first rest hlist
    obtain ⟨hfirst, -, -, hrest⟩ := of_decide_eq_true h
    rw [hlist]
    intro hmem
    rcases List.mem_cons.mp hmem with rfl | hmem
    · exact absurd hfirst (by decide)
    · exact absurd (List.all_eq_true.mp hrest ':' hmem) (by decide)

/-! ### Dedupe keys -/

lemma dedupeKey_toList (context : TaskContext) (taskId repository : String) (number : ℕ) :
    (dedupeKey context taskId repository number).toList =
      context.orgId.toList ++ ':' :: (context.workspaceId.toList ++ ':' :: (taskId.toList ++
        ':' :: (repository.toList ++ '#' :: ((toString number).toList ++ ":close".toList)))) := by
  simp only [dedupeKey, String.toList_append, List.append_assoc]
  rfl

/-- **A dedupe key names one task and one issue**. -/
lemma dedupeKey_inj {context context' : TaskContext} {taskId taskId' repository repository' : String}
    {number number' : ℕ} (horg : ':' ∉ context.orgId.toList) (horg' : ':' ∉ context'.orgId.toList)
    (hws : ':' ∉ context.workspaceId.toList) (hws' : ':' ∉ context'.workspaceId.toList)
    (htask : ':' ∉ taskId.toList) (htask' : ':' ∉ taskId'.toList)
    (hrepo : '#' ∉ repository.toList) (hrepo' : '#' ∉ repository'.toList)
    (h : dedupeKey context taskId repository number =
      dedupeKey context' taskId' repository' number') :
    context.orgId = context'.orgId ∧ context.workspaceId = context'.workspaceId ∧
      taskId = taskId' ∧ repository = repository' ∧ number = number' := by
  have hlist := congrArg String.toList h
  rw [dedupeKey_toList, dedupeKey_toList] at hlist
  obtain ⟨h₁, hlist⟩ := append_separator_inj horg horg' hlist
  obtain ⟨h₂, hlist⟩ := append_separator_inj hws hws' hlist
  obtain ⟨h₃, hlist⟩ := append_separator_inj htask htask' hlist
  obtain ⟨h₄, hlist⟩ := append_separator_inj hrepo hrepo' hlist
  have h₅ := List.append_cancel_right hlist
  exact ⟨String.toList_injective h₁, String.toList_injective h₂, String.toList_injective h₃,
    String.toList_injective h₄, toString_toList_inj h₅⟩

/-! ### The rows of the outbox -/

/-- The columns of a row that are never written again. -/
def OutboxRow.columns (row : OutboxRow) : String × String × String × String × ℕ × String :=
  (row.organizationId, row.workspaceId, row.taskId, row.repository, row.issueNumber,
    row.dedupeKey)

/-- A row with the key of its task and issue. -/
structure CloseRow (row : OutboxRow) : Prop where
  organizationId : ':' ∉ row.organizationId.toList
  workspaceId : ':' ∉ row.workspaceId.toList
  taskId : ':' ∉ row.taskId.toList
  repository : '#' ∉ row.repository.toList
  dedupeKey : row.dedupeKey = ProjectManagement.dedupeKey
    ⟨row.organizationId, row.workspaceId, ""⟩ row.taskId row.repository row.issueNumber

lemma CloseRow.of_columns {row row' : OutboxRow} (h : CloseRow row)
    (hcolumns : row'.columns = row.columns) : CloseRow row' := by
  simp only [OutboxRow.columns, Prod.mk.injEq] at hcolumns
  obtain ⟨h₁, h₂, h₃, h₄, h₅, h₆⟩ := hcolumns
  constructor
  · exact h₁ ▸ h.organizationId
  · exact h₂ ▸ h.workspaceId
  · exact h₃ ▸ h.taskId
  · exact h₄ ▸ h.repository
  · rw [h₁, h₂, h₃, h₄, h₅, h₆]
    exact h.dedupeKey

/-- The workers leave the columns alone. -/
lemma worker_columns {m : ℕ} {o o' : Outbox} (h : OutboxStep m o o')
    (hworker : o'.rows.length = o.rows.length) :
    o'.rows.map OutboxRow.columns = o.rows.map OutboxRow.columns := by
  cases h with
  | enqueue values id now inserted =>
      rcases insertOutbox_eq_some inserted with ⟨-, -, -, -, rfl⟩ | ⟨-, -, -, rfl⟩
      · exact map_updateWhere _ fun _ => rfl
      · rw [List.length_append, List.length_singleton] at hworker
        omega
  | claim worker input bounds env entries idle valid cap returned fresh =>
      calc (claimTransaction input bounds env o.rows).2.map OutboxRow.columns
          = (sweep input bounds env o.rows).map OutboxRow.columns :=
            map_updateWhere _ fun _ => rfl
        _ = o.rows.map OutboxRow.columns := map_updateWhere _ fun _ => rfl
  | close => rfl
  | finalize worker input bounds entry rest result now running =>
      exact map_updateWhere _ fun _ => rfl
  | gone => rfl

lemma closeRows_of_columns {rows rows' : List OutboxRow}
    (h : ∀ row ∈ rows, CloseRow row)
    (hcolumns : rows'.map OutboxRow.columns = rows.map OutboxRow.columns) :
    ∀ row ∈ rows', CloseRow row := by
  intro row' hrow'
  have hmem : row'.columns ∈ rows.map OutboxRow.columns :=
    hcolumns ▸ List.mem_map.mpr ⟨row', hrow', rfl⟩
  obtain ⟨row, hrow, heq⟩ := List.mem_map.mp hmem
  exact (h row hrow).of_columns heq.symm

/-! ### The enqueue -/

/-- Without a linked issue the enqueue does nothing; with one it inserts its row. -/
lemma enqueueIssueCloseForTaskTx_ok {context : TaskContext} {task : TaskRow} {env : CloseEnv}
    {rows rows' : List OutboxRow} {outbox : Option OutboxRow}
    (h : enqueueIssueCloseForTaskTx context task env rows = .ok (outbox, rows')) :
    (issueRefFromTask task = none ∧ rows' = rows) ∨
    ∃ ref row, issueRefFromTask task = some ref ∧
      insertOutbox (closeValues context task.id ref.repository ref) env.outboxId env.now rows =
        some (row, rows') := by
  rw [enqueueIssueCloseForTaskTx] at h
  cases href : issueRefFromTask task with
  | none =>
      rw [href] at h
      cases h
      exact .inl ⟨rfl, rfl⟩
  | some ref =>
      simp only [href, normalizeRepository_of (issueRefFromTask_repository href)] at h
      split at h
      · rename_i repository _ hrepository hauthorized
        cases hrepository
        split_ifs at h
        split at h
        · cases h
        · rename_i row rows₁ hinsert
          cases h
          exact .inr ⟨ref, row, rfl, hinsert⟩
      · cases h

/-- The ids the two Done commands have checked. -/
lemma prepareMarkTaskDone_ids {input : MarkTaskDoneInput} {env : TaskEnv}
    (h : prepareMarkTaskDone input env = .ok ()) :
    ':' ∉ input.orgId.toList ∧ ':' ∉ input.workspaceId.toList ∧ ':' ∉ input.taskId.toList := by
  rw [prepareMarkTaskDone] at h
  obtain ⟨_, hknown, h⟩ := bind_eq_ok h
  obtain ⟨_, htask, -⟩ := bind_eq_ok h
  rw [assertKnownIds] at hknown
  rw [assertKnownTaskId] at htask
  split_ifs at hknown with hids
  split_ifs at htask with htaskId
  exact ⟨isOpaqueId_colon hids.1, isOpaqueId_colon hids.2.1, isOpaqueId_colon htaskId⟩

/-- The values the composed command inserts make a row with the key of its task and
issue. -/
lemma closeRow_of_values {context : TaskContext} {taskId : String} {ref : IssueRef} {id : String}
    {now : Timestamp} (horg : ':' ∉ context.orgId.toList) (hws : ':' ∉ context.workspaceId.toList)
    (htask : ':' ∉ taskId.toList) (href : isRepository ref.repository.toList = true) :
    CloseRow ((closeValues context taskId ref.repository ref).row id now) where
  organizationId := horg
  workspaceId := hws
  taskId := htask
  repository := by
    intro hmem
    have hrange := isRepository_toNat href '#' hmem
    exact absurd hrange.1 (by decide)
  dedupeKey := rfl

/-! ### Runs -/

/-- A command leaves the outbox alone, or inserts the row of a linked issue. -/
lemma run_outbox (c : TaskCommand) (tables : DoneTables) :
    (c.run tables).outbox = tables.outbox ∨
    ∃ values id now row, insertOutbox values id now tables.outbox =
      some (row, (c.run tables).outbox) ∧ ∀ id now, CloseRow (values.row id now) := by
  cases c with
  | markTaskDoneAndEnqueueIssueClose input env close =>
      rw [TaskCommand.run, markTaskDoneAndEnqueueIssueClose]
      rcases command_cases (prepareMarkTaskDone input env)
        (fun _ => markTaskDoneAndEnqueueIssueCloseTx input env close) tables with
        ⟨error, heq⟩ | ⟨checked, outcome, hchecks, hbody, heq⟩
      · exact .inl (congrArg (·.2.outbox) heq)
      · rw [heq]
        rcases markTaskDoneAndEnqueueIssueCloseTx_cases hbody with ⟨error, rfl⟩ |
          ⟨-, -, old, outbox, -, -, -, hcond, henqueue⟩
        · exact .inl rfl
        · rcases enqueueIssueCloseForTaskTx_ok henqueue with ⟨-, hrows⟩ | ⟨ref, row, href, hinsert⟩
          · exact .inl hrows
          · obtain ⟨horg, hws, htask⟩ := prepareMarkTaskDone_ids hchecks
            have hold : old.id = input.taskId := (of_decide_eq_true hcond).1
            refine .inr ⟨_, _, _, row, hinsert, fun id now => ?_⟩
            exact closeRow_of_values horg hws (hold ▸ htask) (issueRefFromTask_repository href)
  | _ => exact .inl rfl

/-- The outbox of a reachable system is reachable, and its rows carry the key of their
task and issue. -/
lemma closeRows_of_reachable {m : ℕ} {s : TaskSystem} (h : TaskReachable m s) :
    OutboxReachable m s.outbox ∧ ∀ row ∈ s.outbox.rows, CloseRow row := by
  induction h with
  | refl => exact ⟨.refl, fun row hrow => by cases hrow⟩
  | tail _ hstep ih =>
      rename_i t t' _
      obtain ⟨hreach, hrows⟩ := ih
      obtain ⟨action, hstep⟩ := hstep
      cases hstep with
      | outbox outbox step worker =>
          exact ⟨hreach.tail step, closeRows_of_columns hrows (worker_columns step worker)⟩
      | command c =>
          rcases run_outbox c t.tables with hsame | ⟨values, id, now, row, hinsert, hvalues⟩
          · have houtbox : (t.write (c.run t.tables)).outbox = t.outbox := by
              rw [TaskSystem.write, hsame]
              rfl
            rw [houtbox]
            exact ⟨hreach, hrows⟩
          · refine ⟨hreach.tail (.enqueue t.outbox values id now hinsert), ?_⟩
            show ∀ row ∈ (c.run t.tables).outbox, CloseRow row
            rcases insertOutbox_eq_some hinsert with ⟨-, -, -, -, heq⟩ | ⟨-, -, -, heq⟩
            · rw [heq]
              exact closeRows_of_columns hrows (map_updateWhere _ fun _ => rfl)
            · rw [heq]
              intro row' hrow'
              rcases List.mem_append.mp hrow' with hold | hsingle
              · exact hrows row' hold
              · rw [List.mem_singleton.mp hsingle]
                exact hvalues id now

lemma OutboxState.not_live {state : OutboxState} (h : ¬state.live = true) :
    state = .closed ∨ state = .dead := by
  cases state <;> first | exact .inl rfl | exact .inr rfl | exact absurd rfl h

/-- The row of an enqueued close: live, or closed or dead already. -/
lemma enqueued_row {m : ℕ} {s : TaskSystem} (hm : 0 < m) (h : TaskReachable m s)
    {context : TaskContext} {taskId : String} {ref : IssueRef} {id : String} {now : Timestamp}
    {row : OutboxRow} {rows : List OutboxRow} (horg : ':' ∉ context.orgId.toList)
    (hws : ':' ∉ context.workspaceId.toList) (htask : ':' ∉ taskId.toList)
    (href : isRepository ref.repository.toList = true)
    (hinsert : insertOutbox (closeValues context taskId ref.repository ref) id now s.outbox.rows =
      some (row, rows)) :
    row ∈ rows ∧ row.organizationId = context.orgId ∧ row.workspaceId = context.workspaceId ∧
      row.taskId = taskId ∧ row.repository = ref.repository ∧ row.issueNumber = ref.number ∧
      ((row.state.live = true ∧ row.attempts < m) ∨
        ∃ old ∈ s.outbox.rows, old.id = row.id ∧ (old.state = .closed ∨ old.state = .dead)) := by
  obtain ⟨hreach, hrows⟩ := closeRows_of_reachable h
  have hreach' := hreach.tail (.enqueue s.outbox _ id now hinsert)
  have hbound : ∀ row' ∈ rows, row'.state.live = true → row'.attempts < m :=
    fun row' hrow' => ((reachable_ok hm hreach').rows row' hrow').lt
  rcases insertOutbox_eq_some hinsert with ⟨existing, hexisting, hkey, rfl, rfl⟩ | ⟨-, -, rfl, rfl⟩
  · have hmem : existing.touched now ∈ updateWhere (fun row => decide (row.dedupeKey =
        (closeValues context taskId ref.repository ref).dedupeKey)) (OutboxRow.touched now)
        s.outbox.rows :=
      mem_updateWhere.mpr (.inr ⟨existing, hexisting, decide_eq_true hkey, rfl⟩)
    have hclose := hrows existing hexisting
    have hnew : CloseRow ((closeValues context taskId ref.repository ref).row id now) :=
      closeRow_of_values horg hws htask href
    obtain ⟨h₁, h₂, h₃, h₄, h₅⟩ := dedupeKey_inj hclose.organizationId hnew.organizationId
      hclose.workspaceId hnew.workspaceId hclose.taskId hnew.taskId hclose.repository
      hnew.repository (hclose.dedupeKey.symm.trans (hkey.trans hnew.dedupeKey))
    refine ⟨hmem, h₁, h₂, h₃, h₄, h₅, ?_⟩
    by_cases hlive : existing.state.live = true
    · exact .inl ⟨hlive, hbound _ hmem hlive⟩
    · exact .inr ⟨existing, hexisting, rfl, OutboxState.not_live hlive⟩
  · have hmem := List.mem_append_right s.outbox.rows
      (List.mem_singleton_self ((closeValues context taskId ref.repository ref).row id now))
    exact ⟨hmem, rfl, rfl, rfl, rfl, rfl, .inl ⟨rfl, hbound _ hmem rfl⟩⟩

/-- **The close intent of a Done**, from every reachable system with a common cap on the
attempts: if the composed command returns an error, tasks, confirmations and outbox are as
before; if it returns ok for a card linked to an issue, the outbox has the row of the card
and the issue, live and below the cap unless it was closed or dead before. -/
theorem close_intent {m : ℕ} {s : TaskSystem} (hm : 0 < m) (h : TaskReachable m s)
    (input : MarkTaskDoneInput) (env : TaskEnv) (close : CloseEnv) :
    (∀ error tables, markTaskDoneAndEnqueueIssueClose input env close s.tables =
      (.error error, tables) → tables = s.tables) ∧
    ∀ task intent tables, markTaskDoneAndEnqueueIssueClose input env close s.tables =
      (.ok (task, intent), tables) →
      ∃ card ∈ s.db.tasks, card.id = input.taskId ∧ card.workspaceId = input.workspaceId ∧
        ∀ ref, issueRefFromTask card = some ref →
        ∃ row ∈ tables.outbox, row.organizationId = input.orgId ∧
          row.workspaceId = input.workspaceId ∧ row.taskId = input.taskId ∧
          row.repository = ref.repository ∧ row.issueNumber = ref.number ∧
          ((row.state.live = true ∧ row.attempts < m) ∨
            ∃ old ∈ s.outbox.rows, old.id = row.id ∧
              (old.state = .closed ∨ old.state = .dead)) := by
  rw [markTaskDoneAndEnqueueIssueClose]
  rcases command_cases (prepareMarkTaskDone input env)
    (fun _ => markTaskDoneAndEnqueueIssueCloseTx input env close) s.tables with
    ⟨error, heq⟩ | ⟨checked, outcome, hchecks, hbody, heq⟩
  · rw [heq]
    refine ⟨fun error' tables hrun => ?_, fun task intent tables hrun => ?_⟩
    · cases hrun
      rfl
    · cases hrun
  rw [heq]
  rcases markTaskDoneAndEnqueueIssueCloseTx_cases hbody with ⟨error, rfl⟩ |
    ⟨-, -, old, outbox, hok, -, hold, hcond, henqueue⟩
  · refine ⟨fun error' tables hrun => ?_, fun task intent tables hrun => ?_⟩
    · cases hrun
      rfl
    · cases hrun
  refine ⟨fun error' tables hrun => ?_, fun task intent tables hrun => ?_⟩
  · rw [hrun] at hok
    cases hok
  · obtain ⟨hid, hws, -⟩ := of_decide_eq_true hcond
    obtain ⟨horgColon, hwsColon, htaskColon⟩ := prepareMarkTaskDone_ids hchecks
    refine ⟨old, hold, hid, hws, fun ref href => ?_⟩
    rw [hrun] at henqueue
    rcases enqueueIssueCloseForTaskTx_ok henqueue with ⟨hnone, -⟩ | ⟨ref', row, href', hinsert⟩
    · cases href.symm.trans hnone
    · obtain rfl : ref = ref' := Option.some.inj (href.symm.trans href')
      obtain ⟨hmem, horg, hrowWs, htask, hrest⟩ := enqueued_row hm h horgColon hwsColon
        (hid ▸ htaskColon) (issueRefFromTask_repository href) hinsert
      exact ⟨row, hmem, horg, hrowWs, htask.trans hid, hrest⟩

/-! ### Done, reopened and Done again -/

namespace CloseSample

open TaskSample OutboxSample

/-- The claimed row of the sample card. -/
def entry : OutboxRow :=
  ((closeValues TaskSample.context "task" "owner/name"
    ⟨"owner/name", 7, "https://github.com/owner/name/issues/7"⟩).row "row" 4).claimed
    (OutboxSample.env 5 "token")

/-- A worker has claimed the row of the sample card. -/
def claimed : TaskSystem := { admitted with outbox := claimedBy admitted.outbox 0 5 "token" }

/-- The issue is closed. -/
def called : TaskSystem := { claimed with outbox := calledBy claimed.outbox 0 entry }

/-- The row is closed. -/
def finalized : TaskSystem :=
  { called with
    outbox :=
      ⟨(finalizeTransaction OutboxSample.input bounds entry (.ok ()) 6 called.outbox.rows).2,
        Function.update called.outbox.workers 0 (some ⟨OutboxSample.input, bounds, [], none⟩),
        called.outbox.log ++ finalizeEvents 0 entry
          (finalizeTransaction OutboxSample.input bounds entry (.ok ()) 6 called.outbox.rows).1⟩ }

/-- The card is moved back. -/
def reopened : TaskSystem :=
  after finalized (.moveTask ⟨TaskSample.context, "task", "todo", 0⟩ (TaskSample.env 7 "unused"))

/-- A second confirmation. -/
def secondNonce : String := "22222222-2222-4222-8222-222222222222"

/-- It is confirmed again. -/
def confirmedAgain : TaskSystem :=
  after reopened (.issueDoneConfirmation ⟨TaskSample.context, "task"⟩
    (TaskSample.env 8 secondNonce))

def doneAgainInput : MarkTaskDoneInput :=
  ⟨TaskSample.context, "task", 0, ⟨"user", "admin-web", secondNonce⟩⟩

/-- Done, from a system. -/
def doneFrom (s : TaskSystem) (input : MarkTaskDoneInput) (now : Timestamp) :
    Except DomainError (TaskRow × LinkedIssueCloseIntent) × DoneTables :=
  markTaskDoneAndEnqueueIssueClose input (TaskSample.env now "unused") (closeEnv now) s.tables

lemma reachable_outbox {s : TaskSystem} {outbox : Outbox} (h : TaskReachable 1 s)
    (hstep : OutboxStep 1 s.outbox outbox) (hworker : outbox.rows.length = s.outbox.rows.length) :
    TaskReachable 1 { s with outbox := outbox } := h.tail ⟨none, .outbox s outbox hstep hworker⟩

lemma reachable_confirmedAgain : TaskReachable 1 confirmedAgain := by
  have hclaim : OutboxStep 1 admitted.outbox claimed.outbox :=
    .claim _ 0 OutboxSample.input bounds (OutboxSample.env 5 "token") _ rfl rfl rfl (.refl _)
      ⟨by decide +kernel, by decide +kernel⟩
  have hclose : OutboxStep 1 claimed.outbox called.outbox :=
    .close _ 0 OutboxSample.input bounds entry [] (.ok ()) (by decide +kernel)
  have hfinalize : OutboxStep 1 called.outbox finalized.outbox :=
    .finalize _ 0 OutboxSample.input bounds entry [] (.ok ()) 6 (by decide +kernel)
  have hclaimed : TaskReachable 1 claimed :=
    reachable_outbox reachable_admitted hclaim (by decide +kernel)
  have hcalled : TaskReachable 1 called := reachable_outbox hclaimed hclose rfl
  have hfinalized : TaskReachable 1 finalized :=
    reachable_outbox hcalled hfinalize (by decide +kernel)
  exact reachable_after (reachable_after hfinalized _) _

end CloseSample

open CloseSample

/-- The first Done of the sample card leaves its row behind. -/
theorem close_intent_confirmed :
    ∃ row ∈ (doneFrom TaskSample.confirmed TaskSample.doneInput 4).2.outbox,
      row.taskId = "task" ∧ row.issueNumber = 7 := by
  have hreach : TaskReachable 1 TaskSample.confirmed :=
    TaskSample.reachable_after (TaskSample.reachable_after (TaskSample.reachable_after .refl _) _) _
  obtain ⟨-, hdone⟩ := close_intent Nat.one_pos hreach TaskSample.doneInput
    (TaskSample.env 4 "unused") (TaskSample.closeEnv 4)
  have hok : (doneFrom TaskSample.confirmed TaskSample.doneInput 4).1.isOk = true := by
    decide +kernel
  have hlinked : ∀ card ∈ TaskSample.confirmed.db.tasks, issueRefFromTask card =
      some ⟨"owner/name", 7, "https://github.com/owner/name/issues/7"⟩ := by
    decide +kernel
  cases hrun : doneFrom TaskSample.confirmed TaskSample.doneInput 4 with
  | mk result tables =>
      rw [hrun] at hok
      cases result with
      | error error => cases hok
      | ok result =>
          obtain ⟨card, hcard, -, -, hrow⟩ := hdone result.1 result.2 tables hrun
          obtain ⟨row, hmem, -, -, htask, -, hnumber, -⟩ := hrow _ (hlinked card hcard)
          exact ⟨row, hmem, htask, hnumber⟩

/-- The row of a close that is done is not opened again: after Done, closed, reopened and
Done again the outbox has no live row. -/
theorem not_close_intent_live :
    ¬∀ m s input env close, 0 < m → TaskReachable m s → ∀ card ∈ s.db.tasks,
      card.id = input.taskId → card.status ≠ .done → ∀ ref, issueRefFromTask card = some ref →
      ∀ result tables, markTaskDoneAndEnqueueIssueClose input env close s.tables =
        (.ok result, tables) →
      ∃ row ∈ tables.outbox, row.taskId = input.taskId ∧ row.state.live = true := by
  intro h
  have hok : (doneFrom confirmedAgain doneAgainInput 9).1.isOk = true := by decide
  have hdead : ∀ row ∈ (doneFrom confirmedAgain doneAgainInput 9).2.outbox,
      row.state.live = false := by
    decide
  have hcard : ∃ card ∈ confirmedAgain.db.tasks, card.id = doneAgainInput.taskId ∧
      card.status ≠ .done ∧ issueRefFromTask card =
        some ⟨"owner/name", 7, "https://github.com/owner/name/issues/7"⟩ := by
    decide
  obtain ⟨card, hmem, hid, hstatus, href⟩ := hcard
  cases hrun : doneFrom confirmedAgain doneAgainInput 9 with
  | mk result tables =>
      rw [hrun] at hok hdead
      cases result with
      | error error => cases hok
      | ok result =>
          obtain ⟨row, hrow, -, hlive⟩ := h 1 confirmedAgain doneAgainInput
            (TaskSample.env 9 "unused") (TaskSample.closeEnv 9) Nat.one_pos
            reachable_confirmedAgain card hmem hid hstatus _ href result tables hrun
          rw [hdead row hrow] at hlive
          cases hlive

end Opzava.ProjectManagement
