import Opzava.ProjectManagement.TaskDoneClose

/-!
The admission of Done.

* `TaskWrite`: the writes of the commands on the task tables, apart from the admission.
* `Admits`: the admission of Done, which uses up one confirmation.
* `run_effect`: every command is a sequence of writes, or an admission.
* `TaskOk`: the invariant; `done_admission`: Done is only ever admitted.
-/

namespace Opzava.ProjectManagement

open Opzava.Library
open DevBoard (DomainError)

/-! ### Commands -/

section Commands

variable {σ α β : Type}

/-- A command leaves the tables alone and returns an error, or its checks have passed and
its transaction has committed. -/
lemma command_cases (checks : Except DomainError β)
    (body : β → σ → Except DomainError (Except DomainError α × σ)) (tables : σ) :
    (∃ error, afterChecks checks (fun checked => withTenant (body checked)) tables =
      (.error error, tables)) ∨
    ∃ checked outcome, checks = .ok checked ∧ body checked tables = .ok outcome ∧
      afterChecks checks (fun checked => withTenant (body checked)) tables = outcome := by
  cases checks with
  | error error => exact .inl ⟨error, rfl⟩
  | ok checked =>
      rw [afterChecks, withTenant]
      cases hbody : body checked tables with
      | error thrown => exact .inl ⟨thrown, rfl⟩
      | ok outcome => exact .inr ⟨checked, outcome, rfl, hbody, rfl⟩

end Commands

lemma checkCreateTask_status {input : CreateTaskInput} {env : TaskEnv}
    {checked : TaskStatus × PreparedTaskFields × Option String}
    (h : checkCreateTask input env = .ok checked) : checked.1 ≠ .done := by
  rw [checkCreateTask] at h
  obtain ⟨-, -, h⟩ := bind_eq_ok h
  obtain ⟨status, -, h⟩ := bind_eq_ok h
  dsimp only at h
  split_ifs at h with hterminal
  · cases h
  · obtain ⟨fields, -, h⟩ := bind_eq_ok h
    obtain ⟨key, -, h⟩ := bind_eq_ok h
    obtain ⟨-, -, h⟩ := bind_eq_ok h
    cases h
    exact fun hdone => hterminal (decide_eq_true hdone)

lemma checkMoveTask_status {input : MoveTaskInput} {env : TaskEnv} {checked : TaskStatus × ℕ}
    (h : checkMoveTask input env = .ok checked) : checked.1 ≠ .done := by
  rw [checkMoveTask] at h
  obtain ⟨-, -, h⟩ := bind_eq_ok h
  obtain ⟨-, -, h⟩ := bind_eq_ok h
  obtain ⟨status, -, h⟩ := bind_eq_ok h
  dsimp only at h
  by_cases hterminal : isTerminalTaskStatus status = true
  · rw [if_pos hterminal] at h
    cases h
  · rw [if_neg hterminal] at h
    split at h
    · cases h
    · obtain ⟨-, -, h⟩ := bind_eq_ok h
      cases h
      exact fun hdone => hterminal (decide_eq_true hdone)

/-! ### Writes -/

/-- The row a task is, whatever its card says. -/
def SameTask (row row' : TaskRow) : Prop :=
  row'.id = row.id ∧ row'.organizationId = row.organizationId ∧
    row'.workspaceId = row.workspaceId

/-- A write of a command, other than the admission of Done. -/
inductive TaskWrite (db : TaskDb) : TaskDb → Prop
  | insertTask (task : TaskRow) (notDone : task.status ≠ .done)
      (new : ∀ row ∈ db.tasks, row.id ≠ task.id) :
      TaskWrite db { db with tasks := db.tasks ++ [task] }
  | changeTask (cond : TaskRow → Bool) (set : TaskRow → TaskRow)
      (same : ∀ row, SameTask row (set row))
      (notDone : ∀ row, (set row).status = .done → row.status = .done) :
      TaskWrite db { db with tasks := updateWhere cond set db.tasks }
  | insertReview (review : ReviewRow) (notApproved : review.status ≠ .approved)
      (newTask : ∀ row ∈ db.reviews, row.taskId ≠ review.taskId)
      (new : ∀ row ∈ db.reviews, row.id ≠ review.id) :
      TaskWrite db { db with reviews := db.reviews ++ [review] }
  | insertCheck (check : CheckRow) (review : ReviewRow) (stored : review ∈ db.reviews)
      (notApproved : review.status ≠ .approved) (reviewId : check.reviewId = review.id)
      (organizationId : check.organizationId = review.organizationId)
      (new : ∀ row ∈ db.checks, row.id ≠ check.id) :
      TaskWrite db { db with checks := db.checks ++ [check] }
  | toggleCheck (check : CheckRow) (review : ReviewRow) (cond : CheckRow → Bool)
      (state : CheckState) (now : Timestamp) (stored : check ∈ db.checks)
      (storedReview : review ∈ db.reviews) (notApproved : review.status ≠ .approved)
      (reviewId : check.reviewId = review.id) (only : ∀ row, cond row = true → row.id = check.id) :
      TaskWrite db { db with checks := updateWhere cond (CheckRow.toggled state now) db.checks }
  | reopenReviews (cond : ReviewRow → Bool) (failing : Bool) (now : Timestamp)
      (notApproved : ∀ row, cond row = true → row.status ≠ .approved) :
      TaskWrite db { db with reviews := updateWhere cond (ReviewRow.reopened failing now) db.reviews }
  | approveReview (cond : ReviewRow → Bool) (userId : String) (now : Timestamp)
      (notApproved : ∀ row, cond row = true → row.status ≠ .approved)
      (pass : ∀ row ∈ db.reviews, cond row = true → ∀ check ∈ db.checks,
        check.reviewId = row.id → check.state = .pass) :
      TaskWrite db { db with reviews := updateWhere cond (ReviewRow.approve userId now) db.reviews }
  | reviewers (rows : List ReviewerRow) : TaskWrite db { db with reviewers := rows }
  | insertConfirmation (confirmation : ConfirmationRow) (unused : confirmation.consumedAt = none)
      (new : ∀ row ∈ db.confirmations, row.id ≠ confirmation.id) :
      TaskWrite db { db with confirmations := db.confirmations ++ [confirmation] }

/-- The admission of Done: under the approved review of the task in its workspace, the
one usable confirmation is used up and the card is moved to Done. -/
structure Admits (input : MarkTaskDoneInput) (env : TaskEnv) (db db' : TaskDb)
    (review : ReviewRow) (confirmation : ConfirmationRow) : Prop where
  stored : review ∈ db.reviews
  task : review.taskId = input.taskId
  workspace : review.workspaceId = input.workspaceId
  organization : review.organizationId = input.orgId
  approved : review.status = .approved
  issued : confirmation ∈ db.confirmations
  unspent : usable input env.now confirmation = true
  card : db.tasks.any (isTask input.toTaskContext input.taskId) = true
  result : db' =
    { db with
      tasks := updateWhere (isTask input.toTaskContext input.taskId)
        (TaskRow.moved .done input.position.toNat env.now) db.tasks
      confirmations := updateWhere (usable input env.now)
        (ConfirmationRow.consumed input.userId review.id env.now) db.confirmations }

/-! ### The invariant -/

/-- What every command keeps: unique keys, checks under a review of their organization,
approved reviews whose checks all pass, and Done cards under an approved review. -/
structure TaskOk (db : TaskDb) : Prop where
  taskIds : (db.tasks.map (·.id)).Nodup
  reviewIds : (db.reviews.map (·.id)).Nodup
  reviewTasks : (db.reviews.map (·.taskId)).Nodup
  checkIds : (db.checks.map (·.id)).Nodup
  confirmationIds : (db.confirmations.map (·.id)).Nodup
  checkReviews : ∀ check ∈ db.checks, ∃ review ∈ db.reviews, review.id = check.reviewId ∧
    review.organizationId = check.organizationId
  approved : ∀ review ∈ db.reviews, review.status = .approved → ∀ check ∈ db.checks,
    check.reviewId = review.id → check.state = .pass
  done : ∀ task ∈ db.tasks, task.status = .done → ∃ review ∈ db.reviews,
    review.taskId = task.id ∧ review.organizationId = task.organizationId ∧
      review.workspaceId = task.workspaceId ∧ review.status = .approved

lemma TaskOk.empty : TaskOk TaskDb.empty := by
  constructor <;> simp [TaskDb.empty]

/-- An approved review and its checks stay as they are. -/
def KeepsApproved (db db' : TaskDb) : Prop :=
  ∀ review ∈ db.reviews, review.status = .approved → review ∈ db'.reviews ∧
    db'.checks.filter (fun check => check.reviewId = review.id) =
      db.checks.filter fun check => check.reviewId = review.id

lemma KeepsApproved.refl (db : TaskDb) : KeepsApproved db db :=
  fun _ hreview _ => ⟨hreview, rfl⟩

lemma KeepsApproved.trans {db₁ db₂ db₃ : TaskDb} (h : KeepsApproved db₁ db₂)
    (h' : KeepsApproved db₂ db₃) : KeepsApproved db₁ db₃ := by
  intro review hreview hstatus
  obtain ⟨hmem, hchecks⟩ := h review hreview hstatus
  obtain ⟨hmem', hchecks'⟩ := h' review hmem hstatus
  exact ⟨hmem', hchecks'.trans hchecks⟩

lemma TaskWrite.keepsApproved {db db' : TaskDb} (hdb : TaskOk db) (h : TaskWrite db db') :
    KeepsApproved db db' := by
  intro review hreview hstatus
  cases h with
  | insertReview _ _ _ _ => exact ⟨List.mem_append_left _ hreview, rfl⟩
  | insertCheck check review' stored notApproved reviewId _ _ =>
      refine ⟨hreview, ?_⟩
      have hother : check.reviewId ≠ review.id := fun hsame => by
        have heq := eq_of_unique hdb.reviewIds stored hreview (reviewId.symm.trans hsame)
        exact notApproved (heq ▸ hstatus)
      rw [List.filter_append, List.filter_cons_of_neg (by simpa using hother), List.filter_nil,
        List.append_nil]
  | toggleCheck check review' cond state now stored storedReview notApproved reviewId only =>
      refine ⟨hreview, filter_updateWhere fun row hrow hcond => ?_⟩
      have heq : row = check := eq_of_unique hdb.checkIds hrow stored (only row hcond)
      have hother : row.reviewId ≠ review.id := fun hsame => by
        rw [heq, reviewId] at hsame
        have heq' := eq_of_unique hdb.reviewIds storedReview hreview hsame
        exact notApproved (heq' ▸ hstatus)
      exact ⟨decide_eq_false hother, decide_eq_false hother⟩
  | reopenReviews cond failing now notApproved =>
      refine ⟨mem_updateWhere.mpr (.inl ⟨hreview, ?_⟩), rfl⟩
      exact Bool.eq_false_iff.mpr fun hcond => notApproved review hcond hstatus
  | approveReview cond userId now notApproved pass =>
      refine ⟨mem_updateWhere.mpr (.inl ⟨hreview, ?_⟩), rfl⟩
      exact Bool.eq_false_iff.mpr fun hcond => notApproved review hcond hstatus
  | _ => exact ⟨hreview, rfl⟩

/-- Reviews that are not approved may change their status, to approved only if all their
checks pass. -/
lemma TaskOk.updateReviews {db : TaskDb} (hdb : TaskOk db) (cond : ReviewRow → Bool)
    (set : ReviewRow → ReviewRow)
    (hset : ∀ row, (set row).id = row.id ∧ (set row).taskId = row.taskId ∧
      (set row).organizationId = row.organizationId)
    (hnot : ∀ row, cond row = true → row.status ≠ .approved)
    (hpass : ∀ row ∈ db.reviews, cond row = true → (set row).status = .approved →
      ∀ check ∈ db.checks, check.reviewId = row.id → check.state = .pass) :
    TaskOk { db with reviews := updateWhere cond set db.reviews } :=
  { hdb with
    reviewIds := by
      rw [map_updateWhere (fun row => row.id) fun row => (hset row).1]
      exact hdb.reviewIds
    reviewTasks := by
      rw [map_updateWhere (fun row => row.taskId) fun row => (hset row).2.1]
      exact hdb.reviewTasks
    checkReviews := by
      intro check hcheck
      obtain ⟨review, hreview, hid, horg⟩ := hdb.checkReviews check hcheck
      by_cases hcond : cond review = true
      · refine ⟨set review, mem_updateWhere.mpr (.inr ⟨review, hreview, hcond, rfl⟩), ?_⟩
        exact ⟨(hset review).1.trans hid, (hset review).2.2.trans horg⟩
      · rw [Bool.not_eq_true] at hcond
        exact ⟨review, mem_updateWhere.mpr (.inl ⟨hreview, hcond⟩), hid, horg⟩
    approved := by
      intro review' hreview' hstatus check hcheck hid
      rcases mem_updateWhere.mp hreview' with ⟨hold, -⟩ | ⟨review, hreview, hcond, rfl⟩
      · exact hdb.approved review' hold hstatus check hcheck hid
      · exact hpass review hreview hcond hstatus check hcheck (hid.trans (hset review).1)
    done := by
      intro task htask hdone
      obtain ⟨review, hreview, htaskId, horg, hws, hstatus⟩ := hdb.done task htask hdone
      have hcond : cond review = false := Bool.eq_false_iff.mpr fun h => hnot review h hstatus
      exact ⟨review, mem_updateWhere.mpr (.inl ⟨hreview, hcond⟩), htaskId, horg, hws, hstatus⟩ }

/-- **A write** keeps the invariant. -/
lemma TaskWrite.ok {db db' : TaskDb} (hdb : TaskOk db) (h : TaskWrite db db') : TaskOk db' := by
  cases h with
  | insertTask task notDone new =>
      refine { hdb with taskIds := nodup_map_append hdb.taskIds new, done := ?_ }
      intro task' htask' hdone
      rcases List.mem_append.mp htask' with hold | hsingle
      · exact hdb.done task' hold hdone
      · rw [List.mem_singleton.mp hsingle] at hdone
        exact absurd hdone notDone
  | changeTask cond set same notDone =>
      refine { hdb with taskIds := ?_, done := ?_ }
      · rw [map_updateWhere (fun row => row.id) fun row => (same row).1]
        exact hdb.taskIds
      · intro task' htask' hdone
        rcases mem_updateWhere.mp htask' with ⟨hold, -⟩ | ⟨task, htask, -, rfl⟩
        · exact hdb.done task' hold hdone
        · obtain ⟨hid, horg, hws⟩ := same task
          rw [hid, horg, hws]
          exact hdb.done task htask (notDone task hdone)
  | insertReview review notApproved newTask new =>
      refine
        { hdb with
          reviewIds := nodup_map_append hdb.reviewIds new
          reviewTasks := nodup_map_append hdb.reviewTasks newTask
          checkReviews := ?_
          approved := ?_
          done := ?_ }
      · intro check hcheck
        obtain ⟨review', hreview', hrest⟩ := hdb.checkReviews check hcheck
        exact ⟨review', List.mem_append_left _ hreview', hrest⟩
      · intro review' hreview' hstatus
        rcases List.mem_append.mp hreview' with hold | hsingle
        · exact hdb.approved review' hold hstatus
        · rw [List.mem_singleton.mp hsingle] at hstatus
          exact absurd hstatus notApproved
      · intro task htask hdone
        obtain ⟨review', hreview', hrest⟩ := hdb.done task htask hdone
        exact ⟨review', List.mem_append_left _ hreview', hrest⟩
  | insertCheck check review stored notApproved reviewId organizationId new =>
      refine
        { hdb with
          checkIds := nodup_map_append hdb.checkIds new
          checkReviews := ?_
          approved := ?_ }
      · intro check' hcheck'
        rcases List.mem_append.mp hcheck' with hold | hsingle
        · exact hdb.checkReviews check' hold
        · rw [List.mem_singleton.mp hsingle]
          exact ⟨review, stored, reviewId.symm, organizationId.symm⟩
      · intro review' hreview' hstatus check' hcheck' hid
        rcases List.mem_append.mp hcheck' with hold | hsingle
        · exact hdb.approved review' hreview' hstatus check' hold hid
        · rw [List.mem_singleton.mp hsingle, reviewId] at hid
          have heq := eq_of_unique hdb.reviewIds stored hreview' hid
          exact absurd (heq ▸ hstatus) notApproved
  | toggleCheck check review cond state now stored storedReview notApproved reviewId only =>
      refine { hdb with checkIds := ?_, checkReviews := ?_, approved := ?_ }
      · have hids : (updateWhere cond (CheckRow.toggled state now) db.checks).map (·.id) =
            db.checks.map (·.id) := map_updateWhere _ fun _ => rfl
        exact hids ▸ hdb.checkIds
      · intro check' hcheck'
        rcases mem_updateWhere.mp hcheck' with ⟨hold, -⟩ | ⟨old, hold, -, rfl⟩
        · exact hdb.checkReviews check' hold
        · exact hdb.checkReviews old hold
      · intro review' hreview' hstatus check' hcheck' hid
        rcases mem_updateWhere.mp hcheck' with ⟨hold, -⟩ | ⟨old, hold, hcond, rfl⟩
        · exact hdb.approved review' hreview' hstatus check' hold hid
        · have hsame : old = check := eq_of_unique hdb.checkIds hold stored (only old hcond)
          have hreviewId : review.id = review'.id := by
            rw [← reviewId, ← hsame]
            exact hid
          have heq := eq_of_unique hdb.reviewIds storedReview hreview' hreviewId
          exact absurd (heq ▸ hstatus) notApproved
  | reopenReviews cond failing now notApproved =>
      refine hdb.updateReviews cond _ (fun _ => ⟨rfl, rfl, rfl⟩) notApproved ?_
      intro row _ _ hstatus
      cases failing <;> cases hstatus
  | approveReview cond userId now notApproved pass =>
      refine hdb.updateReviews cond _ (fun _ => ⟨rfl, rfl, rfl⟩) notApproved ?_
      exact fun row hrow hcond _ => pass row hrow hcond
  | reviewers rows => exact { hdb with }
  | insertConfirmation confirmation unused new =>
      exact { hdb with confirmationIds := nodup_map_append hdb.confirmationIds new }

/-- A Done card was Done before the write. -/
lemma TaskWrite.done_before {db db' : TaskDb} (h : TaskWrite db db') {task' : TaskRow}
    (htask' : task' ∈ db'.tasks) (hdone : task'.status = .done) :
    ∃ task ∈ db.tasks, task.id = task'.id ∧ task.status = .done := by
  cases h with
  | insertTask task notDone new =>
      rcases List.mem_append.mp htask' with hold | hsingle
      · exact ⟨task', hold, rfl, hdone⟩
      · rw [List.mem_singleton.mp hsingle] at hdone
        exact absurd hdone notDone
  | changeTask cond set same notDone =>
      rcases mem_updateWhere.mp htask' with ⟨hold, -⟩ | ⟨task, htask, -, rfl⟩
      · exact ⟨task', hold, rfl, hdone⟩
      · exact ⟨task, htask, (same task).1.symm, notDone task hdone⟩
  | _ => exact ⟨task', htask', rfl, hdone⟩

/-- A write keeps the confirmations. -/
lemma TaskWrite.confirmations_subset {db db' : TaskDb} (h : TaskWrite db db') :
    db.confirmations ⊆ db'.confirmations := by
  cases h with
  | insertConfirmation => exact List.subset_append_left _ _
  | _ => exact List.Subset.refl _

/-- A confirmation that a write has added is unused, under an id of its own. -/
lemma TaskWrite.confirmations {db db' : TaskDb} (h : TaskWrite db db') {row : ConfirmationRow}
    (hrow : row ∈ db'.confirmations) : row ∈ db.confirmations ∨
      row.consumedAt = none ∧ ∀ old ∈ db.confirmations, old.id ≠ row.id := by
  cases h with
  | insertConfirmation confirmation unused new =>
      rcases List.mem_append.mp hrow with hold | hsingle
      · exact .inl hold
      · rw [List.mem_singleton.mp hsingle]
        exact .inr ⟨unused, new⟩
  | _ => exact .inl hrow

/-- What a command keeps that admits nothing. -/
structure WriteEffect (db db' : TaskDb) : Prop where
  ok : TaskOk db'
  keepsApproved : KeepsApproved db db'
  doneBefore : ∀ task' ∈ db'.tasks, task'.status = .done →
    ∃ task ∈ db.tasks, task.id = task'.id ∧ task.status = .done
  confirmations : ∀ row ∈ db'.confirmations, row ∈ db.confirmations ∨
    row.consumedAt = none ∧ ∀ old ∈ db.confirmations, old.id ≠ row.id

lemma WriteEffect.refl {db : TaskDb} (hdb : TaskOk db) : WriteEffect db db :=
  ⟨hdb, .refl db, fun task htask hdone => ⟨task, htask, rfl, hdone⟩, fun _ hrow => .inl hrow⟩

lemma writes_confirmations_subset {db db' : TaskDb} (h : Relation.ReflTransGen TaskWrite db db') :
    db.confirmations ⊆ db'.confirmations := by
  induction h with
  | refl => exact List.Subset.refl _
  | tail _ hwrite ih => exact List.Subset.trans ih hwrite.confirmations_subset

lemma writes_effect {db db' : TaskDb} (hdb : TaskOk db)
    (h : Relation.ReflTransGen TaskWrite db db') : WriteEffect db db' := by
  induction h with
  | refl => exact .refl hdb
  | tail hwrites hwrite ih =>
      refine ⟨hwrite.ok ih.ok, ih.keepsApproved.trans (hwrite.keepsApproved ih.ok), ?_, ?_⟩
      · intro task'' htask'' hdone
        obtain ⟨task', htask', hid', hdone'⟩ := hwrite.done_before htask'' hdone
        obtain ⟨task, htask, hid, hdoneBefore⟩ := ih.doneBefore task' htask' hdone'
        exact ⟨task, htask, hid.trans hid', hdoneBefore⟩
      · intro row hrow
        rcases hwrite.confirmations hrow with hmid | ⟨hunused, hnew⟩
        · exact ih.confirmations row hmid
        · exact .inr ⟨hunused, fun old hold => hnew old (writes_confirmations_subset hwrites hold)⟩

/-- Confirmations may be deleted. -/
lemma deleteConfirmations_effect {db : TaskDb} (hdb : TaskOk db) (keep : ConfirmationRow → Bool) :
    WriteEffect db { db with confirmations := db.confirmations.filter keep } := by
  have hsublist := (List.filter_sublist (p := keep) (l := db.confirmations)).map (·.id)
  refine { WriteEffect.refl hdb with ok := ?_, confirmations := ?_ }
  · exact { hdb with confirmationIds := hdb.confirmationIds.sublist hsublist }
  · exact fun row hrow => .inl (List.mem_filter.mp hrow).1

/-! ### The commands as writes -/

section Writes

variable {context : TaskContext} {taskId : String} {env : TaskEnv} {db db' : TaskDb}

lemma createTaskOnce_writes {status : TaskStatus} {fields : PreparedTaskFields}
    {key : Option String} {outcome : Except DomainError TaskRow × TaskDb} (hstatus : status ≠ .done)
    (h : createTaskOnce context env status fields key db = .ok outcome) :
    Relation.ReflTransGen TaskWrite db outcome.2 := by
  rw [createTaskOnce] at h
  split at h
  · cases h
    exact .refl
  · dsimp only at h
    split_ifs at h with hany
    cases h
    refine .single (.insertTask _ hstatus fun row hrow hid => hany ?_)
    exact List.any_eq_true.mpr ⟨row, hrow, decide_eq_true (.inl hid)⟩

lemma changeTask_writes {set : TaskRow → TaskRow}
    {outcome : Except DomainError TaskRow × TaskDb}
    (h : changeTask context taskId set db = .ok outcome) (hsame : ∀ row, SameTask row (set row))
    (hstatus : ∀ row, (set row).status = .done → row.status = .done) :
    Relation.ReflTransGen TaskWrite db outcome.2 := by
  rw [changeTask, updateTaskRow] at h
  split at h
  · cases h
    exact .refl
  · rename_i row db' hupdate
    split at hupdate
    · cases hupdate
    · cases hupdate
      cases h
      exact .single (.changeTask _ _ hsame hstatus)

lemma loadQualityReview_db {orgId : String} {outcome : Except DomainError QualityReview × TaskDb}
    (h : loadQualityReview orgId taskId db = .ok outcome) : outcome.2 = db := by
  rw [loadQualityReview] at h
  split at h <;> cases h <;> rfl

/-- The review `ensureQualityReview` returns is the one of the task. -/
lemma ensureQualityReview_spec {review : ReviewRow}
    (h : ensureQualityReview context taskId env db = .ok (review, db')) :
    review ∈ db'.reviews ∧ review.organizationId = context.orgId ∧ review.taskId = taskId ∧
      Relation.ReflTransGen TaskWrite db db' := by
  rw [ensureQualityReview] at h
  split at h
  · rename_i existing hfind
    cases h
    have hfound := List.find?_some hfind
    obtain ⟨htask, -, horg⟩ := of_decide_eq_true hfound
    exact ⟨List.mem_of_find?_eq_some hfind, horg, htask, .refl⟩
  · split at h
    · rename_i other hfind
      split_ifs at h with horg
      cases h
      have hfound := List.find?_some hfind
      exact ⟨List.mem_of_find?_eq_some hfind, horg, of_decide_eq_true hfound, .refl⟩
    · rename_i hfind
      split_ifs at h with hid
      cases h
      refine ⟨List.mem_append_right _ List.mem_cons_self, rfl, rfl, .single (.insertReview _ ?_ ?_ ?_)⟩
      · exact fun hstatus => by cases hstatus
      · exact fun row hrow htask => List.find?_eq_none.mp hfind row hrow (decide_eq_true htask)
      · exact fun row hrow hsame => hid (List.mem_map.mpr ⟨row, hrow, hsame⟩)

lemma addQualityCheckTx_writes {check : PreparedCheck}
    {outcome : Except DomainError QualityReview × TaskDb}
    (h : addQualityCheckTx context taskId env check db = .ok outcome) :
    Relation.ReflTransGen TaskWrite db outcome.2 := by
  rw [addQualityCheckTx] at h
  split_ifs at h with htask
  · split at h
    · cases h
    · rename_i review db₁ hensure
      obtain ⟨hreview, horg, -, hwrites⟩ := ensureQualityReview_spec hensure
      split_ifs at h with hreplay happroved hid
      · rw [loadQualityReview_db h]
        exact hwrites
      · cases h
        exact hwrites
      · rw [loadQualityReview_db h]
        refine hwrites.tail (.insertCheck _ review hreview happroved rfl horg.symm ?_)
        exact fun row hrow hsame => hid (List.mem_map.mpr ⟨row, hrow, hsame⟩)
  · cases h
    exact .refl

lemma findCheck_spec {checkId : String} {check : CheckRow} {review : ReviewRow}
    (h : findCheck context taskId checkId db = some (check, review)) :
    check ∈ db.checks ∧ isCheck context taskId checkId check = true ∧ review ∈ db.reviews ∧
      check.reviewId = review.id := by
  obtain ⟨check', hmem, hfound⟩ := List.exists_of_findSome?_eq_some h
  obtain ⟨review', hfind, heq⟩ := Option.map_eq_some_iff.mp hfound
  cases heq
  obtain ⟨hcheck, hcond⟩ := List.mem_filter.mp hmem
  have hkey := List.find?_some hfind
  obtain ⟨hid, -⟩ := of_decide_eq_true hkey
  exact ⟨hcheck, hcond, List.mem_of_find?_eq_some hfind, hid.symm⟩

lemma toggleQualityCheckTx_writes {checkId : String} {state : CheckState}
    {outcome : Except DomainError QualityReview × TaskDb}
    (h : toggleQualityCheckTx context taskId checkId state env db = .ok outcome) :
    Relation.ReflTransGen TaskWrite db outcome.2 := by
  rw [toggleQualityCheckTx] at h
  split at h
  · cases h
    exact .refl
  · rename_i check review hfind
    obtain ⟨hcheck, hcond, hreview, hid⟩ := findCheck_spec hfind
    split_ifs at h with happroved
    · cases h
      exact .refl
    · rw [loadQualityReview_db h]
      have hcheckId : check.id = checkId := (of_decide_eq_true hcond).1
      have htoggle := TaskWrite.toggleCheck check review (isCheck context taskId checkId) state
        env.now hcheck hreview happroved hid fun row hrow =>
          (of_decide_eq_true hrow).1.trans hcheckId.symm
      refine (Relation.ReflTransGen.single htoggle).tail (.reopenReviews _ _ env.now ?_)
      exact fun row hrow => (of_decide_eq_true hrow).2.1

lemma selectQualityReview_spec {orgId : String} {loaded : QualityReview}
    (h : selectQualityReview orgId taskId db = some loaded) :
    loaded.review ∈ db.reviews ∧ loaded.review.taskId = taskId ∧
      loaded.review.organizationId = orgId ∧
      ∀ check ∈ db.checks, check.reviewId = loaded.review.id → check.organizationId = orgId →
        check ∈ loaded.checks := by
  rw [selectQualityReview] at h
  split at h
  · cases h
  · rename_i review hfind
    cases h
    have hfound := List.find?_some hfind
    obtain ⟨htask, horg⟩ := of_decide_eq_true hfound
    refine ⟨List.mem_of_find?_eq_some hfind, htask, horg, fun check hcheck hid horg' => ?_⟩
    refine (List.mem_insertionSort _).mpr (List.mem_filter.mpr ⟨hcheck, ?_⟩)
    exact decide_eq_true ⟨hid, horg'⟩

/-- The checks `approveQualityReview` reads are all the checks of the review. -/
lemma TaskOk.pass_of_loaded (hdb : TaskOk db) {orgId : String} {loaded : QualityReview}
    (h : selectQualityReview orgId taskId db = some loaded)
    (hpass : ¬(loaded.checks.any fun check => check.state ≠ .pass) = true) {check : CheckRow}
    (hcheck : check ∈ db.checks) (hid : check.reviewId = loaded.review.id) :
    check.state = .pass := by
  obtain ⟨hreview, -, horg, hloaded⟩ := selectQualityReview_spec h
  obtain ⟨review, hmem, hreviewId, hreviewOrg⟩ := hdb.checkReviews check hcheck
  obtain rfl := eq_of_unique hdb.reviewIds hmem hreview (hreviewId.trans hid)
  have hmemLoaded := hloaded check hcheck hid (hreviewOrg.symm.trans horg)
  by_contra hstate
  exact hpass (List.any_eq_true.mpr ⟨check, hmemLoaded, decide_eq_true hstate⟩)

lemma approveQualityReviewTx_writes (hdb : TaskOk db) {expected : Option String}
    {outcome : Except DomainError QualityReview × TaskDb}
    (h : approveQualityReviewTx context taskId expected env db = .ok outcome) :
    Relation.ReflTransGen TaskWrite db outcome.2 := by
  rw [approveQualityReviewTx] at h
  by_cases htask : db.tasks.any (isTask context taskId) = true
  · rw [if_pos htask] at h
    split at h
    · cases h
    rename_i review db₁ hensure
    obtain ⟨hreview, horg, hreviewTask, hwrites⟩ := ensureQualityReview_spec hensure
    have hdb₁ := (writes_effect hdb hwrites).ok
    by_cases hexpected : expected ≠ none ∧ expected ≠ some review.id
    · rw [if_pos hexpected] at h
      cases h
      exact hwrites
    rw [if_neg hexpected] at h
    split at h
    · cases h
      exact hwrites
    rename_i loaded hload
    obtain ⟨hloadedMem, hloadedTask, -, -⟩ := selectQualityReview_spec hload
    have hsame : loaded.review = review :=
      eq_of_unique hdb₁.reviewTasks hloadedMem hreview (hloadedTask.trans hreviewTask.symm)
    split_ifs at h with hremaining
    · cases h
      exact hwrites
    · rw [loadQualityReview_db h]
      refine (hwrites.tail (.approveReview (approvable context taskId review.id) context.userId
        env.now ?_ ?_)).tail (.reviewers _)
      · exact fun row hrow => (of_decide_eq_true hrow).2.2.2.1
      · intro row _ hrow check hcheck hid
        have hrowId : row.id = review.id := (of_decide_eq_true hrow).1
        refine hdb₁.pass_of_loaded hload hremaining hcheck ?_
        rw [hid, hrowId, hsame]
    · rw [loadQualityReview_db h]
      exact hwrites
    · rw [loadQualityReview_db h]
      exact hwrites.tail (.reviewers _)
  · rw [if_neg htask] at h
    cases h
    exact .refl

lemma issueDoneConfirmationTx_writes {outcome : Except DomainError String × TaskDb}
    (h : issueDoneConfirmationTx context taskId env db = .ok outcome) :
    Relation.ReflTransGen TaskWrite db outcome.2 := by
  rw [issueDoneConfirmationTx] at h
  split_ifs at h with htask hid
  · cases h
    refine .single (.insertConfirmation _ rfl fun row hrow hsame => ?_)
    exact hid (List.mem_map.mpr ⟨row, hrow, hsame⟩)
  · cases h
    exact .refl

/-- `markTaskDoneInTransaction` leaves the tables alone and returns an error, or admits
Done and returns the card. -/
lemma markTaskDoneInTransaction_cases {input : MarkTaskDoneInput}
    {outcome : Except DomainError TaskRow × TaskDb}
    (h : markTaskDoneInTransaction input env db = .ok outcome) :
    (∃ error, outcome = (.error error, db)) ∨
    ∃ review confirmation task, Admits input env db outcome.2 review confirmation ∧
      outcome.1 = .ok task ∧ ∃ old ∈ db.tasks, isTask input.toTaskContext input.taskId old = true ∧
        task = old.moved .done input.position.toNat env.now := by
  rw [markTaskDoneInTransaction] at h
  split at h
  · cases h
    exact .inl ⟨_, rfl⟩
  rename_i loaded hload
  obtain ⟨hreview, htask, horg, -⟩ := selectQualityReview_spec hload
  split_ifs at h with hws hstatus hany
  · cases h
    exact .inl ⟨_, rfl⟩
  · cases h
    exact .inl ⟨_, rfl⟩
  · split at h
    · cases h
    · rename_i row db' hupdate
      cases h
      rw [updateTaskRow] at hupdate
      split at hupdate
      · cases hupdate
      · rename_i row' rest hreturning
        cases hupdate
        obtain ⟨confirmation, hissued, husable⟩ := List.any_eq_true.mp hany
        obtain ⟨old, hold, hcond, rfl⟩ := mem_returning.mp (hreturning ▸ List.mem_cons_self)
        refine .inr ⟨loaded.review, confirmation, _, ?_, rfl, old, hold, hcond, rfl⟩
        exact
          { stored := hreview
            task := htask
            workspace := not_not.mp hws
            organization := horg
            approved := not_not.mp hstatus
            issued := hissued
            unspent := husable
            card := List.any_eq_true.mpr ⟨old, hold, hcond⟩
            result := rfl }
  · cases h
    exact .inl ⟨_, rfl⟩

/-- The composed transaction leaves everything alone and returns an error, or admits Done
and enqueues the close for the card it returns. -/
lemma markTaskDoneAndEnqueueIssueCloseTx_cases {input : MarkTaskDoneInput} {close : CloseEnv}
    {tables : DoneTables}
    {outcome : Except DomainError (TaskRow × LinkedIssueCloseIntent) × DoneTables}
    (h : markTaskDoneAndEnqueueIssueCloseTx input env close tables = .ok outcome) :
    (∃ error, outcome = (.error error, tables)) ∨
    ∃ review confirmation old outbox, outcome.1.isOk = true ∧
      Admits input env tables.db outcome.2.db review confirmation ∧
      old ∈ tables.db.tasks ∧ isTask input.toTaskContext input.taskId old = true ∧
      enqueueIssueCloseForTaskTx input.toTaskContext
        (old.moved .done input.position.toNat env.now) close tables.outbox =
        .ok (outbox, outcome.2.outbox) := by
  rw [markTaskDoneAndEnqueueIssueCloseTx] at h
  split at h
  · cases h
  · rename_i error db' hmark
    cases h
    rcases markTaskDoneInTransaction_cases hmark with ⟨error', heq⟩ | ⟨-, -, task, -, hok, -⟩
    · cases heq
      exact .inl ⟨error, rfl⟩
    · cases hok
  · rename_i task db' hmark
    rcases markTaskDoneInTransaction_cases hmark with ⟨error', heq⟩ |
      ⟨review, confirmation, task', hadmits, hok, old, hold, hcond, rfl⟩
    · cases heq
    · cases hok
      split at h
      · cases h
      · rename_i outbox rows henqueue
        cases h
        exact .inr ⟨review, confirmation, old, outbox, rfl, hadmits, hold, hcond, henqueue⟩

end Writes

/-- A command, as far as the task tables go: writes, or the admission of Done. -/
def RunEffect (c : TaskCommand) (db db' : TaskDb) : Prop :=
  WriteEffect db db' ∨
    ∃ input env review confirmation, c.doneCommand = some (input, env) ∧
      Admits input env db db' review confirmation

/-- A command whose transaction only writes. -/
lemma command_writes {α β : Type} {db : TaskDb} (hdb : TaskOk db) {checks : Except DomainError β}
    {body : β → TaskDb → Except DomainError (Except DomainError α × TaskDb)}
    (h : ∀ checked outcome, checks = .ok checked → body checked db = .ok outcome →
      Relation.ReflTransGen TaskWrite db outcome.2) :
    WriteEffect db (afterChecks checks (fun checked => withTenant (body checked)) db).2 := by
  rcases command_cases checks body db with ⟨error, heq⟩ | ⟨checked, outcome, hchecks, hbody, heq⟩
  · rw [heq]
    exact .refl hdb
  · rw [heq]
    exact writes_effect hdb (h checked outcome hchecks hbody)

/-- **Every command** is a sequence of writes, or an admission. -/
lemma run_effect {tables : DoneTables} (hdb : TaskOk tables.db) (c : TaskCommand) :
    RunEffect c tables.db (c.run tables).db := by
  cases c with
  | createTask input env =>
      exact .inl (command_writes hdb fun checked outcome hchecks hbody =>
        createTaskOnce_writes (checkCreateTask_status hchecks) hbody)
  | updateTask input env =>
      exact .inl (command_writes hdb fun checked outcome hchecks hbody =>
        changeTask_writes hbody (fun _ => ⟨rfl, rfl, rfl⟩) fun _ hdone => hdone)
  | moveTask input env =>
      exact .inl (command_writes hdb fun checked outcome hchecks hbody =>
        changeTask_writes hbody (fun _ => ⟨rfl, rfl, rfl⟩) fun _ hdone =>
          absurd hdone (checkMoveTask_status hchecks))
  | addQualityCheck input env =>
      exact .inl (command_writes hdb fun checked outcome _ hbody => addQualityCheckTx_writes hbody)
  | toggleQualityCheck input env =>
      exact .inl (command_writes hdb fun checked outcome _ hbody => toggleQualityCheckTx_writes hbody)
  | approveQualityReview input env =>
      exact .inl (command_writes hdb fun checked outcome _ hbody =>
        approveQualityReviewTx_writes hdb hbody)
  | issueDoneConfirmation input env =>
      exact .inl (command_writes hdb fun checked outcome _ hbody =>
        issueDoneConfirmationTx_writes hbody)
  | cleanupDoneConfirmations orgId env =>
      refine .inl ?_
      rw [TaskCommand.run, cleanupDoneConfirmations]
      split_ifs
      · exact deleteConfirmations_effect hdb _
      · exact .refl hdb
  | markTaskDone input env =>
      rcases command_cases (prepareMarkTaskDone input env)
        (fun _ => markTaskDoneInTransaction input env) tables.db with
        ⟨error, heq⟩ | ⟨checked, outcome, hchecks, hbody, heq⟩
      · rw [TaskCommand.run, markTaskDone, heq]
        exact .inl (.refl hdb)
      · rw [TaskCommand.run, markTaskDone, heq]
        rcases markTaskDoneInTransaction_cases hbody with ⟨error, rfl⟩ | ⟨review, confirmation, -, hadmits, -⟩
        · exact .inl (.refl hdb)
        · exact .inr ⟨input, env, review, confirmation, rfl, hadmits⟩
  | markTaskDoneAndEnqueueIssueClose input env close =>
      rcases command_cases (prepareMarkTaskDone input env)
        (fun _ => markTaskDoneAndEnqueueIssueCloseTx input env close) tables with
        ⟨error, heq⟩ | ⟨checked, outcome, hchecks, hbody, heq⟩
      · rw [TaskCommand.run, markTaskDoneAndEnqueueIssueClose, heq]
        exact .inl (.refl hdb)
      · rw [TaskCommand.run, markTaskDoneAndEnqueueIssueClose, heq]
        rcases markTaskDoneAndEnqueueIssueCloseTx_cases hbody with ⟨error, rfl⟩ |
          ⟨review, confirmation, -, -, -, hadmits, -⟩
        · exact .inl (.refl hdb)
        · exact .inr ⟨input, env, review, confirmation, rfl, hadmits⟩

/-! ### The admission -/

section Admission

variable {input : MarkTaskDoneInput} {env : TaskEnv} {db db' : TaskDb} {review : ReviewRow}
  {confirmation : ConfirmationRow}

lemma Admits.ok (h : Admits input env db db' review confirmation) (hdb : TaskOk db) :
    TaskOk db' := by
  rw [h.result]
  refine { hdb with taskIds := ?_, confirmationIds := ?_, done := ?_ }
  · have hids : (updateWhere (isTask input.toTaskContext input.taskId)
        (TaskRow.moved .done input.position.toNat env.now) db.tasks).map (·.id) =
        db.tasks.map (·.id) := map_updateWhere _ fun _ => rfl
    exact hids ▸ hdb.taskIds
  · have hids : (updateWhere (usable input env.now)
        (ConfirmationRow.consumed input.userId review.id env.now) db.confirmations).map (·.id) =
        db.confirmations.map (·.id) := map_updateWhere _ fun _ => rfl
    exact hids ▸ hdb.confirmationIds
  · intro task' htask' hdone
    rcases mem_updateWhere.mp htask' with ⟨hold, -⟩ | ⟨task, -, hcond, rfl⟩
    · exact hdb.done task' hold hdone
    · obtain ⟨hid, hws, horg⟩ := of_decide_eq_true hcond
      exact ⟨review, h.stored, h.task.trans hid.symm, h.organization.trans horg.symm,
        h.workspace.trans hws.symm, h.approved⟩

lemma Admits.keepsApproved (h : Admits input env db db' review confirmation) :
    KeepsApproved db db' := by
  rw [h.result]
  exact .refl db

/-- No other confirmation is usable for the command. -/
lemma Admits.only (h : Admits input env db db' review confirmation) (hdb : TaskOk db)
    {other : ConfirmationRow} (hother : other ∈ db.confirmations)
    (husable : usable input env.now other = true) : other = confirmation := by
  have hid : other.id = input.humanCommand.confirmNonce := (of_decide_eq_true husable).1
  have hid' : confirmation.id = input.humanCommand.confirmNonce := (of_decide_eq_true h.unspent).1
  exact eq_of_unique hdb.confirmationIds hother h.issued (hid.trans hid'.symm)

/-- The card is Done after the admission. -/
lemma Admits.left_done (h : Admits input env db db' review confirmation) :
    ∃ task ∈ db'.tasks, task.id = input.taskId ∧ task.status = .done := by
  obtain ⟨old, hold, hcond⟩ := List.any_eq_true.mp h.card
  rw [h.result]
  refine ⟨_, mem_updateWhere.mpr (.inr ⟨old, hold, hcond, rfl⟩), ?_, rfl⟩
  exact (of_decide_eq_true hcond).1

/-- The cards after the admission. -/
lemma Admits.mem_tasks (h : Admits input env db db' review confirmation) {task : TaskRow}
    (htask : task ∈ db'.tasks) :
    task ∈ db.tasks ∨ task.id = input.taskId ∧ task.status = .done := by
  rw [h.result] at htask
  rcases mem_updateWhere.mp htask with ⟨hold, -⟩ | ⟨old, -, hcond, rfl⟩
  · exact .inl hold
  · exact .inr ⟨(of_decide_eq_true hcond).1, rfl⟩

/-- The confirmations after the admission: the one it has used up, and the others. -/
lemma Admits.mem_confirmations (h : Admits input env db db' review confirmation)
    (hdb : TaskOk db) {row : ConfirmationRow} (hrow : row ∈ db'.confirmations) :
    row ∈ db.confirmations ∨
      row.id = confirmation.id ∧ row.taskId = input.taskId ∧ confirmation.consumedAt = none := by
  rw [h.result] at hrow
  rcases mem_updateWhere.mp hrow with ⟨hold, -⟩ | ⟨old, hold, husable, rfl⟩
  · exact .inl hold
  · obtain rfl := h.only hdb hold husable
    obtain ⟨-, htask, -, -, -, hunused, -⟩ := of_decide_eq_true husable
    exact .inr ⟨rfl, htask, hunused⟩

end Admission

/-- The step admits Done by the command, and uses up the confirmation and no other. -/
def AdmittedBy (s : TaskSystem) (action : Option TaskCommand) (s' : TaskSystem)
    (input : MarkTaskDoneInput) (confirmation : ConfirmationRow) : Prop :=
  ∃ c env review, action = some c ∧ c.doneCommand = some (input, env) ∧
    Admits input env s.db s'.db review confirmation ∧
    ∀ other ∈ s.db.confirmations, usable input env.now other = true → other = confirmation

/-- What a step does to cards, confirmations and reviews: a card becomes Done only by an
admission; a confirmation is used up only by an admission, which leaves its card Done, and
a used one never changes; an approved review and its checks stay as they are. -/
structure DoneStep (s : TaskSystem) (action : Option TaskCommand) (s' : TaskSystem) : Prop where
  done : ∀ task' ∈ s'.db.tasks, task'.status = .done →
    (∃ task ∈ s.db.tasks, task.id = task'.id ∧ task.status = .done) ∨
    ∃ input confirmation, input.taskId = task'.id ∧ AdmittedBy s action s' input confirmation
  consumed : ∀ used ∈ s'.db.confirmations, used.consumedAt ≠ none →
    used ∈ s.db.confirmations ∨
    ∃ input confirmation, AdmittedBy s action s' input confirmation ∧ used.id = confirmation.id ∧
      confirmation.consumedAt = none ∧
      ∃ task ∈ s'.db.tasks, task.id = used.taskId ∧ task.status = .done
  spent : ∀ used ∈ s.db.confirmations, used.consumedAt ≠ none → ∀ row ∈ s'.db.confirmations,
    row.id = used.id → row = used
  approved : KeepsApproved s.db s'.db

/-- **One step** keeps the invariant, and admits Done at most. -/
lemma step_done {m : ℕ} {s s' : TaskSystem} {action : Option TaskCommand} (hs : TaskOk s.db)
    (h : TaskStep m s action s') : TaskOk s'.db ∧ DoneStep s action s' := by
  cases h with
  | outbox outbox step worker =>
      refine ⟨hs, ⟨?_, ?_, ?_, .refl _⟩⟩
      · exact fun task' htask' hdone => .inl ⟨task', htask', rfl, hdone⟩
      · exact fun used hused _ => .inl hused
      · exact fun used hused _ row hrow hid => eq_of_unique hs.confirmationIds hrow hused hid
  | command c =>
      have hrun : RunEffect c s.tables.db (c.run s.tables).db := run_effect hs c
      rcases hrun with heffect |
        ⟨input, env, review, confirmation, hcommand, hadmits⟩
      · refine ⟨heffect.ok, ⟨?_, ?_, ?_, heffect.keepsApproved⟩⟩
        · exact fun task' htask' hdone => .inl (heffect.doneBefore task' htask' hdone)
        · intro used hused hconsumed
          rcases heffect.confirmations used hused with hold | ⟨hunused, -⟩
          · exact .inl hold
          · exact absurd hunused hconsumed
        · intro used hused _ row hrow hid
          rcases heffect.confirmations row hrow with hold | ⟨-, hnew⟩
          · exact eq_of_unique hs.confirmationIds hold hused hid
          · exact absurd hid.symm (hnew used hused)
      · have hadmitted : AdmittedBy s (some c) (s.write (c.run s.tables)) input confirmation :=
          ⟨c, env, review, rfl, hcommand, hadmits, fun other hother => hadmits.only hs hother⟩
        refine ⟨hadmits.ok hs, ⟨?_, ?_, ?_, hadmits.keepsApproved⟩⟩
        · intro task' htask' hdone
          rcases hadmits.mem_tasks htask' with hold | ⟨hid, -⟩
          · exact .inl ⟨task', hold, rfl, hdone⟩
          · exact .inr ⟨input, confirmation, hid.symm, hadmitted⟩
        · intro used hused hconsumed
          rcases hadmits.mem_confirmations hs hused with hold | ⟨hid, htask, hunused⟩
          · exact .inl hold
          · obtain ⟨task, htaskMem, htaskId, hdone⟩ := hadmits.left_done
            exact .inr ⟨input, confirmation, hadmitted, hid, hunused, task, htaskMem,
              htaskId.trans htask.symm, hdone⟩
        · intro used hused hconsumed row hrow hid
          rcases hadmits.mem_confirmations hs hrow with hold | ⟨hid', -, hunused⟩
          · exact eq_of_unique hs.confirmationIds hold hused hid
          · have hsame := eq_of_unique hs.confirmationIds hadmits.issued hused (hid'.symm.trans hid)
            exact absurd (hsame ▸ hunused) hconsumed

lemma taskReachable_ok {m : ℕ} {s : TaskSystem} (h : TaskReachable m s) : TaskOk s.db := by
  induction h with
  | refl => exact .empty
  | tail _ hstep ih =>
      obtain ⟨action, hstep⟩ := hstep
      exact (step_done ih hstep).1

/-- **The admission of Done**: in every reachable system each Done card has an approved
review in its workspace with all checks passing, and in every step from it a card becomes
Done only by one of the two commands, which uses up exactly one confirmation; a
confirmation is used up at most once and never without its card left Done; an approved
review and its checks never change again. -/
theorem done_admission {m : ℕ} {s : TaskSystem} (h : TaskReachable m s) :
    (∀ task ∈ s.db.tasks, task.status = .done → ∃ review ∈ s.db.reviews,
      review.taskId = task.id ∧ review.organizationId = task.organizationId ∧
      review.workspaceId = task.workspaceId ∧ review.status = .approved ∧
      ∀ check ∈ s.db.checks, check.reviewId = review.id → check.state = .pass) ∧
    ∀ action s', TaskStep m s action s' → DoneStep s action s' := by
  have hok := taskReachable_ok h
  refine ⟨fun task htask hdone => ?_, fun action s' hstep => (step_done hok hstep).2⟩
  obtain ⟨review, hreview, htaskId, horg, hws, hstatus⟩ := hok.done task htask hdone
  exact ⟨review, hreview, htaskId, horg, hws, hstatus, hok.approved review hreview hstatus⟩

/-! ### A sample run -/

namespace TaskSample

def context : TaskContext := ⟨"organization", "workspace", "user"⟩

/-- The uuid of the confirmation. -/
def nonce : String := "11111111-1111-4111-8111-111111111111"

/-- A transaction at a time that may generate an id. -/
def env (now : Timestamp) (newId : String) : TaskEnv :=
  ⟨now, newId, "review", "reviewer", .ok true, id⟩

/-- A card linked to an issue. -/
def create : TaskCommand :=
  .createTask ⟨context, none, "Title", none, none, none, none, none, none,
    some "github:owner/name#7", none⟩ (env 1 "task")

def approve : TaskCommand := .approveQualityReview ⟨context, "task", none⟩ (env 2 "unused")

def confirm (now : Timestamp) : TaskCommand :=
  .issueDoneConfirmation ⟨context, "task"⟩ (env now nonce)

def doneInput : MarkTaskDoneInput := ⟨context, "task", 0, ⟨"user", "admin-web", nonce⟩⟩

def closeEnv (now : Timestamp) : CloseEnv := ⟨now, "row", .ok true, false⟩

def done (now : Timestamp) : TaskCommand :=
  .markTaskDoneAndEnqueueIssueClose doneInput (env now "unused") (closeEnv now)

/-- The system after a command. -/
def after (s : TaskSystem) (c : TaskCommand) : TaskSystem := s.write (c.run s.tables)

/-- A card, its approved review and a confirmation. -/
def confirmed : TaskSystem := after (after (after .empty create) approve) (confirm 3)

/-- The card is Done. -/
def admitted : TaskSystem := after confirmed (done 4)

lemma reachable_after {m : ℕ} {s : TaskSystem} (h : TaskReachable m s) (c : TaskCommand) :
    TaskReachable m (after s c) := h.tail ⟨some c, .command s c⟩

lemma reachable_admitted : TaskReachable 1 admitted :=
  reachable_after (reachable_after (reachable_after (reachable_after .refl _) _) _) _

end TaskSample

open TaskSample

/-- The sample card is Done, under its approved review. -/
theorem done_admission_admitted :
    ∃ task ∈ admitted.db.tasks, task.status = .done ∧ ∃ review ∈ admitted.db.reviews,
      review.taskId = task.id ∧ review.status = .approved := by
  have hdone : ∃ task ∈ admitted.db.tasks, task.status = .done := by decide +kernel
  obtain ⟨task, htask, hstatus⟩ := hdone
  obtain ⟨hreviews, -⟩ := done_admission reachable_admitted
  obtain ⟨review, hreview, htaskId, -, -, happroved, -⟩ := hreviews task htask hstatus
  exact ⟨task, htask, hstatus, review, hreview, htaskId, happroved⟩

end Opzava.ProjectManagement
