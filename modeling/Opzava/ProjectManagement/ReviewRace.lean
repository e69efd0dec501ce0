import Opzava.Library.ReadCommitted
import Opzava.ProjectManagement.Tasks

/-!
The quality review of one task, under concurrent transactions (`tasks.ts`).

The transactions of `addQualityCheck`, `toggleQualityCheck` and `approveQualityReview` are
run statement by statement. Each of them reads the status of the review, or the states of
its checks, in one statement and writes in a later one.

* `reviewProgram`: the statements of the three transactions.
* `approved_with_failing_check`: a check is toggled to `fail` while the approval stands
  between reading the checks and writing the review; both commit.
* `approved_checks_pass`: in every run in which no approval commits over a write that is
  past its gate, and no such write over an approval, the checks of an approved review pass.
-/

namespace Opzava.ProjectManagement

open Opzava.Library
open Opzava.Library.ReadCommitted

/-! ### Transactions -/

/-- The committed review of the task and its checks. The index on `task_id` allows one
review. -/
structure ReviewTables where
  review : Option ReviewRow
  checks : List CheckRow
  deriving DecidableEq

/-- What is locked: the row of the review or its entry in the index on `task_id`, the row
of a check, the entry of a key in the index on `(organization_id, idempotency_key)`. -/
inductive RowLock where
  | review
  | check (id : String)
  | key (orgId : String) (key : String)
  deriving DecidableEq

/-- The commands that begin with `ensureQualityReview`. -/
inductive EnsuringCommand where
  | add (check : PreparedCheck)
  | approve (expectedReviewId : Option String)

/-- The next statement of a transaction, with what the ones before it have returned. -/
inductive ReviewPoint where
  | selectTask (command : EnsuringCommand)
  | selectReview (command : EnsuringCommand)
  | insertReview (command : EnsuringCommand)
  | replay (check : PreparedCheck) (review : ReviewRow)
  | insertCheck (check : PreparedCheck) (review : ReviewRow)
  | selectCheck (checkId : String) (state : CheckState)
  | updateCheck (checkId : String) (state : CheckState)
  | reopenReview
  | loadReview (review : ReviewRow)
  | loadChecks (review loaded : ReviewRow)
  | approveReview (review : ReviewRow)
  | finish
  | thrown

/-- A running transaction: where it is, and the rows it has written. The keys recorded on
other tasks are known by what the statements that look for them find. -/
structure ReviewTx where
  context : TaskContext
  env : TaskEnv
  replayElsewhere : Bool
  conflictElsewhere : Bool
  point : ReviewPoint
  review : Option ReviewRow
  check : Option CheckRow
  locks : List RowLock

/-- A transaction before its first statement. -/
def ReviewTx.start (context : TaskContext) (env : TaskEnv)
    (replayElsewhere conflictElsewhere : Bool) (point : ReviewPoint) : ReviewTx :=
  ⟨context, env, replayElsewhere, conflictElsewhere, point, none, none, []⟩

/-- What the transaction sees: the committed rows, under its own. -/
def ReviewTx.view (tx : ReviewTx) (tables : ReviewTables) : ReviewTables where
  review := tx.review <|> tables.review
  checks :=
    match tx.check with
    | none => tables.checks
    | some check => putRow CheckRow.id check tables.checks

/-- The transaction at another statement. -/
def ReviewTx.goto (tx : ReviewTx) (point : ReviewPoint) : ReviewTx := { tx with point := point }

/-- The transaction with more locks. -/
def ReviewTx.lock (tx : ReviewTx) (locks : List RowLock) : ReviewTx :=
  { tx with locks := locks ++ tx.locks }

/-- The transaction after it has written the review. -/
def ReviewTx.writeReview (tx : ReviewTx) (review : ReviewRow) : ReviewTx :=
  { tx with review := some review, locks := .review :: tx.locks }

/-- The transaction after it has written a check. -/
def ReviewTx.writeCheck (tx : ReviewTx) (check : CheckRow) (locks : List RowLock) : ReviewTx :=
  { tx with check := some check, locks := .check check.id :: (locks ++ tx.locks) }

/-- The statement after `ensureQualityReview`. -/
def EnsuringCommand.next (command : EnsuringCommand) (review : ReviewRow) : ReviewPoint :=
  match command with
  | .add check => .replay check review
  | .approve expectedReviewId =>
      if expectedReviewId ≠ none ∧ expectedReviewId ≠ some review.id then .finish
      else .loadReview review

/-- The entry of a key in its index. -/
def keyLocks (context : TaskContext) (key : Option String) : List RowLock :=
  match key with
  | none => []
  | some key => [.key context.orgId key]

/-- The check that has recorded the key. -/
def recorded (context : TaskContext) (key : Option String) (row : CheckRow) : Bool :=
  key ≠ none ∧ row.organizationId = context.orgId ∧ row.idempotencyKey = key

/-- One statement of a transaction on the task. The review that is loaded last, to be
returned, and the row of the reviewer are left out. -/
def ReviewTx.statement (task : TaskRow) (tables : ReviewTables) (tx : ReviewTx) : ReviewTx :=
  let view := tx.view tables
  match tx.point with
  -- `ensureTaskExists`
  | .selectTask command =>
      if isTask tx.context task.id task then tx.goto (.selectReview command) else tx.goto .finish
  -- `ensureQualityReview`
  | .selectReview command =>
      match view.review.filter fun row => row.workspaceId = tx.context.workspaceId ∧
          row.organizationId = tx.context.orgId with
      | some existing => tx.goto (command.next existing)
      | none => tx.goto (.insertReview command)
  | .insertReview command =>
      match view.review with
      | none =>
          (tx.writeReview (newReview tx.context task.id tx.env)).goto
            (command.next (newReview tx.context task.id tx.env))
      | some other =>
          if other.organizationId = tx.context.orgId then
            (tx.lock [.review]).goto (command.next other)
          else tx.goto .thrown
  -- `addQualityCheck`
  | .replay check review =>
      if (view.checks.any (recorded tx.context check.idempotencyKey)) ∨
          (check.idempotencyKey ≠ none ∧ tx.replayElsewhere) then tx.goto .finish
      else if review.status = .approved then tx.goto .finish
      else tx.goto (.insertCheck check review)
  | .insertCheck check review =>
      match view.checks.find? (recorded tx.context check.idempotencyKey) with
      | some row =>
          (tx.lock (.check row.id :: keyLocks tx.context check.idempotencyKey)).goto .finish
      | none =>
          if check.idempotencyKey ≠ none ∧ tx.conflictElsewhere then tx.goto .finish
          else if tx.env.newId ∈ view.checks.map (·.id) then tx.goto .thrown
          else
            (tx.writeCheck (newCheck tx.context task.id tx.env check review)
              (keyLocks tx.context check.idempotencyKey)).goto .finish
  -- `toggleQualityCheck`
  | .selectCheck checkId state =>
      match view.checks.find? fun row => isCheck tx.context task.id checkId row ∧
          (view.review.any fun review => review.id = row.reviewId ∧
            review.organizationId = row.organizationId) with
      | none => tx.goto .finish
      | some _ =>
          if view.review.any fun review => review.status = .approved then tx.goto .finish
          else tx.goto (.updateCheck checkId state)
  | .updateCheck checkId state =>
      match view.checks.find? (isCheck tx.context task.id checkId) with
      | none => tx.goto .finish
      | some row => (tx.writeCheck (row.toggled state tx.env.now) []).goto .reopenReview
  | .reopenReview =>
      match view.review.filter fun row => row.status ≠ .approved ∧
          row.organizationId = tx.context.orgId with
      | none => tx.goto .finish
      | some review =>
          (tx.writeReview (review.reopened (view.checks.any fun row => row.state = .fail ∧
            row.organizationId = tx.context.orgId) tx.env.now)).goto .finish
  -- `approveQualityReview`
  | .loadReview review =>
      match view.review.filter fun row => row.organizationId = tx.context.orgId with
      | none => tx.goto .finish
      | some loaded => tx.goto (.loadChecks review loaded)
  | .loadChecks review loaded =>
      if view.checks.any fun row => row.reviewId = loaded.id ∧
          row.organizationId = tx.context.orgId ∧ row.state ≠ .pass then tx.goto .finish
      else if loaded.status ≠ .approved then tx.goto (.approveReview review)
      else tx.goto .finish
  | .approveReview review =>
      match view.review.filter (approvable tx.context task.id review.id) with
      | none => tx.goto .finish
      | some row => (tx.writeReview (row.approve tx.context.userId tx.env.now)).goto .finish
  | .finish => tx
  | .thrown => tx

/-- A transaction on the task that begins. -/
def ReviewTx.initial (tx : ReviewTx) : Bool :=
  match tx.point with
  | .selectTask _ | .selectCheck _ _ => tx.review.isNone && tx.check.isNone
  | _ => false

/-- The body has returned. -/
def ReviewTx.finished (tx : ReviewTx) : Bool :=
  match tx.point with
  | .finish => true
  | _ => false

/-- The transactions on the review of the task. -/
def reviewProgram (task : TaskRow) : Program ReviewTables ReviewTx RowLock where
  initial _ := ReviewTx.initial
  statement := ReviewTx.statement task
  locks := ReviewTx.locks
  finished := ReviewTx.finished
  commit := ReviewTx.view

/-- The tables before any review. -/
def ReviewTables.empty : ReviewTables := ⟨none, []⟩

/-- A review that is approved has no check that does not pass. -/
def ReviewTables.ApprovedPass (tables : ReviewTables) : Prop :=
  ∀ review, tables.review = some review → review.status = .approved →
    ∀ check ∈ tables.checks, check.reviewId = review.id → check.state = .pass

/-- The state the transaction is about to write, once it is past its gate. -/
def ReviewPoint.writes (point : ReviewPoint) : Option CheckState :=
  match point with
  | .replay check review => if review.status = .approved then none else some check.state
  | .insertCheck check _ => some check.state
  | .updateCheck _ state => some state
  | _ => none

/-- The transaction is about to approve: it has seen every check pass. -/
def ReviewPoint.approves (point : ReviewPoint) : Bool :=
  match point with
  | .approveReview _ => true
  | _ => false

/-- The transaction has seen the review not approved, and writes or has written a check
that does not pass. -/
def ReviewTx.writing (tx : ReviewTx) : Bool :=
  (tx.point.writes.any fun state => state ≠ .pass) || tx.check.any fun row => row.state ≠ .pass

/-- The transaction has seen every check pass, and approves or has approved the review. -/
def ReviewTx.approving (tx : ReviewTx) : Bool :=
  tx.point.approves || tx.review.any fun row => row.status = .approved

/-- An approval and a write of a check that does not pass. -/
def reviewConflict (tx tx' : ReviewTx) : Bool :=
  (tx.writing && tx'.approving) || (tx.approving && tx'.writing)

/-! ### The invariant -/

/-- The same review, whatever its status. -/
def SameReview (a b : ReviewRow) : Prop := a.id = b.id ∧ a.organizationId = b.organizationId

/-- A check of the review. -/
def OfReview (check : CheckRow) (review : ReviewRow) : Prop :=
  check.reviewId = review.id ∧ check.organizationId = review.organizationId

/-- The committed checks are of the committed review, and pass if it is approved. -/
structure TablesOk (tables : ReviewTables) : Prop where
  ofReview : ∀ check ∈ tables.checks, ∃ review, tables.review = some review ∧
    OfReview check review
  pass : ∀ review, tables.review = some review → review.status = .approved →
    ∀ check ∈ tables.checks, check.state = .pass

/-- The review a transaction has read. -/
def ReviewPoint.seen (point : ReviewPoint) : Option ReviewRow :=
  match point with
  | .replay _ review | .insertCheck _ review => some review
  | .loadChecks _ loaded => some loaded
  | _ => none

/-- A check is written by the last statements only. -/
def ReviewPoint.late (point : ReviewPoint) : Bool :=
  match point with
  | .reopenReview | .finish | .thrown => true
  | _ => false

/-- Nothing is written yet. -/
def ReviewPoint.fresh (point : ReviewPoint) : Bool :=
  match point with
  | .selectTask _ | .selectReview _ | .insertReview _ | .selectCheck _ _ | .updateCheck _ _ => true
  | _ => false

/-- What holds of a running transaction and the committed tables: while it approves, every
check passes; while it writes a check that does not pass, the review is not approved. -/
structure TxOk (tables : ReviewTables) (tx : ReviewTx) : Prop where
  approving : tx.approving = true → ∀ check ∈ tables.checks, check.state = .pass
  writing : tx.writing = true → ∀ review, tables.review = some review → review.status ≠ .approved
  same : ∀ own review, tx.review = some own → tables.review = some review → SameReview own review
  locked : tx.review ≠ none → RowLock.review ∈ tx.locks
  seen : ∀ review, tx.point.seen = some review → review.organizationId = tx.context.orgId ∧
    ∃ current, (tx.view tables).review = some current ∧ SameReview review current
  ofReview : ∀ check, tx.check = some check → ∃ current, (tx.view tables).review = some current ∧
    OfReview check current
  late : tx.check ≠ none → tx.point.late = true
  apart : tx.check ≠ none → tx.approving = false
  early : tx.finished = false → ∀ own, tx.review = some own → own.status ≠ .approved
  fresh : tx.point.fresh = true → tx.review = none

variable {task : TaskRow} {tables : ReviewTables} {tx tx' : ReviewTx}

lemma mem_view_checks {row : CheckRow} (h : row ∈ (tx.view tables).checks) :
    tx.check = some row ∨ row ∈ tables.checks := by
  rw [ReviewTx.view] at h
  cases hcheck : tx.check with
  | none =>
      rw [hcheck] at h
      exact .inr h
  | some check =>
      rw [hcheck] at h
      rcases mem_putRow.mp h with rfl | ⟨hold, -⟩
      · exact .inl rfl
      · exact .inr hold

lemma view_review_of_none (h : tx.review = none) : (tx.view tables).review = tables.review := by
  rw [ReviewTx.view, h]
  rfl

lemma view_review_of_some {own : ReviewRow} (h : tx.review = some own) :
    (tx.view tables).review = some own := by
  rw [ReviewTx.view, h]
  rfl

lemma view_checks_of_none (h : tx.check = none) : (tx.view tables).checks = tables.checks := by
  rw [ReviewTx.view, h]

lemma SameReview.symm {a b : ReviewRow} (h : SameReview a b) : SameReview b a :=
  ⟨h.1.symm, h.2.symm⟩

lemma SameReview.trans {a b c : ReviewRow} (h : SameReview a b) (h' : SameReview b c) :
    SameReview a c :=
  ⟨h.1.trans h'.1, h.2.trans h'.2⟩

lemma OfReview.same {check : CheckRow} {a b : ReviewRow} (h : OfReview check a)
    (hab : SameReview a b) : OfReview check b :=
  ⟨h.1.trans hab.1, h.2.trans hab.2⟩

/-- The transaction sees the committed review, or its own version of it. -/
lemma TxOk.view_same (h : TxOk tables tx) {review : ReviewRow} (hreview : tables.review = some review) :
    ∃ current, (tx.view tables).review = some current ∧ SameReview review current := by
  cases hown : tx.review with
  | none => exact ⟨review, (view_review_of_none hown).trans hreview, rfl, rfl⟩
  | some own => exact ⟨own, view_review_of_some hown, (h.same own review hown hreview).symm⟩

lemma TxOk.not_approved (h : TxOk tables tx) (hunfinished : tx.finished = false) :
    (tx.review.any fun row => row.status = .approved) = false := by
  cases hown : tx.review with
  | none => rfl
  | some own =>
      have hstatus := h.early hunfinished own hown
      simpa using hstatus

lemma TxOk.unwritten (h : TxOk tables tx) (hpoint : tx.point.late = false) : tx.check = none := by
  by_contra hcheck
  cases hpoint.symm.trans (h.late hcheck)

/-! ### Statements -/

/-- The transaction goes on without a write. -/
lemma TxOk.goto (h : TxOk tables tx) (hunfinished : tx.finished = false) {point : ReviewPoint}
    (happroves : point.approves = true → ∀ check ∈ tables.checks, check.state = .pass)
    (hwrites : (point.writes.any fun state => state ≠ .pass) = true →
      ∀ review, tables.review = some review → review.status ≠ .approved)
    (hseen : ∀ review, point.seen = some review → review.organizationId = tx.context.orgId ∧
      ∃ current, (tx.view tables).review = some current ∧ SameReview review current)
    (hlate : tx.check ≠ none → point.late = true)
    (hfresh : point.fresh = true → tx.review = none) : TxOk tables (tx.goto point) where
  approving := by
    intro happroving
    rw [ReviewTx.approving, Bool.or_eq_true] at happroving
    rcases happroving with hpoint | hreview
    · exact happroves hpoint
    · exact absurd hreview (by rw [show (tx.goto point).review = tx.review from rfl,
        h.not_approved hunfinished]; exact Bool.false_ne_true)
  writing := by
    intro hwriting
    rw [ReviewTx.writing, Bool.or_eq_true] at hwriting
    rcases hwriting with hpoint | hcheck
    · exact hwrites hpoint
    · exact h.writing (by rw [ReviewTx.writing, Bool.or_eq_true]; exact .inr hcheck)
  same := h.same
  locked := h.locked
  seen := hseen
  ofReview := h.ofReview
  late := hlate
  apart := by
    intro hcheck
    have hpoint : point.approves = false := by
      have hpoint := hlate hcheck
      cases point <;> first | rfl | cases hpoint
    rw [ReviewTx.approving, Bool.or_eq_false_iff]
    exact ⟨hpoint, h.not_approved hunfinished⟩
  early := fun _ => h.early hunfinished
  fresh := hfresh

/-- The body returns. -/
lemma TxOk.finish (h : TxOk tables tx) (hunfinished : tx.finished = false) :
    TxOk tables (tx.goto .finish) :=
  h.goto hunfinished (fun happroves => nomatch happroves) (fun hwrites => nomatch hwrites)
    (fun _ hseen => nomatch hseen) (fun _ => rfl) (fun hfresh => nomatch hfresh)

/-- The body throws. -/
lemma TxOk.thrown (h : TxOk tables tx) (hunfinished : tx.finished = false) :
    TxOk tables (tx.goto .thrown) :=
  h.goto hunfinished (fun happroves => nomatch happroves) (fun hwrites => nomatch hwrites)
    (fun _ hseen => nomatch hseen) (fun _ => rfl) (fun hfresh => nomatch hfresh)

lemma TxOk.lock (h : TxOk tables tx) (locks : List RowLock) : TxOk tables (tx.lock locks) :=
  { h with locked := fun hreview => List.mem_append_right locks (h.locked hreview) }

/-- The transaction writes the review, and goes on. -/
lemma TxOk.writeReview (h : TxOk tables tx) {review : ReviewRow} {point : ReviewPoint}
    (hsame : ∀ current, (tx.view tables).review = some current → SameReview review current)
    (hstatus : review.status = .approved → point = .finish ∧ tx.check = none ∧
      ∀ check ∈ tables.checks, check.state = .pass)
    (happroves : point.approves = false)
    (hwrites : (point.writes.any fun state => state ≠ .pass) = true → tables.review = none)
    (hseen : ∀ seen, point.seen = some seen → seen = review ∧
      review.organizationId = tx.context.orgId)
    (hlate : tx.check ≠ none → point.late = true) (hfresh : point.fresh = false) :
    TxOk tables ((tx.writeReview review).goto point) where
  approving := by
    intro happroving
    rw [ReviewTx.approving, Bool.or_eq_true] at happroving
    rcases happroving with hpoint | hreview
    · cases happroves.symm.trans hpoint
    · exact (hstatus (of_decide_eq_true hreview)).2.2
  writing := by
    intro hwriting current hcurrent
    rw [ReviewTx.writing, Bool.or_eq_true] at hwriting
    rcases hwriting with hpoint | hcheck
    · cases (hwrites hpoint).symm.trans hcurrent
    · exact h.writing (by rw [ReviewTx.writing, Bool.or_eq_true]; exact .inr hcheck) current hcurrent
  same := by
    intro own current hown hcurrent
    obtain rfl : review = own := Option.some.inj hown
    obtain ⟨viewed, hviewed, hsame'⟩ := h.view_same hcurrent
    exact (hsame viewed hviewed).trans hsame'.symm
  locked := fun _ => List.mem_cons_self
  seen := by
    intro seen hpoint
    obtain ⟨rfl, horg⟩ := hseen seen hpoint
    exact ⟨horg, seen, rfl, rfl, rfl⟩
  ofReview := by
    intro check hcheck
    obtain ⟨current, hcurrent, hof⟩ := h.ofReview check hcheck
    exact ⟨review, rfl, hof.same (hsame current hcurrent).symm⟩
  late := hlate
  apart := by
    intro hcheck
    rw [ReviewTx.approving, Bool.or_eq_false_iff]
    refine ⟨happroves, ?_⟩
    have hopen : review.status ≠ .approved := fun happroved => hcheck (hstatus happroved).2.1
    exact decide_eq_false hopen
  early := by
    intro hunfinished own hown happroved
    obtain rfl : review = own := Option.some.inj hown
    obtain rfl := (hstatus happroved).1
    cases hunfinished
  fresh := fun hpoint => nomatch hfresh.symm.trans hpoint

/-- The transaction writes a check, and goes on. -/
lemma TxOk.writeCheck (h : TxOk tables tx) (hunfinished : tx.finished = false) {check : CheckRow}
    {locks : List RowLock} {point : ReviewPoint} (hwrites : tx.point.writes = some check.state)
    (hof : ∃ current, (tx.view tables).review = some current ∧ OfReview check current)
    (hpoint : point = .finish ∨ point = .reopenReview) :
    TxOk tables ((tx.writeCheck check locks).goto point) := by
  have happroves : point.approves = false := by
    rcases hpoint with rfl | rfl <;> rfl
  have hpointWrites : point.writes = none := by
    rcases hpoint with rfl | rfl <;> rfl
  have hseen : point.seen = none := by
    rcases hpoint with rfl | rfl <;> rfl
  have hlate : point.late = true := by
    rcases hpoint with rfl | rfl <;> rfl
  have hfresh : point.fresh = false := by
    rcases hpoint with rfl | rfl <;> rfl
  have happroving : ((tx.writeCheck check locks).goto point).approving = false := by
    rw [ReviewTx.approving, Bool.or_eq_false_iff]
    exact ⟨happroves, h.not_approved hunfinished⟩
  refine ⟨?_, ?_, h.same, ?_, ?_, ?_, fun _ => hlate, fun _ => happroving, ?_, ?_⟩
  · intro happroving'
    cases happroving.symm.trans happroving'
  · intro hwriting
    refine h.writing ?_
    rw [ReviewTx.writing, Bool.or_eq_true] at hwriting ⊢
    rw [hwrites]
    rcases hwriting with hnone | hcheck
    · change (point.writes.any fun state => state ≠ .pass) = true at hnone
      rw [hpointWrites] at hnone
      cases hnone
    · exact .inl hcheck
  · exact fun hreview => List.mem_cons_of_mem _ (List.mem_append_right locks (h.locked hreview))
  · intro seen hpoint'
    cases hseen.symm.trans hpoint'
  · intro own hown
    obtain rfl : check = own := Option.some.inj hown
    exact hof
  · exact fun _ => h.early hunfinished
  · exact fun hpoint' => nomatch hfresh.symm.trans hpoint'

/-- The statement after `ensureQualityReview`, when the committed review has been read. -/
lemma TxOk.ensured (h : TxOk tables tx) (hunfinished : tx.finished = false) (hcheck : tx.check = none)
    {command : EnsuringCommand} {review : ReviewRow} (hreview : tables.review = some review)
    (horg : review.organizationId = tx.context.orgId) :
    TxOk tables (tx.goto (command.next review)) := by
  cases command with
  | add check =>
      refine h.goto hunfinished (fun happroves => nomatch happroves) ?_ ?_ (absurd hcheck) ?_
      · intro hwrites current hcurrent
        obtain rfl : review = current := Option.some.inj (hreview.symm.trans hcurrent)
        intro happroved
        simp [EnsuringCommand.next, ReviewPoint.writes, happroved] at hwrites
      · intro seen hseen
        obtain rfl : review = seen := Option.some.inj hseen
        exact ⟨horg, h.view_same hreview⟩
      · exact fun hfresh => nomatch hfresh
  | approve expectedReviewId =>
      rw [EnsuringCommand.next]
      split_ifs
      · exact h.finish hunfinished
      · exact h.goto hunfinished (fun happroves => nomatch happroves)
          (fun hwrites => nomatch hwrites) (fun _ hseen => nomatch hseen) (absurd hcheck)
          (fun hfresh => nomatch hfresh)

lemma TxOk.selectReview (h : TxOk tables tx) {command : EnsuringCommand}
    (hpoint : tx.point = .selectReview command) : TxOk tables (tx.statement task tables) := by
  have hunfinished : tx.finished = false := by rw [ReviewTx.finished, hpoint]
  have hreview : tx.review = none := h.fresh (by rw [hpoint]; rfl)
  have hcheck : tx.check = none := h.unwritten (by rw [hpoint]; rfl)
  rw [ReviewTx.statement, hpoint]
  dsimp only
  rw [view_review_of_none hreview]
  cases hfilter : tables.review.filter fun row => row.workspaceId = tx.context.workspaceId ∧
      row.organizationId = tx.context.orgId with
  | none =>
      exact h.goto hunfinished (fun happroves => nomatch happroves) (fun hwrites => nomatch hwrites)
        (fun _ hseen => nomatch hseen) (absurd hcheck) (fun _ => hreview)
  | some existing =>
      obtain ⟨hexisting, hcond⟩ := Option.filter_eq_some_iff.mp hfilter
      exact h.ensured hunfinished hcheck hexisting (of_decide_eq_true hcond).2

lemma TxOk.insertReview (h : TxOk tables tx) {command : EnsuringCommand}
    (hpoint : tx.point = .insertReview command) : TxOk tables (tx.statement task tables) := by
  have hunfinished : tx.finished = false := by rw [ReviewTx.finished, hpoint]
  have hreview : tx.review = none := h.fresh (by rw [hpoint]; rfl)
  have hcheck : tx.check = none := h.unwritten (by rw [hpoint]; rfl)
  rw [ReviewTx.statement, hpoint]
  dsimp only
  rw [view_review_of_none hreview]
  cases hcommitted : tables.review with
  | none =>
      have hview : (tx.view tables).review = none := (view_review_of_none hreview).trans hcommitted
      have hopen : (newReview tx.context task.id tx.env).status ≠ .approved := nofun
      cases command with
      | add check =>
          refine h.writeReview ?_ (fun happroved => absurd happroved hopen) rfl
            (fun _ => hcommitted) ?_ (absurd hcheck) rfl
          · intro current hcurrent
            cases hview.symm.trans hcurrent
          · intro seen hseen
            exact ⟨(Option.some.inj hseen).symm, rfl⟩
      | approve expectedReviewId =>
          rw [EnsuringCommand.next]
          split_ifs
          all_goals
            refine h.writeReview ?_ (fun happroved => absurd happroved hopen) rfl
              (fun _ => hcommitted) (fun _ hseen => nomatch hseen) (absurd hcheck) rfl
            intro current hcurrent
            cases hview.symm.trans hcurrent
  | some other =>
      dsimp only
      split_ifs with horg
      · exact (h.lock [.review]).ensured hunfinished hcheck hcommitted horg
      · exact h.thrown hunfinished

lemma TxOk.replay (h : TxOk tables tx) {check : PreparedCheck} {review : ReviewRow}
    (hpoint : tx.point = .replay check review) : TxOk tables (tx.statement task tables) := by
  have hunfinished : tx.finished = false := by rw [ReviewTx.finished, hpoint]
  have hcheck : tx.check = none := h.unwritten (by rw [hpoint]; rfl)
  rw [ReviewTx.statement, hpoint]
  dsimp only
  split_ifs with hreplay happroved
  · exact h.finish hunfinished
  · exact h.finish hunfinished
  · refine h.goto hunfinished (fun happroves => nomatch happroves) ?_ ?_ (absurd hcheck)
      (fun hfresh => nomatch hfresh)
    · intro hwrites
      refine h.writing ?_
      rw [ReviewTx.writing, Bool.or_eq_true, hpoint, ReviewPoint.writes, if_neg happroved]
      exact .inl hwrites
    · intro seen hseen
      exact h.seen seen (hpoint ▸ hseen)

lemma TxOk.insertCheck (h : TxOk tables tx) {check : PreparedCheck} {review : ReviewRow}
    (hpoint : tx.point = .insertCheck check review) : TxOk tables (tx.statement task tables) := by
  have hunfinished : tx.finished = false := by rw [ReviewTx.finished, hpoint]
  obtain ⟨horg, current, hcurrent, hsame⟩ := h.seen review (by rw [hpoint]; rfl)
  rw [ReviewTx.statement, hpoint]
  dsimp only
  cases (tx.view tables).checks.find? (recorded tx.context check.idempotencyKey) with
  | some row => exact (h.lock _).finish hunfinished
  | none =>
      dsimp only
      split_ifs
      · exact h.finish hunfinished
      · exact h.thrown hunfinished
      · refine h.writeCheck hunfinished (by rw [hpoint]; rfl) ⟨current, hcurrent, hsame.1, ?_⟩
          (.inl rfl)
        exact horg.symm.trans hsame.2

lemma TxOk.selectCheck (h : TxOk tables tx) {checkId : String} {state : CheckState}
    (hpoint : tx.point = .selectCheck checkId state) : TxOk tables (tx.statement task tables) := by
  have hunfinished : tx.finished = false := by rw [ReviewTx.finished, hpoint]
  have hreview : tx.review = none := h.fresh (by rw [hpoint]; rfl)
  have hcheck : tx.check = none := h.unwritten (by rw [hpoint]; rfl)
  rw [ReviewTx.statement, hpoint]
  dsimp only
  split
  · exact h.finish hunfinished
  · split_ifs with happroved
    · exact h.finish hunfinished
    · refine h.goto hunfinished (fun happroves => nomatch happroves) ?_
        (fun _ hseen => nomatch hseen) (absurd hcheck) (fun _ => hreview)
      intro _ review hcommitted hstatus
      rw [view_review_of_none hreview, hcommitted] at happroved
      exact happroved (decide_eq_true hstatus)

lemma TxOk.updateCheck (hok : TablesOk tables) (h : TxOk tables tx) {checkId : String}
    {state : CheckState} (hpoint : tx.point = .updateCheck checkId state) :
    TxOk tables (tx.statement task tables) := by
  have hunfinished : tx.finished = false := by rw [ReviewTx.finished, hpoint]
  have hcheck : tx.check = none := h.unwritten (by rw [hpoint]; rfl)
  rw [ReviewTx.statement, hpoint]
  dsimp only
  rw [view_checks_of_none hcheck]
  cases hfind : tables.checks.find? (isCheck tx.context task.id checkId) with
  | none => exact h.finish hunfinished
  | some row =>
      obtain ⟨review, hreview, hof⟩ := hok.ofReview row (List.mem_of_find?_eq_some hfind)
      obtain ⟨current, hcurrent, hsame⟩ := h.view_same hreview
      exact h.writeCheck hunfinished (by rw [hpoint]; rfl) ⟨current, hcurrent, hof.same hsame⟩
        (.inr rfl)

lemma TxOk.reopenReview (h : TxOk tables tx) (hpoint : tx.point = .reopenReview) :
    TxOk tables (tx.statement task tables) := by
  have hunfinished : tx.finished = false := by rw [ReviewTx.finished, hpoint]
  rw [ReviewTx.statement, hpoint]
  dsimp only
  cases hfilter : (tx.view tables).review.filter fun row => row.status ≠ .approved ∧
      row.organizationId = tx.context.orgId with
  | none => exact h.finish hunfinished
  | some review =>
      obtain ⟨hreview, -⟩ := Option.filter_eq_some_iff.mp hfilter
      refine h.writeReview ?_ ?_ rfl (fun hwrites => nomatch hwrites) (fun _ hseen => nomatch hseen)
        (fun _ => rfl) rfl
      · intro current hcurrent
        obtain rfl : review = current := Option.some.inj (hreview.symm.trans hcurrent)
        exact ⟨rfl, rfl⟩
      · intro happroved
        rw [ReviewRow.reopened] at happroved
        dsimp only at happroved
        split_ifs at happroved

lemma TxOk.loadReview (h : TxOk tables tx) {review : ReviewRow}
    (hpoint : tx.point = .loadReview review) : TxOk tables (tx.statement task tables) := by
  have hunfinished : tx.finished = false := by rw [ReviewTx.finished, hpoint]
  have hcheck : tx.check = none := h.unwritten (by rw [hpoint]; rfl)
  rw [ReviewTx.statement, hpoint]
  dsimp only
  cases hfilter : (tx.view tables).review.filter fun row =>
      row.organizationId = tx.context.orgId with
  | none => exact h.finish hunfinished
  | some loaded =>
      obtain ⟨hloaded, horg⟩ := Option.filter_eq_some_iff.mp hfilter
      refine h.goto hunfinished (fun happroves => nomatch happroves) (fun hwrites => nomatch hwrites)
        ?_ (absurd hcheck) (fun hfresh => nomatch hfresh)
      intro seen hseen
      obtain rfl : loaded = seen := Option.some.inj hseen
      exact ⟨of_decide_eq_true horg, loaded, hloaded, rfl, rfl⟩

/-- An approval that has read the checks has seen every committed one. -/
lemma TxOk.loadChecks (hok : TablesOk tables) (h : TxOk tables tx) {review loaded : ReviewRow}
    (hpoint : tx.point = .loadChecks review loaded) : TxOk tables (tx.statement task tables) := by
  have hunfinished : tx.finished = false := by rw [ReviewTx.finished, hpoint]
  have hcheck : tx.check = none := h.unwritten (by rw [hpoint]; rfl)
  obtain ⟨horg, current, hcurrent, hsame⟩ := h.seen loaded (by rw [hpoint]; rfl)
  rw [ReviewTx.statement, hpoint]
  dsimp only
  rw [view_checks_of_none hcheck]
  split_ifs with hremaining hstatus
  · exact h.finish hunfinished
  · refine h.goto hunfinished ?_ (fun hwrites => nomatch hwrites) (fun _ hseen => nomatch hseen)
      (absurd hcheck) (fun hfresh => nomatch hfresh)
    intro _ check hmem
    obtain ⟨committed, hcommitted, hof⟩ := hok.ofReview check hmem
    obtain ⟨viewed, hviewed, hsame'⟩ := h.view_same hcommitted
    obtain rfl : current = viewed := Option.some.inj (hcurrent.symm.trans hviewed)
    have hloaded := hof.same (hsame'.trans hsame.symm)
    by_contra hstate
    refine hremaining (List.any_eq_true.mpr ⟨check, hmem, decide_eq_true ⟨hloaded.1, ?_, hstate⟩⟩)
    exact hloaded.2.trans horg
  · exact h.finish hunfinished

lemma TxOk.approveReview (h : TxOk tables tx) {review : ReviewRow}
    (hpoint : tx.point = .approveReview review) : TxOk tables (tx.statement task tables) := by
  have hunfinished : tx.finished = false := by rw [ReviewTx.finished, hpoint]
  have hcheck : tx.check = none := h.unwritten (by rw [hpoint]; rfl)
  rw [ReviewTx.statement, hpoint]
  dsimp only
  cases hfilter : (tx.view tables).review.filter (approvable tx.context task.id review.id) with
  | none => exact h.finish hunfinished
  | some row =>
      obtain ⟨hrow, -⟩ := Option.filter_eq_some_iff.mp hfilter
      refine h.writeReview ?_ ?_ rfl (fun hwrites => nomatch hwrites) (fun _ hseen => nomatch hseen)
        (absurd hcheck) rfl
      · intro current hcurrent
        obtain rfl : row = current := Option.some.inj (hrow.symm.trans hcurrent)
        exact ⟨rfl, rfl⟩
      · refine fun _ => ⟨rfl, hcheck, h.approving ?_⟩
        rw [ReviewTx.approving, hpoint]
        rfl

/-- Every statement keeps the invariant of its transaction. -/
lemma TxOk.statement (hok : TablesOk tables) (h : TxOk tables tx) :
    TxOk tables (tx.statement task tables) := by
  cases hpoint : tx.point with
  | selectTask command =>
      have hunfinished : tx.finished = false := by rw [ReviewTx.finished, hpoint]
      have hreview : tx.review = none := h.fresh (by rw [hpoint]; rfl)
      have hcheck : tx.check = none := h.unwritten (by rw [hpoint]; rfl)
      rw [ReviewTx.statement, hpoint]
      dsimp only
      split_ifs
      · exact h.goto hunfinished (fun happroves => nomatch happroves)
          (fun hwrites => nomatch hwrites) (fun _ hseen => nomatch hseen) (absurd hcheck)
          (fun _ => hreview)
      · exact h.finish hunfinished
  | selectReview command => exact h.selectReview hpoint
  | insertReview command => exact h.insertReview hpoint
  | replay check review => exact h.replay hpoint
  | insertCheck check review => exact h.insertCheck hpoint
  | selectCheck checkId state => exact h.selectCheck hpoint
  | updateCheck checkId state => exact h.updateCheck hok hpoint
  | reopenReview => exact h.reopenReview hpoint
  | loadReview review => exact h.loadReview hpoint
  | loadChecks review loaded => exact h.loadChecks hok hpoint
  | approveReview review => exact h.approveReview hpoint
  | finish =>
      rw [ReviewTx.statement, hpoint]
      exact h
  | thrown =>
      rw [ReviewTx.statement, hpoint]
      exact h

/-! ### Commits -/

/-- Another transaction still sees the same review after a commit. -/
lemma TxOk.view_commit (h : TxOk tables tx) {current : ReviewRow}
    (hcurrent : (tx'.view tables).review = some current) :
    ∃ current', (tx'.view (tx.view tables)).review = some current' ∧
      SameReview current current' := by
  cases hown : tx'.review with
  | some own =>
      refine ⟨own, view_review_of_some hown, ?_⟩
      obtain rfl : own = current :=
        Option.some.inj ((view_review_of_some hown).symm.trans hcurrent)
      exact ⟨rfl, rfl⟩
  | none =>
      rw [view_review_of_none hown] at hcurrent ⊢
      exact h.view_same hcurrent

lemma TablesOk.commit (hok : TablesOk tables) (h : TxOk tables tx) : TablesOk (tx.view tables) := by
  refine ⟨?_, ?_⟩
  · intro check hcheck
    rcases mem_view_checks hcheck with hown | hold
    · exact h.ofReview check hown
    · obtain ⟨review, hreview, hof⟩ := hok.ofReview check hold
      obtain ⟨current, hcurrent, hsame⟩ := h.view_same hreview
      exact ⟨current, hcurrent, hof.same hsame⟩
  · intro review hreview happroved check hcheck
    cases hown : tx.review with
    | some own =>
        -- the transaction approves: it has written no check, and every committed one passes
        obtain rfl : own = review :=
          Option.some.inj ((view_review_of_some hown).symm.trans hreview)
        have happroving : tx.approving = true := by
          rw [ReviewTx.approving, Bool.or_eq_true, hown]
          exact .inr (decide_eq_true happroved)
        rcases mem_view_checks hcheck with hwritten | hold
        · have hapart := h.apart (by rw [hwritten]; exact Option.some_ne_none check)
          cases hapart.symm.trans happroving
        · exact h.approving happroving check hold
    | none =>
        -- the committed review is approved: no check that does not pass is written
        rw [view_review_of_none hown] at hreview
        rcases mem_view_checks hcheck with hwritten | hold
        · by_contra hstate
          refine h.writing ?_ review hreview happroved
          rw [ReviewTx.writing, Bool.or_eq_true, hwritten]
          exact .inr (decide_eq_true hstate)
        · exact hok.pass review hreview happroved check hold

lemma TxOk.others (h : TxOk tables tx) (h' : TxOk tables tx')
    (hconflict : reviewConflict tx tx' = false)
    (hlocks : ∀ lock ∈ tx.locks, lock ∉ tx'.locks) : TxOk (tx.view tables) tx' := by
  rw [reviewConflict, Bool.or_eq_false_iff] at hconflict
  refine ⟨?_, ?_, ?_, h'.locked, ?_, ?_, h'.late, h'.apart, h'.early, h'.fresh⟩
  · intro happroving check hcheck
    rcases mem_view_checks hcheck with hwritten | hold
    · by_contra hstate
      have hwriting : tx.writing = true := by
        rw [ReviewTx.writing, Bool.or_eq_true, hwritten]
        exact .inr (decide_eq_true hstate)
      rw [hwriting, happroving] at hconflict
      cases hconflict.1
    · exact h'.approving happroving check hold
  · intro hwriting review hreview happroved
    cases hown : tx.review with
    | none => exact h'.writing hwriting review ((view_review_of_none hown).symm.trans hreview) happroved
    | some own =>
        obtain rfl : own = review :=
          Option.some.inj ((view_review_of_some hown).symm.trans hreview)
        have happroving : tx.approving = true := by
          rw [ReviewTx.approving, Bool.or_eq_true, hown]
          exact .inr (decide_eq_true happroved)
        rw [happroving, hwriting] at hconflict
        cases hconflict.2
  · intro own review hown hreview
    have hlocked := h'.locked (by rw [hown]; exact Option.some_ne_none own)
    have hnone : tx.review = none := by
      by_contra hsome
      exact hlocks .review (h.locked hsome) hlocked
    exact h'.same own review hown ((view_review_of_none hnone).symm.trans hreview)
  · intro review hseen
    obtain ⟨horg, current, hcurrent, hsame⟩ := h'.seen review hseen
    obtain ⟨current', hcurrent', hsame'⟩ := h.view_commit hcurrent
    exact ⟨horg, current', hcurrent', hsame.trans hsame'⟩
  · intro check hcheck
    obtain ⟨current, hcurrent, hof⟩ := h'.ofReview check hcheck
    obtain ⟨current', hcurrent', hsame⟩ := h.view_commit hcurrent
    exact ⟨current', hcurrent', hof.same hsame⟩

lemma ReviewTx.initial_cases (h : tx.initial = true) :
    (tx.review = none ∧ tx.check = none) ∧ tx.point.writes = none ∧ tx.point.approves = false ∧
      tx.point.seen = none := by
  rw [ReviewTx.initial] at h
  split at h
  · rename_i command hpoint
    rw [hpoint]
    rw [Bool.and_eq_true, Option.isNone_iff_eq_none, Option.isNone_iff_eq_none] at h
    exact ⟨h, rfl, rfl, rfl⟩
  · rename_i checkId state hpoint
    rw [hpoint]
    rw [Bool.and_eq_true, Option.isNone_iff_eq_none, Option.isNone_iff_eq_none] at h
    exact ⟨h, rfl, rfl, rfl⟩
  · cases h

lemma TxOk.start (hinitial : tx.initial = true) : TxOk tables tx := by
  obtain ⟨⟨hreview, hcheck⟩, hwrites, happroves, hseen⟩ := ReviewTx.initial_cases hinitial
  refine ⟨?_, ?_, ?_, absurd hreview, ?_, ?_, absurd hcheck, absurd hcheck, ?_, fun _ => hreview⟩
  · intro happroving
    simp [ReviewTx.approving, happroves, hreview] at happroving
  · intro hwriting
    simp [ReviewTx.writing, hwrites, hcheck] at hwriting
  · intro own review hown
    cases hreview.symm.trans hown
  · intro review hseen'
    cases hseen.symm.trans hseen'
  · intro check hown
    cases hcheck.symm.trans hown
  · intro _ own hown
    cases hreview.symm.trans hown

/-- The invariant of the transactions on a task. -/
lemma review_invariant (task : TaskRow) :
    Invariant (reviewProgram task) reviewConflict TablesOk TxOk where
  start _ hinitial := TxOk.start hinitial
  statement hok htx _ := htx.statement hok
  commit hok htx _ := hok.commit htx
  others _ htx _ htx' hconflict hlocks := htx.others htx' hconflict hlocks

lemma TablesOk.empty : TablesOk .empty := ⟨nofun, nofun⟩

/-- **Approved reviews have only checks that pass**: in every run in which no approval
commits over a running write of a check that does not pass and is past its gate, and no
such write over a running approval that has read the checks. -/
theorem approved_checks_pass (task : TaskRow) {s : Running ReviewTables ReviewTx}
    (h : Run (reviewProgram task) reviewConflict (.idle .empty) s) : s.tables.ApprovedPass := by
  have hok := ((review_invariant task).run (.idle TablesOk.empty) h).tables
  exact fun review hreview happroved check hcheck _ => hok.pass review hreview happroved check hcheck

/-! ### The race -/

/-- The card. -/
def racedTask : TaskRow :=
  ⟨"task", "org", "ws", 1, "Title", "", .todo, .normal, none, [], 1, none, "manual", none, none,
    0, 0⟩

/-- The users of the card. -/
def racedContext : TaskContext := ⟨"org", "ws", "user"⟩

/-- What a transaction reads from outside. -/
def racedEnv (now : Timestamp) (newId : String) : TaskEnv :=
  ⟨now, newId, "review", "reviewer", .ok true, id⟩

/-- A check that passes is added. -/
def addPassing : ReviewTx :=
  .start racedContext (racedEnv 1 "check") false false
    (.selectTask (.add ⟨"Check", .human, .pass, "user", none⟩))

/-- The review is approved. -/
def approveRaced : ReviewTx :=
  .start racedContext (racedEnv 2 "unused") false false (.selectTask (.approve none))

/-- The check is toggled to `fail`. -/
def toggleFailing : ReviewTx :=
  .start racedContext (racedEnv 3 "unused") false false (.selectCheck "check" .fail)

/-- The check is added. -/
def addEvents : List (Event ReviewTx) :=
  [.start 0 addPassing, .statement 0, .statement 0, .statement 0, .statement 0, .statement 0,
    .commit 0]

/-- The approval has read the checks; the check is toggled, and the toggle committed; then
the approval goes on. -/
def raceEvents : List (Event ReviewTx) :=
  addEvents ++ [.start 1 approveRaced, .statement 1, .statement 1, .statement 1, .statement 1,
    .start 2 toggleFailing, .statement 2, .statement 2, .statement 2, .commit 2,
    .statement 1, .commit 1]

/-- The approval, alone. -/
def approveEvents : List (Event ReviewTx) :=
  addEvents ++ [.start 1 approveRaced, .statement 1, .statement 1, .statement 1, .statement 1,
    .statement 1, .commit 1]

/-- The tables after the race. -/
def racedTables : ReviewTables :=
  ⟨some ⟨"review", "org", "ws", "task", .approved, some "user", some 2, 1, 2⟩,
    [⟨"check", "review", "org", "ws", "task", "Check", .human, .fail, "user", none, 1, 3⟩]⟩

/-- The review is approved after a check has been added that passes. -/
theorem approved_checks_pass_approved :
    ((outcome (reviewProgram racedTask) reviewConflict 2 (.idle .empty)
      approveEvents).tables.review.map (·.status) = some .approved ∧
    (outcome (reviewProgram racedTask) reviewConflict 2 (.idle .empty)
      approveEvents).tables.checks ≠ []) ∧
    (outcome (reviewProgram racedTask) reviewConflict 2 (.idle .empty)
      approveEvents).tables.ApprovedPass := by
  obtain ⟨-, hrun⟩ := run_outcome (reviewProgram racedTask) reviewConflict approveEvents
    (.idle 2 .empty) (by decide)
  exact ⟨by decide, approved_checks_pass racedTask hrun⟩

/-- A check is toggled to `fail` while the review is approved: every transaction commits,
and the review is approved with a check that fails. -/
theorem approved_with_failing_check : ∃ s : Running ReviewTables ReviewTx,
    Run (reviewProgram racedTask) noConflict (.idle .empty) s ∧ (∀ p, s.txs p = none) ∧
      ¬ s.tables.ApprovedPass := by
  obtain ⟨hbounded, hrun⟩ := run_outcome (reviewProgram racedTask) noConflict raceEvents
    (.idle 3 .empty) (by decide)
  refine ⟨_, hrun, hbounded.all_none (by decide), ?_⟩
  intro hpass
  have htables : (outcome (reviewProgram racedTask) noConflict 3 (.idle .empty) raceEvents).tables =
    racedTables := by decide
  rw [htables] at hpass
  cases hpass _ rfl rfl _ List.mem_cons_self rfl

end Opzava.ProjectManagement
