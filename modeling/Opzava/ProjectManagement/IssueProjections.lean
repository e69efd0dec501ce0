import Opzava.ProjectManagement.IssueCreation

/-!
The projections of tracked issues over time.

* `Stores`: what storing an answer of the tracker does to the projections.
* `SnapshotStep`, `step_snapshot`: a step of the system, as far as the projections go. It is
  quiet, or takes an answer from the tracker, or stores an answer taken before.
* `projections_follow_answers`: a projection goes back in time only where an answer is
  stored over a later one.
-/

namespace Opzava.ProjectManagement

open Opzava.Library

/-! ### Storing an answer -/

/-- The key of the projection of an issue. -/
def TrackerIssue.key (issue : TrackerIssue) (workspaceId : String) : ProjectionKey :=
  (workspaceId, issue.ref.repository, issue.ref.number)

/-- The projections after an answer has been stored: the rows of its issues show them, the
others are as they were. -/
structure Stores (workspaceId : String) (issues : List TrackerIssue)
    (rows rows' : List IssueProjectionRow) : Prop where
  keeps : KeepsProjections rows rows'
  stored : ∀ row' ∈ rows', (row' ∈ rows ∧ ∀ issue ∈ issues, row'.key ≠ issue.key workspaceId) ∨
    ∃ issue ∈ issues, row'.key = issue.key workspaceId ∧ row'.updatedAt = issue.updatedAt

section Stores

variable {orgId workspaceId id : String} {issue : TrackerIssue} {syncedAt : Timestamp}
  {rows rows' : List IssueProjectionRow} {projection : IssueProjectionRow}

lemma upsert_stores (hrows : Projections rows)
    (h : upsertIssueProjection orgId workspaceId issue syncedAt id rows =
      some (projection, rows')) : Stores workspaceId [issue] rows rows' := by
  refine ⟨(upsert_spec hrows h).2.1, fun row' hrow' => ?_⟩
  rcases upsertIssueProjection_eq_some h with ⟨-, -, -, -, -, rfl⟩ | ⟨hnew, -, -, rfl⟩
  · rcases mem_updateWhere.mp hrow' with ⟨hold, hkey⟩ | ⟨old, -, hkey, rfl⟩
    · refine .inl ⟨hold, fun other hother => ?_⟩
      rw [List.mem_singleton.mp hother]
      exact of_decide_eq_false hkey
    · exact .inr ⟨issue, List.mem_cons_self, of_decide_eq_true hkey, rfl⟩
  · rcases List.mem_append.mp hrow' with hold | hsingle
    · refine .inl ⟨hold, fun other hother => ?_⟩
      rw [List.mem_singleton.mp hother]
      exact hnew row' hold
    · rw [List.mem_singleton.mp hsingle]
      exact .inr ⟨issue, List.mem_cons_self, rfl, rfl⟩

/-- A sync stores the answer it was given. -/
lemma sync_stores {issues : List TrackerIssue} {ids : List String} (hrows : Projections rows)
    (hlength : issues.length = ids.length)
    (h : syncTransaction orgId workspaceId syncedAt (issues.zip ids) rows = some rows') :
    Stores workspaceId issues rows rows' := by
  induction issues generalizing ids rows with
  | nil =>
      cases h
      exact ⟨.refl _, fun row' hrow' => .inl ⟨hrow', by simp⟩⟩
  | cons head rest ih =>
      cases ids with
      | nil => cases hlength
      | cons id ids =>
          rw [List.zip_cons_cons, syncTransaction] at h
          split at h
          · cases h
          · rename_i projection rows₁ hupsert
            have hfirst := upsert_stores hrows hupsert
            have hrest := ih (upsert_spec hrows hupsert).1 (Nat.succ.inj hlength) h
            refine ⟨hfirst.keeps.trans hrest.keeps, fun row' hrow' => ?_⟩
            rcases hrest.stored row' hrow' with ⟨hmid, hother⟩ | ⟨issue, hmem, hkey, hupdated⟩
            · rcases hfirst.stored row' hmid with ⟨hold, hhead⟩ | ⟨issue, hmem, hkey, hupdated⟩
              · refine .inl ⟨hold, fun issue hissue => ?_⟩
                rcases List.mem_cons.mp hissue with rfl | hrestMem
                · exact hhead issue List.mem_cons_self
                · exact hother issue hrestMem
              · rw [List.mem_singleton.mp hmem] at hkey hupdated
                exact .inr ⟨head, List.mem_cons_self, hkey, hupdated⟩
            · exact .inr ⟨issue, List.mem_cons_of_mem _ hmem, hkey, hupdated⟩

end Stores

/-! ### Answers under way -/

/-- An answer a call is about to store: its workspace, its place in the order of answers,
its issues. -/
structure Pending where
  workspaceId : String
  answeredAt : ℕ
  issues : List TrackerIssue

/-- The answer of a create call. -/
def CreateCall.pending (call : CreateCall) : Option Pending :=
  match call.phase with
  | .projecting _ answeredAt issue => some ⟨call.input.workspaceId, answeredAt, [issue]⟩
  | _ => none

/-- The answer of a sync. -/
def SyncCall.pending (call : SyncCall) : Option Pending :=
  match call.phase with
  | .saving answeredAt issues => some ⟨call.workspaceId, answeredAt, issues⟩
  | _ => none

/-- The answers under way, by create call and by sync. -/
def IssueSystem.pending (s : IssueSystem) : ℕ ⊕ ℕ → Option Pending
  | .inl p => (s.creates p).bind CreateCall.pending
  | .inr p => (s.syncs p).bind SyncCall.pending

/-- A step, as far as the projections go. -/
inductive SnapshotStep (s s' : IssueSystem) : Prop
  | quiet (projections : s'.db.projections = s.db.projections) (answers : s'.answers = s.answers)
      (clock : s'.clock = s.clock) (stored : s'.stored = s.stored)
      (pending : ∀ c answer, s'.pending c = some answer → s.pending c = some answer)
  | take (c : ℕ ⊕ ℕ) (workspaceId : String) (issues : List TrackerIssue)
      (projections : s'.db.projections = s.db.projections)
      (answers : s'.answers = s.answers ++ issues.map fun issue => (s.clock, issue))
      (clock : s'.clock = s.clock + 1) (stored : s'.stored = s.stored)
      (taken : s'.pending c = some ⟨workspaceId, s.clock, issues⟩)
      (others : ∀ d, d ≠ c → s'.pending d = s.pending d)
  | store (c : ℕ ⊕ ℕ) (answer : Pending) (pending : s.pending c = some answer)
      (projections : Stores answer.workspaceId answer.issues s.db.projections s'.db.projections)
      (answers : s'.answers = s.answers) (clock : s'.clock = s.clock)
      (stored : s'.stored = storeAnswer answer.workspaceId answer.answeredAt answer.issues s.stored)
      (done : s'.pending c = none) (others : ∀ d, d ≠ c → s'.pending d = s.pending d)

section Pending

variable (s : IssueSystem) {s' : IssueSystem} {p : ℕ}

lemma pending_create_self (call : CreateCall)
    (h : s'.creates = Function.update s.creates p (some call)) :
    s'.pending (.inl p) = call.pending := by
  rw [IssueSystem.pending, h, Function.update_self, Option.bind_some]

lemma pending_create_others (call : CreateCall)
    (h : s'.creates = Function.update s.creates p (some call)) (hsyncs : s'.syncs = s.syncs) :
    ∀ d, d ≠ .inl p → s'.pending d = s.pending d := by
  intro d hd
  cases d with
  | inl q =>
      have hq : q ≠ p := fun h => hd (congrArg Sum.inl h)
      rw [IssueSystem.pending, IssueSystem.pending, h, Function.update_of_ne hq]
  | inr q => rw [IssueSystem.pending, IssueSystem.pending, hsyncs]

lemma pending_sync_self (call : SyncCall)
    (h : s'.syncs = Function.update s.syncs p (some call)) :
    s'.pending (.inr p) = call.pending := by
  rw [IssueSystem.pending, h, Function.update_self, Option.bind_some]

lemma pending_sync_others (call : SyncCall)
    (h : s'.syncs = Function.update s.syncs p (some call)) (hcreates : s'.creates = s.creates) :
    ∀ d, d ≠ .inr p → s'.pending d = s.pending d := by
  intro d hd
  cases d with
  | inl q => rw [IssueSystem.pending, IssueSystem.pending, hcreates]
  | inr q =>
      have hq : q ≠ p := fun h => hd (congrArg Sum.inr h)
      rw [IssueSystem.pending, IssueSystem.pending, h, Function.update_of_ne hq]

variable {s}

/-- Nothing new is under way after a call that has nothing to store. -/
lemma pending_of_none {c : ℕ ⊕ ℕ} (hnone : s'.pending c = none)
    (hothers : ∀ d, d ≠ c → s'.pending d = s.pending d) :
    ∀ d answer, s'.pending d = some answer → s.pending d = some answer := by
  intro d answer hd
  by_cases hdc : d = c
  · rw [hdc, hnone] at hd
    cases hd
  · rw [← hothers d hdc]
    exact hd

/-- A create call that has nothing to store is quiet, if its transaction leaves the
projections alone. -/
lemma SnapshotStep.ofCreate {call : CreateCall}
    (hcreates : s'.creates = Function.update s.creates p (some call)) (hsyncs : s'.syncs = s.syncs)
    (hnone : call.pending = none) (hprojections : s'.db.projections = s.db.projections)
    (hanswers : s'.answers = s.answers) (hclock : s'.clock = s.clock)
    (hstored : s'.stored = s.stored) : SnapshotStep s s' := by
  have hself := pending_create_self s call hcreates
  exact .quiet hprojections hanswers hclock hstored
    (pending_of_none (hself.trans hnone) (pending_create_others s call hcreates hsyncs))

end Pending

/-- **The step, as far as the projections go**. -/
lemma step_snapshot {s s' : IssueSystem} (hs : IssueOk s) (h : IssueStep s s') :
    SnapshotStep s s' := by
  cases h with
  | startCreate p raw input prepared new => exact .ofCreate rfl rfl rfl rfl rfl rfl rfl
  | claim p input id now running committed =>
      rename_i claim db
      refine .ofCreate rfl rfl ?_ ?_ rfl rfl rfl
      · cases claim <;> rfl
      · rcases claimIssueCreateIntent_eq_some committed with ⟨-, -, rfl⟩ | ⟨-, -, rfl, -⟩ |
          ⟨-, -, -, -, -, rfl⟩ <;> rfl
  | claimFailed p input running => exact .ofCreate rfl rfl rfl rfl rfl rfl rfl
  | invoke p input claim running => exact .ofCreate rfl rfl rfl rfl rfl rfl rfl
  | answer p input claim issue running =>
      refine .take (.inl p) input.workspaceId [issue] rfl rfl rfl rfl ?_ ?_
      · exact pending_create_self s ⟨input, .projecting claim s.clock issue⟩ rfl
      · exact pending_create_others s ⟨input, .projecting claim s.clock issue⟩ rfl rfl
  | refuse p input claim failure running => exact .ofCreate rfl rfl rfl rfl rfl rfl rfl
  | project p input claim answeredAt issue syncedAt now id running committed =>
      rename_i projection db
      rw [projectTransaction] at committed
      split at committed
      · cases committed
      rename_i projections hupsert
      cases committed
      refine .store (.inl p) ⟨input.workspaceId, answeredAt, [issue]⟩ ?_
        (upsert_stores hs.projections hupsert) rfl rfl rfl ?_ ?_
      · rw [IssueSystem.pending, running]
        rfl
      · exact pending_create_self s ⟨input, .returned (.ok projection)⟩ rfl
      · exact pending_create_others s ⟨input, .returned (.ok projection)⟩ rfl rfl
  | projectFailed p input claim answeredAt issue message running =>
      exact .ofCreate rfl rfl rfl rfl rfl rfl rfl
  | mark p input claim message failure now running => exact .ofCreate rfl rfl rfl rfl rfl rfl rfl
  | markFailed p input claim message failure running =>
      exact .ofCreate rfl rfl rfl rfl rfl rfl rfl
  | startSync p orgId workspaceId new =>
      refine .quiet rfl rfl rfl rfl (pending_of_none (c := .inr p) ?_ ?_)
      · exact pending_sync_self s ⟨orgId, workspaceId, .listing⟩ rfl
      · exact pending_sync_others s ⟨orgId, workspaceId, .listing⟩ rfl rfl
  | list p orgId workspaceId issues running =>
      refine .take (.inr p) workspaceId issues rfl rfl rfl rfl ?_ ?_
      · exact pending_sync_self s ⟨orgId, workspaceId, .saving s.clock issues⟩ rfl
      · exact pending_sync_others s ⟨orgId, workspaceId, .saving s.clock issues⟩ rfl rfl
  | save p orgId workspaceId answeredAt issues syncedAt ids enough running committed =>
      refine .store (.inr p) ⟨workspaceId, answeredAt, issues⟩ ?_
        (sync_stores hs.projections enough committed) rfl rfl rfl ?_ ?_
      · rw [IssueSystem.pending, running]
        rfl
      · exact pending_sync_self s ⟨orgId, workspaceId, .returned⟩ rfl
      · exact pending_sync_others s ⟨orgId, workspaceId, .returned⟩ rfl rfl
  | syncFailed p orgId workspaceId phase running =>
      refine .quiet rfl rfl rfl rfl (pending_of_none (c := .inr p) ?_ ?_)
      · exact pending_sync_self s ⟨orgId, workspaceId, .returned⟩ rfl
      · exact pending_sync_others s ⟨orgId, workspaceId, .returned⟩ rfl rfl

/-! ### The invariant -/

/-- The projections, the answers stored in them, and the answers under way. -/
structure SnapshotOk (s : IssueSystem) : Prop where
  taken : ∀ c answer, s.pending c = some answer → answer.answeredAt < s.clock ∧
    ∀ issue ∈ answer.issues, (answer.answeredAt, issue) ∈ s.answers
  distinct : ∀ c d answer answer', s.pending c = some answer → s.pending d = some answer' →
    answer.answeredAt = answer'.answeredAt → c = d
  shown : ∀ row ∈ s.db.projections, ∃ issue, (s.stored row.key, issue) ∈ s.answers ∧
    row.key = issue.key row.workspaceId ∧ row.updatedAt = issue.updatedAt
  early : ∀ row ∈ s.db.projections, s.stored row.key < s.clock
  fresh : ∀ row ∈ s.db.projections, ∀ c answer, s.pending c = some answer →
    answer.answeredAt ≠ s.stored row.key

lemma SnapshotOk.empty : SnapshotOk IssueSystem.empty where
  taken := by
    intro c answer hc
    cases c <;> cases hc
  distinct := by
    intro c d answer answer' hc
    cases c <;> cases hc
  shown := by simp [IssueSystem.empty]
  early := by simp [IssueSystem.empty]
  fresh := by simp [IssueSystem.empty]

lemma storeAnswer_mem {workspaceId : String} {answeredAt : ℕ} {issues : List TrackerIssue}
    {stored : ProjectionKey → ℕ} {issue : TrackerIssue} (h : issue ∈ issues) :
    storeAnswer workspaceId answeredAt issues stored (issue.key workspaceId) = answeredAt :=
  if_pos ⟨issue, h, rfl⟩

lemma storeAnswer_not_mem {workspaceId : String} {answeredAt : ℕ} {issues : List TrackerIssue}
    {stored : ProjectionKey → ℕ} {key : ProjectionKey}
    (h : ∀ issue ∈ issues, key ≠ issue.key workspaceId) :
    storeAnswer workspaceId answeredAt issues stored key = stored key :=
  if_neg fun ⟨issue, hmem, hkey⟩ => h issue hmem hkey

lemma SnapshotOk.step {s s' : IssueSystem} (hs : SnapshotOk s) (h : SnapshotStep s s') :
    SnapshotOk s' := by
  cases h with
  | quiet projections answers clock stored pending =>
      constructor
      · intro c answer hc
        rw [clock, answers]
        exact hs.taken c answer (pending c answer hc)
      · intro c d answer answer' hc hd
        exact hs.distinct c d answer answer' (pending c answer hc) (pending d answer' hd)
      · rw [projections, stored, answers]
        exact hs.shown
      · rw [projections, stored, clock]
        exact hs.early
      · intro row hrow c answer hc
        rw [projections] at hrow
        rw [stored]
        exact hs.fresh row hrow c answer (pending c answer hc)
  | take c workspaceId issues projections answers clock stored taken others =>
      -- the new answer has the next place, which nobody has had before
      have hold : ∀ d answer, d ≠ c → s'.pending d = some answer → s.pending d = some answer :=
        fun d answer hd h => (others d hd).symm.trans h
      have hnew : ∀ answer, s'.pending c = some answer → answer = ⟨workspaceId, s.clock, issues⟩ :=
        fun answer h => Option.some.inj (h.symm.trans taken)
      constructor
      · intro d answer hd
        rw [clock, answers]
        by_cases hdc : d = c
        · rw [hnew answer (hdc ▸ hd)]
          refine ⟨Nat.lt_succ_self _, fun issue hissue => List.mem_append_right _ ?_⟩
          exact List.mem_map.mpr ⟨issue, hissue, rfl⟩
        · obtain ⟨hlt, hmem⟩ := hs.taken d answer (hold d answer hdc hd)
          exact ⟨Nat.lt_succ_of_lt hlt, fun issue hissue =>
            List.mem_append_left _ (hmem issue hissue)⟩
      · intro d e answer answer' hd he hsame
        by_cases hdc : d = c <;> by_cases hec : e = c
        · rw [hdc, hec]
        · have hlt := (hs.taken e answer' (hold e answer' hec he)).1
          rw [← hsame, hnew answer (hdc ▸ hd)] at hlt
          exact absurd hlt (lt_irrefl _)
        · have hlt := (hs.taken d answer (hold d answer hdc hd)).1
          rw [hsame, hnew answer' (hec ▸ he)] at hlt
          exact absurd hlt (lt_irrefl _)
        · exact hs.distinct d e answer answer' (hold d answer hdc hd) (hold e answer' hec he) hsame
      · rw [projections, stored, answers]
        intro row hrow
        obtain ⟨issue, hmem, hkey, hupdated⟩ := hs.shown row hrow
        exact ⟨issue, List.mem_append_left _ hmem, hkey, hupdated⟩
      · rw [projections, stored, clock]
        exact fun row hrow => Nat.lt_succ_of_lt (hs.early row hrow)
      · intro row hrow d answer hd
        rw [projections] at hrow
        rw [stored]
        by_cases hdc : d = c
        · rw [hnew answer (hdc ▸ hd)]
          exact (hs.early row hrow).ne'
        · exact hs.fresh row hrow d answer (hold d answer hdc hd)
  | store c answer pending projections answers clock stored done others =>
      have hold : ∀ d answer', s'.pending d = some answer' → d ≠ c ∧ s.pending d = some answer' := by
        intro d answer' hd
        by_cases hdc : d = c
        · rw [hdc, done] at hd
          cases hd
        · exact ⟨hdc, (others d hdc).symm.trans hd⟩
      obtain ⟨hlt, hmem⟩ := hs.taken c answer pending
      constructor
      · intro d answer' hd
        rw [clock, answers]
        exact hs.taken d answer' (hold d answer' hd).2
      · intro d e answer' answer'' hd he
        exact hs.distinct d e answer' answer'' (hold d answer' hd).2 (hold e answer'' he).2
      · intro row hrow
        rw [stored, answers]
        rcases projections.stored row hrow with ⟨hrowOld, hother⟩ | ⟨issue, hissue, hkey, hupdated⟩
        · rw [storeAnswer_not_mem hother]
          exact hs.shown row hrowOld
        · have hws : row.workspaceId = answer.workspaceId := congrArg Prod.fst hkey
          refine ⟨issue, ?_, hws ▸ hkey, hupdated⟩
          rw [hkey, storeAnswer_mem hissue]
          exact hmem issue hissue
      · intro row hrow
        rw [stored, clock]
        rcases projections.stored row hrow with ⟨hrowOld, hother⟩ | ⟨issue, hissue, hkey, -⟩
        · rw [storeAnswer_not_mem hother]
          exact hs.early row hrowOld
        · rw [hkey, storeAnswer_mem hissue]
          exact hlt
      · intro row hrow d answer' hd
        rw [stored]
        obtain ⟨hdc, hd'⟩ := hold d answer' hd
        rcases projections.stored row hrow with ⟨hrowOld, hother⟩ | ⟨issue, hissue, hkey, -⟩
        · rw [storeAnswer_not_mem hother]
          exact hs.fresh row hrowOld d answer' hd'
        · rw [hkey, storeAnswer_mem hissue]
          exact fun hsame => hdc (hs.distinct d c answer' answer hd' pending hsame)

lemma issueReachable_snapshotOk {s : IssueSystem} (h : IssueReachable s) : SnapshotOk s := by
  induction h with
  | refl => exact .empty
  | tail hreach hstep ih => exact ih.step (step_snapshot (issueReachable_ok hreach) hstep)

/-! ### Time -/

/-- From one answer of the tracker to a later one, no issue goes back in time. -/
def TrackerMonotone (answers : List (ℕ × TrackerIssue)) : Prop :=
  ∀ a ∈ answers, ∀ b ∈ answers, a.1 < b.1 → a.2.ref.repository = b.2.ref.repository →
    a.2.ref.number = b.2.ref.number → a.2.updatedAt ≤ b.2.updatedAt

lemma TrackerMonotone.mono {answers answers' : List (ℕ × TrackerIssue)}
    (h : TrackerMonotone answers') (hsub : answers ⊆ answers') : TrackerMonotone answers :=
  fun a ha b hb => h a (hsub ha) b (hsub hb)

/-- A step that stores no answer over a later one. -/
def InOrder (s s' : IssueSystem) : Prop :=
  ∀ row ∈ s.db.projections, s.stored row.key ≤ s'.stored row.key

lemma IssueStep.answers_subset {s s' : IssueSystem} (h : IssueStep s s') :
    s.answers ⊆ s'.answers := by
  cases h with
  | answer => exact List.subset_append_left _ _
  | list => exact List.subset_append_left _ _
  | _ => exact List.Subset.refl _

/-- A projection goes back in time only under an answer older than the one it shows. -/
lemma SnapshotOk.step_updatedAt {s s' : IssueSystem} (hs : SnapshotOk s)
    (hunique : Projections s.db.projections) (h : SnapshotStep s s')
    (htracker : TrackerMonotone s'.answers) {row : IssueProjectionRow}
    (hrow : row ∈ s.db.projections) :
    ∃ row' ∈ s'.db.projections, row'.key = row.key ∧
      (row.updatedAt ≤ row'.updatedAt ∨ s'.stored row.key < s.stored row.key) := by
  cases h with
  | quiet projections => exact ⟨row, projections ▸ hrow, rfl, .inl le_rfl⟩
  | take _ _ _ projections => exact ⟨row, projections ▸ hrow, rfl, .inl le_rfl⟩
  | store c answer pending projections answers clock stored done others =>
      obtain ⟨row', hrow', -, hkey, -⟩ := projections.keeps row hrow
      refine ⟨row', hrow', hkey, ?_⟩
      rcases projections.stored row' hrow' with ⟨hold, -⟩ | ⟨issue, hissue, hissueKey, hupdated⟩
      · rw [eq_of_unique hunique.keys hold hrow hkey]
        exact .inl le_rfl
      · have hstored : s'.stored row.key = answer.answeredAt := by
          rw [stored, ← hkey, hissueKey, storeAnswer_mem hissue]
        rw [hstored]
        rcases lt_trichotomy answer.answeredAt (s.stored row.key) with hlt | heq | hgt
        · exact .inr hlt
        · exact absurd heq (hs.fresh row hrow c answer pending)
        · obtain ⟨shown, hshown, hshownKey, hshownUpdated⟩ := hs.shown row hrow
          have hmem := (hs.taken c answer pending).2 issue hissue
          have hsame : shown.key row.workspaceId = issue.key answer.workspaceId :=
            hshownKey.symm.trans (hkey.symm.trans hissueKey)
          obtain ⟨-, href⟩ := Prod.ext_iff.mp hsame
          obtain ⟨hrepository, hnumber⟩ := Prod.ext_iff.mp href
          rw [← answers] at hshown hmem
          rw [hupdated, hshownUpdated]
          exact .inl (htracker _ hshown _ hmem hgt hrepository hnumber)

/-- **Projections follow the answers**: with a tracker whose issues never go back in
time, a projection does so only in a step that stores an answer older than the one it
shows; so it never does in a run that stores the answers in the order they were given. -/
theorem projections_follow_answers {s : IssueSystem} (h : IssueReachable s) :
    (∀ s', IssueStep s s' → TrackerMonotone s'.answers → ∀ row ∈ s.db.projections,
      ∃ row' ∈ s'.db.projections, row'.key = row.key ∧
        (row.updatedAt ≤ row'.updatedAt ∨ s'.stored row.key < s.stored row.key)) ∧
    ∀ s', Relation.ReflTransGen (fun a b => IssueStep a b ∧ InOrder a b) s s' →
      TrackerMonotone s'.answers → ∀ row ∈ s.db.projections,
      ∃ row' ∈ s'.db.projections, row'.key = row.key ∧ row.updatedAt ≤ row'.updatedAt := by
  have hone : ∀ t t', IssueReachable t → IssueStep t t' → TrackerMonotone t'.answers →
      ∀ row ∈ t.db.projections, ∃ row' ∈ t'.db.projections, row'.key = row.key ∧
        (row.updatedAt ≤ row'.updatedAt ∨ t'.stored row.key < t.stored row.key) := by
    intro t t' ht hstep htracker row hrow
    have hok := issueReachable_ok ht
    exact (issueReachable_snapshotOk ht).step_updatedAt hok.projections
      (step_snapshot hok hstep) htracker hrow
  refine ⟨fun s' hstep => hone s s' h hstep, fun s' hrun htracker row hrow => ?_⟩
  suffices hboth : IssueReachable s' ∧ ∃ row' ∈ s'.db.projections, row'.key = row.key ∧
      row.updatedAt ≤ row'.updatedAt from hboth.2
  induction hrun with
  | refl => exact ⟨h, row, hrow, rfl, le_rfl⟩
  | tail _ hlast ih =>
      obtain ⟨hstep, horder⟩ := hlast
      obtain ⟨hreach, row₁, hrow₁, hkey₁, hle₁⟩ := ih (htracker.mono hstep.answers_subset)
      obtain ⟨row₂, hrow₂, hkey₂, hcase⟩ := hone _ _ hreach hstep htracker row₁ hrow₁
      refine ⟨hreach.tail hstep, row₂, hrow₂, hkey₂.trans hkey₁, ?_⟩
      rcases hcase with hle₂ | hback
      · exact hle₁.trans hle₂
      · exact absurd hback (not_lt_of_ge (horder row₁ hrow₁))

/-! ### Two overlapping syncs -/

namespace SyncSample

/-- The issue, open. -/
def opened : TrackerIssue := IssueSample.issue

/-- The issue later, closed. -/
def closed : TrackerIssue := { opened with state := .closed, updatedAt := 20 }

/-- Both syncs have started. -/
def started : IssueSystem :=
  (IssueSystem.empty.setSync 0 "organization" "workspace" .listing).setSync 1 "organization"
    "workspace" .listing

/-- The first sync has listed the issue. -/
def listedFirst : IssueSystem :=
  { started.setSync 0 "organization" "workspace" (.saving 0 [opened]) with
    answers := [(0, opened)]
    clock := 1 }

/-- The issue has been closed, and the second sync has listed it. -/
def listed : IssueSystem :=
  { listedFirst.setSync 1 "organization" "workspace" (.saving 1 [closed]) with
    answers := [(0, opened), (1, closed)]
    clock := 2 }

/-- The projection of one of the two answers. -/
def row (issue : TrackerIssue) : IssueProjectionRow :=
  issue.row "organization" "workspace" "projection" 30

/-- A sync has stored its answer. -/
def savedBy (s : IssueSystem) (p answeredAt : ℕ) (issue : TrackerIssue) : IssueSystem :=
  { s.setSync p "organization" "workspace" .returned with
    db := ⟨s.db.intents, [row issue]⟩
    stored := storeAnswer "workspace" answeredAt [issue] s.stored }

lemma reachable_listed : IssueReachable listed := by
  have hstart := (Relation.ReflTransGen.single
    (IssueStep.startSync IssueSystem.empty 0 "organization" "workspace" rfl)).tail
    (.startSync _ 1 "organization" "workspace" rfl)
  have hfirst : IssueStep started listedFirst :=
    .list _ 0 "organization" "workspace" [opened] rfl
  have hsecond : IssueStep listedFirst listed :=
    .list _ 1 "organization" "workspace" [closed] rfl
  exact (hstart.tail hfirst).tail hsecond

lemma step_saved {s : IssueSystem} {p answeredAt : ℕ} {issue : TrackerIssue}
    (hrun : s.syncs p = some ⟨"organization", "workspace", .saving answeredAt [issue]⟩)
    (hrows : syncTransaction "organization" "workspace" 30 [(issue, "projection")]
      s.db.projections = some [row issue]) : IssueStep s (savedBy s p answeredAt issue) :=
  .save s p "organization" "workspace" answeredAt [issue] 30 ["projection"] rfl hrun hrows

/-- The first sync stores its answer first. -/
def firstSaved : IssueSystem := savedBy listed 0 0 opened

/-- The second sync stores its answer first. -/
def secondSaved : IssueSystem := savedBy listed 1 1 closed

lemma reachable_firstSaved : IssueReachable firstSaved :=
  reachable_listed.tail (step_saved rfl (by decide))

lemma reachable_secondSaved : IssueReachable secondSaved :=
  reachable_listed.tail (step_saved rfl (by decide))

lemma trackerMonotone_listed : TrackerMonotone listed.answers := by
  unfold TrackerMonotone
  decide

end SyncSample

open SyncSample

/-- With the answers stored in order, the projection shows the issue at its later time. -/
theorem projections_follow_answers_listed :
    ∃ row' ∈ (savedBy firstSaved 1 1 closed).db.projections,
      row'.key = (row opened).key ∧ (row opened).updatedAt ≤ row'.updatedAt := by
  have hlast : IssueStep firstSaved (savedBy firstSaved 1 1 closed) :=
    step_saved rfl (by decide)
  have horder : InOrder firstSaved (savedBy firstSaved 1 1 closed) := by
    unfold InOrder
    decide
  exact (projections_follow_answers reachable_firstSaved).2 _ (.single ⟨hlast, horder⟩)
    trackerMonotone_listed _ List.mem_cons_self

/-- Nothing orders the transactions of two syncs: the first sync may store its answer
last, and the closed issue is open again. -/
theorem not_projections_monotone :
    ¬∀ s s', IssueReachable s → IssueStep s s' → TrackerMonotone s'.answers →
      ∀ row ∈ s.db.projections, ∀ row' ∈ s'.db.projections, row'.key = row.key →
        row.updatedAt ≤ row'.updatedAt := by
  intro h
  have hlast : IssueStep secondSaved (savedBy secondSaved 0 0 opened) :=
    step_saved rfl (by decide)
  have hle := h _ _ reachable_secondSaved hlast trackerMonotone_listed (row closed)
    List.mem_cons_self (row opened) List.mem_cons_self rfl
  exact absurd hle (by decide)

end Opzava.ProjectManagement
