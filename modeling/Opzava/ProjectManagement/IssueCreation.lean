import Opzava.ProjectManagement.Issues

/-!
Issue creation is at most once per idempotency key.

* `Projections`, `upsert_spec`, `sync_spec`: what an upsert does to the projections.
* `CallOk`: what a running or returned `createTrackedIssue` call relies on.
* `IssueOk`: the invariant; `issue_created_once`: one call of `createIssue` a key, one
  transition an intent, one issue for everybody.
-/

namespace Opzava.ProjectManagement

open Opzava.Library

/-! ### Projections -/

/-- Ids and keys are unique. -/
structure Projections (rows : List IssueProjectionRow) : Prop where
  ids : (rows.map (·.id)).Nodup
  keys : (rows.map (·.key)).Nodup

/-- Every projection is still there, under its id and its key. -/
def KeepsProjections (rows rows' : List IssueProjectionRow) : Prop :=
  ∀ row ∈ rows, ∃ row' ∈ rows', row'.id = row.id ∧ row'.key = row.key ∧
    row'.organizationId = row.organizationId

lemma KeepsProjections.refl (rows : List IssueProjectionRow) : KeepsProjections rows rows :=
  fun row hrow => ⟨row, hrow, rfl, rfl, rfl⟩

lemma KeepsProjections.trans {rows₁ rows₂ rows₃ : List IssueProjectionRow}
    (h : KeepsProjections rows₁ rows₂) (h' : KeepsProjections rows₂ rows₃) :
    KeepsProjections rows₁ rows₃ := by
  intro row hrow
  obtain ⟨row', hrow', hid, hkey, horg⟩ := h row hrow
  obtain ⟨row'', hrow'', hid', hkey', horg'⟩ := h' row' hrow'
  exact ⟨row'', hrow'', hid'.trans hid, hkey'.trans hkey, horg'.trans horg⟩

section Upsert

variable {orgId workspaceId id : String} {issue : TrackerIssue} {syncedAt : Timestamp}
  {rows rows' : List IssueProjectionRow} {projection : IssueProjectionRow}

/-- The two ways an upsert succeeds. -/
lemma upsertIssueProjection_eq_some
    (h : upsertIssueProjection orgId workspaceId issue syncedAt id rows =
      some (projection, rows')) :
    (∃ existing ∈ rows, existing.key = (workspaceId, issue.ref.repository, issue.ref.number) ∧
      existing.organizationId = orgId ∧ projection = issue.over syncedAt existing ∧
      rows' = updateWhere
        (fun row => row.key = (workspaceId, issue.ref.repository, issue.ref.number))
        (issue.over syncedAt) rows) ∨
    ((∀ row ∈ rows, row.key ≠ (workspaceId, issue.ref.repository, issue.ref.number)) ∧
      id ∉ rows.map (·.id) ∧ projection = issue.row orgId workspaceId id syncedAt ∧
      rows' = rows ++ [issue.row orgId workspaceId id syncedAt]) := by
  rw [upsertIssueProjection] at h
  split at h
  · cases h
  cases hfind : rows.find? fun row =>
      row.key = (workspaceId, issue.ref.repository, issue.ref.number) with
  | some existing =>
      simp only [hfind] at h
      split_ifs at h with horg
      cases h
      have hkey := List.find?_some hfind
      exact .inl ⟨existing, List.mem_of_find?_eq_some hfind, of_decide_eq_true hkey, horg, rfl, rfl⟩
  | none =>
      simp only [hfind] at h
      split_ifs at h with hid
      cases h
      refine .inr ⟨fun row hrow hkey => ?_, hid, rfl, rfl⟩
      exact List.find?_eq_none.mp hfind row hrow (decide_eq_true hkey)

/-- **An upsert** keeps ids and keys unique, keeps every projection, and returns the row
of its issue. -/
lemma upsert_spec (hrows : Projections rows)
    (h : upsertIssueProjection orgId workspaceId issue syncedAt id rows =
      some (projection, rows')) :
    Projections rows' ∧ KeepsProjections rows rows' ∧ projection ∈ rows' ∧
      projection.key = (workspaceId, issue.ref.repository, issue.ref.number) ∧
      projection.organizationId = orgId ∧ projection.updatedAt = issue.updatedAt := by
  rcases upsertIssueProjection_eq_some h with ⟨existing, hmem, hkey, horg, rfl, rfl⟩ |
    ⟨hnew, hid, rfl, rfl⟩
  · have hids : (updateWhere (fun row => decide (row.key =
        (workspaceId, issue.ref.repository, issue.ref.number))) (issue.over syncedAt) rows).map
        (·.id) = rows.map (·.id) := map_updateWhere _ fun _ => rfl
    have hkeys : (updateWhere (fun row => decide (row.key =
        (workspaceId, issue.ref.repository, issue.ref.number))) (issue.over syncedAt) rows).map
        (·.key) = rows.map (·.key) := map_updateWhere _ fun _ => rfl
    refine ⟨⟨hids ▸ hrows.ids, hkeys ▸ hrows.keys⟩, ?_, ?_, hkey, horg, rfl⟩
    · intro row hrow
      by_cases hcond : row.key = (workspaceId, issue.ref.repository, issue.ref.number)
      · exact ⟨_, mem_updateWhere.mpr (.inr ⟨row, hrow, decide_eq_true hcond, rfl⟩), rfl, rfl, rfl⟩
      · exact ⟨row, mem_updateWhere.mpr (.inl ⟨hrow, decide_eq_false hcond⟩), rfl, rfl, rfl⟩
    · exact mem_updateWhere.mpr (.inr ⟨existing, hmem, decide_eq_true hkey, rfl⟩)
  · refine ⟨⟨?_, ?_⟩, ?_, List.mem_append_right _ List.mem_cons_self, rfl, rfl, rfl⟩
    · rw [List.map_append]
      refine hrows.ids.append (List.nodup_singleton _) fun id' hold hsingle => ?_
      rw [List.mem_singleton.mp hsingle] at hold
      exact hid hold
    · rw [List.map_append]
      refine hrows.keys.append (List.nodup_singleton _) fun key hold hsingle => ?_
      obtain ⟨row, hrow, rfl⟩ := List.mem_map.mp hold
      exact hnew row hrow (List.mem_singleton.mp hsingle)
    · intro row hrow
      exact ⟨row, List.mem_append_left _ hrow, rfl, rfl, rfl⟩

/-- A sync keeps ids and keys unique and keeps every projection. -/
lemma sync_spec {issues : List (TrackerIssue × String)} (hrows : Projections rows)
    (h : syncTransaction orgId workspaceId syncedAt issues rows = some rows') :
    Projections rows' ∧ KeepsProjections rows rows' := by
  induction issues generalizing rows with
  | nil =>
      cases h
      exact ⟨hrows, .refl _⟩
  | cons head rest ih =>
      rw [syncTransaction] at h
      split at h
      · cases h
      · rename_i projection rows₁ hupsert
        obtain ⟨hrows₁, hkeeps, -⟩ := upsert_spec hrows hupsert
        obtain ⟨hrows', hkeeps'⟩ := ih hrows₁ h
        exact ⟨hrows', hkeeps.trans hkeeps'⟩

end Upsert

/-! ### The invariant -/

/-- The claim a call carries along. -/
def CreatePhase.claim : CreatePhase → Option IntentClaim
  | .calling claim => some claim
  | .waiting claim => some claim
  | .projecting claim _ _ => some claim
  | .marking claim _ _ => some claim
  | _ => none

/-- An invocation for the workspace and the key. -/
def Invocation.isFor (workspaceId key : String) (invocation : Invocation) : Bool :=
  invocation.workspaceId = workspaceId ∧ invocation.key = some key

/-- The workspace and the key of an invocation that has a key. -/
def Invocation.intent (invocation : Invocation) : Option (String × String) :=
  invocation.key.map fun key => (invocation.workspaceId, key)

/-- The projection is the projection of an issue created for the workspace and the key. -/
def ProjectionOf (created : List (Invocation × TrackerIssue)) (workspaceId key : String)
    (projection : IssueProjectionRow) : Prop :=
  ∃ invocation issue, (invocation, issue) ∈ created ∧ invocation.isFor workspaceId key = true ∧
    projection.key = (workspaceId, issue.ref.repository, issue.ref.number)

/-- A call has delivered the projection behind the intent of its key. -/
def Delivered (db : IssueDb) (created : List (Invocation × TrackerIssue))
    (workspaceId key : String) (projection : IssueProjectionRow) : Prop :=
  (∃ intent ∈ db.intents, intent.workspaceId = workspaceId ∧ intent.idempotencyKey = key ∧
      intent.state = .succeeded ∧ intent.issueProjectionId = some projection.id) ∧
    (∃ row ∈ db.projections, row.id = projection.id ∧ row.key = projection.key) ∧
    ProjectionOf created workspaceId key projection

/-- The intent a call holds. -/
structure Holds (input : PreparedCreate) (key id : String) (row : IntentRow) : Prop where
  id : row.id = id
  organizationId : row.organizationId = input.orgId
  workspaceId : row.workspaceId = input.workspaceId
  key : row.idempotencyKey = key
  processing : row.state = .processing

/-- What a call relies on. -/
structure CallOk (db : IssueDb) (invocations : List Invocation)
    (created : List (Invocation × TrackerIssue)) (p : ℕ) (call : CreateCall) : Prop where
  unkeyed : call.input.key = none → ∀ claim, call.phase.claim = some claim → claim = .none
  holder : ∀ key claim, call.input.key = some key → call.phase.claim = some claim →
    ∃ id, claim = .claimed id ∧ ∃ row ∈ db.intents, Holds call.input key id row
  uninvoked : ∀ key claim, call.input.key = some key → call.phase = .calling claim →
    ∀ invocation ∈ invocations, invocation.isFor call.input.workspaceId key = false
  unanswered : ∀ key claim, call.input.key = some key →
    call.phase = .calling claim ∨ call.phase = .waiting claim →
    ∀ entry ∈ created, entry.1.isFor call.input.workspaceId key = false
  invoked : ∀ claim, call.phase = .waiting claim → call.input.invocation p ∈ invocations
  answered : ∀ claim answeredAt issue, call.phase = .projecting claim answeredAt issue →
    (call.input.invocation p, issue) ∈ created
  returned : ∀ key projection, call.input.key = some key →
    call.phase = .returned (.ok projection) →
    Delivered db created call.input.workspaceId key projection

/-- The invariant of the system. -/
structure IssueOk (s : IssueSystem) : Prop where
  intentIds : (s.db.intents.map (·.id)).Nodup
  intentKeys : (s.db.intents.map fun row => (row.workspaceId, row.idempotencyKey)).Nodup
  projections : Projections s.db.projections
  calls : ∀ p call, s.creates p = some call → CallOk s.db s.invocations s.created p call
  owner : ∀ p q call call' id, s.creates p = some call → s.creates q = some call' →
    call.phase.claim = some (.claimed id) → call'.phase.claim = some (.claimed id) → p = q
  recorded : ∀ invocation ∈ s.invocations, ∀ key, invocation.key = some key →
    ∃ row ∈ s.db.intents, row.workspaceId = invocation.workspaceId ∧ row.idempotencyKey = key
  once : (s.invocations.filterMap (·.intent)).Nodup
  answers : ∀ entry ∈ s.created, entry.1 ∈ s.invocations
  answeredOnce : (s.created.filterMap (·.1.intent)).Nodup
  succeeded : ∀ row ∈ s.db.intents, row.state = .succeeded →
    ∃ projection ∈ s.db.projections, row.issueProjectionId = some projection.id ∧
      ProjectionOf s.created row.workspaceId row.idempotencyKey projection

lemma IssueOk.empty : IssueOk IssueSystem.empty where
  intentIds := List.nodup_nil
  intentKeys := List.nodup_nil
  projections := ⟨List.nodup_nil, List.nodup_nil⟩
  calls := by simp [IssueSystem.empty]
  owner := by simp [IssueSystem.empty]
  recorded := by simp [IssueSystem.empty]
  once := List.nodup_nil
  answers := by simp [IssueSystem.empty]
  answeredOnce := List.nodup_nil
  succeeded := by simp [IssueSystem.empty]

/-! ### What keeps the invariant -/

namespace IssueSystem

variable {s : IssueSystem} {p q : ℕ} {input : PreparedCreate} {phase : CreatePhase}
  {call : CreateCall}

lemma setCreate_creates (h : (s.setCreate p input phase).creates q = some call) :
    (q = p ∧ call = ⟨input, phase⟩) ∨ (q ≠ p ∧ s.creates q = some call) := by
  have h' : Function.update s.creates p (some ⟨input, phase⟩) q = some call := h
  rw [Function.update_apply] at h'
  split_ifs at h' with hq
  · exact .inl ⟨hq, (Option.some.inj h').symm⟩
  · exact .inr ⟨hq, h'⟩

end IssueSystem

/-- A call that has not claimed anything, or has returned an error, relies on nothing. -/
lemma CallOk.idle {db : IssueDb} {invocations : List Invocation}
    {created : List (Invocation × TrackerIssue)} {p : ℕ} {input : PreparedCreate}
    {phase : CreatePhase} (h : phase = .claiming ∨ ∃ failure, phase = .returned (.error failure)) :
    CallOk db invocations created p ⟨input, phase⟩ := by
  rcases h with rfl | ⟨failure, rfl⟩ <;>
  exact
    { unkeyed := by simp [CreatePhase.claim]
      holder := by simp [CreatePhase.claim]
      uninvoked := by simp
      unanswered := by simp
      invoked := by simp
      answered := by simp
      returned := by simp }

namespace IssueOk

variable {s : IssueSystem} {p : ℕ} {input : PreparedCreate} {phase : CreatePhase}

/-- A call may move to a phase it is ready for, if nobody else holds its intent. -/
lemma move (hs : IssueOk s) (hcall : CallOk s.db s.invocations s.created p ⟨input, phase⟩)
    (hown : ∀ id q call, phase.claim = some (.claimed id) → s.creates q = some call →
      call.phase.claim = some (.claimed id) → q = p) :
    IssueOk (s.setCreate p input phase) :=
  { hs with
    calls := by
      intro q call hq
      rcases IssueSystem.setCreate_creates hq with ⟨rfl, rfl⟩ | ⟨-, hq⟩
      · exact hcall
      · exact hs.calls q call hq
    owner := by
      intro q r call call' id hq hr hclaim hclaim'
      rcases IssueSystem.setCreate_creates hq with ⟨rfl, rfl⟩ | ⟨-, hq'⟩
      · rcases IssueSystem.setCreate_creates hr with ⟨rfl, -⟩ | ⟨-, hr'⟩
        · rfl
        · exact (hown id r call' hclaim hr' hclaim').symm
      · rcases IssueSystem.setCreate_creates hr with ⟨rfl, rfl⟩ | ⟨-, hr'⟩
        · exact hown id q call hclaim' hq' hclaim
        · exact hs.owner q r call call' id hq' hr' hclaim hclaim' }

/-- A call may always give up. -/
lemma idle (hs : IssueOk s) (h : phase = .claiming ∨ ∃ failure, phase = .returned (.error failure)) :
    IssueOk (s.setCreate p input phase) := by
  refine hs.move (.idle h) fun id q call hclaim => ?_
  rcases h with rfl | ⟨failure, rfl⟩ <;> cases hclaim

/-- A call may move on with the claim it has. -/
lemma advance {old : CreatePhase} (hs : IssueOk s) (hrun : s.creates p = some ⟨input, old⟩)
    (hclaim : phase.claim = old.claim)
    (hcall : CallOk s.db s.invocations s.created p ⟨input, phase⟩) :
    IssueOk (s.setCreate p input phase) :=
  hs.move hcall fun id q call hid hq hid' =>
    hs.owner q p call _ id hq hrun hid' (hclaim ▸ hid)

end IssueOk

/-- What a transaction keeps of the tables: ids and keys stay unique, an intent that is
held or has succeeded stays as it is, no intent and no projection goes away, and an intent
that has succeeded has its projection. -/
structure KeepsTables (s : IssueSystem) (db : IssueDb) : Prop where
  intentIds : (db.intents.map (·.id)).Nodup
  intentKeys : (db.intents.map fun row => (row.workspaceId, row.idempotencyKey)).Nodup
  projections : Projections db.projections
  held : ∀ row ∈ s.db.intents, ∀ q call, s.creates q = some call →
    call.phase.claim = some (.claimed row.id) → row ∈ db.intents
  done : ∀ row ∈ s.db.intents, row.state = .succeeded → row ∈ db.intents
  recorded : ∀ row ∈ s.db.intents, ∃ row' ∈ db.intents, row'.workspaceId = row.workspaceId ∧
    row'.idempotencyKey = row.idempotencyKey
  keeps : KeepsProjections s.db.projections db.projections
  succeeded : ∀ row ∈ db.intents, row.state = .succeeded → row ∈ s.db.intents ∨
    ∃ projection ∈ db.projections, row.issueProjectionId = some projection.id ∧
      ProjectionOf s.created row.workspaceId row.idempotencyKey projection

lemma Delivered.mono {s : IssueSystem} {db : IssueDb} {workspaceId key : String}
    {projection : IssueProjectionRow} (hdb : KeepsTables s db)
    (h : Delivered s.db s.created workspaceId key projection) :
    Delivered db s.created workspaceId key projection := by
  obtain ⟨⟨intent, hintent, hws, hkey, hstate, hid⟩, ⟨row, hrow, hrowId, hrowKey⟩, hof⟩ := h
  obtain ⟨row', hrow', hid', hkey', -⟩ := hdb.keeps row hrow
  exact ⟨⟨intent, hdb.done intent hintent hstate, hws, hkey, hstate, hid⟩,
    ⟨row', hrow', hid'.trans hrowId, hkey'.trans hrowKey⟩, hof⟩

/-- **A transaction** that keeps the tables keeps the invariant. -/
lemma IssueOk.tables {s : IssueSystem} {db : IssueDb} (hs : IssueOk s) (hdb : KeepsTables s db) :
    IssueOk { s with db := db } :=
  { hs with
    intentIds := hdb.intentIds
    intentKeys := hdb.intentKeys
    projections := hdb.projections
    calls := by
      intro q call hq
      have hcall := hs.calls q call hq
      refine { hcall with holder := ?_, returned := ?_ }
      · intro key claim hkey hclaim
        obtain ⟨id, rfl, row, hrow, hholds⟩ := hcall.holder key claim hkey hclaim
        exact ⟨id, rfl, row, hdb.held row hrow q call hq (hholds.id ▸ hclaim), hholds⟩
      · intro key projection hkey hphase
        have hdelivered := Delivered.mono hdb (hcall.returned key projection hkey hphase)
        exact hdelivered
    recorded := by
      intro invocation hmem key hkey
      obtain ⟨row, hrow, hws, hrowKey⟩ := hs.recorded invocation hmem key hkey
      obtain ⟨row', hrow', hws', hkey'⟩ := hdb.recorded row hrow
      exact ⟨row', hrow', hws'.trans hws, hkey'.trans hrowKey⟩
    succeeded := by
      intro row hrow hstate
      rcases hdb.succeeded row hrow hstate with hold | hnew
      · obtain ⟨projection, hmem, hid, hof⟩ := hs.succeeded row hold hstate
        obtain ⟨projection', hmem', hid', hkey', -⟩ := hdb.keeps projection hmem
        obtain ⟨invocation, issue, hentry, hfor, hkey⟩ := hof
        exact ⟨projection', hmem', hid' ▸ hid, invocation, issue, hentry, hfor, hkey'.trans hkey⟩
      · exact hnew }

/-- An invocation for the workspace and the key, by the pair it is recorded under. -/
lemma Invocation.isFor_iff {workspaceId key : String} {invocation : Invocation} :
    invocation.isFor workspaceId key = true ↔ invocation.intent = some (workspaceId, key) := by
  rw [isFor, intent, decide_eq_true_iff, Option.map_eq_some_iff]
  constructor
  · rintro ⟨rfl, hkey⟩
    exact ⟨key, hkey, rfl⟩
  · rintro ⟨key', hkey, heq⟩
    cases heq
    exact ⟨rfl, hkey⟩

/-- **An invocation** for an intent that is recorded and that nobody is about to invoke
for, or has invoked for, keeps the invariant. -/
lemma IssueOk.logInvocation {s : IssueSystem} (hs : IssueOk s) (invocation : Invocation)
    (hrecorded : ∀ key, invocation.key = some key → ∃ row ∈ s.db.intents,
      row.workspaceId = invocation.workspaceId ∧ row.idempotencyKey = key)
    (hnew : ∀ key, invocation.key = some key → ∀ other ∈ s.invocations,
      other.isFor invocation.workspaceId key = false)
    (hcalling : ∀ q call key claim, s.creates q = some call → call.phase = .calling claim →
      call.input.key = some key → invocation.isFor call.input.workspaceId key = false) :
    IssueOk { s with invocations := s.invocations ++ [invocation] } :=
  { hs with
    calls := by
      intro q call hq
      have hcall := hs.calls q call hq
      refine { hcall with uninvoked := ?_, invoked := ?_ }
      · intro key claim hkey hphase other hother
        rcases List.mem_append.mp hother with hold | hsingle
        · exact hcall.uninvoked key claim hkey hphase other hold
        · rw [List.mem_singleton.mp hsingle]
          exact hcalling q call key claim hq hphase hkey
      · intro claim hphase
        exact List.mem_append_left _ (hcall.invoked claim hphase)
    recorded := by
      intro other hother key hkey
      rcases List.mem_append.mp hother with hold | hsingle
      · exact hs.recorded other hold key hkey
      · rw [List.mem_singleton.mp hsingle] at hkey ⊢
        exact hrecorded key hkey
    once := by
      refine nodup_filterMap_append hs.once fun pair hpair other hother hsame => ?_
      obtain ⟨key, hkey, rfl⟩ := Option.map_eq_some_iff.mp hpair
      have hfor := Invocation.isFor_iff.mpr hsame
      rw [hnew key hkey other hother] at hfor
      exact Bool.false_ne_true hfor
    answers := fun entry hentry => List.mem_append_left _ (hs.answers entry hentry) }

lemma ProjectionOf.mono {created created' : List (Invocation × TrackerIssue)}
    {workspaceId key : String} {projection : IssueProjectionRow} (hsub : created ⊆ created')
    (h : ProjectionOf created workspaceId key projection) :
    ProjectionOf created' workspaceId key projection := by
  obtain ⟨invocation, issue, hmem, hfor, hkey⟩ := h
  exact ⟨invocation, issue, hsub hmem, hfor, hkey⟩

/-- **An answer** to an invocation that has none yet keeps the invariant. -/
lemma IssueOk.logAnswer {s : IssueSystem} (hs : IssueOk s) (invocation : Invocation)
    (issue : TrackerIssue) (hinvoked : invocation ∈ s.invocations)
    (hnew : ∀ key, invocation.key = some key → ∀ entry ∈ s.created,
      entry.1.isFor invocation.workspaceId key = false)
    (hwaiting : ∀ q call key claim, s.creates q = some call →
      call.phase = .calling claim ∨ call.phase = .waiting claim → call.input.key = some key →
      invocation.isFor call.input.workspaceId key = false) :
    IssueOk { s with created := s.created ++ [(invocation, issue)] } :=
  { hs with
    calls := by
      intro q call hq
      have hcall := hs.calls q call hq
      refine { hcall with unanswered := ?_, answered := ?_, returned := ?_ }
      · intro key claim hkey hphase entry hentry
        rcases List.mem_append.mp hentry with hold | hsingle
        · exact hcall.unanswered key claim hkey hphase entry hold
        · rw [List.mem_singleton.mp hsingle]
          exact hwaiting q call key claim hq hphase hkey
      · intro claim answeredAt issue' hphase
        exact List.mem_append_left _ (hcall.answered claim answeredAt issue' hphase)
      · intro key projection hkey hphase
        obtain ⟨hintent, hrow, hof⟩ := hcall.returned key projection hkey hphase
        exact ⟨hintent, hrow, hof.mono (List.subset_append_left _ _)⟩
    answers := by
      intro entry hentry
      rcases List.mem_append.mp hentry with hold | hsingle
      · exact hs.answers entry hold
      · rw [List.mem_singleton.mp hsingle]
        exact hinvoked
    answeredOnce := by
      refine nodup_filterMap_append hs.answeredOnce fun pair hpair entry hentry hsame => ?_
      obtain ⟨key, hkey, rfl⟩ := Option.map_eq_some_iff.mp hpair
      have hfor := Invocation.isFor_iff.mpr hsame
      rw [hnew key hkey entry hentry] at hfor
      exact Bool.false_ne_true hfor
    succeeded := by
      intro row hrow hstate
      obtain ⟨projection, hmem, hid, hof⟩ := hs.succeeded row hrow hstate
      exact ⟨projection, hmem, hid, hof.mono (List.subset_append_left _ _)⟩ }

/-! ### The transactions -/

section Transactions

variable {s : IssueSystem} {p : ℕ} {input : PreparedCreate} {old : CreatePhase}
  {claim : IntentClaim}

/-- The row a transaction of the call changes is the intent the call holds. -/
lemma IssueOk.owned (hs : IssueOk s) (hrun : s.creates p = some ⟨input, old⟩)
    (hclaim : old.claim = some claim) {row : IntentRow} (hrow : row ∈ s.db.intents)
    (howns : ownsIntent input claim row = true) :
    ∃ key, input.key = some key ∧ claim = .claimed row.id ∧ Holds input key row.id row := by
  obtain ⟨-, rfl, -⟩ := of_decide_eq_true howns
  cases hkey : input.key with
  | none => cases (hs.calls p _ hrun).unkeyed hkey _ hclaim
  | some key =>
      obtain ⟨id, heq, held, hheld, hholds⟩ := (hs.calls p _ hrun).holder key _ hkey hclaim
      obtain rfl := IntentClaim.claimed.inj heq
      obtain rfl := eq_of_unique hs.intentIds hheld hrow hholds.id
      exact ⟨key, rfl, rfl, hholds⟩

/-- The held intent of a keyed call is changed by its transactions. -/
lemma IssueOk.owns (hs : IssueOk s) (hrun : s.creates p = some ⟨input, old⟩)
    (hclaim : old.claim = some claim) {key : String} (hkey : input.key = some key) :
    ∃ row ∈ s.db.intents, ownsIntent input claim row = true ∧ Holds input key row.id row := by
  obtain ⟨id, rfl, row, hrow, hholds⟩ := (hs.calls p _ hrun).holder key _ hkey hclaim
  refine ⟨row, hrow, decide_eq_true ⟨hholds.organizationId, ?_, hholds.workspaceId⟩, ?_⟩
  · rw [hholds.id]
  · exact { hholds with id := rfl }

/-- The end of an intent, in the tables: only the intent of the call that has given up
changes. -/
lemma IssueOk.keepsTables_update (hs : IssueOk s) (hrun : s.creates p = some ⟨input, old⟩)
    (hclaim : old.claim = some claim) (set : IntentRow → IntentRow)
    {projections : List IssueProjectionRow} (failure : DevBoard.DomainError)
    (hset : ∀ row, (set row).id = row.id ∧ (set row).workspaceId = row.workspaceId ∧
      (set row).idempotencyKey = row.idempotencyKey)
    (hrows : Projections projections) (hkeeps : KeepsProjections s.db.projections projections)
    (hdone : ∀ row ∈ s.db.intents, ownsIntent input claim row = true →
      (set row).state = .succeeded → ∃ projection ∈ projections,
        (set row).issueProjectionId = some projection.id ∧
        ProjectionOf s.created row.workspaceId row.idempotencyKey projection) :
    KeepsTables (s.setCreate p input (.returned (.error failure)))
      ⟨updateWhere (ownsIntent input claim) set s.db.intents, projections⟩ where
  intentIds := by
    rw [map_updateWhere (fun row => row.id) fun row => (hset row).1]
    exact hs.intentIds
  intentKeys := by
    rw [map_updateWhere (fun row => (row.workspaceId, row.idempotencyKey)) fun row =>
      Prod.ext (hset row).2.1 (hset row).2.2]
    exact hs.intentKeys
  projections := hrows
  held := by
    intro row hrow q call hq hclaim'
    refine mem_updateWhere.mpr (.inl ⟨hrow, ?_⟩)
    rcases IssueSystem.setCreate_creates hq with ⟨rfl, rfl⟩ | ⟨hne, hq'⟩
    · cases hclaim'
    · by_contra howns
      rw [Bool.not_eq_false] at howns
      obtain ⟨key, -, rfl, -⟩ := hs.owned hrun hclaim hrow howns
      exact hne (hs.owner q p call _ row.id hq' hrun hclaim' hclaim)
  done := by
    intro row hrow hstate
    refine mem_updateWhere.mpr (.inl ⟨hrow, ?_⟩)
    by_contra howns
    rw [Bool.not_eq_false] at howns
    obtain ⟨key, -, -, hholds⟩ := hs.owned hrun hclaim hrow howns
    cases hholds.processing.symm.trans hstate
  recorded := by
    intro row hrow
    by_cases howns : ownsIntent input claim row = true
    · exact ⟨set row, mem_updateWhere.mpr (.inr ⟨row, hrow, howns, rfl⟩), (hset row).2⟩
    · rw [Bool.not_eq_true] at howns
      exact ⟨row, mem_updateWhere.mpr (.inl ⟨hrow, howns⟩), rfl, rfl⟩
  keeps := hkeeps
  succeeded := by
    intro row' hrow' hstate
    rcases mem_updateWhere.mp hrow' with ⟨hold, -⟩ | ⟨row, hrow, howns, rfl⟩
    · exact .inl hold
    · obtain ⟨projection, hmem, hid, hof⟩ := hdone row hrow howns hstate
      rw [(hset row).2.1, (hset row).2.2]
      exact .inr ⟨projection, hmem, hid, hof⟩

/-- A new intent, in the tables. -/
lemma IssueOk.keepsTables_insert (hs : IssueOk s) {key id : String} (now : Timestamp)
    (hkey : ∀ row ∈ s.db.intents, ¬(row.workspaceId = input.workspaceId ∧
      row.idempotencyKey = key)) (hid : id ∉ s.db.intents.map (·.id)) :
    KeepsTables s { s.db with intents := s.db.intents ++ [input.intent key id now] } where
  intentIds := by
    rw [List.map_append]
    refine hs.intentIds.append (List.nodup_singleton _) fun id' hold hsingle => ?_
    rw [List.mem_singleton.mp hsingle] at hold
    exact hid hold
  intentKeys := by
    rw [List.map_append]
    refine hs.intentKeys.append (List.nodup_singleton _) fun pair hold hsingle => ?_
    obtain ⟨row, hrow, rfl⟩ := List.mem_map.mp hold
    exact hkey row hrow (Prod.ext_iff.mp (List.mem_singleton.mp hsingle))
  projections := hs.projections
  held := fun row hrow _ _ _ _ => List.mem_append_left _ hrow
  done := fun row hrow _ => List.mem_append_left _ hrow
  recorded := fun row hrow => ⟨row, List.mem_append_left _ hrow, rfl, rfl⟩
  keeps := .refl _
  succeeded := by
    intro row hrow hstate
    rcases List.mem_append.mp hrow with hold | hsingle
    · exact .inl hold
    · rw [List.mem_singleton.mp hsingle] at hstate
      cases hstate

/-- New projections, in the tables. -/
lemma IssueOk.keepsTables_projections (hs : IssueOk s) {projections : List IssueProjectionRow}
    (hrows : Projections projections) (hkeeps : KeepsProjections s.db.projections projections) :
    KeepsTables s { s.db with projections := projections } where
  intentIds := hs.intentIds
  intentKeys := hs.intentKeys
  projections := hrows
  held := fun _ hrow _ _ _ _ => hrow
  done := fun _ hrow _ => hrow
  recorded := fun row hrow => ⟨row, hrow, rfl, rfl⟩
  keeps := hkeeps
  succeeded := fun _ hrow _ => .inl hrow

/-- A claim that finds the intent done returns its projection. -/
lemma IssueOk.existing (hs : IssueOk s) {row : IntentRow} (hrow : row ∈ s.db.intents)
    {projection : IssueProjectionRow}
    (h : existingClaim s.db.projections row = .succeeded projection) :
    Delivered s.db s.created row.workspaceId row.idempotencyKey projection ∧
      projection ∈ s.db.projections := by
  rw [existingClaim] at h
  split at h
  · rename_i hstate hfind
    cases h
    have hmem := List.mem_of_find?_eq_some hfind
    have hfound := List.find?_some hfind
    obtain ⟨hid, -⟩ := of_decide_eq_true hfound
    obtain ⟨projection', hmem', hid', hof⟩ := hs.succeeded row hrow hstate
    have hsame : projection' = projection :=
      eq_of_unique hs.projections.ids hmem' hmem (Option.some.inj (hid'.symm.trans hid))
    exact ⟨⟨⟨row, hrow, rfl, rfl, hstate, hid⟩, ⟨projection, hmem, rfl, rfl⟩, hsame ▸ hof⟩, hmem⟩
  · cases h
  · cases h

/-- The outcomes of a claim. -/
lemma claimIssueCreateIntent_eq_some {id : String} {now : Timestamp} {db db' : IssueDb}
    (h : claimIssueCreateIntent input id now db = some (claim, db')) :
    (input.key = none ∧ claim = .none ∧ db' = db) ∨
    (∃ key, input.key = some key ∧ db' = db ∧
      ((∃ message, claim = .conflict message) ∨
        ∃ row ∈ db.intents, row.workspaceId = input.workspaceId ∧ row.idempotencyKey = key ∧
          claim = existingClaim db.projections row)) ∨
    (∃ key, input.key = some key ∧ claim = .claimed id ∧
      (∀ row ∈ db.intents, ¬(row.workspaceId = input.workspaceId ∧ row.idempotencyKey = key)) ∧
      id ∉ db.intents.map (·.id) ∧
      db' = { db with intents := db.intents ++ [input.intent key id now] }) := by
  rw [claimIssueCreateIntent] at h
  cases hkey : input.key with
  | none =>
      rw [hkey] at h
      cases h
      exact .inl ⟨rfl, rfl, rfl⟩
  | some key =>
      simp only [hkey] at h
      split_ifs at h with hany hid
      · refine .inr (.inl ⟨key, rfl, ?_⟩)
        split at h
        · cases h
          exact ⟨rfl, .inl ⟨_, rfl⟩⟩
        · rename_i row hfind
          cases h
          have hfound := List.find?_some hfind
          obtain ⟨-, hws, hrowKey⟩ := of_decide_eq_true hfound
          exact ⟨rfl, .inr ⟨row, List.mem_of_find?_eq_some hfind, hws, hrowKey, rfl⟩⟩
      · cases h
        refine .inr (.inr ⟨key, rfl, rfl, fun row hrow hsame => hany ?_, hid, rfl⟩)
        exact List.any_eq_true.mpr ⟨row, hrow, decide_eq_true hsame⟩

/-! ### The steps -/

lemma CallOk.delivered {db : IssueDb} {invocations : List Invocation}
    {created : List (Invocation × TrackerIssue)} {projection : IssueProjectionRow}
    (h : ∀ key, input.key = some key → Delivered db created input.workspaceId key projection) :
    CallOk db invocations created p ⟨input, .returned (.ok projection)⟩ where
  unkeyed := by simp [CreatePhase.claim]
  holder := by simp [CreatePhase.claim]
  uninvoked := by simp
  unanswered := by simp
  invoked := by simp
  answered := by simp
  returned := by
    intro key projection' hkey hphase
    cases hphase
    exact h key hkey

/-- A call may return a projection it has delivered. -/
lemma IssueOk.deliver (hs : IssueOk s) {projection : IssueProjectionRow}
    (h : ∀ key, input.key = some key →
      Delivered s.db s.created input.workspaceId key projection) :
    IssueOk (s.setCreate p input (.returned (.ok projection))) :=
  hs.move (.delivered h) fun _ _ _ hclaim => by cases hclaim

/-- Two moves of a call, the first of them forgotten. -/
lemma setCreate_setCreate {phase phase' : CreatePhase} :
    (s.setCreate p input phase).setCreate p input phase' = s.setCreate p input phase' := by
  rw [IssueSystem.setCreate, IssueSystem.setCreate, Function.update_idem]
  rfl

/-- The end of `claimIssueCreateIntent`. -/
lemma IssueOk.claimIntent (hs : IssueOk s) {id : String} {now : Timestamp} {db : IssueDb}
    (h : claimIssueCreateIntent input id now s.db = some (claim, db)) :
    IssueOk { s.setCreate p input (afterClaim claim) with db := db } := by
  rcases claimIssueCreateIntent_eq_some h with ⟨hkey, rfl, rfl⟩ | ⟨key, hkey, rfl, hclaim⟩ |
    ⟨key, hkey, rfl, hfree, hid, rfl⟩
  · -- without a key there is nothing to hold
    refine hs.move ?_ fun _ _ _ hid => by cases hid
    exact
      { unkeyed := by
          intro _ claim' hclaim'
          cases hclaim'
          rfl
        holder := by simp [hkey]
        uninvoked := by simp [hkey]
        unanswered := by simp [hkey]
        invoked := by simp [afterClaim]
        answered := by simp [afterClaim]
        returned := by simp [hkey] }
  · rcases hclaim with ⟨message, rfl⟩ | ⟨row, hrow, hws, hrowKey, rfl⟩
    · exact hs.idle (.inr ⟨_, rfl⟩)
    · cases hexisting : existingClaim s.db.projections row with
      | succeeded projection =>
          obtain ⟨hdelivered, -⟩ := hs.existing hrow hexisting
          refine hs.deliver fun key' hkey' => ?_
          obtain rfl := Option.some.inj (hkey.symm.trans hkey')
          exact hws ▸ hrowKey ▸ hdelivered
      | conflict message => exact hs.idle (.inr ⟨_, rfl⟩)
      | none =>
          rw [existingClaim] at hexisting
          split at hexisting <;> cases hexisting
      | claimed _ =>
          rw [existingClaim] at hexisting
          split at hexisting <;> cases hexisting
  · have hs' := hs.tables (hs.keepsTables_insert now hfree hid)
    have hunrecorded : ∀ invocation ∈ s.invocations,
        invocation.isFor input.workspaceId key = false := by
      intro invocation hmem
      by_contra hfor
      rw [Bool.not_eq_false] at hfor
      obtain ⟨hws, hinvKey⟩ := of_decide_eq_true hfor
      obtain ⟨row, hrow, hrowWs, hrowKey⟩ := hs.recorded invocation hmem key hinvKey
      exact hfree row hrow ⟨hrowWs.trans hws, hrowKey⟩
    refine hs'.move ?_ ?_
    · exact
        { unkeyed := by simp [hkey]
          holder := by
            intro key' claim' hkey' hclaim'
            cases hclaim'
            obtain rfl := Option.some.inj (hkey.symm.trans hkey')
            exact ⟨id, rfl, _, List.mem_append_right _ List.mem_cons_self, rfl, rfl, rfl, rfl, rfl⟩
          uninvoked := by
            intro key' claim' hkey' _
            obtain rfl := Option.some.inj (hkey.symm.trans hkey')
            exact hunrecorded
          unanswered := by
            intro key' claim' hkey' _ entry hentry
            obtain rfl := Option.some.inj (hkey.symm.trans hkey')
            exact hunrecorded entry.1 (hs.answers entry hentry)
          invoked := by simp [afterClaim]
          answered := by simp [afterClaim]
          returned := by simp [afterClaim] }
    · intro id' q call hid' hq hclaim'
      -- a holder of the new id would hold a row that was already there
      cases hid'
      exfalso
      cases hqKey : call.input.key with
      | none => cases (hs.calls q call hq).unkeyed hqKey _ hclaim'
      | some key' =>
          obtain ⟨id'', heq, row, hrow, hholds⟩ := (hs.calls q call hq).holder key' _ hqKey hclaim'
          cases heq
          exact hid (List.mem_map.mpr ⟨row, hrow, hholds.id⟩)

/-- Two calls with claims for one workspace and key are one call. -/
lemma IssueOk.rival (hs : IssueOk s) {q : ℕ} {call : CreateCall} {claim' : IntentClaim}
    {key : String} (hrun : s.creates p = some ⟨input, old⟩) (hclaim : old.claim = some claim)
    (hq : s.creates q = some call) (hclaim' : call.phase.claim = some claim')
    (hkey : input.key = some key) (hqKey : call.input.key = some key)
    (hws : input.workspaceId = call.input.workspaceId) : q = p := by
  obtain ⟨id, rfl, row, hrow, hholds⟩ := (hs.calls p _ hrun).holder key _ hkey hclaim
  obtain ⟨id', rfl, row', hrow', hholds'⟩ := (hs.calls q call hq).holder key _ hqKey hclaim'
  have hsame : row = row' := by
    refine eq_of_unique hs.intentKeys hrow hrow' (Prod.ext ?_ ?_)
    · exact hholds.workspaceId.trans (hws.trans hholds'.workspaceId.symm)
    · exact hholds.key.trans hholds'.key.symm
  obtain rfl : id = id' := hholds.id.symm.trans ((congrArg _ hsame).trans hholds'.id)
  exact hs.owner q p call _ id hq hrun hclaim' hclaim

/-- A call that was set aside goes on with its claim. -/
lemma IssueOk.resume {t : IssueSystem} {idle phase : CreatePhase}
    (ht : IssueOk (t.setCreate p input idle))
    (hcall : CallOk t.db t.invocations t.created p ⟨input, phase⟩)
    (hown : ∀ id q call, phase.claim = some (.claimed id) → t.creates q = some call →
      call.phase.claim = some (.claimed id) → q = p) :
    IssueOk (t.setCreate p input phase) := by
  have hmoved := ht.move hcall fun id q call hid hq hid' => by
    rcases IssueSystem.setCreate_creates hq with ⟨rfl, -⟩ | ⟨-, hq'⟩
    · rfl
    · exact hown id q call hid hq' hid'
  rwa [setCreate_setCreate] at hmoved

/-- The failure a call is set aside with. -/
def setAside : CreatePhase := .returned (.error ⟨"", ""⟩)

lemma IssueOk.invoke (hs : IssueOk s) (hrun : s.creates p = some ⟨input, .calling claim⟩) :
    IssueOk { s.setCreate p input (.waiting claim) with
      invocations := s.invocations ++ [input.invocation p] } := by
  have hcall := hs.calls p _ hrun
  have hidle : IssueOk (s.setCreate p input setAside) := hs.idle (.inr ⟨_, rfl⟩)
  have hlogged := hidle.logInvocation (input.invocation p) ?_ ?_ ?_
  · refine IssueOk.resume (t := { s with invocations := s.invocations ++ [input.invocation p] })
      hlogged ?_ fun id q call hid hq hid' => hs.owner q p call _ id hq hrun hid' hid
    exact
      { unkeyed := hcall.unkeyed
        holder := hcall.holder
        uninvoked := by simp
        unanswered := fun key _ hkey _ => hcall.unanswered key claim hkey (.inl rfl)
        invoked := fun _ _ => List.mem_append_right _ List.mem_cons_self
        answered := by simp
        returned := by simp }
  · intro key hkey
    obtain ⟨id, -, row, hrow, hholds⟩ := hcall.holder key claim hkey rfl
    exact ⟨row, hrow, hholds.workspaceId, hholds.key⟩
  · intro key hkey
    exact hcall.uninvoked key claim hkey rfl
  · intro q call key claim' hq hphase hqKey
    by_contra hfor
    rw [Bool.not_eq_false] at hfor
    obtain ⟨hws, hkey⟩ := of_decide_eq_true hfor
    rcases IssueSystem.setCreate_creates hq with ⟨-, rfl⟩ | ⟨hne, hq'⟩
    · cases hphase
    · have hclaim' : call.phase.claim = some claim' := by rw [hphase]; rfl
      exact hne (hs.rival hrun rfl hq' hclaim' hkey hqKey hws)

lemma IssueOk.answer (hs : IssueOk s) {issue : TrackerIssue}
    (hrun : s.creates p = some ⟨input, .waiting claim⟩) :
    IssueOk { s.setCreate p input (.projecting claim s.clock issue) with
      created := s.created ++ [(input.invocation p, issue)] } := by
  have hcall := hs.calls p _ hrun
  have hidle : IssueOk (s.setCreate p input setAside) := hs.idle (.inr ⟨_, rfl⟩)
  have hlogged := hidle.logAnswer (input.invocation p) issue ?_ ?_ ?_
  · refine IssueOk.resume (t := { s with created := s.created ++ [(input.invocation p, issue)] })
      hlogged ?_ fun id q call hid hq hid' => hs.owner q p call _ id hq hrun hid' hid
    exact
      { unkeyed := hcall.unkeyed
        holder := hcall.holder
        uninvoked := by simp
        unanswered := by simp
        invoked := by simp
        answered := by
          intro _ _ issue' hphase
          cases hphase
          exact List.mem_append_right _ List.mem_cons_self
        returned := by simp }
  · exact hcall.invoked claim rfl
  · intro key hkey
    exact hcall.unanswered key claim hkey (.inr rfl)
  · intro q call key claim' hq hphase hqKey
    by_contra hfor
    rw [Bool.not_eq_false] at hfor
    obtain ⟨hws, hkey⟩ := of_decide_eq_true hfor
    rcases IssueSystem.setCreate_creates hq with ⟨-, rfl⟩ | ⟨hne, hq'⟩
    · rcases hphase with hphase | hphase <;> cases hphase
    · have hclaim' : call.phase.claim = some claim' := by
        rcases hphase with hphase | hphase <;> rw [hphase] <;> rfl
      exact hne (hs.rival hrun rfl hq' hclaim' hkey hqKey hws)

lemma IssueOk.project (hs : IssueOk s) {answeredAt : ℕ} {issue : TrackerIssue}
    {syncedAt now : Timestamp} {id : String} {projection : IssueProjectionRow} {db : IssueDb}
    (hrun : s.creates p = some ⟨input, .projecting claim answeredAt issue⟩)
    (h : projectTransaction input claim issue syncedAt now id s.db = some (projection, db)) :
    IssueOk { s.setCreate p input (.returned (.ok projection)) with db := db } ∧
      projection ∈ db.projections := by
  rw [projectTransaction] at h
  split at h
  · cases h
  rename_i projections hupsert
  cases h
  obtain ⟨hrows, hkeeps, hmem, hprojKey, -, -⟩ := upsert_spec hs.projections hupsert
  have hanswered := (hs.calls p _ hrun).answered claim answeredAt issue rfl
  have hof : ∀ key, input.key = some key →
      ProjectionOf s.created input.workspaceId key projection := by
    intro key hkey
    exact ⟨_, issue, hanswered, decide_eq_true ⟨rfl, hkey⟩, hprojKey⟩
  have hidle : IssueOk (s.setCreate p input setAside) := hs.idle (.inr ⟨_, rfl⟩)
  have htables := hs.keepsTables_update hrun rfl (IntentRow.succeeded projection now) ⟨"", ""⟩
    (fun _ => ⟨rfl, rfl, rfl⟩) hrows hkeeps ?_
  · refine ⟨IssueOk.resume (t := { s with db := _ }) (hidle.tables htables) (.delivered ?_) ?_, hmem⟩
    · intro key hkey
      obtain ⟨row, hrow, howns, hholds⟩ := hs.owns hrun rfl hkey
      refine ⟨⟨_, mem_updateWhere.mpr (.inr ⟨row, hrow, howns, rfl⟩), ?_⟩,
        ⟨projection, hmem, rfl, rfl⟩, hof key hkey⟩
      exact ⟨hholds.workspaceId, hholds.key, rfl, rfl⟩
    · intro _ _ _ hid
      cases hid
  · intro row hrow howns _
    obtain ⟨key, hkey, -, hholds⟩ := hs.owned hrun rfl hrow howns
    rw [hholds.workspaceId, hholds.key]
    exact ⟨projection, hmem, rfl, hof key hkey⟩

/-- A call may always go on to record a failure. -/
lemma IssueOk.marking (hs : IssueOk s) (hrun : s.creates p = some ⟨input, old⟩)
    (hclaim : old.claim = some claim) {message : String} {failure : DevBoard.DomainError} :
    IssueOk (s.setCreate p input (.marking claim message failure)) := by
  have hcall := hs.calls p _ hrun
  refine hs.advance hrun hclaim.symm ?_
  exact
    { unkeyed := by
        intro hkey claim' hclaim'
        exact hcall.unkeyed hkey claim' (hclaim.trans hclaim')
      holder := by
        intro key claim' hkey hclaim'
        exact hcall.holder key claim' hkey (hclaim.trans hclaim')
      uninvoked := by simp
      unanswered := by simp
      invoked := by simp
      answered := by simp
      returned := by simp }

lemma IssueOk.mark (hs : IssueOk s) {message : String} {failure : DevBoard.DomainError}
    {now : Timestamp} (hrun : s.creates p = some ⟨input, .marking claim message failure⟩) :
    IssueOk { s.setCreate p input (.returned (.error failure)) with
      db := markIssueCreateIntentFailed input claim message now s.db } := by
  have hidle : IssueOk (s.setCreate p input (.returned (.error failure))) :=
    hs.idle (.inr ⟨_, rfl⟩)
  refine hidle.tables (hs.keepsTables_update hrun rfl (IntentRow.failed message now) failure
    (fun _ => ⟨rfl, rfl, rfl⟩) hs.projections (.refl _) ?_)
  intro row _ _ hstate
  cases hstate

end Transactions

/-- **One step** keeps the invariant. -/
theorem IssueOk.step {s s' : IssueSystem} (hs : IssueOk s) (h : IssueStep s s') : IssueOk s' := by
  cases h with
  | startCreate p raw input prepared new => exact hs.idle (.inl rfl)
  | claim p input id now running committed => exact hs.claimIntent committed
  | claimFailed p input running => exact hs.idle (.inr ⟨_, rfl⟩)
  | invoke p input claim running => exact hs.invoke running
  | answer p input claim issue running => exact { hs.answer running with }
  | refuse p input claim failure running => exact hs.marking running rfl
  | project p input claim answeredAt issue syncedAt now id running committed =>
      exact { (hs.project running committed).1 with }
  | projectFailed p input claim answeredAt issue message running => exact hs.marking running rfl
  | mark p input claim message failure now running => exact hs.mark running
  | markFailed p input claim message failure running => exact hs.idle (.inr ⟨_, rfl⟩)
  | startSync p orgId workspaceId new => exact { hs with }
  | list p orgId workspaceId issues running => exact { hs with }
  | save p orgId workspaceId answeredAt issues syncedAt ids enough running committed =>
      obtain ⟨hrows, hkeeps⟩ := sync_spec hs.projections committed
      exact { hs.tables (hs.keepsTables_projections hrows hkeeps) with }
  | syncFailed p orgId workspaceId phase running => exact { hs with }

theorem issueReachable_ok {s : IssueSystem} (h : IssueReachable s) : IssueOk s := by
  induction h with
  | refl => exact .empty
  | tail _ hstep ih => exact ih.step hstep

/-! ### Intents -/

/-- The intent is as it was, or its attempt has just ended. -/
def IntentMoves (row : IntentRow) (rows : List IntentRow) : Prop :=
  row ∈ rows ∨ row.state = .processing ∧ ∃ row' ∈ rows, row'.id = row.id ∧
    row'.workspaceId = row.workspaceId ∧ row'.idempotencyKey = row.idempotencyKey ∧
    (row'.state = .succeeded ∨ row'.state = .failed)

/-- A transaction that ends the attempt of its call moves no other intent. -/
lemma IssueOk.update_moves {s : IssueSystem} {p : ℕ} {input : PreparedCreate} {old : CreatePhase}
    {claim : IntentClaim} (hs : IssueOk s) (hrun : s.creates p = some ⟨input, old⟩)
    (hclaim : old.claim = some claim) (set : IntentRow → IntentRow)
    (hset : ∀ row, (set row).id = row.id ∧ (set row).workspaceId = row.workspaceId ∧
      (set row).idempotencyKey = row.idempotencyKey ∧
      ((set row).state = .succeeded ∨ (set row).state = .failed))
    {row : IntentRow} (hrow : row ∈ s.db.intents) :
    IntentMoves row (updateWhere (ownsIntent input claim) set s.db.intents) := by
  by_cases howns : ownsIntent input claim row = true
  · obtain ⟨key, -, -, hholds⟩ := hs.owned hrun hclaim hrow howns
    exact .inr ⟨hholds.processing, set row, mem_updateWhere.mpr (.inr ⟨row, hrow, howns, rfl⟩),
      hset row⟩
  · rw [Bool.not_eq_true] at howns
    exact .inl (mem_updateWhere.mpr (.inl ⟨hrow, howns⟩))

/-- **The intents in one step**: each stays as it is, or goes from `processing` to
`succeeded` or `failed`. -/
lemma IssueOk.step_intents {s s' : IssueSystem} (hs : IssueOk s) (h : IssueStep s s')
    {row : IntentRow} (hrow : row ∈ s.db.intents) : IntentMoves row s'.db.intents := by
  cases h with
  | claim p input id now running committed =>
      rcases claimIssueCreateIntent_eq_some committed with ⟨-, -, rfl⟩ | ⟨-, -, rfl, -⟩ |
        ⟨-, -, -, -, -, rfl⟩
      · exact .inl hrow
      · exact .inl hrow
      · exact .inl (List.mem_append_left _ hrow)
  | project p input claim answeredAt issue syncedAt now id running committed =>
      rw [projectTransaction] at committed
      split at committed
      · cases committed
      · cases committed
        exact hs.update_moves running rfl (IntentRow.succeeded _ now)
          (fun _ => ⟨rfl, rfl, rfl, .inl rfl⟩) hrow
  | mark p input claim message failure now running =>
      exact hs.update_moves running rfl (IntentRow.failed message now)
        (fun _ => ⟨rfl, rfl, rfl, .inr rfl⟩) hrow
  | _ => exact .inl hrow

/-- An intent whose attempt has ended never changes again. -/
lemma IssueOk.run_intents {s s' : IssueSystem} (hs : IssueOk s)
    (h : Relation.ReflTransGen IssueStep s s') {row : IntentRow} (hrow : row ∈ s.db.intents)
    (hstate : row.state ≠ .processing) : row ∈ s'.db.intents := by
  suffices hboth : IssueOk s' ∧ row ∈ s'.db.intents from hboth.2
  induction h with
  | refl => exact ⟨hs, hrow⟩
  | tail _ hstep ih =>
      refine ⟨ih.1.step hstep, ?_⟩
      rcases ih.1.step_intents hstep ih.2 with hkept | ⟨hprocessing, -⟩
      · exact hkept
      · exact absurd hprocessing hstate

/-- A call that returns a projection returns a row of the table. -/
lemma IssueOk.step_returned {s s' : IssueSystem} (hs : IssueOk s) (h : IssueStep s s') {p : ℕ}
    {call : CreateCall} {projection : IssueProjectionRow} (hp : s'.creates p = some call)
    (hphase : call.phase = .returned (.ok projection)) :
    s.creates p = some call ∨ projection ∈ s'.db.projections := by
  cases h with
  | claim q input id now running committed =>
      rcases IssueSystem.setCreate_creates hp with ⟨-, rfl⟩ | ⟨-, hp'⟩
      · rcases claimIssueCreateIntent_eq_some committed with ⟨-, rfl, rfl⟩ | ⟨key, -, rfl, hclaim⟩ |
          ⟨-, -, rfl, -, -, rfl⟩
        · cases hphase
        · rcases hclaim with ⟨message, rfl⟩ | ⟨row, hrow, -, -, rfl⟩
          · cases hphase
          · cases hexisting : existingClaim s.db.projections row with
            | succeeded found =>
                rw [hexisting] at hphase
                cases hphase
                exact .inr (hs.existing hrow hexisting).2
            | _ =>
                rw [hexisting] at hphase
                cases hphase
        · cases hphase
      · exact .inl hp'
  | project q input claim answeredAt issue syncedAt now id running committed =>
      rcases IssueSystem.setCreate_creates hp with ⟨-, rfl⟩ | ⟨-, hp'⟩
      · cases hphase
        exact .inr (hs.project running committed).2
      · exact .inl hp'
  | startSync => exact .inl hp
  | list => exact .inl hp
  | save => exact .inl hp
  | syncFailed => exact .inl hp
  | _ =>
      rcases IssueSystem.setCreate_creates hp with ⟨-, rfl⟩ | ⟨-, hp'⟩
      · cases hphase
      · exact .inl hp'

/-! ### One issue a key -/

/-- **Issue creation is at most once per key**: in every reachable system `createIssue`
has been invoked at most once for a workspace and a key and there is one intent at most,
which ends its attempt once and then never changes; a call that returns a projection
returns a row of the table, and all calls with the key that have returned ok have returned
the row of the one issue created for it. -/
theorem issue_created_once {s : IssueSystem} (h : IssueReachable s) (workspaceId key : String) :
    (s.invocations.filter (Invocation.isFor workspaceId key)).length ≤ 1 ∧
    (s.db.intents.map fun row => (row.workspaceId, row.idempotencyKey)).Nodup ∧
    (∀ s', IssueStep s s' → ∀ row ∈ s.db.intents, IntentMoves row s'.db.intents) ∧
    (∀ s', Relation.ReflTransGen IssueStep s s' → ∀ row ∈ s.db.intents,
      row.state ≠ .processing → row ∈ s'.db.intents) ∧
    (∀ s', IssueStep s s' → ∀ p call projection, s'.creates p = some call →
      call.phase = .returned (.ok projection) →
      s.creates p = some call ∨ projection ∈ s'.db.projections) ∧
    ∀ p call projection, s.creates p = some call → call.input.workspaceId = workspaceId →
      call.input.key = some key → call.phase = .returned (.ok projection) →
      ∃ invocation issue,
        (s.created.filter fun entry => entry.1.isFor workspaceId key) = [(invocation, issue)] ∧
        projection.key = (workspaceId, issue.ref.repository, issue.ref.number) ∧
        ∃ row ∈ s.db.projections, row.id = projection.id ∧ row.key = projection.key := by
  have hok := issueReachable_ok h
  refine ⟨?_, hok.intentKeys, fun s' hstep row hrow => hok.step_intents hstep hrow,
    fun s' hrun row hrow hstate => hok.run_intents hrun hrow hstate,
    fun s' hstep p call projection hp hphase => hok.step_returned hstep hp hphase, ?_⟩
  · exact length_filter_le_one hok.once fun _ => Invocation.isFor_iff.mp
  · intro p call projection hp hws hkey hphase
    subst hws
    obtain ⟨-, hrow, invocation, issue, hmem, hfor, hprojection⟩ :=
      (hok.calls p call hp).returned key projection hkey hphase
    refine ⟨invocation, issue, ?_, hprojection, hrow⟩
    have hle : (s.created.filter fun entry => entry.1.isFor call.input.workspaceId key).length ≤ 1 :=
      length_filter_le_one hok.answeredOnce fun _ => Invocation.isFor_iff.mp
    have hmem' : (invocation, issue) ∈ s.created.filter fun entry =>
        entry.1.isFor call.input.workspaceId key := List.mem_filter.mpr ⟨hmem, hfor⟩
    obtain ⟨entry, heq⟩ := List.length_eq_one_iff.mp
      (le_antisymm hle (List.length_pos_of_mem hmem'))
    rw [heq] at hmem' ⊢
    rw [List.mem_singleton.mp hmem']

/-! ### A sample run -/

namespace IssueSample

def raw : CreateTrackedIssueInput :=
  ⟨"organization", "workspace", "user", " owner/name ", "Title", some "key"⟩

def input : PreparedCreate :=
  ⟨"organization", "workspace", "user", "owner/name", "Title", some "key"⟩

def issue : TrackerIssue :=
  ⟨⟨"owner/name", 7, "https://github.com/owner/name/issues/7"⟩, "Title", .open_, [], none, 10⟩

/-- The call has started. -/
def started : IssueSystem := IssueSystem.empty.setCreate 0 input .claiming

/-- It has claimed its intent. -/
def claimed : IssueSystem :=
  { started.setCreate 0 input (.calling (.claimed "intent")) with
    db := ⟨[input.intent "key" "intent" 1], []⟩ }

/-- It waits for the tracker. -/
def waiting : IssueSystem :=
  { claimed.setCreate 0 input (.waiting (.claimed "intent")) with
    invocations := [input.invocation 0] }

/-- The tracker has created the issue. -/
def answered : IssueSystem :=
  { waiting.setCreate 0 input (.projecting (.claimed "intent") 0 issue) with
    created := [(input.invocation 0, issue)]
    answers := [(0, issue)]
    clock := 1 }

def row : IssueProjectionRow := issue.row "organization" "workspace" "projection" 2

/-- The issue is projected. -/
def projected : IssueSystem :=
  { answered.setCreate 0 input (.returned (.ok row)) with
    db := ⟨[(input.intent "key" "intent" 1).succeeded row 3], [row]⟩
    stored := storeAnswer "workspace" 0 [issue] answered.stored }

lemma prepareCreate_raw : prepareCreate raw = .ok input := by decide

lemma reachable_answered : IssueReachable answered := by
  have hstart : IssueStep IssueSystem.empty started :=
    .startCreate _ 0 raw input prepareCreate_raw rfl
  have hcommitted : claimIssueCreateIntent input "intent" 1 started.db =
      some (.claimed "intent", claimed.db) := by decide
  have hclaim : IssueStep started claimed := IssueStep.claim started 0 input "intent" 1 rfl hcommitted
  have hinvoke : IssueStep claimed waiting := .invoke _ 0 input _ rfl
  have hanswer : IssueStep waiting answered := .answer _ 0 input _ issue rfl
  exact (((Relation.ReflTransGen.single hstart).tail hclaim).tail hinvoke).tail hanswer

lemma reachable_projected : IssueReachable projected :=
  reachable_answered.tail
    (.project _ 0 input (.claimed "intent") 0 issue 2 3 "projection" rfl (by decide))

end IssueSample

open IssueSample

/-- The sample call at its end: one invocation, and the row of the one issue. -/
theorem issue_created_once_projected :
    (projected.invocations.filter (Invocation.isFor "workspace" "key")).length ≤ 1 ∧
      ∃ invocation created, (projected.created.filter fun entry =>
          entry.1.isFor "workspace" "key") = [(invocation, created)] ∧
        row.key = ("workspace", created.ref.repository, created.ref.number) := by
  obtain ⟨honce, -, -, -, -, hreturned⟩ :=
    issue_created_once reachable_projected "workspace" "key"
  obtain ⟨invocation, created, hcreated, hkey, -⟩ := hreturned 0 _ row rfl rfl rfl rfl
  exact ⟨honce, invocation, created, hcreated, hkey⟩

end Opzava.ProjectManagement
