import Mathlib
import Opzava.Adapters.ScheduledJobs
import Opzava.Adapters.TenantContext
import Opzava.Library.RankedList
import Opzava.Library.Table

/-!
The scheduled jobs in the table `platform_scheduled_job`, and the repository in memory as a model
of it.

The two run the same calls, one at a time, with the clock of the database at the time of the call.
The tokens of their leases are drawn independently, and are compared through a bijection.

* `ScheduledJobTable.run`: the statements of the repository of the database.
* `repositories_agree`: when the two return the same values and hold the same records.
* `repositories_differ`: a job that is registered anew while it is leased, and two jobs with one key.
-/

namespace Opzava.Adapters

open Opzava.Library

variable {τ υ : Type}

/-! ### The table -/

/-- The longest cadence that the table admits, a year. -/
def maxCadenceSeconds : ℤ := 31536000

def maxInt4 : ℤ := 2147483647

/-- `^[a-z0-9][a-z0-9._:-]{0,127}$`, the check of the columns `job_key` and `scope`. -/
def isTableKey (text : String) : Bool :=
  match text.toList with
  | [] => false
  | first :: rest => isLowerAlphanumeric first && rest.length ≤ 127 &&
      rest.all fun c => isLowerAlphanumeric c || c ∈ ['.', '_', ':', '-']

namespace ScheduledJobIdentity

/-- The primary key of the row: the organization becomes a `uuid`, which is kept in lower case. -/
def toRow (job : ScheduledJobIdentity) : ScheduledJobIdentity :=
  { job with organizationId := uuidText job.organizationId }

end ScheduledJobIdentity

namespace ScheduledJobRecord

/-- The row is one that the query `due` selects. -/
def isDueRow (organizationId : String) (now : ℤ) (row : ScheduledJobRecord τ) : Bool :=
  row.organizationId = uuidText organizationId && row.nextRunAt ≤ now &&
    (row.dispatchLeaseToken.isNone || row.dispatchLeaseExpiresAt.any (· ≤ now))

/-- `order by next_run_at, job_key, scope`. -/
def dueBefore (collation : String → String → Bool) (a b : ScheduledJobRecord τ) : Prop :=
  a.nextRunAt < b.nextRunAt ∨ (a.nextRunAt = b.nextRunAt ∧
    if a.jobKey = b.jobKey then collation a.scope b.scope = true
    else collation a.jobKey b.jobKey = true)

instance (collation : String → String → Bool) :
    DecidableRel (dueBefore (τ := τ) collation) := fun _ _ =>
  inferInstanceAs (Decidable (_ ∨ _))

/-- The row whose lease a statement can end. -/
def isHeldRow [DecidableEq τ] (job : ScheduledJobIdentity) (leaseToken : τ) (now : ℤ)
    (row : ScheduledJobRecord τ) : Bool :=
  row.toScheduledJobIdentity = job.toRow && row.dispatchLeaseToken = some leaseToken &&
    row.dispatchLeaseExpiresAt.any (now < ·)

/-- The row after `ack`: the cadence of the job stays. -/
def ackedRow (now cadenceSeconds : ℤ) (row : ScheduledJobRecord τ) : ScheduledJobRecord τ :=
  { row with
    nextRunAt := now + cadenceSeconds * 1000
    dispatchLeaseToken := none
    dispatchLeaseExpiresAt := none
    consecutiveFailures := 0
    lastCompletedAt := some now
    lastFailureCode := none }

end ScheduledJobRecord

namespace ScheduledJobTable

variable [DecidableEq τ]

/-- The primary keys of the rows that a statement claims. -/
def claimedKeys (collation : String → String → Bool) (organizationId : String)
    (now batchLimit : ℤ) (rows : List (ScheduledJobRecord τ)) : List ScheduledJobIdentity :=
  (((rows.filter (·.isDueRow organizationId now)).insertionSort
    (ScheduledJobRecord.dueBefore collation)).take batchLimit.toNat).map
    (·.toScheduledJobIdentity)

/-- An `update` of one row, or of none: whether it found the row. -/
def updateOne (cond : ScheduledJobRecord τ → Bool)
    (set : ScheduledJobRecord τ → ScheduledJobRecord τ) (rows : List (ScheduledJobRecord τ)) :
    ScheduledJobResult τ × List (ScheduledJobRecord τ) :=
  (.answered ((returning cond set rows).length = 1), updateWhere cond set rows)

/-- The calls of the repository, with the clock of the database at the time of the call. -/
def run (collation : String → String → Bool) (rows : List (ScheduledJobRecord τ)) :
    ScheduledJobCall τ → ScheduledJobResult τ × List (ScheduledJobRecord τ)
  | .register job cadenceSeconds now =>
      if !positiveInteger cadenceSeconds then (.thrown "cadenceSeconds must be positive", rows)
      else if !isTenantUuid job.organizationId then (.thrown "Forbidden", rows)
      else if maxInt4 < cadenceSeconds then (.thrown "Database operation failed", rows)
      else if !(isTableKey job.jobKey && isTableKey job.scope) || maxCadenceSeconds < cadenceSeconds
        then (.thrown "Conflict", rows)
      else if rows.any (·.toScheduledJobIdentity = job.toRow) then
        (.registered, updateWhere (·.toScheduledJobIdentity = job.toRow)
          (fun row => { row with cadenceSeconds := cadenceSeconds }) rows)
      else (.registered, rows ++ [job.toRow.toRecord cadenceSeconds now])
  | .claimDue organizationId now batchLimit randomUUID =>
      if !positiveInteger batchLimit then (.thrown "batchLimit must be positive", rows)
      else if !isTenantUuid organizationId then (.thrown "Forbidden", rows)
      else
        let keys := claimedKeys collation organizationId now batchLimit rows
        let lease := fun row : ScheduledJobRecord τ =>
          row.leased now (randomUUID row.toScheduledJobIdentity)
        (.claimed (returning (·.toScheduledJobIdentity ∈ keys) lease rows),
          updateWhere (·.toScheduledJobIdentity ∈ keys) lease rows)
  | .ack job leaseToken now cadenceSeconds =>
      if !positiveInteger cadenceSeconds then (.thrown "cadenceSeconds must be positive", rows)
      else if !isTenantUuid job.organizationId then (.thrown "Forbidden", rows)
      else updateOne (·.isHeldRow job leaseToken now) (·.ackedRow now cadenceSeconds) rows
  | .fail job leaseToken now failureCode retryBackoffSeconds =>
      if !positiveInteger retryBackoffSeconds then
        (.thrown "retryBackoffSeconds must be positive", rows)
      else if !boundedCode failureCode then (.thrown "failureCode must be bounded", rows)
      else if !isTenantUuid job.organizationId then (.thrown "Forbidden", rows)
      -- `consecutive_failures + 1` is computed before `least`, and overflows.
      else if rows.any fun row => row.isHeldRow job leaseToken now &&
          row.consecutiveFailures ≥ maxConsecutiveFailures then
        (.thrown "Database operation failed", rows)
      else updateOne (·.isHeldRow job leaseToken now)
        (·.failed now failureCode retryBackoffSeconds) rows

end ScheduledJobTable

/-! ### The same calls on both -/

/-- A record with its token under another name. -/
def ScheduledJobRecord.mapToken (f : τ → υ) (job : ScheduledJobRecord τ) : ScheduledJobRecord υ where
  toScheduledJobIdentity := job.toScheduledJobIdentity
  cadenceSeconds := job.cadenceSeconds
  nextRunAt := job.nextRunAt
  dispatchLeaseToken := job.dispatchLeaseToken.map f
  dispatchLeaseExpiresAt := job.dispatchLeaseExpiresAt
  consecutiveFailures := job.consecutiveFailures
  lastStartedAt := job.lastStartedAt
  lastCompletedAt := job.lastCompletedAt
  lastFailureCode := job.lastFailureCode

namespace ScheduledJobCall

/-- A call with its tokens under other names. -/
def mapToken (f : τ → υ) : ScheduledJobCall τ → ScheduledJobCall υ
  | .register job cadenceSeconds now => .register job cadenceSeconds now
  | .claimDue organizationId now batchLimit randomUUID =>
      .claimDue organizationId now batchLimit (f ∘ randomUUID)
  | .ack job leaseToken now cadenceSeconds => .ack job (f leaseToken) now cadenceSeconds
  | .fail job leaseToken now failureCode retryBackoffSeconds =>
      .fail job (f leaseToken) now failureCode retryBackoffSeconds

/-- The arguments are valid ones: they pass the checks of the calls and of the table. -/
def Valid : ScheduledJobCall τ → Prop
  | .register job cadenceSeconds _ => 0 < cadenceSeconds ∧ cadenceSeconds ≤ maxCadenceSeconds ∧
      isTenantUuid job.organizationId = true ∧ isTableKey job.jobKey = true ∧
      isTableKey job.scope = true
  | .claimDue organizationId _ batchLimit _ => positiveInteger batchLimit = true ∧
      isTenantUuid organizationId = true
  | .ack job _ _ cadenceSeconds => positiveInteger cadenceSeconds = true ∧
      isTenantUuid job.organizationId = true
  | .fail job _ _ failureCode retryBackoffSeconds => boundedCode failureCode = true ∧
      positiveInteger retryBackoffSeconds = true ∧ isTenantUuid job.organizationId = true

instance : (call : ScheduledJobCall τ) → Decidable call.Valid
  | .register _ _ _ => inferInstanceAs (Decidable (_ ∧ _ ∧ _ ∧ _ ∧ _))
  | .claimDue _ _ _ _ => inferInstanceAs (Decidable (_ ∧ _))
  | .ack _ _ _ _ => inferInstanceAs (Decidable (_ ∧ _))
  | .fail _ _ _ _ _ => inferInstanceAs (Decidable (_ ∧ _ ∧ _))

end ScheduledJobCall

/-- The two results are the same; the order in which an `update` returns its rows is not fixed. -/
def ScheduledJobResult.Same (f : τ → υ) : ScheduledJobResult τ → ScheduledJobResult υ → Prop
  | .registered, .registered => True
  | .claimed jobs, .claimed rows => rows.Perm (jobs.map (·.mapToken f))
  | .answered ok, .answered ok' => ok = ok'
  | .thrown message, .thrown message' => message = message'
  | _, _ => False

/-- The two repositories. -/
structure Repositories (τ υ : Type) where
  jobs : ScheduledJobs τ
  rows : List (ScheduledJobRecord υ)

namespace Repositories

def initial : Repositories τ υ := ⟨.empty, []⟩

/-- The two hold the same records. -/
def Same (f : τ → υ) (s : Repositories τ υ) : Prop :=
  s.rows.Perm (s.jobs.values.map (·.mapToken f))

variable [DecidableEq τ] [DecidableEq υ]

/-- The two return the same values for a call. -/
def SameResult (collation : String → String → Bool) (f : τ → υ) (s : Repositories τ υ)
    (call : ScheduledJobCall τ) : Prop :=
  (s.jobs.run call).1.Same f (ScheduledJobTable.run collation s.rows (call.mapToken f)).1

/-- The due jobs have different times. -/
def DistinctDue (s : Repositories τ υ) : ScheduledJobCall τ → Prop
  | .claimDue organizationId now _ _ => ((s.jobs.values.filter
      (·.isDue organizationId now)).map (·.nextRunAt)).Nodup
  | _ => True

/-- The calls that the claim is about. -/
def Admitted (s : Repositories τ υ) (call : ScheduledJobCall τ) : Prop :=
  call.Valid ∧ s.DistinctDue call

/-- The condition under which the two agree: the organization is written in lower case; no other
registered job has the key of the job; a lease is ended by `ack` with the cadence that the job has;
and no more failures are counted than an `integer` holds. -/
def Agrees (s : Repositories τ υ) : ScheduledJobCall τ → Prop
  | .register job _ _ => job.toRow = job ∧
      ∀ row ∈ s.jobs.values, row.key = job.key → row.toScheduledJobIdentity = job
  | .claimDue organizationId _ _ _ => uuidText organizationId = organizationId
  | .ack job leaseToken now cadenceSeconds => job.toRow = job ∧
      ∀ row ∈ ScheduledJobs.held job leaseToken now s.jobs, row.toScheduledJobIdentity = job ∧
        row.cadenceSeconds = cadenceSeconds
  | .fail job leaseToken now _ _ => job.toRow = job ∧
      ∀ row ∈ ScheduledJobs.held job leaseToken now s.jobs, row.toScheduledJobIdentity = job ∧
        row.consecutiveFailures < maxConsecutiveFailures

instance (s : Repositories τ υ) : (call : ScheduledJobCall τ) → Decidable (s.Admitted call)
  | .register _ _ _ => inferInstanceAs (Decidable (_ ∧ True))
  | .claimDue _ _ _ _ => inferInstanceAs (Decidable (_ ∧ List.Nodup _))
  | .ack _ _ _ _ => inferInstanceAs (Decidable (_ ∧ True))
  | .fail _ _ _ _ _ => inferInstanceAs (Decidable (_ ∧ True))

instance (s : Repositories τ υ) : (call : ScheduledJobCall τ) → Decidable (s.Agrees call)
  | .register _ _ _ => inferInstanceAs (Decidable (_ ∧ ∀ row ∈ s.jobs.values, _))
  | .claimDue _ _ _ _ => inferInstanceAs (Decidable (_ = _))
  | .ack job leaseToken now _ => inferInstanceAs
      (Decidable (_ ∧ ∀ row ∈ ScheduledJobs.held job leaseToken now s.jobs, _ ∧ _))
  | .fail job leaseToken now _ _ => inferInstanceAs
      (Decidable (_ ∧ ∀ row ∈ ScheduledJobs.held job leaseToken now s.jobs, _ ∧ _))

end Repositories

/-- The two repositories under the same calls. -/
def repositoriesMachine [DecidableEq τ] [DecidableEq υ] (collation : String → String → Bool)
    (f : τ → υ) : EventMachine (Repositories τ υ) (ScheduledJobCall τ) where
  step s call :=
    ⟨(s.jobs.run call).2, (ScheduledJobTable.run collation s.rows (call.mapToken f)).2⟩

/-! ### The invariant -/

/-- What holds while the two agree: they hold the same records, a job stands under its own key,
and a lease has a token if and only if it has an end. -/
structure RepositoriesOk (f : τ → υ) (s : Repositories τ υ) : Prop where
  same : s.Same f
  keys : ∀ key job, s.jobs.get key = some job → key = job.key
  paired : ∀ key job, s.jobs.get key = some job →
    (job.dispatchLeaseToken = none ↔ job.dispatchLeaseExpiresAt = none)

lemma repositoriesOk_initial (f : τ → υ) : RepositoriesOk f (.initial : Repositories τ υ) where
  same := List.Perm.refl _
  keys _ _ h := nomatch h
  paired _ _ h := nomatch h

section Lookups

variable {f : τ → υ} {s : Repositories τ υ}

/-- Two lists of records with the same elements and one record for every job. -/
lemma perm_of_mem_iff {rows : List (ScheduledJobRecord υ)} {jobs : List (ScheduledJobRecord τ)}
    (hrows : (rows.map (·.toScheduledJobIdentity)).Nodup)
    (hjobs : (jobs.map (·.toScheduledJobIdentity)).Nodup)
    (h : ∀ row, row ∈ rows ↔ ∃ job ∈ jobs, row = job.mapToken f) :
    rows.Perm (jobs.map (·.mapToken f)) := by
  have hmapped : (jobs.map (·.mapToken f)).Nodup := by
    refine List.Nodup.of_map (·.toScheduledJobIdentity) ?_
    rw [List.map_map]
    exact hjobs
  refine (List.perm_ext_iff_of_nodup hrows.of_map hmapped).mpr fun row => ?_
  rw [h, List.mem_map]
  exact exists_congr fun job => and_congr_right fun _ => eq_comm

namespace RepositoriesOk

lemma mem_rows (h : RepositoriesOk f s) {row : ScheduledJobRecord υ} :
    row ∈ s.rows ↔ ∃ job, s.jobs.get job.key = some job ∧ row = job.mapToken f := by
  rw [h.same.mem_iff, List.mem_map]
  constructor
  · rintro ⟨job, hjob, rfl⟩
    obtain ⟨key, hget⟩ := OrderedMap.mem_values_iff.mp hjob
    obtain rfl := h.keys key job hget
    exact ⟨job, hget, rfl⟩
  · rintro ⟨job, hget, rfl⟩
    exact ⟨job, OrderedMap.mem_values_iff.mpr ⟨_, hget⟩, rfl⟩

lemma nodup_rows (h : RepositoriesOk f s) : (s.rows.map (·.toScheduledJobIdentity)).Nodup := by
  refine (h.same.map _).nodup_iff.mpr ?_
  rw [List.map_map]
  exact nodup_identities h.keys

/-- One row is written, and the job of it. -/
lemma set (h : RepositoriesOk f s) {old job : ScheduledJobRecord τ}
    (hget : s.jobs.get old.key = some old)
    (hid : job.toScheduledJobIdentity = old.toScheduledJobIdentity)
    (hpaired : job.dispatchLeaseToken = none ↔ job.dispatchLeaseExpiresAt = none)
    {cond : ScheduledJobRecord υ → Bool} {set : ScheduledJobRecord υ → ScheduledJobRecord υ}
    (hcond : ∀ row ∈ s.rows, cond row = true ↔
      row.toScheduledJobIdentity = old.toScheduledJobIdentity)
    (hset : set (old.mapToken f) = job.mapToken f)
    (hids : ∀ row, (set row).toScheduledJobIdentity = row.toScheduledJobIdentity) :
    RepositoriesOk f ⟨s.jobs.set old.key job, updateWhere cond set s.rows⟩ := by
  have hkeys : ∀ key row, (s.jobs.set old.key job).get key = some row → key = row.key := by
    intro key row hrow
    rcases OrderedMap.get_set_eq_some hrow with ⟨rfl, rfl⟩ | ⟨-, hrow⟩
    · rw [hid]
    · exact h.keys key row hrow
  -- The row that is written is the row of the job.
  have hrow : ∀ other, s.jobs.get other.key = some other →
      (cond (other.mapToken f) = true ↔ other = old) := by
    intro other hother
    rw [hcond _ (h.mem_rows.mpr ⟨other, hother, rfl⟩)]
    constructor
    · intro heq
      change other.toScheduledJobIdentity = old.toScheduledJobIdentity at heq
      rw [heq] at hother
      exact Option.some.inj (hother.symm.trans hget)
    · rintro rfl
      rfl
  refine ⟨perm_of_mem_iff ?_ (nodup_identities hkeys) fun row => ?_, hkeys, fun key row hrow => ?_⟩
  · dsimp only
    rw [map_updateWhere _ hids]
    exact h.nodup_rows
  · dsimp only
    rw [mem_updateWhere]
    constructor
    · rintro (⟨hmem, hfalse⟩ | ⟨before, hmem, htrue, rfl⟩)
      · obtain ⟨other, hother, rfl⟩ := h.mem_rows.mp hmem
        have hne : other.key ≠ old.key := by
          intro heq
          rw [heq] at hother
          obtain rfl := Option.some.inj (hother.symm.trans hget)
          exact nomatch hfalse.symm.trans ((hrow other hget).mpr rfl)
        exact ⟨other, OrderedMap.mem_values_iff.mpr
          ⟨_, (OrderedMap.get_set_of_ne _ _ hne).trans hother⟩, rfl⟩
      · obtain ⟨other, hother, rfl⟩ := h.mem_rows.mp hmem
        obtain rfl := (hrow other hother).mp htrue
        exact ⟨job, OrderedMap.mem_values_iff.mpr ⟨_, OrderedMap.get_set_self _ _ _⟩, hset⟩
    · rintro ⟨other, hother, rfl⟩
      obtain ⟨key, hother⟩ := OrderedMap.mem_values_iff.mp hother
      rcases OrderedMap.get_set_eq_some hother with ⟨-, rfl⟩ | ⟨hne, hother⟩
      · exact .inr ⟨old.mapToken f, h.mem_rows.mpr ⟨old, hget, rfl⟩, (hrow old hget).mpr rfl,
          hset.symm⟩
      · obtain rfl := h.keys key other hother
        refine .inl ⟨h.mem_rows.mpr ⟨other, hother, rfl⟩, ?_⟩
        rw [Bool.eq_false_iff, Ne, hrow other hother]
        rintro rfl
        exact hne rfl
  · rcases OrderedMap.get_set_eq_some hrow with ⟨-, rfl⟩ | ⟨-, hrow⟩
    · exact hpaired
    · exact h.paired key row hrow

/-- A job that is registered first. -/
lemma registerNew (h : RepositoriesOk f s) {job : ScheduledJobIdentity}
    (hnone : s.jobs.get job.key = none) (cadenceSeconds now : ℤ) :
    RepositoriesOk f ⟨s.jobs.set job.key (job.toRecord cadenceSeconds now),
      s.rows ++ [job.toRecord cadenceSeconds now]⟩ := by
  have hkeys : ∀ key row, (s.jobs.set job.key (job.toRecord cadenceSeconds now)).get key =
      some row → key = row.key := by
    intro key row hrow
    rcases OrderedMap.get_set_eq_some hrow with ⟨rfl, rfl⟩ | ⟨-, hrow⟩
    · rfl
    · exact h.keys key row hrow
  refine ⟨perm_of_mem_iff ?_ (nodup_identities hkeys) fun row => ?_, hkeys, fun key row hrow => ?_⟩
  · refine nodup_map_append h.nodup_rows fun row hrow heq => ?_
    obtain ⟨old, hold, rfl⟩ := h.mem_rows.mp hrow
    change old.toScheduledJobIdentity = job at heq
    rw [heq] at hold
    exact nomatch hnone.symm.trans hold
  · dsimp only
    rw [List.mem_append, List.mem_singleton]
    constructor
    · rintro (hrow | rfl)
      · obtain ⟨old, hold, rfl⟩ := h.mem_rows.mp hrow
        have hne : old.key ≠ job.key := by
          intro heq
          rw [heq] at hold
          exact nomatch hnone.symm.trans hold
        exact ⟨old, OrderedMap.mem_values_iff.mpr
          ⟨_, (OrderedMap.get_set_of_ne _ _ hne).trans hold⟩, rfl⟩
      · exact ⟨_, OrderedMap.mem_values_iff.mpr ⟨_, OrderedMap.get_set_self _ _ _⟩, rfl⟩
    · rintro ⟨other, hother, rfl⟩
      obtain ⟨key, hother⟩ := OrderedMap.mem_values_iff.mp hother
      rcases OrderedMap.get_set_eq_some hother with ⟨-, rfl⟩ | ⟨-, hother⟩
      · exact .inr rfl
      · obtain rfl := h.keys key other hother
        exact .inl (h.mem_rows.mpr ⟨other, hother, rfl⟩)
  · rcases OrderedMap.get_set_eq_some hrow with ⟨-, rfl⟩ | ⟨-, hrow⟩
    · exact iff_of_true rfl rfl
    · exact h.paired key row hrow

/-- Whether a row is due, and whether its job is. -/
lemma isDueRow_mapToken (h : RepositoriesOk f s) {organizationId : String}
    (horganization : uuidText organizationId = organizationId) {now : ℤ}
    {job : ScheduledJobRecord τ} (hget : s.jobs.get job.key = some job) :
    (job.mapToken f).isDueRow organizationId now = job.isDue organizationId now := by
  have hpaired := h.paired _ job hget
  rw [ScheduledJobRecord.isDueRow, ScheduledJobRecord.isDue, ScheduledJobRecord.isLeased,
    horganization]
  change (_ && ((job.dispatchLeaseToken.map f).isNone || job.dispatchLeaseExpiresAt.any (· ≤ now)))
    = _
  congr 1
  cases hexpires : job.dispatchLeaseExpiresAt with
  | none =>
      rw [hpaired.mpr hexpires]
      rfl
  | some expiresAt =>
      cases htoken : job.dispatchLeaseToken with
      | none => cases (hpaired.mp htoken).symm.trans hexpires
      | some token =>
          simp only [Option.map_some, Option.isNone_some, Option.any_some, Bool.false_or,
            ← not_lt, decide_not]

section Distinct

variable {organizationId : String} {now : ℤ}

/-- Due jobs of one time are the same. -/
lemma due_unique
    (hdistinct : ((s.jobs.values.filter (·.isDue organizationId now)).map (·.nextRunAt)).Nodup)
    {a b : ScheduledJobRecord τ} {key key' : String} (ha : s.jobs.get key = some a)
    (hb : s.jobs.get key' = some b) (hadue : a.isDue organizationId now = true)
    (hbdue : b.isDue organizationId now = true) (heq : a.nextRunAt = b.nextRunAt) : a = b :=
  eq_of_unique hdistinct
    (List.mem_filter.mpr ⟨OrderedMap.mem_values_iff.mpr ⟨_, ha⟩, hadue⟩)
    (List.mem_filter.mpr ⟨OrderedMap.mem_values_iff.mpr ⟨_, hb⟩, hbdue⟩) heq

lemma ranked_due (h : RepositoriesOk f s)
    (hdistinct : ((s.jobs.values.filter (·.isDue organizationId now)).map (·.nextRunAt)).Nodup) :
    Ranked (fun entry => entry.2.nextRunAt) (s.jobs.due organizationId now) := by
  refine ranked_insertionSort ((s.jobs.nodupKeys.of_map).filter _) fun a ha b hb hne => ?_
  obtain ⟨ha, hadue⟩ := List.mem_filter.mp ha
  obtain ⟨hb, hbdue⟩ := List.mem_filter.mp hb
  have hget := OrderedMap.mem_entries_iff.mp ha
  have hget' := OrderedMap.mem_entries_iff.mp hb
  have hrank : a.2.nextRunAt ≠ b.2.nextRunAt := by
    intro heq
    have hsame := due_unique hdistinct hget hget' hadue hbdue heq
    have hkey : a.1 = b.1 := by rw [h.keys _ _ hget, h.keys _ _ hget', hsame]
    exact hne (Prod.ext hkey hsame)
  exact ⟨hrank, ⟨fun hle => lt_of_le_of_ne hle hrank, le_of_lt⟩⟩

lemma ranked_dueRows (h : RepositoriesOk f s) (collation : String → String → Bool)
    (horganization : uuidText organizationId = organizationId)
    (hdistinct : ((s.jobs.values.filter (·.isDue organizationId now)).map (·.nextRunAt)).Nodup) :
    Ranked (fun row => row.nextRunAt)
      ((s.rows.filter (·.isDueRow organizationId now)).insertionSort
        (ScheduledJobRecord.dueBefore collation)) := by
  refine ranked_insertionSort (h.nodup_rows.of_map.filter _) fun a ha b hb hne => ?_
  obtain ⟨ha, hadue⟩ := List.mem_filter.mp ha
  obtain ⟨hb, hbdue⟩ := List.mem_filter.mp hb
  obtain ⟨job, hjob, rfl⟩ := h.mem_rows.mp ha
  obtain ⟨job', hjob', rfl⟩ := h.mem_rows.mp hb
  rw [h.isDueRow_mapToken horganization hjob] at hadue
  rw [h.isDueRow_mapToken horganization hjob'] at hbdue
  have hrank : (job.mapToken f).nextRunAt ≠ (job'.mapToken f).nextRunAt := by
    intro heq
    exact hne (by rw [due_unique hdistinct hjob hjob' hadue hbdue heq])
  exact ⟨hrank, ⟨fun hle => hle.resolve_right fun heq => hrank heq.1, .inl⟩⟩

/-- The rows that a statement claims are those of the jobs that the call claims. -/
lemma claimedKeys_eq (h : RepositoriesOk f s) (collation : String → String → Bool)
    (horganization : uuidText organizationId = organizationId) {batchLimit : ℤ}
    (hdistinct : ((s.jobs.values.filter (·.isDue organizationId now)).map (·.nextRunAt)).Nodup) :
    ScheduledJobTable.claimedKeys collation organizationId now batchLimit s.rows =
      (ScheduledJobs.batch organizationId now batchLimit s.jobs).map
        (·.2.toScheduledJobIdentity) := by
  have heq : (s.rows.filter (·.isDueRow organizationId now)).insertionSort
      (ScheduledJobRecord.dueBefore collation) =
      (s.jobs.due organizationId now).map (·.2.mapToken f) := by
    refine (h.ranked_dueRows collation horganization hdistinct).eq_of_mem_iff
      (List.pairwise_map.mpr (h.ranked_due hdistinct)) fun row => ?_
    rw [List.mem_insertionSort, List.mem_filter, List.mem_map]
    constructor
    · rintro ⟨hrow, hdue⟩
      obtain ⟨job, hjob, rfl⟩ := h.mem_rows.mp hrow
      rw [h.isDueRow_mapToken horganization hjob] at hdue
      exact ⟨(job.key, job), ScheduledJobs.mem_due.mpr ⟨hjob, hdue⟩, rfl⟩
    · rintro ⟨⟨key, job⟩, hmem, rfl⟩
      obtain ⟨hget, hdue⟩ := ScheduledJobs.mem_due.mp hmem
      obtain rfl := h.keys key job hget
      refine ⟨h.mem_rows.mpr ⟨job, hget, rfl⟩, ?_⟩
      rw [h.isDueRow_mapToken horganization hget]
      exact hdue
  rw [ScheduledJobTable.claimedKeys, heq, ← List.map_take, List.map_map]
  rfl

end Distinct

section Claim

open ScheduledJobs

variable {organizationId : String} {now batchLimit : ℤ}

lemma mem_batchKeys (h : RepositoriesOk f s) {job : ScheduledJobRecord τ}
    (hget : s.jobs.get job.key = some job) :
    job.toScheduledJobIdentity ∈ (batch organizationId now batchLimit s.jobs).map
        (·.2.toScheduledJobIdentity) ↔
      (job.key, job) ∈ batch organizationId now batchLimit s.jobs := by
  rw [List.mem_map]
  constructor
  · rintro ⟨⟨key, other⟩, hmem, hid⟩
    have hother := (get_of_mem_batch hmem).1
    obtain rfl := h.keys key other hother
    dsimp only at hid hother
    rw [hid] at hmem hother
    rwa [Option.some.inj (hother.symm.trans hget)] at hmem
  · exact fun hmem => ⟨_, hmem, rfl⟩

lemma notMem_batch {job : ScheduledJobRecord τ}
    (hget : s.jobs.get job.key = some job)
    (hnot : (job.key, job) ∉ batch organizationId now batchLimit s.jobs) :
    job.key ∉ (batch organizationId now batchLimit s.jobs).map Prod.fst := by
  intro hmem
  obtain ⟨⟨key, other⟩, hother, hkey⟩ := List.mem_map.mp hmem
  have hget' := (get_of_mem_batch hother).1
  dsimp only at hkey hget'
  rw [hkey] at hget' hother
  rw [Option.some.inj (hget'.symm.trans hget)] at hother
  exact hnot hother

/-- A statement that claims the jobs that a call claims. -/
lemma claim (h : RepositoriesOk f s) (randomUUID : ScheduledJobIdentity → τ)
    {cond : ScheduledJobRecord υ → Bool} (hcond : ∀ row, cond row = true ↔
      row.toScheduledJobIdentity ∈ (batch organizationId now batchLimit s.jobs).map
        (·.2.toScheduledJobIdentity)) :
    RepositoriesOk f
        ⟨(ScheduledJobs.claim now randomUUID (batch organizationId now batchLimit s.jobs) s.jobs).2,
          updateWhere cond (fun row => row.leased now (f (randomUUID row.toScheduledJobIdentity)))
            s.rows⟩ ∧
      (returning cond (fun row => row.leased now (f (randomUUID row.toScheduledJobIdentity)))
        s.rows).Perm ((ScheduledJobs.claim now randomUUID
          (batch organizationId now batchLimit s.jobs) s.jobs).1.map (·.mapToken f)) := by
  have hrow : ∀ job, s.jobs.get job.key = some job → (cond (job.mapToken f) = true ↔
      (job.key, job) ∈ batch organizationId now batchLimit s.jobs) :=
    fun job hget => (hcond _).trans (h.mem_batchKeys hget)
  have hkeys : ∀ key job, (ScheduledJobs.claim now randomUUID
      (batch organizationId now batchLimit s.jobs) s.jobs).2.get key = some job →
      key = job.key := by
    intro key job hjob
    rcases get_claim_cases nodup_batch hjob with ⟨-, hjob⟩ | ⟨old, hold, rfl⟩
    · exact h.keys key job hjob
    · exact h.keys key old (get_of_mem_batch hold).1
  refine ⟨⟨perm_of_mem_iff ?_ (nodup_identities hkeys) fun row => ?_, hkeys, fun key job hjob => ?_⟩,
    perm_of_mem_iff ?_ ?_ fun row => ?_⟩
  · have hids : (updateWhere cond
        (fun row => row.leased now (f (randomUUID row.toScheduledJobIdentity))) s.rows).map
          (·.toScheduledJobIdentity) = s.rows.map (·.toScheduledJobIdentity) :=
      map_updateWhere _ fun _ => rfl
    exact hids ▸ h.nodup_rows
  · dsimp only
    rw [mem_updateWhere]
    constructor
    · rintro (⟨hmem, hfalse⟩ | ⟨before, hmem, htrue, rfl⟩)
      · obtain ⟨job, hget, rfl⟩ := h.mem_rows.mp hmem
        have hnot : (job.key, job) ∉ batch organizationId now batchLimit s.jobs := by
          rw [← hrow job hget, hfalse]
          exact Bool.false_ne_true
        exact ⟨job, OrderedMap.mem_values_iff.mpr
          ⟨_, (get_claim_of_notMem (notMem_batch hget hnot) _).trans hget⟩, rfl⟩
      · obtain ⟨job, hget, rfl⟩ := h.mem_rows.mp hmem
        exact ⟨_, OrderedMap.mem_values_iff.mpr
          ⟨_, get_claim_of_mem nodup_batch ((hrow job hget).mp htrue) _⟩, rfl⟩
    · rintro ⟨job, hjob, rfl⟩
      obtain ⟨key, hget⟩ := OrderedMap.mem_values_iff.mp hjob
      rcases get_claim_cases nodup_batch hget with ⟨hnot, hget⟩ | ⟨old, hold, rfl⟩
      · obtain rfl := h.keys key job hget
        refine .inl ⟨h.mem_rows.mpr ⟨job, hget, rfl⟩, ?_⟩
        rw [Bool.eq_false_iff, Ne, hrow job hget]
        exact fun hmem => hnot (List.mem_map_of_mem hmem)
      · have hget := (get_of_mem_batch hold).1
        obtain rfl := h.keys key old hget
        exact .inr ⟨old.mapToken f, h.mem_rows.mpr ⟨old, hget, rfl⟩, (hrow old hget).mpr hold, rfl⟩
  · rcases get_claim_cases nodup_batch hjob with ⟨-, hjob⟩ | ⟨old, hold, rfl⟩
    · exact h.paired key job hjob
    · exact iff_of_false (Option.some_ne_none _) (Option.some_ne_none _)
  · rw [returning, List.map_map]
    exact h.nodup_rows.sublist (List.filter_sublist.map _)
  · rw [claim_fst, List.map_map]
    have hids : (batch organizationId now batchLimit s.jobs).map Prod.fst =
        ((batch organizationId now batchLimit s.jobs).map
          (·.2.toScheduledJobIdentity)).map ScheduledJobIdentity.key := by
      rw [List.map_map]
      exact List.map_congr_left fun entry hentry => h.keys _ _ (get_of_mem_batch hentry).1
    exact (hids ▸ nodup_batch).of_map
  · rw [mem_returning, claim_fst]
    constructor
    · rintro ⟨before, hmem, htrue, rfl⟩
      obtain ⟨job, hget, rfl⟩ := h.mem_rows.mp hmem
      exact ⟨_, List.mem_map_of_mem ((hrow job hget).mp htrue), rfl⟩
    · rintro ⟨lease, hlease, rfl⟩
      obtain ⟨⟨key, job⟩, hmem, rfl⟩ := List.mem_map.mp hlease
      have hget := (get_of_mem_batch hmem).1
      obtain rfl := h.keys key job hget
      exact ⟨job.mapToken f, h.mem_rows.mpr ⟨job, hget, rfl⟩, (hrow job hget).mpr hmem, rfl⟩

end Claim

variable [DecidableEq τ] [DecidableEq υ]

/-- The row of a job that holds the token, and no other, passes the condition of the statement. -/
lemma isHeldRow_iff (h : RepositoriesOk f s) {job : ScheduledJobIdentity} (hjob : job.toRow = job)
    (hf : Function.Injective f) {leaseToken : τ} {now : ℤ} {row : ScheduledJobRecord υ}
    (hrow : row ∈ s.rows) : row.isHeldRow job (f leaseToken) now = true ↔
      ∃ old, ScheduledJobs.held job leaseToken now s.jobs = some old ∧
        old.toScheduledJobIdentity = job ∧ row = old.mapToken f := by
  obtain ⟨old, hget, rfl⟩ := h.mem_rows.mp hrow
  have htoken : (old.mapToken f).dispatchLeaseToken = some (f leaseToken) ↔
      old.dispatchLeaseToken = some leaseToken := by
    change old.dispatchLeaseToken.map f = (some leaseToken).map f ↔ _
    exact (Option.map_injective hf).eq_iff
  rw [ScheduledJobRecord.isHeldRow, Bool.and_eq_true, Bool.and_eq_true, decide_eq_true_eq,
    decide_eq_true_eq, htoken, hjob]
  constructor
  · rintro ⟨⟨hid, htoken⟩, hleased⟩
    refine ⟨old, ScheduledJobs.held_eq_some.mpr ⟨?_, htoken, hleased⟩, hid, rfl⟩
    rw [← hid]
    exact hget
  · rintro ⟨held, hheld, hid, heq⟩
    obtain ⟨hget', htoken', hleased⟩ := ScheduledJobs.held_eq_some.mp hheld
    have hid' : old.toScheduledJobIdentity = job :=
      (congrArg ScheduledJobRecord.toScheduledJobIdentity heq).trans hid
    rw [← hid'] at hget'
    obtain rfl := Option.some.inj (hget'.symm.trans hget)
    exact ⟨⟨hid', htoken'⟩, hleased⟩

/-- A statement that ends the lease of a job, and the call that does. -/
lemma finalize (h : RepositoriesOk f s) {job : ScheduledJobIdentity} (hjob : job.toRow = job)
    (hf : Function.Injective f) (set : ScheduledJobRecord υ → ScheduledJobRecord υ)
    {leaseToken : τ} {now : ℤ} {old next : ScheduledJobRecord τ}
    (hheld : ScheduledJobs.held job leaseToken now s.jobs = some old)
    (hid : old.toScheduledJobIdentity = job)
    (hnext : next.toScheduledJobIdentity = old.toScheduledJobIdentity)
    (hfree : next.dispatchLeaseToken = none ∧ next.dispatchLeaseExpiresAt = none)
    (hset : set (old.mapToken f) = next.mapToken f)
    (hids : ∀ row, (set row).toScheduledJobIdentity = row.toScheduledJobIdentity) :
    RepositoriesOk f ⟨s.jobs.set job.key next,
        (ScheduledJobTable.updateOne (·.isHeldRow job (f leaseToken) now) set s.rows).2⟩ ∧
      (ScheduledJobTable.updateOne (·.isHeldRow job (f leaseToken) now) set s.rows).1 =
        .answered true := by
  obtain ⟨hget, -, -⟩ := ScheduledJobs.held_eq_some.mp hheld
  have hcond : ∀ row ∈ s.rows, row.isHeldRow job (f leaseToken) now = true ↔
      row.toScheduledJobIdentity = old.toScheduledJobIdentity := by
    intro row hrow
    rw [h.isHeldRow_iff hjob hf hrow]
    constructor
    · rintro ⟨old', hheld', -, rfl⟩
      obtain rfl := Option.some.inj (hheld.symm.trans hheld')
      rfl
    · intro heq
      refine ⟨old, hheld, hid, ?_⟩
      obtain ⟨other, hother, rfl⟩ := h.mem_rows.mp hrow
      change other.toScheduledJobIdentity = old.toScheduledJobIdentity at heq
      rw [heq, hid] at hother
      rw [Option.some.inj (hother.symm.trans hget)]
  constructor
  · rw [← hid] at hget ⊢
    exact h.set hget hnext (iff_of_true hfree.1 hfree.2) (fun row hrow => hid ▸ hcond row hrow)
      hset hids
  · have hone : s.rows.filter (·.isHeldRow job (f leaseToken) now) = [old.mapToken f] := by
      refine List.perm_singleton.mp ((List.perm_ext_iff_of_nodup (h.nodup_rows.of_map.filter _)
        (List.nodup_singleton _)).mpr fun row => ?_)
      rw [List.mem_filter, List.mem_singleton]
      constructor
      · rintro ⟨hrow, hholds⟩
        obtain ⟨old', hheld', -, rfl⟩ := (h.isHeldRow_iff hjob hf hrow).mp hholds
        rw [Option.some.inj (hheld.symm.trans hheld')]
      · rintro rfl
        have hrow : old.mapToken f ∈ s.rows := h.mem_rows.mpr ⟨old, by rw [hid]; exact hget, rfl⟩
        exact ⟨hrow, (hcond _ hrow).mpr rfl⟩
    rw [ScheduledJobTable.updateOne, returning, hone]
    rfl

/-- A statement that ends no lease. -/
lemma finalize_none (h : RepositoriesOk f s) {job : ScheduledJobIdentity} (hjob : job.toRow = job)
    (hf : Function.Injective f) {leaseToken : τ} {now : ℤ}
    {set : ScheduledJobRecord υ → ScheduledJobRecord υ}
    (hheld : ScheduledJobs.held job leaseToken now s.jobs = none) :
    ScheduledJobTable.updateOne (·.isHeldRow job (f leaseToken) now) set s.rows =
      (.answered false, s.rows) := by
  have hnone : ∀ row ∈ s.rows, row.isHeldRow job (f leaseToken) now = false := by
    intro row hrow
    rw [Bool.eq_false_iff, Ne, h.isHeldRow_iff hjob hf hrow]
    rintro ⟨old, hheld', -⟩
    exact nomatch hheld.symm.trans hheld'
  have hempty : s.rows.filter (·.isHeldRow job (f leaseToken) now) = [] :=
    List.filter_eq_nil_iff.mpr fun row hrow => Bool.eq_false_iff.mp (hnone row hrow)
  rw [ScheduledJobTable.updateOne, updateWhere_of_forall hnone, returning, hempty]
  rfl

/-- While the two agree, a call that meets the condition keeps them so. -/
lemma step (h : RepositoriesOk f s) (hf : Function.Injective f)
    (collation : String → String → Bool) {call : ScheduledJobCall τ} (hcall : s.Admitted call)
    (hagrees : s.Agrees call) :
    RepositoriesOk f ((repositoriesMachine collation f).step s call) ∧
      s.SameResult collation f call := by
  obtain ⟨hvalid, hdistinct⟩ := hcall
  cases call with
  | register job cadenceSeconds now =>
      obtain ⟨hpositive, hbound, huuid, hjobKey, hscope⟩ := hvalid
      obtain ⟨hjob, hkey⟩ := hagrees
      have hinteger : positiveInteger cadenceSeconds = true := by
        rw [maxCadenceSeconds] at hbound
        exact decide_eq_true ⟨hpositive, by omega⟩
      have hint4 : ¬ maxInt4 < cadenceSeconds := by
        rw [maxCadenceSeconds] at hbound
        rw [maxInt4]
        omega
      simp only [repositoriesMachine, Repositories.SameResult, ScheduledJobCall.mapToken,
        ScheduledJobs.run, ScheduledJobTable.run, hinteger, huuid, hjobKey, hscope, hjob, hint4,
        not_lt.mpr hbound, Bool.not_true, Bool.false_eq_true, Bool.and_self, Bool.false_or,
        decide_false, if_true, if_false]
      cases hget : s.jobs.get job.key with
      | none =>
          have hany : s.rows.any (·.toScheduledJobIdentity = job) = false := by
            rw [List.any_eq_false]
            intro row hrow hid
            obtain ⟨old, hold, rfl⟩ := h.mem_rows.mp hrow
            have hid : old.toScheduledJobIdentity = job := of_decide_eq_true hid
            rw [hid] at hold
            cases hget.symm.trans hold
          simp only [hany, Bool.false_eq_true, if_false]
          exact ⟨h.registerNew hget cadenceSeconds now, trivial⟩
      | some old =>
          obtain rfl := hkey old (OrderedMap.mem_values_iff.mpr ⟨_, hget⟩)
            (h.keys _ old hget).symm
          have hany : s.rows.any (·.toScheduledJobIdentity = old.toScheduledJobIdentity) = true :=
            List.any_eq_true.mpr ⟨old.mapToken f, h.mem_rows.mpr ⟨old, hget, rfl⟩,
              decide_eq_true rfl⟩
          simp only [hany, if_true]
          refine ⟨h.set hget ?_ ?_ (fun row _ => decide_eq_true_iff) ?_ ?_, trivial⟩
          · rfl
          · exact h.paired _ old hget
          · rfl
          · exact fun _ => rfl
  | claimDue organizationId now batchLimit randomUUID =>
      obtain ⟨hpositive, huuid⟩ := hvalid
      simp only [repositoriesMachine, Repositories.SameResult, ScheduledJobCall.mapToken,
        ScheduledJobs.run, ScheduledJobTable.run, hpositive, huuid, Bool.not_true,
        Bool.false_eq_true, if_true, if_false, h.claimedKeys_eq collation hagrees hdistinct]
      exact h.claim randomUUID fun row => decide_eq_true_iff
  | ack job leaseToken now cadenceSeconds =>
      obtain ⟨hpositive, huuid⟩ := hvalid
      obtain ⟨hjob, hheldJob⟩ := hagrees
      simp only [repositoriesMachine, Repositories.SameResult, ScheduledJobCall.mapToken,
        ScheduledJobs.run, ScheduledJobTable.run, hpositive, huuid, Bool.not_true,
        Bool.false_eq_true, if_false]
      cases hheld : ScheduledJobs.held job leaseToken now s.jobs with
      | none =>
          rw [h.finalize_none hjob hf hheld]
          exact ⟨h, rfl⟩
      | some old =>
          obtain ⟨hid, rfl⟩ := hheldJob old hheld
          obtain ⟨hok, hresult⟩ := h.finalize hjob hf (·.ackedRow now old.cadenceSeconds)
            hheld hid (old.acked_identity now old.cadenceSeconds) ⟨rfl, rfl⟩ rfl fun _ => rfl
          rw [hresult]
          exact ⟨hok, rfl⟩
  | fail job leaseToken now failureCode retryBackoffSeconds =>
      obtain ⟨hcode, hpositive, huuid⟩ := hvalid
      obtain ⟨hjob, hheldJob⟩ := hagrees
      have hany : (s.rows.any fun row => row.isHeldRow job (f leaseToken) now &&
          row.consecutiveFailures ≥ maxConsecutiveFailures) = false := by
        rw [List.any_eq_false]
        intro row hrow hover
        rw [Bool.and_eq_true, decide_eq_true_eq] at hover
        obtain ⟨old, hheld, -, rfl⟩ := (h.isHeldRow_iff hjob hf hrow).mp hover.1
        exact absurd hover.2 (not_le.mpr (hheldJob old hheld).2)
      simp only [repositoriesMachine, Repositories.SameResult, ScheduledJobCall.mapToken,
        ScheduledJobs.run, ScheduledJobTable.run, hpositive, hcode, huuid, hany, Bool.not_true,
        Bool.false_eq_true, if_true, if_false]
      cases hheld : ScheduledJobs.held job leaseToken now s.jobs with
      | none =>
          rw [h.finalize_none hjob hf hheld]
          exact ⟨h, rfl⟩
      | some old =>
          obtain ⟨hid, -⟩ := hheldJob old hheld
          obtain ⟨hok, hresult⟩ := h.finalize hjob hf
            (·.failed now failureCode retryBackoffSeconds) hheld hid
            (old.failed_identity now failureCode retryBackoffSeconds) ⟨rfl, rfl⟩ rfl fun _ => rfl
          rw [hresult]
          exact ⟨hok, rfl⟩

end RepositoriesOk

end Lookups

/-- **The repository in memory is a model of the table**: while every call meets the condition, the
two return the same values and hold the same records, up to a bijection of the tokens. -/
theorem repositories_agree [DecidableEq τ] [DecidableEq υ] (ρ : τ ≃ υ)
    (collation : String → String → Bool) (calls : List (ScheduledJobCall τ))
    (h : (repositoriesMachine collation ρ).EachStep
      (fun s call => s.Admitted call ∧ s.Agrees call) .initial calls) :
    (repositoriesMachine collation ρ).Always (·.Same ρ) .initial calls ∧
      (repositoriesMachine collation ρ).EachStep (·.SameResult collation ρ) .initial calls := by
  have hstep : ∀ s call, RepositoriesOk ρ s → s.Admitted call ∧ s.Agrees call →
      RepositoriesOk ρ ((repositoriesMachine collation ρ).step s call) ∧
        s.SameResult collation ρ call :=
    fun s call hs hcall => hs.step ρ.injective collation hcall.1 hcall.2
  constructor
  · exact (EventMachine.always_of_eachStep (fun s call hs hcall => (hstep s call hs hcall).1)
      (repositoriesOk_initial ρ) h).mono fun _ hs => hs.same
  · exact EventMachine.eachStep_of_eachStep (fun s call hs hcall => (hstep s call hs hcall).1)
      (fun s call hs hcall => (hstep s call hs hcall).2) (repositoriesOk_initial ρ) h

def sampleOrganization : String := "00000000-0000-4000-8000-000000000001"

def otherOrganization : String := "00000000-0000-4000-8000-000000000002"

def sampleJob : ScheduledJobIdentity := ⟨"openclaw.doctor-scan", sampleOrganization, "gateway"⟩

/-- A job that is run twice: the first time it fails, the second time it succeeds. -/
def sampleCalls : List (ScheduledJobCall String) :=
  [.register sampleJob 300 0, .claimDue sampleOrganization 0 10 fun _ => "first",
    .fail sampleJob "first" 5 "handler_failed" 60,
    .claimDue sampleOrganization 60005 10 fun _ => "second", .ack sampleJob "second" 60010 300,
    .ack sampleJob "second" 60011 300]

theorem repositories_agree_sample :
    (repositoriesMachine (fun a b => a ≤ b) (Equiv.refl String)).EachStep
        (fun s call => s.Admitted call ∧ s.Agrees call) .initial sampleCalls ∧
      ((repositoriesMachine (fun a b => a ≤ b) (Equiv.refl String)).outcome .initial
        sampleCalls).Same (Equiv.refl String) := by
  have hcalls : (repositoriesMachine (fun a b => a ≤ b) (Equiv.refl String)).EachStep
      (fun s call => s.Admitted call ∧ s.Agrees call) .initial sampleCalls := by
    decide +kernel
  exact ⟨hcalls, (repositories_agree (Equiv.refl String) _ sampleCalls hcalls).1.outcome⟩

/-- A job whose cadence is changed while it is leased; the scheduler reports with the cadence it
was handed. -/
def reRegistered : List (ScheduledJobCall String) :=
  [.register sampleJob 300 0, .claimDue sampleOrganization 0 10 fun _ => "first",
    .register sampleJob 600 1, .ack sampleJob "first" 2 300]

/-- Two jobs, of two organizations, whose keys are the same text. -/
def collidingKeys : List (ScheduledJobCall String) :=
  [.register ⟨"a", sampleOrganization, otherOrganization ++ ":s"⟩ 300 0,
    .register ⟨"a:" ++ sampleOrganization, otherOrganization, "s"⟩ 300 0]

/-- In memory `ack` overwrites the cadence, and two jobs can share a key; the table does neither. -/
theorem repositories_differ :
    ((repositoriesMachine (fun a b => a ≤ b) (Equiv.refl String)).EachStep
        Repositories.Admitted .initial reRegistered ∧
      ¬ ((repositoriesMachine (fun a b => a ≤ b) (Equiv.refl String)).outcome .initial
        reRegistered).Same (Equiv.refl String)) ∧
    ((repositoriesMachine (fun a b => a ≤ b) (Equiv.refl String)).EachStep
        Repositories.Admitted .initial collidingKeys ∧
      ¬ ((repositoriesMachine (fun a b => a ≤ b) (Equiv.refl String)).outcome .initial
        collidingKeys).Same (Equiv.refl String)) := by
  refine ⟨⟨by decide +kernel, fun hsame => ?_⟩, by decide +kernel, fun hsame => ?_⟩
  · exact absurd (hsame.map (·.cadenceSeconds)) (by decide +kernel)
  · exact absurd hsame.length_eq (by decide +kernel)

end Opzava.Adapters
