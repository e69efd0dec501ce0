import Mathlib
import Opzava.Library.EventMachine
import Opzava.Library.OrderedMap
import Opzava.Library.Texts

/-!
The scheduled jobs of the workers, in the repository that keeps them in memory.

A job is claimed under a lease of a minute and a token. The scheduler that has run it ends the
lease with `ack` or `fail`, which only the current token can while the lease has not expired.

* `register`, `claimDue`, `ack`, `fail`: the calls of the repository.
* `scheduleMachine`: the calls of any number of schedulers, in any order, with their results.
* `scheduled_job_leases`: what the leases guarantee over whole runs.
-/

namespace Opzava.Adapters

open Opzava.Library

/-! ### Jobs -/

/-- The seconds for which a job is leased. -/
def dispatchLeaseSeconds : ℤ := 60

/-- The largest number of failures that is counted. -/
def maxConsecutiveFailures : ℕ := 2147483647

structure ScheduledJobIdentity where
  jobKey : String
  organizationId : String
  scope : String
deriving DecidableEq

/-- A job. Points in time are counted in milliseconds; `τ` is the type of the lease tokens. -/
structure ScheduledJobRecord (τ : Type) extends ScheduledJobIdentity where
  cadenceSeconds : ℤ
  nextRunAt : ℤ
  dispatchLeaseToken : Option τ
  dispatchLeaseExpiresAt : Option ℤ
  consecutiveFailures : ℕ
  lastStartedAt : Option ℤ
  lastCompletedAt : Option ℤ
  lastFailureCode : Option String
deriving DecidableEq

/-- A call of the repository. `randomUUID` draws the token for each job that the call claims. -/
inductive ScheduledJobCall (τ : Type) where
  | register (job : ScheduledJobIdentity) (cadenceSeconds now : ℤ)
  | claimDue (organizationId : String) (now batchLimit : ℤ) (randomUUID : ScheduledJobIdentity → τ)
  | ack (job : ScheduledJobIdentity) (leaseToken : τ) (now cadenceSeconds : ℤ)
  | fail (job : ScheduledJobIdentity) (leaseToken : τ) (now : ℤ) (failureCode : String)
      (retryBackoffSeconds : ℤ)

/-- What a call returns, or the text of the `RangeError` that it throws. -/
inductive ScheduledJobResult (τ : Type) where
  | registered
  | claimed (jobs : List (ScheduledJobRecord τ))
  | answered (ok : Bool)
  | thrown (message : String)
deriving DecidableEq

variable {τ : Type}

namespace ScheduledJobCall

def now : ScheduledJobCall τ → ℤ
  | .register _ _ now => now
  | .claimDue _ now _ _ => now
  | .ack _ _ now _ => now
  | .fail _ _ now _ _ => now

def organizationId : ScheduledJobCall τ → String
  | .register job _ _ => job.organizationId
  | .claimDue organizationId _ _ _ => organizationId
  | .ack job _ _ _ => job.organizationId
  | .fail job _ _ _ _ => job.organizationId

/-- The job that a call names. -/
def job? : ScheduledJobCall τ → Option ScheduledJobIdentity
  | .register job _ _ => some job
  | .claimDue _ _ _ _ => none
  | .ack job _ _ _ => some job
  | .fail job _ _ _ _ => some job

end ScheduledJobCall

/-! ### The checks of the arguments -/

/-- `Number.isSafeInteger(value) && value > 0`, for a whole number. -/
def positiveInteger (value : ℤ) : Bool := 0 < value ∧ value ≤ 9007199254740991

def isLowerAlphanumeric (c : Char) : Bool := ('a' ≤ c ∧ c ≤ 'z') ∨ ('0' ≤ c ∧ c ≤ '9')

/-- `/^[a-z0-9][a-z0-9_]{0,63}$/`. -/
def boundedCode (code : String) : Bool :=
  match code.toList with
  | [] => false
  | first :: rest => isLowerAlphanumeric first && rest.length ≤ 63 &&
      rest.all fun c => isLowerAlphanumeric c || c = '_'

/-! ### The repository in memory -/

/-- The jobs, under their keys. -/
abbrev ScheduledJobs (τ : Type) := OrderedMap String (ScheduledJobRecord τ)

namespace ScheduledJobIdentity

/-- The key of a job in the map. -/
def key (job : ScheduledJobIdentity) : String :=
  job.jobKey ++ ":" ++ job.organizationId ++ ":" ++ job.scope

/-- Neither the job key nor the scope has a colon. -/
def NoColon (job : ScheduledJobIdentity) : Prop :=
  ':' ∉ job.jobKey.toList ∧ ':' ∉ job.scope.toList

instance (job : ScheduledJobIdentity) : Decidable job.NoColon :=
  inferInstanceAs (Decidable (_ ∧ _))

/-- The job as it is registered first. -/
def toRecord (job : ScheduledJobIdentity) (cadenceSeconds now : ℤ) : ScheduledJobRecord τ where
  toScheduledJobIdentity := job
  cadenceSeconds := cadenceSeconds
  nextRunAt := now
  dispatchLeaseToken := none
  dispatchLeaseExpiresAt := none
  consecutiveFailures := 0
  lastStartedAt := none
  lastCompletedAt := none
  lastFailureCode := none

end ScheduledJobIdentity

namespace ScheduledJobRecord

/-- The lease of the job has not expired. -/
def isLeased (now : ℤ) (job : ScheduledJobRecord τ) : Bool :=
  job.dispatchLeaseExpiresAt.any (now < ·)

/-- The job is one that `claimDue` can hand out. -/
def isDue (organizationId : String) (now : ℤ) (job : ScheduledJobRecord τ) : Bool :=
  job.organizationId = organizationId && job.nextRunAt ≤ now && !job.isLeased now

/-- The job under a new lease. -/
def leased (now : ℤ) (token : τ) (job : ScheduledJobRecord τ) : ScheduledJobRecord τ :=
  { job with
    dispatchLeaseToken := some token
    dispatchLeaseExpiresAt := some (now + dispatchLeaseSeconds * 1000)
    lastStartedAt := some now }

/-- The job after `ack`. -/
def acked (now cadenceSeconds : ℤ) (job : ScheduledJobRecord τ) : ScheduledJobRecord τ :=
  { job with
    cadenceSeconds := cadenceSeconds
    nextRunAt := now + cadenceSeconds * 1000
    dispatchLeaseToken := none
    dispatchLeaseExpiresAt := none
    consecutiveFailures := 0
    lastCompletedAt := some now
    lastFailureCode := none }

/-- The job after `fail`. -/
def failed (now : ℤ) (failureCode : String) (retryBackoffSeconds : ℤ)
    (job : ScheduledJobRecord τ) : ScheduledJobRecord τ :=
  { job with
    nextRunAt := now + retryBackoffSeconds * 1000
    dispatchLeaseToken := none
    dispatchLeaseExpiresAt := none
    consecutiveFailures := min (job.consecutiveFailures + 1) maxConsecutiveFailures
    lastFailureCode := some failureCode }

lemma isLeased_of_le {job : ScheduledJobRecord τ} {now later : ℤ}
    (hle : now ≤ later) (h : job.isLeased later = true) : job.isLeased now = true := by
  rw [isLeased, Option.any_eq_true] at h ⊢
  obtain ⟨expiresAt, hexpires, hlt⟩ := h
  exact ⟨expiresAt, hexpires, decide_eq_true (lt_of_le_of_lt hle (of_decide_eq_true hlt))⟩

@[simp] lemma leased_identity (job : ScheduledJobRecord τ) (now : ℤ) (token : τ) :
    (job.leased now token).toScheduledJobIdentity = job.toScheduledJobIdentity := rfl

@[simp] lemma acked_identity (job : ScheduledJobRecord τ) (now cadenceSeconds : ℤ) :
    (job.acked now cadenceSeconds).toScheduledJobIdentity = job.toScheduledJobIdentity := rfl

@[simp] lemma failed_identity (job : ScheduledJobRecord τ) (now : ℤ) (failureCode : String)
    (retryBackoffSeconds : ℤ) :
    (job.failed now failureCode retryBackoffSeconds).toScheduledJobIdentity =
      job.toScheduledJobIdentity := rfl

end ScheduledJobRecord

namespace ScheduledJobs

open ScheduledJobIdentity

/-- The due jobs of an organization with their keys, the earliest first. -/
def due (organizationId : String) (now : ℤ) (jobs : ScheduledJobs τ) :
    List (String × ScheduledJobRecord τ) :=
  (jobs.entries.filter fun entry => entry.2.isDue organizationId now).insertionSort
    fun a b => a.2.nextRunAt ≤ b.2.nextRunAt

/-- Claim the listed jobs, one after the other. -/
def claim (now : ℤ) (randomUUID : ScheduledJobIdentity → τ) :
    List (String × ScheduledJobRecord τ) → ScheduledJobs τ →
      List (ScheduledJobRecord τ) × ScheduledJobs τ
  | [], jobs => ([], jobs)
  | (key, job) :: due, jobs =>
      let next := job.leased now (randomUUID job.toScheduledJobIdentity)
      let (claimed, jobs) := claim now randomUUID due (jobs.set key next)
      (next :: claimed, jobs)

variable [DecidableEq τ]

/-- The job whose lease a call can end: it holds the token, and the lease has not expired. -/
def held (job : ScheduledJobIdentity) (leaseToken : τ) (now : ℤ) (jobs : ScheduledJobs τ) :
    Option (ScheduledJobRecord τ) :=
  (jobs.get job.key).filter fun row => row.dispatchLeaseToken = some leaseToken && row.isLeased now

/-- The calls of the repository. -/
def run (jobs : ScheduledJobs τ) : ScheduledJobCall τ → ScheduledJobResult τ × ScheduledJobs τ
  | .register job cadenceSeconds now =>
      if positiveInteger cadenceSeconds then
        match jobs.get job.key with
        | none => (.registered, jobs.set job.key (job.toRecord cadenceSeconds now))
        | some existing =>
            (.registered, jobs.set job.key { existing with cadenceSeconds := cadenceSeconds })
      else (.thrown "cadenceSeconds must be positive", jobs)
  | .claimDue organizationId now batchLimit randomUUID =>
      if positiveInteger batchLimit then
        let (claimed, jobs) :=
          claim now randomUUID ((due organizationId now jobs).take batchLimit.toNat) jobs
        (.claimed claimed, jobs)
      else (.thrown "batchLimit must be positive", jobs)
  | .ack job leaseToken now cadenceSeconds =>
      match held job leaseToken now jobs with
      | none => (.answered false, jobs)
      | some row => (.answered true, jobs.set job.key (row.acked now cadenceSeconds))
  | .fail job leaseToken now failureCode retryBackoffSeconds =>
      if boundedCode failureCode then
        match held job leaseToken now jobs with
        | none => (.answered false, jobs)
        | some row =>
            (.answered true, jobs.set job.key (row.failed now failureCode retryBackoffSeconds))
      else (.thrown "failureCode must be bounded", jobs)

end ScheduledJobs

/-! ### Runs -/

/-- The calls so far, with their results. -/
abbrev ScheduleTrace (τ : Type) := List (ScheduledJobCall τ × ScheduledJobResult τ)

/-- The jobs a call has handed out. -/
def handedOut : ScheduledJobCall τ × ScheduledJobResult τ → List (ScheduledJobRecord τ)
  | (_, .claimed jobs) => jobs
  | _ => []

/-- The token whose lease a call has ended. -/
def finalized : ScheduledJobCall τ × ScheduledJobResult τ → Option τ
  | (.ack _ leaseToken _ _, .answered true) => some leaseToken
  | (.fail _ leaseToken _ _ _, .answered true) => some leaseToken
  | _ => none

/-- The failures of a job in a row after one more call. -/
def countFailure (job : ScheduledJobIdentity) (failures : ℕ) :
    ScheduledJobCall τ × ScheduledJobResult τ → ℕ
  | (.ack job' _ _ _, .answered true) => if job' = job then 0 else failures
  | (.fail job' _ _ _ _, .answered true) => if job' = job then failures + 1 else failures
  | _ => failures

namespace ScheduleTrace

/-- The leases that were handed out. -/
def leases (trace : ScheduleTrace τ) : List (ScheduledJobRecord τ) := trace.flatMap handedOut

/-- The tokens whose leases were ended, once for each `ack` or `fail` that returned true. -/
def finalizedTokens (trace : ScheduleTrace τ) : List τ := trace.filterMap finalized

/-- The successful `fail` calls of a job since its last successful `ack`. -/
def failuresSinceAck (job : ScheduledJobIdentity) (trace : ScheduleTrace τ) : ℕ :=
  trace.foldl (countFailure job) 0

/-- A lease that was handed out and has not been ended. -/
def Outstanding (trace : ScheduleTrace τ) (lease : ScheduledJobRecord τ) : Prop :=
  lease ∈ trace.leases ∧ ∀ token ∈ lease.dispatchLeaseToken, token ∉ trace.finalizedTokens

end ScheduleTrace

/-- The jobs and the calls so far. -/
structure Schedule (τ : Type) where
  jobs : ScheduledJobs τ
  trace : ScheduleTrace τ

namespace Schedule

def initial : Schedule τ := ⟨.empty, []⟩

/-- The tokens that a call draws are distinct and were not handed out before. -/
def FreshTokens (s : Schedule τ) (randomUUID : ScheduledJobIdentity → τ) : Prop :=
  (s.jobs.values.map fun job => randomUUID job.toScheduledJobIdentity).Nodup ∧
    ∀ job ∈ s.jobs.values, ∀ lease ∈ s.trace.leases,
      lease.dispatchLeaseToken ≠ some (randomUUID job.toScheduledJobIdentity)

/-- What is assumed of a call: the clock has not gone back, the job keys and scopes have no
colon, and the tokens drawn are fresh. -/
def Admitted (s : Schedule τ) (call : ScheduledJobCall τ) : Prop :=
  (∀ entry ∈ s.trace, entry.1.now ≤ call.now) ∧ (∀ job ∈ call.job?, job.NoColon) ∧
    match call with
    | .claimDue _ _ _ randomUUID => s.FreshTokens randomUUID
    | _ => True

instance [DecidableEq τ] (s : Schedule τ) : ∀ call, Decidable (s.Admitted call)
  | .register _ _ _ => inferInstanceAs (Decidable (_ ∧ (∀ job ∈ some _, _) ∧ True))
  | .claimDue _ _ _ _ => inferInstanceAs (Decidable (_ ∧ (∀ job ∈ none, _) ∧ _ ∧ _))
  | .ack _ _ _ _ => inferInstanceAs (Decidable (_ ∧ (∀ job ∈ some _, _) ∧ True))
  | .fail _ _ _ _ _ => inferInstanceAs (Decidable (_ ∧ (∀ job ∈ some _, _) ∧ True))

end Schedule

/-- The repository under the calls of any number of schedulers. -/
def scheduleMachine (τ : Type) [DecidableEq τ] : EventMachine (Schedule τ) (ScheduledJobCall τ) where
  step s call := ⟨(s.jobs.run call).2, s.trace ++ [(call, (s.jobs.run call).1)]⟩

/-! ### Keys -/

lemma ScheduledJobIdentity.key_inj {a b : ScheduledJobIdentity} (ha : a.NoColon) (hb : b.NoColon)
    (h : a.key = b.key) : a = b := by
  have hkey : ∀ job : ScheduledJobIdentity, job.key.toList =
      job.jobKey.toList ++ ':' :: (job.organizationId.toList ++ ':' :: job.scope.toList) := by
    intro job
    simp [ScheduledJobIdentity.key]
  have hlists := congrArg String.toList h
  rw [hkey, hkey] at hlists
  obtain ⟨hjobKey, hrest⟩ := append_separator_inj ha.1 hb.1 hlists
  obtain ⟨horganization, hscope⟩ := append_separator_inj_last ha.2 hb.2 hrest
  cases a
  cases b
  simp only [ScheduledJobIdentity.mk.injEq]
  exact ⟨String.toList_injective hjobKey, String.toList_injective horganization,
    String.toList_injective hscope⟩

/-! ### What a call does -/

namespace ScheduledJobs

variable {jobs : ScheduledJobs τ} {organizationId : String} {now : ℤ}
  {randomUUID : ScheduledJobIdentity → τ}

lemma mem_due {entry : String × ScheduledJobRecord τ} : entry ∈ jobs.due organizationId now ↔
    jobs.get entry.1 = some entry.2 ∧ entry.2.isDue organizationId now = true := by
  rw [due, List.mem_insertionSort, List.mem_filter, ← OrderedMap.mem_entries_iff]

lemma nodup_due (jobs : ScheduledJobs τ) (organizationId : String) (now : ℤ) :
    ((jobs.due organizationId now).map Prod.fst).Nodup := by
  have hperm := (List.perm_insertionSort
    (fun a b : String × ScheduledJobRecord τ => a.2.nextRunAt ≤ b.2.nextRunAt)
    (jobs.entries.filter fun entry => entry.2.isDue organizationId now)).map Prod.fst
  exact hperm.nodup_iff.mpr (jobs.nodupKeys.sublist (List.filter_sublist.map Prod.fst))

lemma sorted_due (jobs : ScheduledJobs τ) (organizationId : String) (now : ℤ) :
    (jobs.due organizationId now).Pairwise fun a b => a.2.nextRunAt ≤ b.2.nextRunAt :=
  haveI : Std.Total fun a b : String × ScheduledJobRecord τ => a.2.nextRunAt ≤ b.2.nextRunAt :=
    ⟨fun _ _ => le_total _ _⟩
  haveI : IsTrans (String × ScheduledJobRecord τ) fun a b => a.2.nextRunAt ≤ b.2.nextRunAt :=
    ⟨fun _ _ _ => le_trans⟩
  List.pairwise_insertionSort _ _

lemma claim_fst (due : List (String × ScheduledJobRecord τ)) (jobs : ScheduledJobs τ) :
    (claim now randomUUID due jobs).1 =
      due.map fun entry => entry.2.leased now (randomUUID entry.2.toScheduledJobIdentity) := by
  induction due generalizing jobs with
  | nil => rfl
  | cons entry due ih =>
      rw [claim, List.map_cons]
      dsimp only
      rw [ih]

/-- A claim leaves the other jobs alone. -/
lemma get_claim_of_notMem {due : List (String × ScheduledJobRecord τ)} {key : String}
    (h : key ∉ due.map Prod.fst) (jobs : ScheduledJobs τ) :
    (claim now randomUUID due jobs).2.get key = jobs.get key := by
  induction due generalizing jobs with
  | nil => rfl
  | cons entry due ih =>
      rw [List.map_cons, List.mem_cons, not_or] at h
      rw [claim]
      dsimp only
      rw [ih h.2, OrderedMap.get_set_of_ne _ _ h.1]

/-- A claim leases the listed jobs. -/
lemma get_claim_of_mem {due : List (String × ScheduledJobRecord τ)}
    (hnodup : (due.map Prod.fst).Nodup) {key : String} {job : ScheduledJobRecord τ}
    (h : (key, job) ∈ due) (jobs : ScheduledJobs τ) :
    (claim now randomUUID due jobs).2.get key =
      some (job.leased now (randomUUID job.toScheduledJobIdentity)) := by
  induction due generalizing jobs with
  | nil => exact absurd h List.not_mem_nil
  | cons entry due ih =>
      rw [List.map_cons, List.nodup_cons] at hnodup
      rw [claim]
      dsimp only
      rcases List.mem_cons.mp h with rfl | h
      · rw [get_claim_of_notMem hnodup.1, OrderedMap.get_set_self]
      · exact ih hnodup.2 h _

/-- What a job is after a claim, and what it was before. -/
lemma get_claim_cases {due : List (String × ScheduledJobRecord τ)}
    (hnodup : (due.map Prod.fst).Nodup) {key : String} {job : ScheduledJobRecord τ}
    (h : (claim now randomUUID due jobs).2.get key = some job) :
    (key ∉ due.map Prod.fst ∧ jobs.get key = some job) ∨
      ∃ old, (key, old) ∈ due ∧ job = old.leased now (randomUUID old.toScheduledJobIdentity) := by
  by_cases hmem : key ∈ due.map Prod.fst
  · obtain ⟨⟨key, old⟩, hold, rfl⟩ := List.mem_map.mp hmem
    rw [get_claim_of_mem hnodup hold] at h
    exact .inr ⟨old, hold, (Option.some.inj h).symm⟩
  · rw [get_claim_of_notMem hmem] at h
    exact .inl ⟨hmem, h⟩

variable [DecidableEq τ]

lemma held_eq_some {job : ScheduledJobIdentity} {leaseToken : τ} {row : ScheduledJobRecord τ} :
    held job leaseToken now jobs = some row ↔ jobs.get job.key = some row ∧
      row.dispatchLeaseToken = some leaseToken ∧ row.isLeased now = true := by
  rw [held, Option.filter_eq_some_iff, Bool.and_eq_true, decide_eq_true_eq]

/-- The jobs that a call of `claimDue` takes. -/
def batch (organizationId : String) (now batchLimit : ℤ) (jobs : ScheduledJobs τ) :
    List (String × ScheduledJobRecord τ) :=
  (jobs.due organizationId now).take batchLimit.toNat

/-- Everything that a call can do: its result, and the jobs after it. -/
inductive Effect (jobs : ScheduledJobs τ) :
    ScheduledJobCall τ → ScheduledJobResult τ → ScheduledJobs τ → Prop
  | thrown (call : ScheduledJobCall τ) (message : String) : Effect jobs call (.thrown message) jobs
  | refused (call : ScheduledJobCall τ) : Effect jobs call (.answered false) jobs
  | registered (job : ScheduledJobIdentity) (cadenceSeconds now : ℤ) (row : ScheduledJobRecord τ)
      (h : (jobs.get job.key = none ∧ row = job.toRecord cadenceSeconds now) ∨
        ∃ old, jobs.get job.key = some old ∧ row = { old with cadenceSeconds := cadenceSeconds }) :
      Effect jobs (.register job cadenceSeconds now) .registered (jobs.set job.key row)
  | claimed (organizationId : String) (now batchLimit : ℤ)
      (randomUUID : ScheduledJobIdentity → τ) (hpositive : 0 < batchLimit) :
      Effect jobs (.claimDue organizationId now batchLimit randomUUID)
        (.claimed (claim now randomUUID (batch organizationId now batchLimit jobs) jobs).1)
        (claim now randomUUID (batch organizationId now batchLimit jobs) jobs).2
  | acked (job : ScheduledJobIdentity) (leaseToken : τ) (now cadenceSeconds : ℤ)
      (row : ScheduledJobRecord τ) (hheld : held job leaseToken now jobs = some row) :
      Effect jobs (.ack job leaseToken now cadenceSeconds) (.answered true)
        (jobs.set job.key (row.acked now cadenceSeconds))
  | failed (job : ScheduledJobIdentity) (leaseToken : τ) (now : ℤ) (failureCode : String)
      (retryBackoffSeconds : ℤ) (row : ScheduledJobRecord τ)
      (hheld : held job leaseToken now jobs = some row) :
      Effect jobs (.fail job leaseToken now failureCode retryBackoffSeconds) (.answered true)
        (jobs.set job.key (row.failed now failureCode retryBackoffSeconds))

lemma run_effect (jobs : ScheduledJobs τ) (call : ScheduledJobCall τ) :
    Effect jobs call (jobs.run call).1 (jobs.run call).2 := by
  cases call with
  | register job cadenceSeconds now =>
      rw [run]
      split_ifs
      · cases hget : jobs.get job.key with
        | none => exact .registered job cadenceSeconds now _ (.inl ⟨hget, rfl⟩)
        | some old => exact .registered job cadenceSeconds now _ (.inr ⟨old, hget, rfl⟩)
      · exact .thrown _ _
  | claimDue organizationId now batchLimit randomUUID =>
      rw [run]
      split_ifs with hpositive
      · rw [positiveInteger, decide_eq_true_eq] at hpositive
        exact .claimed organizationId now batchLimit randomUUID hpositive.1
      · exact .thrown _ _
  | ack job leaseToken now cadenceSeconds =>
      rw [run]
      cases hheld : held job leaseToken now jobs with
      | none => exact .refused _
      | some row => exact .acked job leaseToken now cadenceSeconds row hheld
  | fail job leaseToken now failureCode retryBackoffSeconds =>
      rw [run]
      split_ifs
      · cases hheld : held job leaseToken now jobs with
        | none => exact .refused _
        | some row => exact .failed job leaseToken now failureCode retryBackoffSeconds row hheld
      · exact .thrown _ _

end ScheduledJobs

/-! ### The invariant -/

namespace ScheduleTrace

variable (trace : ScheduleTrace τ) (call : ScheduledJobCall τ) (result : ScheduledJobResult τ)

lemma leases_append : leases (trace ++ [(call, result)]) =
    trace.leases ++ handedOut (call, result) := by
  rw [leases, List.flatMap_append, List.flatMap_singleton]
  rfl

lemma finalizedTokens_append : finalizedTokens (trace ++ [(call, result)]) =
    trace.finalizedTokens ++ (finalized (call, result)).toList := by
  rw [finalizedTokens, List.filterMap_append]
  cases h : finalized (call, result) with
  | none => simp [h, finalizedTokens]
  | some token => simp [h, finalizedTokens]

lemma failuresSinceAck_append (job : ScheduledJobIdentity) :
    failuresSinceAck job (trace ++ [(call, result)]) =
      countFailure job (failuresSinceAck job trace) (call, result) := by
  rw [failuresSinceAck, List.foldl_append]
  rfl

end ScheduleTrace

/-- The lease that a job holds, if it holds one, was handed out for it and has not been ended. -/
def HoldsLease (trace : ScheduleTrace τ) (job : ScheduledJobRecord τ) : Prop :=
  (job.dispatchLeaseToken = none ∧ job.dispatchLeaseExpiresAt = none) ∨
    ∃ token, job.dispatchLeaseToken = some token ∧ token ∉ trace.finalizedTokens ∧
      ∃ lease ∈ trace.leases, lease.toScheduledJobIdentity = job.toScheduledJobIdentity ∧
        lease.dispatchLeaseToken = some token

/-- A lease that was handed out has been ended, has expired, or is the one its job holds. -/
def LeaseStands (s : Schedule τ) (lease : ScheduledJobRecord τ) : Prop :=
  ∃ token, lease.dispatchLeaseToken = some token ∧
    (token ∈ s.trace.finalizedTokens ∨ (∃ entry ∈ s.trace, lease.isLeased entry.1.now = false) ∨
      ∃ job, s.jobs.get lease.key = some job ∧ job.dispatchLeaseToken = some token ∧
        job.dispatchLeaseExpiresAt = lease.dispatchLeaseExpiresAt)

/-- What holds in every state of a run. -/
structure ScheduleOk (s : Schedule τ) : Prop where
  keys : ∀ key job, s.jobs.get key = some job → key = job.key ∧ job.NoColon
  held : ∀ key job, s.jobs.get key = some job → HoldsLease s.trace job
  stands : ∀ lease ∈ s.trace.leases, lease.NoColon ∧ LeaseStands s lease
  tokens : (s.trace.leases.map (·.dispatchLeaseToken)).Nodup
  ended : ∀ token ∈ s.trace.finalizedTokens, ∃ lease ∈ s.trace.leases,
    lease.dispatchLeaseToken = some token
  once : s.trace.finalizedTokens.Nodup
  failures : ∀ job : ScheduledJobIdentity, job.NoColon →
    (s.jobs.get job.key).elim 0 (·.consecutiveFailures) =
      min maxConsecutiveFailures (s.trace.failuresSinceAck job)

lemma scheduleOk_initial : ScheduleOk (Schedule.initial : Schedule τ) where
  keys _ _ h := nomatch h
  held _ _ h := nomatch h
  stands _ h := nomatch h
  tokens := List.nodup_nil
  ended _ h := nomatch h
  once := List.nodup_nil
  failures _ _ := rfl

section Steps

variable {s : Schedule τ} {call : ScheduledJobCall τ} {result : ScheduledJobResult τ}

lemma HoldsLease.mono {trace trace' : ScheduleTrace τ} {job : ScheduledJobRecord τ}
    (h : HoldsLease trace job) (hleases : trace.leases ⊆ trace'.leases)
    (hended : ∀ token ∈ job.dispatchLeaseToken, token ∈ trace'.finalizedTokens →
      token ∈ trace.finalizedTokens) : HoldsLease trace' job := by
  rcases h with hnone | ⟨token, htoken, hopen, lease, hlease, hid, hof⟩
  · exact .inl hnone
  · exact .inr ⟨token, htoken, fun hmem => hopen (hended token htoken hmem), lease,
      hleases hlease, hid, hof⟩

/-- Two leases under one token are the same. -/
lemma ScheduleOk.lease_unique (h : ScheduleOk s) {a b : ScheduledJobRecord τ} {token : τ}
    (ha : a ∈ s.trace.leases) (hb : b ∈ s.trace.leases) (hatoken : a.dispatchLeaseToken = some token)
    (hbtoken : b.dispatchLeaseToken = some token) : a = b :=
  List.inj_on_of_nodup_map h.tokens ha hb (hatoken.trans hbtoken.symm)

/-- Two jobs that hold one token are the same. -/
lemma ScheduleOk.holder_unique (h : ScheduleOk s) {key key' : String}
    {job job' : ScheduledJobRecord τ} {token : τ} (hjob : s.jobs.get key = some job)
    (hjob' : s.jobs.get key' = some job') (htoken : job.dispatchLeaseToken = some token)
    (htoken' : job'.dispatchLeaseToken = some token) : key = key' := by
  have hlease : ∀ {key job}, s.jobs.get key = some job → job.dispatchLeaseToken = some token →
      ∃ lease ∈ s.trace.leases, lease.toScheduledJobIdentity = job.toScheduledJobIdentity ∧
        lease.dispatchLeaseToken = some token := by
    intro key job hjob htoken
    rcases h.held key job hjob with ⟨hnone, -⟩ | ⟨token', htoken', -, hlease⟩
    · exact nomatch hnone.symm.trans htoken
    · obtain rfl := Option.some.inj (htoken'.symm.trans htoken)
      exact hlease
  obtain ⟨lease, hmem, hid, hof⟩ := hlease hjob htoken
  obtain ⟨lease', hmem', hid', hof'⟩ := hlease hjob' htoken'
  obtain rfl := h.lease_unique hmem hmem' hof hof'
  rw [(h.keys key job hjob).1, (h.keys key' job' hjob').1, ← hid, ← hid']

/-- A call that changes nothing. -/
lemma ScheduleOk.quiet (h : ScheduleOk s) (hhanded : handedOut (call, result) = [])
    (hfinalized : finalized (call, result) = none)
    (hcount : ∀ job n, countFailure job n (call, result) = n) :
    ScheduleOk ⟨s.jobs, s.trace ++ [(call, result)]⟩ := by
  have hleases : ScheduleTrace.leases (s.trace ++ [(call, result)]) = s.trace.leases := by
    rw [ScheduleTrace.leases_append, hhanded, List.append_nil]
  have hended : ScheduleTrace.finalizedTokens (s.trace ++ [(call, result)]) =
      s.trace.finalizedTokens := by
    rw [ScheduleTrace.finalizedTokens_append, hfinalized, Option.toList_none, List.append_nil]
  refine ⟨h.keys, fun key job hjob => ?_, ?_, ?_, ?_, ?_, fun job hjob => ?_⟩
  · exact (h.held key job hjob).mono (by rw [hleases]; exact List.Subset.refl _) fun _ _ => hended ▸ id
  · dsimp only
    rw [hleases]
    intro lease hlease
    obtain ⟨hcolon, token, htoken, hstands⟩ := h.stands lease hlease
    refine ⟨hcolon, token, htoken, ?_⟩
    rcases hstands with hmem | ⟨entry, hentry, hexpired⟩ | hheld
    · exact .inl (hended ▸ hmem)
    · exact .inr (.inl ⟨entry, List.mem_append_left _ hentry, hexpired⟩)
    · exact .inr (.inr hheld)
  · dsimp only
    rw [hleases]
    exact h.tokens
  · dsimp only
    rw [hleases, hended]
    exact h.ended
  · dsimp only
    rw [hended]
    exact h.once
  · dsimp only
    rw [ScheduleTrace.failuresSinceAck_append, hcount]
    exact h.failures job hjob

/-- A call that writes one job: it ends the lease of the job, or leaves it as it was. -/
structure WritesJob (s : Schedule τ) (call : ScheduledJobCall τ) (result : ScheduledJobResult τ)
    (row : ScheduledJobRecord τ) : Prop where
  noColon : row.NoColon
  handed : handedOut (call, result) = []
  ends : ∀ token, finalized (call, result) = some token →
    (∃ old, s.jobs.get row.key = some old ∧ old.dispatchLeaseToken = some token) ∧
      row.dispatchLeaseToken = none ∧ row.dispatchLeaseExpiresAt = none
  keeps : finalized (call, result) = none →
    row.dispatchLeaseToken = (s.jobs.get row.key).bind (·.dispatchLeaseToken) ∧
      row.dispatchLeaseExpiresAt = (s.jobs.get row.key).bind (·.dispatchLeaseExpiresAt)
  others : ∀ job ≠ row.toScheduledJobIdentity, ∀ n, countFailure job n (call, result) = n
  failures : row.consecutiveFailures = min maxConsecutiveFailures (countFailure
    row.toScheduledJobIdentity (s.trace.failuresSinceAck row.toScheduledJobIdentity)
    (call, result))

namespace WritesJob

variable {row : ScheduledJobRecord τ}

lemma leases_eq (w : WritesJob s call result row) :
    ScheduleTrace.leases (s.trace ++ [(call, result)]) = s.trace.leases := by
  rw [ScheduleTrace.leases_append, w.handed, List.append_nil]

lemma mem_finalizedTokens {token : τ} :
    token ∈ ScheduleTrace.finalizedTokens (s.trace ++ [(call, result)]) ↔
      token ∈ s.trace.finalizedTokens ∨ finalized (call, result) = some token := by
  rw [ScheduleTrace.finalizedTokens_append, List.mem_append, Option.mem_toList]

/-- The token that is ended is the one of the job that is written. -/
lemma not_ended (w : WritesJob s call result row) (h : ScheduleOk s) {key : String}
    {job : ScheduledJobRecord τ} {token : τ} (hne : key ≠ row.key)
    (hjob : s.jobs.get key = some job) (htoken : job.dispatchLeaseToken = some token) :
    finalized (call, result) ≠ some token := by
  intro hfinalized
  obtain ⟨⟨old, hold, holdToken⟩, -, -⟩ := w.ends token hfinalized
  exact hne (h.holder_unique hjob hold htoken holdToken)

/-- A token that is ended was handed out, and was not ended before. -/
lemma ended (w : WritesJob s call result row) (h : ScheduleOk s) {token : τ}
    (hfinalized : finalized (call, result) = some token) :
    token ∉ s.trace.finalizedTokens ∧
      ∃ lease ∈ s.trace.leases, lease.dispatchLeaseToken = some token := by
  obtain ⟨⟨old, hold, holdToken⟩, -, -⟩ := w.ends token hfinalized
  rcases h.held _ old hold with ⟨hnone, -⟩ | ⟨token', htoken', hopen, lease, hlease, -, hltoken⟩
  · exact nomatch hnone.symm.trans holdToken
  · obtain rfl := Option.some.inj (htoken'.symm.trans holdToken)
    exact ⟨hopen, lease, hlease, hltoken⟩

lemma of_old (w : WritesJob s call result row) (hnone : finalized (call, result) = none)
    {old : ScheduledJobRecord τ} (hold : s.jobs.get row.key = some old) :
    row.dispatchLeaseToken = old.dispatchLeaseToken ∧
      row.dispatchLeaseExpiresAt = old.dispatchLeaseExpiresAt := by
  have hkeeps := w.keeps hnone
  rw [hold] at hkeeps
  exact hkeeps

/-- The lease of the job that is written. -/
lemma holdsLease (w : WritesJob s call result row) (h : ScheduleOk s) :
    HoldsLease (s.trace ++ [(call, result)]) row := by
  cases hfinalized : finalized (call, result) with
  | some token =>
      obtain ⟨-, hnone, hexpires⟩ := w.ends token hfinalized
      exact .inl ⟨hnone, hexpires⟩
  | none =>
      cases hold : s.jobs.get row.key with
      | none =>
          have hkeeps := w.keeps hfinalized
          rw [hold] at hkeeps
          exact .inl hkeeps
      | some old =>
          obtain ⟨htoken, hexpires⟩ := w.of_old hfinalized hold
          obtain ⟨hkey, hcolon⟩ := h.keys _ old hold
          have hid := ScheduledJobIdentity.key_inj w.noColon hcolon hkey
          rcases h.held _ old hold with ⟨hnone, hnone'⟩ | ⟨token, holds, hopen, lease, hlease,
            hlid, hltoken⟩
          · exact .inl ⟨htoken.trans hnone, hexpires.trans hnone'⟩
          · refine .inr ⟨token, htoken.trans holds, fun hmem => ?_, lease, w.leases_eq ▸ hlease,
              hlid.trans hid.symm, hltoken⟩
            rcases mem_finalizedTokens.mp hmem with hmem | hmem
            · exact hopen hmem
            · exact nomatch hfinalized.symm.trans hmem

/-- The leases that were handed out, after the write. -/
lemma leaseStands (w : WritesJob s call result row) {lease : ScheduledJobRecord τ}
    (h : LeaseStands s lease) :
    LeaseStands ⟨s.jobs.set row.key row, s.trace ++ [(call, result)]⟩ lease := by
  obtain ⟨token, htoken, hmem | ⟨entry, hentry, hexpired⟩ | ⟨job, hjob, hjtoken, hexpires⟩⟩ := h
  · exact ⟨token, htoken, .inl (mem_finalizedTokens.mpr (.inl hmem))⟩
  · exact ⟨token, htoken, .inr (.inl ⟨entry, List.mem_append_left _ hentry, hexpired⟩)⟩
  · refine ⟨token, htoken, ?_⟩
    by_cases hkey : lease.key = row.key
    · cases hfinalized : finalized (call, result) with
      | some token' =>
          obtain ⟨⟨old, hold, holdToken⟩, -, -⟩ := w.ends token' hfinalized
          obtain rfl := Option.some.inj (hold.symm.trans (hkey ▸ hjob))
          obtain rfl := Option.some.inj (holdToken.symm.trans hjtoken)
          exact .inl (mem_finalizedTokens.mpr (.inr hfinalized))
      | none =>
          obtain ⟨hrtoken, hrexpires⟩ := w.of_old hfinalized (hkey ▸ hjob)
          refine .inr (.inr ⟨row, ?_, hrtoken.trans hjtoken, hrexpires.trans hexpires⟩)
          rw [hkey, OrderedMap.get_set_self]
    · refine .inr (.inr ⟨job, ?_, hjtoken, hexpires⟩)
      rw [OrderedMap.get_set_of_ne _ _ hkey]
      exact hjob

end WritesJob

lemma ScheduleOk.write {row : ScheduledJobRecord τ} (h : ScheduleOk s)
    (w : WritesJob s call result row) :
    ScheduleOk ⟨s.jobs.set row.key row, s.trace ++ [(call, result)]⟩ := by
  refine ⟨fun key job hjob => ?_, fun key job hjob => ?_, ?_, ?_, ?_, ?_, fun job hjob => ?_⟩
  · rcases OrderedMap.get_set_eq_some hjob with ⟨rfl, rfl⟩ | ⟨-, hjob⟩
    · exact ⟨rfl, w.noColon⟩
    · exact h.keys key job hjob
  · rcases OrderedMap.get_set_eq_some hjob with ⟨rfl, rfl⟩ | ⟨hne, hjob⟩
    · exact w.holdsLease h
    · refine (h.held key job hjob).mono (by rw [w.leases_eq]; exact List.Subset.refl _)
        fun token htoken hmem => ?_
      exact (WritesJob.mem_finalizedTokens.mp hmem).resolve_right
        (w.not_ended h hne hjob htoken)
  · dsimp only
    rw [w.leases_eq]
    exact fun lease hlease => ⟨(h.stands lease hlease).1, w.leaseStands (h.stands lease hlease).2⟩
  · dsimp only
    rw [w.leases_eq]
    exact h.tokens
  · dsimp only
    rw [w.leases_eq]
    intro token hmem
    rcases WritesJob.mem_finalizedTokens.mp hmem with hmem | hfinalized
    · exact h.ended token hmem
    · exact (w.ended h hfinalized).2
  · dsimp only
    rw [ScheduleTrace.finalizedTokens_append]
    cases hfinalized : finalized (call, result) with
    | none =>
        rw [Option.toList_none, List.append_nil]
        exact h.once
    | some token =>
        rw [Option.toList_some]
        refine List.nodup_append.mpr ⟨h.once, List.nodup_singleton _, fun a ha b hb heq => ?_⟩
        obtain rfl := List.mem_singleton.mp hb
        exact (w.ended h hfinalized).1 (heq ▸ ha)
  · dsimp only
    rw [ScheduleTrace.failuresSinceAck_append]
    by_cases hid : job = row.toScheduledJobIdentity
    · subst hid
      rw [OrderedMap.get_set_self]
      exact w.failures
    · have hkey : job.key ≠ row.key := fun heq =>
        hid (ScheduledJobIdentity.key_inj hjob w.noColon heq)
      rw [OrderedMap.get_set_of_ne _ _ hkey, w.others job hid]
      exact h.failures job hjob

/-! ### The invariant under a claim -/

section Claims

variable {organizationId : String} {now batchLimit : ℤ} {randomUUID : ScheduledJobIdentity → τ}

open ScheduledJobs

/-- The leases that a call of `claimDue` hands out. -/
def batchLeases (randomUUID : ScheduledJobIdentity → τ) (organizationId : String)
    (now batchLimit : ℤ) (jobs : ScheduledJobs τ) : List (ScheduledJobRecord τ) :=
  (batch organizationId now batchLimit jobs).map fun entry =>
    entry.2.leased now (randomUUID entry.2.toScheduledJobIdentity)

variable {jobs : ScheduledJobs τ}

lemma get_of_mem_batch {entry : String × ScheduledJobRecord τ}
    (h : entry ∈ batch organizationId now batchLimit jobs) :
    jobs.get entry.1 = some entry.2 ∧ entry.2.isDue organizationId now = true :=
  mem_due.mp (List.mem_of_mem_take h)

lemma nodup_batch : ((batch organizationId now batchLimit jobs).map Prod.fst).Nodup :=
  (nodup_due jobs organizationId now).sublist ((List.take_sublist _ _).map Prod.fst)

lemma mem_batchLeases {lease : ScheduledJobRecord τ} :
    lease ∈ batchLeases randomUUID organizationId now batchLimit jobs ↔
      ∃ key job, (key, job) ∈ batch organizationId now batchLimit jobs ∧
        lease = job.leased now (randomUUID job.toScheduledJobIdentity) := by
  rw [batchLeases, List.mem_map]
  constructor
  · rintro ⟨⟨key, job⟩, hmem, rfl⟩
    exact ⟨key, job, hmem, rfl⟩
  · rintro ⟨key, job, hmem, rfl⟩
    exact ⟨(key, job), hmem, rfl⟩

/-- The tokens that a claim draws are distinct. -/
lemma nodup_batchTokens (hfresh : (jobs.values.map fun job =>
    randomUUID job.toScheduledJobIdentity).Nodup) :
    ((batchLeases randomUUID organizationId now batchLimit jobs).map
      (·.dispatchLeaseToken)).Nodup := by
  rw [OrderedMap.values, List.map_map] at hfresh
  have hentries : (jobs.entries.map fun entry =>
      some (randomUUID entry.2.toScheduledJobIdentity)).Nodup := by
    have hsome := hfresh.map (Option.some_injective τ)
    rwa [List.map_map] at hsome
  rw [batchLeases, List.map_map]
  have hperm := (List.perm_insertionSort
    (fun a b : String × ScheduledJobRecord τ => a.2.nextRunAt ≤ b.2.nextRunAt)
    (jobs.entries.filter fun entry => entry.2.isDue organizationId now)).map fun entry =>
      some (randomUUID entry.2.toScheduledJobIdentity)
  have hdue : ((jobs.due organizationId now).map fun entry =>
      some (randomUUID entry.2.toScheduledJobIdentity)).Nodup :=
    hperm.nodup_iff.mpr (hentries.sublist (List.filter_sublist.map _))
  exact hdue.sublist ((List.take_sublist _ _).map _)

/-- A lease that was handed out before a claim. -/
lemma LeaseStands.claim {lease : ScheduledJobRecord τ} (h : LeaseStands s lease) :
    LeaseStands ⟨(claim now randomUUID (batch organizationId now batchLimit s.jobs) s.jobs).2,
      s.trace ++ [(.claimDue organizationId now batchLimit randomUUID, result)]⟩ lease := by
  obtain ⟨token, htoken, hmem | ⟨entry, hentry, hexpired⟩ | ⟨job, hjob, hjtoken, hexpires⟩⟩ := h
  · exact ⟨token, htoken, .inl (WritesJob.mem_finalizedTokens.mpr (.inl hmem))⟩
  · exact ⟨token, htoken, .inr (.inl ⟨entry, List.mem_append_left _ hentry, hexpired⟩)⟩
  · refine ⟨token, htoken, .inr ?_⟩
    by_cases hkey : lease.key ∈ (batch organizationId now batchLimit s.jobs).map Prod.fst
    · -- The job is claimed again, so its lease has expired.
      obtain ⟨⟨key, old⟩, hold, hkeyEq⟩ := List.mem_map.mp hkey
      obtain ⟨hget, hdue⟩ := get_of_mem_batch hold
      obtain rfl := Option.some.inj (hget.symm.trans (hkeyEq ▸ hjob))
      refine .inl ⟨_, List.mem_append_right _ (List.mem_singleton_self _), ?_⟩
      rw [ScheduledJobRecord.isDue, Bool.and_eq_true, Bool.not_eq_true'] at hdue
      rw [ScheduledJobRecord.isLeased, ← hexpires]
      exact hdue.2
    · refine .inr ⟨job, ?_, hjtoken, hexpires⟩
      rw [get_claim_of_notMem hkey]
      exact hjob

lemma ScheduleOk.claim (h : ScheduleOk s) (hfresh : s.FreshTokens randomUUID) :
    ScheduleOk ⟨(claim now randomUUID (batch organizationId now batchLimit s.jobs) s.jobs).2,
      s.trace ++ [(.claimDue organizationId now batchLimit randomUUID,
        .claimed (batchLeases randomUUID organizationId now batchLimit s.jobs))]⟩ := by
  have hended : ScheduleTrace.finalizedTokens (s.trace ++
      [(.claimDue organizationId now batchLimit randomUUID,
        .claimed (batchLeases randomUUID organizationId now batchLimit s.jobs))]) =
      s.trace.finalizedTokens := by
    rw [ScheduleTrace.finalizedTokens_append]
    exact List.append_nil _
  have hmono : s.trace.leases ⊆ ScheduleTrace.leases (s.trace ++
      [(.claimDue organizationId now batchLimit randomUUID,
        .claimed (batchLeases randomUUID organizationId now batchLimit s.jobs))]) := by
    rw [ScheduleTrace.leases_append]
    exact List.subset_append_left _ _
  -- A token that is drawn is not the token of a lease that was handed out before.
  have hnew : ∀ key job, (key, job) ∈ batch organizationId now batchLimit s.jobs →
      ∀ lease ∈ s.trace.leases,
        lease.dispatchLeaseToken ≠ some (randomUUID job.toScheduledJobIdentity) :=
    fun key job hjob => hfresh.2 job
      (OrderedMap.mem_values_iff.mpr ⟨key, (get_of_mem_batch hjob).1⟩)
  refine ⟨fun key job hjob => ?_, fun key job hjob => ?_, fun lease hlease => ?_, ?_, ?_, ?_,
    fun job hjob => ?_⟩
  · rcases get_claim_cases nodup_batch hjob with ⟨-, hjob⟩ | ⟨old, hold, rfl⟩
    · exact h.keys key job hjob
    · exact h.keys key old (get_of_mem_batch hold).1
  · rcases get_claim_cases nodup_batch hjob with ⟨-, hjob⟩ | ⟨old, hold, rfl⟩
    · exact (h.held key job hjob).mono hmono fun _ _ => hended ▸ id
    · refine .inr ⟨_, rfl, fun hmem => ?_, _, ?_, rfl, rfl⟩
      · dsimp only at hmem
        rw [hended] at hmem
        obtain ⟨lease, hlease, htoken⟩ := h.ended _ hmem
        exact hnew key old hold lease hlease htoken
      · dsimp only
        rw [ScheduleTrace.leases_append]
        exact List.mem_append_right _ (mem_batchLeases.mpr ⟨key, old, hold, rfl⟩)
  · dsimp only at hlease
    rw [ScheduleTrace.leases_append, List.mem_append] at hlease
    rcases hlease with hlease | hlease
    · exact ⟨(h.stands lease hlease).1, (h.stands lease hlease).2.claim⟩
    · obtain ⟨key, job, hjob, rfl⟩ := mem_batchLeases.mp hlease
      obtain ⟨hkey, hcolon⟩ := h.keys key job (get_of_mem_batch hjob).1
      refine ⟨hcolon, _, rfl, .inr (.inr ⟨_, ?_, rfl, rfl⟩)⟩
      dsimp only
      rw [show (job.leased now (randomUUID job.toScheduledJobIdentity)).key = key from hkey.symm]
      exact get_claim_of_mem nodup_batch hjob _
  · dsimp only
    rw [ScheduleTrace.leases_append, List.map_append]
    refine List.nodup_append.mpr ⟨h.tokens, nodup_batchTokens hfresh.1, fun a ha b hb heq => ?_⟩
    obtain ⟨lease, hlease, rfl⟩ := List.mem_map.mp ha
    obtain ⟨claimed, hclaimed, rfl⟩ := List.mem_map.mp hb
    obtain ⟨key, job, hjob, rfl⟩ := mem_batchLeases.mp hclaimed
    exact hnew key job hjob lease hlease heq
  · dsimp only
    rw [hended]
    intro token hmem
    obtain ⟨lease, hlease, htoken⟩ := h.ended token hmem
    exact ⟨lease, hmono hlease, htoken⟩
  · dsimp only
    rw [hended]
    exact h.once
  · dsimp only
    rw [ScheduleTrace.failuresSinceAck_append]
    change _ = min _ (s.trace.failuresSinceAck job)
    rw [← h.failures job hjob]
    by_cases hkey : job.key ∈ (batch organizationId now batchLimit s.jobs).map Prod.fst
    · obtain ⟨⟨key, old⟩, hold, hkeyEq⟩ := List.mem_map.mp hkey
      dsimp only at hkeyEq
      rw [← hkeyEq, get_claim_of_mem nodup_batch hold, (get_of_mem_batch hold).1]
      rfl
    · rw [get_claim_of_notMem hkey]

end Claims

end Steps

/-! ### Whole runs -/

section Runs

variable {s : Schedule τ} {call : ScheduledJobCall τ}

open ScheduledJobs

/-- A job that is registered keeps its lease and its failures. -/
lemma writesJob_register (h : ScheduleOk s) {job : ScheduledJobIdentity} (hjob : job.NoColon)
    {cadenceSeconds now : ℤ} {row : ScheduledJobRecord τ}
    (hrow : (s.jobs.get job.key = none ∧ row = job.toRecord cadenceSeconds now) ∨
      ∃ old, s.jobs.get job.key = some old ∧ row = { old with cadenceSeconds := cadenceSeconds }) :
    row.toScheduledJobIdentity = job ∧
      WritesJob s (.register job cadenceSeconds now) .registered row := by
  have hid : row.toScheduledJobIdentity = job := by
    rcases hrow with ⟨-, rfl⟩ | ⟨old, hold, rfl⟩
    · rfl
    · exact (ScheduledJobIdentity.key_inj hjob (h.keys _ old hold).2 (h.keys _ old hold).1).symm
  refine ⟨hid, ?_⟩
  rw [← hid] at hrow hjob
  have hfailures := h.failures row.toScheduledJobIdentity hjob
  refine ⟨hjob, rfl, fun token hended => (nomatch hended), fun _ => ?_, fun _ _ _ => rfl, ?_⟩
  · rcases hrow with ⟨hnone, hrow⟩ | ⟨old, hold, hrow⟩
    · rw [hnone, hrow]
      exact ⟨rfl, rfl⟩
    · rw [hold, hrow]
      exact ⟨rfl, rfl⟩
  · rcases hrow with ⟨hnone, hrow⟩ | ⟨old, hold, hrow⟩
    · rw [hnone] at hfailures
      exact (congrArg ScheduledJobRecord.consecutiveFailures hrow).trans hfailures
    · rw [hold] at hfailures
      exact (congrArg ScheduledJobRecord.consecutiveFailures hrow).trans hfailures

/-- Jobs under their own keys are listed once each. -/
lemma nodup_identities {jobs : ScheduledJobs τ}
    (h : ∀ key job, jobs.get key = some job → key = job.key) :
    (jobs.values.map (·.toScheduledJobIdentity)).Nodup := by
  have hkeys : jobs.values.map (·.toScheduledJobIdentity.key) = jobs.entries.map Prod.fst := by
    rw [OrderedMap.values, List.map_map]
    refine List.map_congr_left fun entry hentry => ?_
    exact (h entry.1 entry.2 (OrderedMap.mem_entries_iff.mp hentry)).symm
  refine List.Nodup.of_map ScheduledJobIdentity.key ?_
  rw [List.map_map]
  exact hkeys ▸ jobs.nodupKeys

/-- A write of one job of an organization leaves the jobs of the others alone. -/
lemma mem_values_set_iff {jobs : ScheduledJobs τ} {key : String} {row job : ScheduledJobRecord τ}
    (hold : ∀ old, jobs.get key = some old → old.organizationId = row.organizationId)
    (hne : job.organizationId ≠ row.organizationId) :
    job ∈ (jobs.set key row).values ↔ job ∈ jobs.values := by
  rw [OrderedMap.mem_values_iff, OrderedMap.mem_values_iff]
  constructor
  · rintro ⟨key', hget⟩
    rcases OrderedMap.get_set_eq_some hget with ⟨-, rfl⟩ | ⟨-, hget⟩
    · exact absurd rfl hne
    · exact ⟨key', hget⟩
  · rintro ⟨key', hget⟩
    have hkey : key' ≠ key := by
      rintro rfl
      exact hne (hold job hget)
    exact ⟨key', (OrderedMap.get_set_of_ne _ _ hkey).trans hget⟩

/-- A claim leaves the jobs of other organizations alone. -/
lemma mem_values_claim_iff {jobs : ScheduledJobs τ} {organizationId : String} {now batchLimit : ℤ}
    {randomUUID : ScheduledJobIdentity → τ} {job : ScheduledJobRecord τ}
    (hne : job.organizationId ≠ organizationId) :
    job ∈ (claim now randomUUID (batch organizationId now batchLimit jobs) jobs).2.values ↔
      job ∈ jobs.values := by
  have horganization : ∀ {key old}, (key, old) ∈ batch organizationId now batchLimit jobs →
      old.organizationId = organizationId := by
    intro key old hold
    have hdue := (get_of_mem_batch hold).2
    rw [ScheduledJobRecord.isDue, Bool.and_eq_true, Bool.and_eq_true] at hdue
    exact of_decide_eq_true hdue.1.1
  rw [OrderedMap.mem_values_iff, OrderedMap.mem_values_iff]
  constructor
  · rintro ⟨key, hget⟩
    rcases get_claim_cases nodup_batch hget with ⟨-, hget⟩ | ⟨old, hold, rfl⟩
    · exact ⟨key, hget⟩
    · exact absurd (horganization hold) hne
  · rintro ⟨key, hget⟩
    have hkey : key ∉ (batch organizationId now batchLimit jobs).map Prod.fst := by
      intro hmem
      obtain ⟨⟨key', old⟩, hold, rfl⟩ := List.mem_map.mp hmem
      obtain rfl := Option.some.inj ((get_of_mem_batch hold).1.symm.trans hget)
      exact hne (horganization hold)
    exact ⟨key, (get_claim_of_notMem hkey jobs).trans hget⟩

/-- A lease that is neither ended nor expired is the one its job holds. -/
lemma ScheduleOk.outstanding_held (h : ScheduleOk s) {lease : ScheduledJobRecord τ} {t : ℤ}
    (ht : ∀ entry ∈ s.trace, entry.1.now ≤ t) (hlease : s.trace.Outstanding lease)
    (hleased : lease.isLeased t = true) :
    ∃ job, s.jobs.get lease.key = some job ∧ job.dispatchLeaseToken = lease.dispatchLeaseToken := by
  obtain ⟨-, token, htoken, hstands⟩ := h.stands lease hlease.1
  rcases hstands with hended | ⟨entry, hentry, hexpired⟩ | ⟨job, hjob, hjtoken, -⟩
  · exact absurd hended (hlease.2 token htoken)
  · have hearlier := ScheduledJobRecord.isLeased_of_le (ht entry hentry) hleased
    exact nomatch hexpired.symm.trans hearlier
  · exact ⟨job, hjob, hjtoken.trans htoken.symm⟩

/-- A claim takes no more than the limit, due jobs only, and the earliest ones. -/
lemma claim_sound {jobs : ScheduledJobs τ} {organizationId : String} {now batchLimit : ℤ}
    (randomUUID : ScheduledJobIdentity → τ) (hpositive : 0 < batchLimit) :
    ((batchLeases randomUUID organizationId now batchLimit jobs).length ≤ batchLimit) ∧
      (∀ lease ∈ batchLeases randomUUID organizationId now batchLimit jobs,
        lease ∈ (claim now randomUUID (batch organizationId now batchLimit jobs) jobs).2.values ∧
        ∃ job ∈ jobs.values, job.organizationId = organizationId ∧ job.nextRunAt ≤ now ∧
          job.isLeased now = false ∧
          lease = job.leased now (randomUUID job.toScheduledJobIdentity)) ∧
      ∀ job ∈ jobs.values, job.isDue organizationId now = true →
        ∀ lease ∈ batchLeases randomUUID organizationId now batchLimit jobs,
          job.nextRunAt < lease.nextRunAt →
            job.leased now (randomUUID job.toScheduledJobIdentity) ∈
              batchLeases randomUUID organizationId now batchLimit jobs := by
  refine ⟨?_, fun lease hlease => ?_, fun job hjob hdue lease hlease hlt => ?_⟩
  · rw [batchLeases, List.length_map, batch, List.length_take]
    omega
  · obtain ⟨key, job, hmem, rfl⟩ := mem_batchLeases.mp hlease
    obtain ⟨hget, hdue⟩ := get_of_mem_batch hmem
    refine ⟨OrderedMap.mem_values_iff.mpr ⟨key, get_claim_of_mem nodup_batch hmem jobs⟩, job,
      OrderedMap.mem_values_iff.mpr ⟨key, hget⟩, ?_⟩
    rw [ScheduledJobRecord.isDue, Bool.and_eq_true, Bool.and_eq_true, decide_eq_true_eq,
      decide_eq_true_eq, Bool.not_eq_true'] at hdue
    exact ⟨hdue.1.1, hdue.1.2, hdue.2, rfl⟩
  · obtain ⟨key, hget⟩ := OrderedMap.mem_values_iff.mp hjob
    obtain ⟨key', claimed, hclaimed, rfl⟩ := mem_batchLeases.mp hlease
    refine mem_batchLeases.mpr ⟨key, job, ?_, rfl⟩
    -- What is left out comes after what is taken, in the order of `nextRunAt`.
    have hmem : (key, job) ∈ (jobs.due organizationId now).take batchLimit.toNat ++
        (jobs.due organizationId now).drop batchLimit.toNat := by
      rw [List.take_append_drop]
      exact mem_due.mpr ⟨hget, hdue⟩
    rcases List.mem_append.mp hmem with htaken | hleft
    · exact htaken
    · have hsorted := sorted_due jobs organizationId now
      rw [← List.take_append_drop batchLimit.toNat (jobs.due organizationId now)] at hsorted
      have hle := (List.pairwise_append.mp hsorted).2.2 _ hclaimed _ hleft
      exact absurd hlt (not_lt.mpr hle)

/-- The job under the key of a call is the one that the call names. -/
lemma ScheduleOk.identity_of_get (h : ScheduleOk s) {job : ScheduledJobIdentity}
    (hjob : job.NoColon) {row : ScheduledJobRecord τ} (hget : s.jobs.get job.key = some row) :
    row.toScheduledJobIdentity = job :=
  (ScheduledJobIdentity.key_inj hjob (h.keys _ row hget).2 (h.keys _ row hget).1).symm

variable [DecidableEq τ]

/-- The job that holds the token of a call is the one that the call names. -/
lemma held_identity (h : ScheduleOk s) {job : ScheduledJobIdentity} (hjob : job.NoColon)
    {leaseToken : τ} {now : ℤ} {row : ScheduledJobRecord τ}
    (hheld : held job leaseToken now s.jobs = some row) : row.toScheduledJobIdentity = job :=
  h.identity_of_get hjob (held_eq_some.mp hheld).1

lemma writesJob_ack (h : ScheduleOk s) {job : ScheduledJobIdentity} (hjob : job.NoColon)
    {leaseToken : τ} {now : ℤ} {row : ScheduledJobRecord τ}
    (hheld : held job leaseToken now s.jobs = some row) (cadenceSeconds : ℤ) :
    WritesJob s (.ack job leaseToken now cadenceSeconds) (.answered true)
      (row.acked now cadenceSeconds) := by
  obtain rfl := held_identity h hjob hheld
  obtain ⟨hget, htoken, -⟩ := held_eq_some.mp hheld
  refine ⟨hjob, rfl, fun token hended => ?_, fun hnone => (nomatch hnone), fun other hne n => ?_, ?_⟩
  · obtain rfl := Option.some.inj hended
    exact ⟨⟨row, hget, htoken⟩, rfl, rfl⟩
  · exact if_neg (Ne.symm hne)
  · rw [countFailure, ScheduledJobRecord.acked_identity, if_pos rfl]
    rfl

lemma writesJob_fail (h : ScheduleOk s) {job : ScheduledJobIdentity} (hjob : job.NoColon)
    {leaseToken : τ} {now : ℤ} {row : ScheduledJobRecord τ}
    (hheld : held job leaseToken now s.jobs = some row) (failureCode : String)
    (retryBackoffSeconds : ℤ) :
    WritesJob s (.fail job leaseToken now failureCode retryBackoffSeconds) (.answered true)
      (row.failed now failureCode retryBackoffSeconds) := by
  obtain rfl := held_identity h hjob hheld
  obtain ⟨hget, htoken, -⟩ := held_eq_some.mp hheld
  have hfailures := h.failures row.toScheduledJobIdentity hjob
  rw [hget, Option.elim_some] at hfailures
  refine ⟨hjob, rfl, fun token hended => ?_, fun hnone => (nomatch hnone), fun other hne n => ?_, ?_⟩
  · obtain rfl := Option.some.inj hended
    exact ⟨⟨row, hget, htoken⟩, rfl, rfl⟩
  · exact if_neg (Ne.symm hne)
  · rw [countFailure, ScheduledJobRecord.failed_identity, if_pos rfl]
    change min (row.consecutiveFailures + 1) maxConsecutiveFailures = min _ (_ + 1)
    change row.consecutiveFailures = min _ _ at hfailures
    omega

lemma ScheduleOk.step (h : ScheduleOk s) (hcall : s.Admitted call) :
    ScheduleOk ((scheduleMachine τ).step s call) := by
  obtain ⟨-, hcolon, hfresh⟩ := hcall
  have heffect := s.jobs.run_effect call
  change ScheduleOk ⟨(s.jobs.run call).2, s.trace ++ [(call, (s.jobs.run call).1)]⟩
  generalize (s.jobs.run call).1 = result, (s.jobs.run call).2 = jobs at heffect ⊢
  cases heffect with
  | thrown call message =>
      exact h.quiet rfl (by cases call <;> rfl) (by cases call <;> exact fun _ _ => rfl)
  | refused call => exact h.quiet rfl (by cases call <;> rfl) (by cases call <;> exact fun _ _ => rfl)
  | registered job cadenceSeconds now row hrow =>
      obtain ⟨hid, hwrites⟩ := writesJob_register h (hcolon job rfl) hrow
      rw [← hid] at hwrites ⊢
      exact h.write hwrites
  | claimed organizationId now batchLimit randomUUID hpositive =>
      rw [claim_fst]
      exact h.claim hfresh
  | acked job leaseToken now cadenceSeconds row hheld =>
      have hwrites := writesJob_ack h (hcolon job rfl) hheld cadenceSeconds
      rw [← held_identity h (hcolon job rfl) hheld] at hwrites ⊢
      exact h.write hwrites
  | failed job leaseToken now failureCode retryBackoffSeconds row hheld =>
      have hwrites :=
        writesJob_fail h (hcolon job rfl) hheld failureCode retryBackoffSeconds
      rw [← held_identity h (hcolon job rfl) hheld] at hwrites ⊢
      exact h.write hwrites

/-- What the leases guarantee in a state: every job has one record, at most one lease that is
neither ended nor expired, and the failures that were reported since its last success. -/
structure LeasesSound (s : Schedule τ) : Prop where
  jobs : (s.jobs.values.map (·.toScheduledJobIdentity)).Nodup
  oneLease : ∀ t, (∀ entry ∈ s.trace, entry.1.now ≤ t) → ∀ a b, s.trace.Outstanding a →
    s.trace.Outstanding b → a.toScheduledJobIdentity = b.toScheduledJobIdentity →
    a.isLeased t = true → b.isLeased t = true → a = b
  once : ∀ token, s.trace.finalizedTokens.count token ≤ 1
  failures : ∀ job ∈ s.jobs.values, job.consecutiveFailures =
    min maxConsecutiveFailures (s.trace.failuresSinceAck job.toScheduledJobIdentity)

/-- What a call guarantees. -/
structure CallSound (s : Schedule τ) (call : ScheduledJobCall τ) : Prop where
  claims : ∀ organizationId now batchLimit randomUUID leases,
    call = .claimDue organizationId now batchLimit randomUUID →
    (s.jobs.run call).1 = .claimed leases →
      leases.length ≤ batchLimit ∧
      (∀ lease ∈ leases, lease ∈ (s.jobs.run call).2.values ∧
        ∃ job ∈ s.jobs.values, job.organizationId = organizationId ∧ job.nextRunAt ≤ now ∧
          job.isLeased now = false ∧
          lease = job.leased now (randomUUID job.toScheduledJobIdentity)) ∧
      ∀ job ∈ s.jobs.values, job.isDue organizationId now = true → ∀ lease ∈ leases,
        job.nextRunAt < lease.nextRunAt →
          job.leased now (randomUUID job.toScheduledJobIdentity) ∈ leases
  ends : ∀ token, finalized (call, (s.jobs.run call).1) = some token →
    ∃ job ∈ s.jobs.values, call.job? = some job.toScheduledJobIdentity ∧
      job.dispatchLeaseToken = some token ∧ job.isLeased call.now = true
  refuses : (s.jobs.run call).1 = .answered false → (s.jobs.run call).2 = s.jobs
  registers : ∀ job cadenceSeconds now, call = .register job cadenceSeconds now →
    ∀ row ∈ s.jobs.values, ∃ row' ∈ (s.jobs.run call).2.values,
      row' = { row with cadenceSeconds := row'.cadenceSeconds }
  others : ∀ job, job.organizationId ≠ call.organizationId →
    (job ∈ (s.jobs.run call).2.values ↔ job ∈ s.jobs.values)

lemma ScheduleOk.leasesSound (h : ScheduleOk s) : LeasesSound s where
  jobs := nodup_identities fun key job hjob => (h.keys key job hjob).1
  oneLease t ht a b ha hb hid haLeased hbLeased := by
    obtain ⟨job, hjob, htoken⟩ := h.outstanding_held ht ha haLeased
    obtain ⟨job', hjob', htoken'⟩ := h.outstanding_held ht hb hbLeased
    rw [← hid] at hjob'
    obtain rfl := Option.some.inj (hjob.symm.trans hjob')
    obtain ⟨-, token, hatoken, -⟩ := h.stands a ha.1
    exact h.lease_unique ha.1 hb.1 hatoken (htoken'.symm.trans (htoken.trans hatoken))
  once token := List.nodup_iff_count_le_one.mp h.once token
  failures job hjob := by
    obtain ⟨key, hget⟩ := OrderedMap.mem_values_iff.mp hjob
    obtain ⟨rfl, hcolon⟩ := h.keys key job hget
    have hfailures := h.failures job.toScheduledJobIdentity hcolon
    rw [hget] at hfailures
    exact hfailures

/-- A lease is ended only while the job that the call names holds it. -/
lemma ScheduleOk.call_ends (h : ScheduleOk s) (hcall : s.Admitted call) {token : τ}
    (hended : finalized (call, (s.jobs.run call).1) = some token) :
    ∃ job ∈ s.jobs.values, call.job? = some job.toScheduledJobIdentity ∧
      job.dispatchLeaseToken = some token ∧ job.isLeased call.now = true := by
  obtain ⟨-, hcolon, -⟩ := hcall
  have hrow : ∀ {job : ScheduledJobIdentity} {now row}, job.NoColon →
      ScheduledJobs.held job token now s.jobs = some row → row ∈ s.jobs.values ∧
        job = row.toScheduledJobIdentity ∧ row.dispatchLeaseToken = some token ∧
        row.isLeased now = true := by
    intro job now row hjob hheld
    obtain ⟨hget, htoken, hleased⟩ := held_eq_some.mp hheld
    exact ⟨OrderedMap.mem_values_iff.mpr ⟨_, hget⟩, (held_identity h hjob hheld).symm, htoken,
      hleased⟩
  have heffect := s.jobs.run_effect call
  generalize (s.jobs.run call).1 = result, (s.jobs.run call).2 = jobs at heffect hended
  cases heffect with
  | acked job leaseToken now cadenceSeconds row hheld =>
      obtain rfl := Option.some.inj hended
      obtain ⟨hmem, hid, htoken, hleased⟩ := hrow (hcolon job rfl) hheld
      exact ⟨row, hmem, congrArg some hid, htoken, hleased⟩
  | failed job leaseToken now failureCode retryBackoffSeconds row hheld =>
      obtain rfl := Option.some.inj hended
      obtain ⟨hmem, hid, htoken, hleased⟩ := hrow (hcolon job rfl) hheld
      exact ⟨row, hmem, congrArg some hid, htoken, hleased⟩
  | thrown call message => cases call <;> exact nomatch hended
  | refused call => cases call <;> exact nomatch hended
  | registered job cadenceSeconds now row hrow => exact nomatch hended
  | claimed organizationId now batchLimit randomUUID hpositive => exact nomatch hended

/-- Registering a job changes nothing but a cadence. -/
lemma run_registers {job : ScheduledJobIdentity} {cadenceSeconds now : ℤ}
    {row : ScheduledJobRecord τ} (hrow : row ∈ s.jobs.values) :
    ∃ row' ∈ (s.jobs.run (.register job cadenceSeconds now)).2.values,
      row' = { row with cadenceSeconds := row'.cadenceSeconds } := by
  obtain ⟨key, hget⟩ := OrderedMap.mem_values_iff.mp hrow
  have heffect := s.jobs.run_effect (.register job cadenceSeconds now)
  generalize (s.jobs.run (.register job cadenceSeconds now)).1 = result,
    (s.jobs.run (.register job cadenceSeconds now)).2 = jobs at heffect ⊢
  cases heffect with
  | thrown message => exact ⟨row, hrow, rfl⟩
  | refused => exact ⟨row, hrow, rfl⟩
  | registered _ _ _ row' hrow' =>
      by_cases hkey : key = job.key
      · subst hkey
        rcases hrow' with ⟨hnone, -⟩ | ⟨old, hold, rfl⟩
        · exact nomatch hnone.symm.trans hget
        · obtain rfl := Option.some.inj (hold.symm.trans hget)
          exact ⟨_, OrderedMap.mem_values_iff.mpr ⟨_, OrderedMap.get_set_self _ _ _⟩, rfl⟩
      · exact ⟨row, OrderedMap.mem_values_iff.mpr
          ⟨key, (OrderedMap.get_set_of_ne _ _ hkey).trans hget⟩, rfl⟩

/-- A call leaves the jobs of other organizations alone. -/
lemma ScheduleOk.call_others (h : ScheduleOk s) (hcall : s.Admitted call)
    {job : ScheduledJobRecord τ} (hne : job.organizationId ≠ call.organizationId) :
    job ∈ (s.jobs.run call).2.values ↔ job ∈ s.jobs.values := by
  obtain ⟨-, hcolon, -⟩ := hcall
  have hwrite : ∀ {named : ScheduledJobIdentity} {row : ScheduledJobRecord τ}, named.NoColon →
      row.toScheduledJobIdentity = named → job.organizationId ≠ named.organizationId →
      (job ∈ (s.jobs.set named.key row).values ↔ job ∈ s.jobs.values) := by
    intro named row hnamed hid hne
    refine mem_values_set_iff (fun old hold => ?_) ?_
    · rw [h.identity_of_get hnamed hold, ← hid]
    · rw [← hid] at hne
      exact hne
  have heffect := s.jobs.run_effect call
  generalize (s.jobs.run call).1 = result, (s.jobs.run call).2 = jobs at heffect ⊢
  cases heffect with
  | thrown call message => exact Iff.rfl
  | refused call => exact Iff.rfl
  | registered named cadenceSeconds now row hrow =>
      exact hwrite (hcolon named rfl) (writesJob_register h (hcolon named rfl) hrow).1 hne
  | claimed organizationId now batchLimit randomUUID hpositive => exact mem_values_claim_iff hne
  | acked named leaseToken now cadenceSeconds row hheld =>
      have hid := held_identity h (hcolon named rfl) hheld
      exact hwrite (hcolon named rfl) (row.acked_identity now cadenceSeconds |>.trans hid) hne
  | failed named leaseToken now failureCode retryBackoffSeconds row hheld =>
      have hid := held_identity h (hcolon named rfl) hheld
      exact hwrite (hcolon named rfl)
        (row.failed_identity now failureCode retryBackoffSeconds |>.trans hid) hne

lemma ScheduleOk.callSound (h : ScheduleOk s) (hcall : s.Admitted call) : CallSound s call where
  claims := by
    rintro organizationId now batchLimit randomUUID leases rfl hclaimed
    have heffect := s.jobs.run_effect (.claimDue organizationId now batchLimit randomUUID)
    generalize (s.jobs.run (.claimDue organizationId now batchLimit randomUUID)).2 = jobs
      at heffect ⊢
    rw [hclaimed] at heffect
    generalize hleases : ScheduledJobResult.claimed leases = result at heffect
    cases heffect with
    | claimed _ _ _ _ hpositive =>
        rw [claim_fst] at hleases
        obtain rfl := ScheduledJobResult.claimed.inj hleases
        exact claim_sound randomUUID hpositive
    | thrown message => exact nomatch hleases
    | refused => exact nomatch hleases
  ends _ hended := h.call_ends hcall hended
  refuses := by
    intro hrefused
    have heffect := s.jobs.run_effect call
    generalize (s.jobs.run call).2 = jobs at heffect ⊢
    rw [hrefused] at heffect
    cases heffect with
    | refused call => rfl
  registers := by
    rintro job cadenceSeconds now rfl row hrow
    exact run_registers hrow
  others _ hne := h.call_others hcall hne

/-- **The leases of the scheduled jobs**, for the calls of any number of schedulers in any order:
a job is handed out only while it is due and not leased, a lease is ended at most once and only
while it is current, the failures are counted, and nothing else changes. -/
theorem scheduled_job_leases (calls : List (ScheduledJobCall τ))
    (h : (scheduleMachine τ).EachStep Schedule.Admitted .initial calls) :
    (scheduleMachine τ).Always LeasesSound .initial calls ∧
      (scheduleMachine τ).EachStep CallSound .initial calls := by
  have hstep : ∀ s call, ScheduleOk s → s.Admitted call →
      ScheduleOk ((scheduleMachine τ).step s call) := fun _ _ hs hcall => hs.step hcall
  constructor
  · exact (EventMachine.always_of_eachStep hstep scheduleOk_initial h).mono
      fun _ hs => hs.leasesSound
  · exact EventMachine.eachStep_of_eachStep hstep (fun _ _ hs hcall => hs.callSound hcall)
      scheduleOk_initial h

/-- Two jobs, of which the second expires while its first scheduler runs it, is claimed again, and
fails; the first scheduler then reports too late. -/
def sampleSchedule : List (ScheduledJobCall String) :=
  let health : ScheduledJobIdentity := ⟨"health", "org-1", "default"⟩
  let sync : ScheduledJobIdentity := ⟨"sync", "org-1", "default"⟩
  [.register health 300 0, .register sync 60 5, .claimDue "org-1" 10 1 ("a-" ++ ·.jobKey),
    .claimDue "org-1" 11 10 ("b-" ++ ·.jobKey), .register sync 120 12,
    .ack health "a-health" 20 300, .claimDue "org-1" 60011 10 ("c-" ++ ·.jobKey),
    .ack sync "b-sync" 60012 60, .fail sync "c-sync" 60013 "handler_failed" 60,
    .fail sync "c-sync" 60014 "handler_failed" 60]

theorem scheduled_job_leases_sample :
    (scheduleMachine String).EachStep Schedule.Admitted .initial sampleSchedule ∧
      ((scheduleMachine String).outcome .initial sampleSchedule).trace.finalizedTokens =
        ["a-health", "c-sync"] ∧
      LeasesSound ((scheduleMachine String).outcome .initial sampleSchedule) := by
  have hadmitted : (scheduleMachine String).EachStep Schedule.Admitted .initial sampleSchedule := by
    decide
  exact ⟨hadmitted, by decide, (scheduled_job_leases sampleSchedule hadmitted).1.outcome⟩

end Runs

end Opzava.Adapters
