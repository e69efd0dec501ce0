import Opzava.Adapters.ScheduledJobTable
import Opzava.Library.ReadCommitted

/-!
The leases of the doctor scans (`doctor-scan-repository.ts`).

A worker claims the lease of an organization and scope with one `insert … on conflict`, and
publishes its run in a transaction that first moves the end of the lease to now. The transactions of
any number of workers run statement by statement. The statement of a claim looks for recent runs in
its snapshot, and waits for the row of the lease, which may take until after the snapshot is old.

* `ScanTx`, `scanProgram`: the transactions of `claim` and `publish`.
* `leaseRow`: the lease that the successful claims and publishes amount to.
* `doctor_scan_leases`: what the leases guarantee, unless a claim waits for a publish or two
  publishes of one lease overlap.
* `doctor_scan_leases_broken`: what happens if they do.
-/

namespace Opzava.Adapters

open Opzava.Library
open Opzava.Library.ReadCommitted

/-! ### Rows -/

/-- What a lease is for. -/
structure ScanKey where
  organizationId : String
  scope : String
deriving DecidableEq

inductive DoctorScanClaimKind where
  | scheduled
  | force
deriving DecidableEq

inductive DoctorScanSeverity where
  | info
  | warning
  | error
deriving DecidableEq

inductive DoctorScanDetailState where
  | available
  | redactedUnavailable
deriving DecidableEq

inductive DoctorScanStatus where
  | succeeded
  | unavailable
deriving DecidableEq

/-- A finding, as it is inserted. -/
structure DoctorScanFindingRecord where
  checkId : String
  severity : DoctorScanSeverity
  group : String
  summary : String
  detailState : DoctorScanDetailState
  locationLabel : Option String
  targetLabel : Option String
  suppressed : Bool
  suppressionReason : Option String
deriving DecidableEq

/-- A run, as it is inserted. -/
structure DoctorScanRunRecord where
  status : DoctorScanStatus
  startedAt : ℤ
  completedAt : ℤ
  checksRun : ℤ
  checksSkipped : ℤ
  failureCode : Option String
deriving DecidableEq

/-- A row of `platform_doctor_scan_lease`. -/
structure LeaseRow where
  leaseToken : String
  leaseAcquiredAt : ℤ
  leaseExpiresAt : ℤ
  lastForceRequestedAt : Option ℤ
deriving DecidableEq

/-- A row of `platform_doctor_scan_run`. -/
structure RunRow where
  id : String
  key : ScanKey
  run : DoctorScanRunRecord
deriving DecidableEq

/-- A row of `platform_doctor_scan_finding`. -/
structure FindingRow where
  scanRunId : String
  organizationId : String
  ordinal : ℕ
  finding : DoctorScanFindingRecord
deriving DecidableEq

/-! ### The checks of the tables -/

/-- `char_length(text) between 1 and bound`. -/
def lengthWithin (bound : ℕ) (text : String) : Bool := 1 ≤ text.length ∧ text.length ≤ bound

/-- `^[a-z0-9][-a-z0-9._/]{0,127}$`, the check of the column `check_id`. -/
def isCheckId (text : String) : Bool :=
  match text.toList with
  | [] => false
  | first :: rest => isLowerAlphanumeric first && rest.length ≤ 127 &&
      rest.all fun c => isLowerAlphanumeric c || c ∈ ['.', '_', '/', '-']

namespace DoctorScanRunRecord

/-- The checks of a run. A run that is unavailable passes without a failure code: the comparison
with null is not false. -/
def passes (scope : String) (run : DoctorScanRunRecord) : Bool :=
  isTableKey scope && run.startedAt ≤ run.completedAt && 0 ≤ run.checksRun &&
    run.checksRun ≤ 10000 && 0 ≤ run.checksSkipped && run.checksSkipped ≤ 10000 &&
    match run.status with
    | .succeeded => run.failureCode.isNone
    | .unavailable => run.failureCode.all boundedCode

end DoctorScanRunRecord

namespace DoctorScanFindingRecord

/-- The checks of a finding. -/
def passes (ordinal : ℕ) (finding : DoctorScanFindingRecord) : Bool :=
  ordinal ≤ 499 && (finding.checkId = "unknown" || isCheckId finding.checkId) &&
    lengthWithin 64 finding.group && lengthWithin 256 finding.summary &&
    finding.locationLabel.all (lengthWithin 64) && finding.targetLabel.all (lengthWithin 64) &&
    if finding.suppressed then finding.suppressionReason.any (lengthWithin 64)
    else finding.suppressionReason.isNone

end DoctorScanFindingRecord

/-! ### Calls -/

/-- A call of `claim`. `now` is the time at which it begins. -/
structure ClaimDoctorScan where
  key : ScanKey
  kind : DoctorScanClaimKind
  leaseDurationMs : ℤ
  cadenceMs : ℤ
  forceCooldownMs : ℤ
  now : ℤ
  token : String
deriving DecidableEq

/-- A call of `publish`. `now` is the time at which its transaction begins. -/
structure PublishDoctorScan where
  key : ScanKey
  leaseToken : String
  run : DoctorScanRunRecord
  findings : List DoctorScanFindingRecord
  now : ℤ
  runId : String
deriving DecidableEq

namespace ClaimDoctorScan

def leaseExpiresAt (claim : ClaimDoctorScan) : ℤ := claim.now + claim.leaseDurationMs

/-- The durations that pass `positiveDuration`. -/
def passes (claim : ClaimDoctorScan) : Bool :=
  positiveInteger claim.leaseDurationMs && positiveInteger claim.cadenceMs &&
    positiveInteger claim.forceCooldownMs

/-- The run was completed within the cadence of the claim. -/
def isRecent (claim : ClaimDoctorScan) (row : RunRow) : Bool :=
  row.key = claim.key && claim.now - claim.cadenceMs < row.run.completedAt

/-- The condition of `on conflict … do update`, on the row of the lease; whether a run is recent
was seen in the snapshot. -/
def takesOver (claim : ClaimDoctorScan) (recent : Bool) (row : LeaseRow) : Bool :=
  row.leaseExpiresAt ≤ claim.now &&
    match claim.kind with
    | .force => row.lastForceRequestedAt.all (· ≤ claim.now - claim.forceCooldownMs)
    | .scheduled => !recent

/-- The row of the lease after the claim. -/
def lease (claim : ClaimDoctorScan) (old : Option LeaseRow) : LeaseRow where
  leaseToken := claim.token
  leaseAcquiredAt := claim.now
  leaseExpiresAt := claim.leaseExpiresAt
  lastForceRequestedAt :=
    match claim.kind with
    | .force => some claim.now
    | .scheduled => old.bind (·.lastForceRequestedAt)

end ClaimDoctorScan

namespace PublishDoctorScan

def runRow (publish : PublishDoctorScan) : RunRow := ⟨publish.runId, publish.key, publish.run⟩

def findingRow (publish : PublishDoctorScan) (entry : DoctorScanFindingRecord × ℕ) : FindingRow :=
  ⟨publish.runId, publish.key.organizationId, entry.2, entry.1⟩

def findingRows (publish : PublishDoctorScan) : List FindingRow :=
  publish.findings.zipIdx.map publish.findingRow

/-- The condition of the `update` of the lease. -/
def fences (publish : PublishDoctorScan) (row : LeaseRow) : Bool :=
  row.leaseToken = publish.leaseToken && publish.now < row.leaseExpiresAt

end PublishDoctorScan

inductive ScanCall where
  | claim (call : ClaimDoctorScan)
  | publish (call : PublishDoctorScan)
deriving DecidableEq

namespace ScanCall

def key : ScanCall → ScanKey
  | .claim call => call.key
  | .publish call => call.key

def now : ScanCall → ℤ
  | .claim call => call.now
  | .publish call => call.now

/-- The checks that are made before the transaction begins. -/
def passes : ScanCall → Bool
  | .claim call => call.passes
  | .publish _ => true

end ScanCall

/-! ### Transactions -/

/-- The committed tables, and the calls that succeeded, the last one first. -/
structure ScanTables where
  leases : ScanKey → Option LeaseRow
  runs : List RunRow
  findings : List FindingRow
  log : List ScanCall

/-- Where a transaction is. The statement of a claim takes its snapshot first, and then comes to
the row of the lease. -/
inductive ScanPoint where
  | snapshot
  | upsert (recent : Bool)
  | fence
  | insertRun
  | insertFindings (rest : List (DoctorScanFindingRecord × ℕ))
  | succeeded
  | refused
  | thrown
deriving DecidableEq

/-- A running transaction: the row of the lease it has locked, the row it has written, and what it
has inserted. -/
structure ScanTx where
  call : ScanCall
  point : ScanPoint
  locked : Bool
  lease : Option LeaseRow
  run : List RunRow
  findings : List FindingRow
deriving DecidableEq

namespace ScanTables

def empty : ScanTables := ⟨fun _ => none, [], [], []⟩

end ScanTables

namespace ScanTx

def start (call : ScanCall) : ScanTx where
  call := call
  point := match call with
    | .claim _ => .snapshot
    | .publish _ => .fence
  locked := false
  lease := none
  run := []
  findings := []

/-- The statement of a claim, from its snapshot on. -/
def selectRecent (claim : ClaimDoctorScan) (tables : ScanTables) (tx : ScanTx) : ScanTx :=
  let recent := tables.runs.any claim.isRecent
  if claim.kind = .scheduled ∧ recent = true then { tx with point := .refused }
  else { tx with point := .upsert recent }

/-- The row of the lease: it is inserted, or locked and updated if the condition holds. -/
def upsertLease (claim : ClaimDoctorScan) (recent : Bool) (tables : ScanTables) (tx : ScanTx) :
    ScanTx :=
  match tables.leases claim.key with
  | none =>
      if isTableKey claim.key.scope then
        { tx with point := .succeeded, locked := true, lease := some (claim.lease none) }
      else { tx with point := .thrown }
  | some row =>
      if claim.takesOver recent row then
        { tx with point := .succeeded, locked := true, lease := some (claim.lease (some row)) }
      else { tx with point := .refused, locked := true }

/-- `update … set lease_expires_at = now()`; a lease has to end after it was acquired. -/
def fenceLease (publish : PublishDoctorScan) (tables : ScanTables) (tx : ScanTx) : ScanTx :=
  match (tables.leases publish.key).filter publish.fences with
  | none => { tx with point := .refused }
  | some row =>
      if row.leaseAcquiredAt < publish.now then
        { tx with
          point := .insertRun
          locked := true
          lease := some { row with leaseExpiresAt := publish.now } }
      else { tx with point := .thrown, locked := true }

def insertRun (publish : PublishDoctorScan) (tx : ScanTx) : ScanTx :=
  if publish.run.passes publish.key.scope then
    { tx with point := .insertFindings publish.findings.zipIdx, run := [publish.runRow] }
  else { tx with point := .thrown }

/-- The findings are inserted one by one. -/
def insertFinding (publish : PublishDoctorScan) (rest : List (DoctorScanFindingRecord × ℕ))
    (tx : ScanTx) : ScanTx :=
  match rest with
  | [] => { tx with point := .succeeded }
  | entry :: rest =>
      if entry.1.passes entry.2 then
        { tx with
          point := .insertFindings rest
          findings := tx.findings ++ [publish.findingRow entry] }
      else { tx with point := .thrown }

/-- The next step of a transaction. -/
def statement (tables : ScanTables) (tx : ScanTx) : ScanTx :=
  match tx.call, tx.point with
  | .claim claim, .snapshot => selectRecent claim tables tx
  | .claim claim, .upsert recent => upsertLease claim recent tables tx
  | .publish publish, .fence => fenceLease publish tables tx
  | .publish publish, .insertRun => insertRun publish tx
  | .publish publish, .insertFindings rest => insertFinding publish rest tx
  | _, _ => { tx with point := .thrown }

def finished (tx : ScanTx) : Bool := tx.point ∈ [.succeeded, .refused, .thrown]

/-- What is committed: a transaction that failed is rolled back. -/
def commit (tx : ScanTx) (tables : ScanTables) : ScanTables :=
  if tx.point = .succeeded then
    { leases := Function.update tables.leases tx.call.key tx.lease
      runs := tables.runs ++ tx.run
      findings := tables.findings ++ tx.findings
      log := tx.call :: tables.log }
  else tables

/-- A call begins after its checks, at a time that is not before that of a call that has ended. -/
def initial (tables : ScanTables) (tx : ScanTx) : Bool :=
  tx = start tx.call ∧ tx.call.passes = true ∧ ∀ call ∈ tables.log, call.now ≤ tx.call.now

/-- The row that a transaction has locked. -/
def locks (tx : ScanTx) : List ScanKey := if tx.locked then [tx.call.key] else []

end ScanTx

/-- The transactions of the repository. -/
def scanProgram : Program ScanTables ScanTx ScanKey where
  initial := ScanTx.initial
  statement := ScanTx.statement
  locks := ScanTx.locks
  finished := ScanTx.finished
  commit := ScanTx.commit

/-- The statement of a claim has taken its snapshot. -/
def ScanPoint.hasSnapshot : ScanPoint → Bool
  | .upsert _ => true
  | _ => false

/-- A transaction that publishes conflicts with a scheduled claim of its organization and scope
whose statement has taken its snapshot, and with another publish of its lease. -/
def scanConflict (tx other : ScanTx) : Bool :=
  tx.point = .succeeded &&
    match tx.call, other.call with
    | .publish publish, .claim claim => claim.key = publish.key && claim.kind = .scheduled &&
        other.point.hasSnapshot
    | .publish publish, .publish publish' => publish'.leaseToken = publish.leaseToken
    | _, _ => false

/-! ### The log -/

/-- The lease that the calls of a log have left. -/
def leaseRow (key : ScanKey) : List ScanCall → Option LeaseRow
  | [] => none
  | .claim claim :: log =>
      if claim.key = key then some (claim.lease (leaseRow key log)) else leaseRow key log
  | .publish publish :: log =>
      if publish.key = key then
        (leaseRow key log).map fun row => { row with leaseExpiresAt := publish.now }
      else leaseRow key log

/-- The rows of the runs of a log. -/
def runRows : List ScanCall → List RunRow
  | [] => []
  | .claim _ :: log => runRows log
  | .publish publish :: log => runRows log ++ [publish.runRow]

/-- The rows of the findings of a log. -/
def findingRows : List ScanCall → List FindingRow
  | [] => []
  | .claim _ :: log => findingRows log
  | .publish publish :: log => findingRows log ++ publish.findingRows

/-- No run of a log was completed within the cadence of a claim. -/
def NoRecentRun (claim : ClaimDoctorScan) (log : List ScanCall) : Prop :=
  ∀ publish, ScanCall.publish publish ∈ log → publish.key = claim.key →
    publish.run.completedAt ≤ claim.now - claim.cadenceMs

/-- What a call that succeeds has seen: the lease that the calls before it have left. -/
def Succeeds (log : List ScanCall) : ScanCall → Prop
  | .claim claim => claim.now < claim.leaseExpiresAt ∧ 0 < claim.forceCooldownMs ∧
      (∀ row, leaseRow claim.key log = some row → row.leaseExpiresAt ≤ claim.now ∧
        (claim.kind = .force → ∀ requestedAt, row.lastForceRequestedAt = some requestedAt →
          requestedAt ≤ claim.now - claim.forceCooldownMs)) ∧
      (claim.kind = .scheduled → NoRecentRun claim log)
  | .publish publish =>
      (∃ row, leaseRow publish.key log = some row ∧ row.leaseToken = publish.leaseToken ∧
        publish.now < row.leaseExpiresAt ∧ row.leaseAcquiredAt < publish.now) ∧
      ∀ earlier, ScanCall.publish earlier ∈ log → earlier.leaseToken = publish.leaseToken →
        earlier.now ≤ publish.now

/-- Every call of a log has seen what it has to see. -/
def SoundLog : List ScanCall → Prop
  | [] => True
  | call :: log => Succeeds log call ∧ SoundLog log

/-- The tables are what the log amounts to. -/
structure ScanTablesOk (tables : ScanTables) : Prop where
  leases : ∀ key, tables.leases key = leaseRow key tables.log
  runs : tables.runs = runRows tables.log
  findings : tables.findings = findingRows tables.log
  sound : SoundLog tables.log

/-! ### The invariant -/

/-- What a running transaction has seen and written. -/
inductive ScanTxOk (tables : ScanTables) : ScanTx → Prop
  | snapshot (claim : ClaimDoctorScan) (hpasses : claim.passes = true) :
      ScanTxOk tables ⟨.claim claim, .snapshot, false, none, [], []⟩
  | upsert (claim : ClaimDoctorScan) (hpasses : claim.passes = true) (recent : Bool)
      (hrecent : claim.kind = .scheduled → recent = false ∧ NoRecentRun claim tables.log) :
      ScanTxOk tables ⟨.claim claim, .upsert recent, false, none, [], []⟩
  | claimed (claim : ClaimDoctorScan) (hsucceeds : Succeeds tables.log (.claim claim)) :
      ScanTxOk tables ⟨.claim claim, .succeeded, true,
        some (claim.lease (tables.leases claim.key)), [], []⟩
  | fence (publish : PublishDoctorScan) (hlater : ∀ earlier, ScanCall.publish earlier ∈ tables.log →
      earlier.leaseToken = publish.leaseToken → earlier.now ≤ publish.now) :
      ScanTxOk tables ⟨.publish publish, .fence, false, none, [], []⟩
  | fenced (publish : PublishDoctorScan) (hsucceeds : Succeeds tables.log (.publish publish))
      (point : ScanPoint) (run : List RunRow) (findings : List FindingRow)
      (hpoint : (point = .insertRun ∧ run = [] ∧ findings = []) ∨
        (∃ rest, point = .insertFindings rest ∧ run = [publish.runRow] ∧
          findings ++ rest.map publish.findingRow = publish.findingRows) ∨
        (point = .succeeded ∧ run = [publish.runRow] ∧ findings = publish.findingRows)) :
      ScanTxOk tables ⟨.publish publish, point, true,
        (tables.leases publish.key).map fun row => { row with leaseExpiresAt := publish.now }, run,
        findings⟩
  | ended (tx : ScanTx) (hpoint : tx.point = .refused ∨ tx.point = .thrown) : ScanTxOk tables tx

section Logs

variable {log : List ScanCall} {call other : ScanCall} {key : ScanKey}

lemma mem_runRows {row : RunRow} :
    row ∈ runRows log ↔ ∃ publish, ScanCall.publish publish ∈ log ∧ row = publish.runRow := by
  induction log with
  | nil => simp [runRows]
  | cons call log ih =>
      cases call with
      | claim claim => simp [runRows, ih]
      | publish publish =>
          rw [runRows, List.mem_append, List.mem_singleton, ih]
          constructor
          · rintro (⟨earlier, hmem, rfl⟩ | rfl)
            · exact ⟨earlier, List.mem_cons_of_mem _ hmem, rfl⟩
            · exact ⟨publish, List.mem_cons_self, rfl⟩
          · rintro ⟨earlier, hmem, rfl⟩
            rcases List.mem_cons.mp hmem with heq | hmem
            · exact .inr (by rw [ScanCall.publish.inj heq])
            · exact .inl ⟨earlier, hmem, rfl⟩

/-- A call leaves the leases of other keys alone. -/
lemma leaseRow_cons_of_ne (h : call.key ≠ key) : leaseRow key (call :: log) = leaseRow key log := by
  cases call with
  | claim claim => exact if_neg h
  | publish publish => exact if_neg h

/-- What a call has seen is not changed by a call of another key and another token. -/
lemma Succeeds.cons (h : Succeeds log other) (hkey : call.key ≠ other.key)
    (htoken : ∀ publish publish', call = .publish publish → other = .publish publish' →
      publish.leaseToken ≠ publish'.leaseToken) : Succeeds (call :: log) other := by
  cases other with
  | claim claim =>
      change call.key ≠ claim.key at hkey
      obtain ⟨hexpires, hcooldown, hrow, hscheduled⟩ := h
      refine ⟨hexpires, hcooldown, ?_, fun hkind publish hmem heq => ?_⟩
      · rw [leaseRow_cons_of_ne hkey]
        exact hrow
      · rcases List.mem_cons.mp hmem with rfl | hmem
        · exact absurd heq hkey
        · exact hscheduled hkind publish hmem heq
  | publish publish =>
      change call.key ≠ publish.key at hkey
      obtain ⟨hrow, hlater⟩ := h
      refine ⟨?_, fun earlier hmem heq => ?_⟩
      · rw [leaseRow_cons_of_ne hkey]
        exact hrow
      · rcases List.mem_cons.mp hmem with rfl | hmem
        · exact absurd heq (htoken earlier publish rfl rfl)
        · exact hlater earlier hmem heq

end Logs

section Statements

variable {tables : ScanTables} {tx : ScanTx} {claim : ClaimDoctorScan} {publish : PublishDoctorScan}

lemma ClaimDoctorScan.passes_spec (h : claim.passes = true) :
    claim.now < claim.leaseExpiresAt ∧ 0 < claim.forceCooldownMs := by
  rw [passes, Bool.and_eq_true, Bool.and_eq_true, positiveInteger, positiveInteger,
    decide_eq_true_eq, decide_eq_true_eq] at h
  rw [leaseExpiresAt]
  obtain ⟨⟨hlease, -⟩, hcooldown⟩ := h
  rw [positiveInteger, decide_eq_true_eq] at hcooldown
  constructor
  · omega
  · exact hcooldown.1

lemma ScanTxOk.start (h : ScanTx.initial tables tx = true) : ScanTxOk tables tx := by
  rw [ScanTx.initial, decide_eq_true_eq] at h
  obtain ⟨hstart, hpasses, hclock⟩ := h
  rw [hstart]
  cases hcall : tx.call with
  | claim claim =>
      rw [hcall] at hpasses
      exact .snapshot claim hpasses
  | publish publish =>
      rw [hcall] at hclock
      exact .fence publish fun earlier hmem _ => hclock _ hmem

lemma ScanTxOk.selectRecent (hok : ScanTablesOk tables) (hpasses : claim.passes = true) :
    ScanTxOk tables (.selectRecent claim tables ⟨.claim claim, .snapshot, false, none, [], []⟩) := by
  rw [ScanTx.selectRecent]
  dsimp only
  split_ifs with hrefused
  · exact .ended _ (.inl rfl)
  · refine .upsert claim hpasses _ fun hkind => ?_
    have hnone : tables.runs.any claim.isRecent = false :=
      Bool.eq_false_iff.mpr fun hrecent => hrefused ⟨hkind, hrecent⟩
    refine ⟨hnone, fun publish hmem hkey => ?_⟩
    have hrow : publish.runRow ∈ tables.runs := by
      rw [hok.runs]
      exact mem_runRows.mpr ⟨publish, hmem, rfl⟩
    have hold := List.any_eq_false.mp hnone _ hrow
    rw [ClaimDoctorScan.isRecent, Bool.and_eq_true, decide_eq_true_eq, decide_eq_true_eq,
      not_and] at hold
    exact not_lt.mp (hold hkey)

lemma ScanTxOk.upsertLease (hok : ScanTablesOk tables) (hpasses : claim.passes = true)
    {recent : Bool}
    (hrecent : claim.kind = .scheduled → recent = false ∧ NoRecentRun claim tables.log) :
    ScanTxOk tables
      (.upsertLease claim recent tables ⟨.claim claim, .upsert recent, false, none, [], []⟩) := by
  obtain ⟨hexpires, hcooldown⟩ := ClaimDoctorScan.passes_spec hpasses
  rw [ScanTx.upsertLease]
  cases hlease : tables.leases claim.key with
  | none =>
      dsimp only
      split_ifs
      · rw [← hlease]
        refine .claimed claim ⟨hexpires, hcooldown, fun row hrow => ?_, fun hkind =>
          (hrecent hkind).2⟩
        rw [← hok.leases, hlease] at hrow
        exact nomatch hrow
      · exact .ended _ (.inr rfl)
  | some row =>
      dsimp only
      split_ifs with htakes
      · rw [← hlease]
        rw [ClaimDoctorScan.takesOver, Bool.and_eq_true, decide_eq_true_eq] at htakes
        refine .claimed claim ⟨hexpires, hcooldown, fun row' hrow => ?_, fun hkind =>
          (hrecent hkind).2⟩
        rw [← hok.leases, hlease] at hrow
        obtain rfl := Option.some.inj hrow
        refine ⟨htakes.1, fun hkind requestedAt hrequested => ?_⟩
        have hforce := htakes.2
        rw [hkind, hrequested] at hforce
        exact of_decide_eq_true hforce
      · exact .ended _ (.inl rfl)

lemma ScanTxOk.fenceLease (hok : ScanTablesOk tables)
    (hlater : ∀ earlier, ScanCall.publish earlier ∈ tables.log →
      earlier.leaseToken = publish.leaseToken → earlier.now ≤ publish.now) :
    ScanTxOk tables
      (.fenceLease publish tables ⟨.publish publish, .fence, false, none, [], []⟩) := by
  rw [ScanTx.fenceLease]
  cases hfenced : (tables.leases publish.key).filter publish.fences with
  | none => exact .ended _ (.inl rfl)
  | some row =>
      dsimp only
      split_ifs with hacquired
      · obtain ⟨hlease, hfences⟩ := Option.filter_eq_some_iff.mp hfenced
        rw [PublishDoctorScan.fences, Bool.and_eq_true, decide_eq_true_eq, decide_eq_true_eq]
          at hfences
        have hsucceeds : Succeeds tables.log (.publish publish) :=
          ⟨⟨row, (hok.leases _).symm.trans hlease, hfences.1, hfences.2, hacquired⟩, hlater⟩
        have hnext : ScanTxOk tables _ :=
          .fenced publish hsucceeds .insertRun [] [] (.inl ⟨rfl, rfl, rfl⟩)
        rw [hlease] at hnext
        exact hnext
      · exact .ended _ (.inr rfl)

lemma ScanTxOk.statement (hok : ScanTablesOk tables) (h : ScanTxOk tables tx)
    (hunfinished : tx.finished = false) : ScanTxOk tables (tx.statement tables) := by
  cases h with
  | snapshot claim hpasses => exact .selectRecent hok hpasses
  | upsert claim hpasses recent hrecent => exact .upsertLease hok hpasses hrecent
  | claimed claim hsucceeds => exact nomatch hunfinished
  | fence publish hlater => exact .fenceLease hok hlater
  | fenced publish hsucceeds point run findings hpoint =>
      rcases hpoint with ⟨rfl, rfl, rfl⟩ | ⟨rest, rfl, rfl, hrest⟩ | ⟨rfl, -, -⟩
      · simp only [ScanTx.statement, ScanTx.insertRun]
        split_ifs
        · exact .fenced publish hsucceeds _ _ _ (.inr (.inl ⟨_, rfl, rfl, rfl⟩))
        · exact .ended _ (.inr rfl)
      · cases rest with
        | nil =>
            rw [List.map_nil, List.append_nil] at hrest
            exact .fenced publish hsucceeds _ _ _ (.inr (.inr ⟨rfl, rfl, hrest⟩))
        | cons entry rest =>
            simp only [ScanTx.statement, ScanTx.insertFinding]
            split_ifs
            · refine .fenced publish hsucceeds _ _ _ (.inr (.inl ⟨rest, rfl, rfl, ?_⟩))
              rw [List.append_assoc, List.singleton_append, ← List.map_cons]
              exact hrest
            · exact .ended _ (.inr rfl)
      · exact nomatch hunfinished
  | ended tx hpoint =>
      rcases hpoint with hpoint | hpoint <;>
      · rw [ScanTx.finished, hpoint] at hunfinished
        exact nomatch hunfinished

/-- The leases after a commit, if the lease that is written is the one the log amounts to. -/
lemma ScanTablesOk.commit_leases (hok : ScanTablesOk tables) (hpoint : tx.point = .succeeded)
    (hlease : tx.lease = leaseRow tx.call.key (tx.call :: tables.log)) (key : ScanKey) :
    (tx.commit tables).leases key = leaseRow key (tx.commit tables).log := by
  rw [ScanTx.commit, if_pos hpoint]
  dsimp only
  by_cases hkey : key = tx.call.key
  · subst hkey
    rw [Function.update_self, hlease]
  · rw [Function.update_of_ne hkey, leaseRow_cons_of_ne (Ne.symm hkey)]
    exact hok.leases key

/-- A transaction that succeeds holds the lock of its lease, and has written what the log with its
call amounts to. -/
lemma ScanTxOk.succeeded (hok : ScanTablesOk tables) (h : ScanTxOk tables tx)
    (hpoint : tx.point = .succeeded) :
    tx.locks = [tx.call.key] ∧ ScanTablesOk (tx.commit tables) := by
  cases h with
  | claimed claim hsucceeds =>
      refine ⟨rfl, hok.commit_leases rfl ?_, ?_, ?_, hsucceeds, hok.sound⟩
      · change _ = leaseRow claim.key _
        rw [leaseRow, if_pos rfl, hok.leases]
      · exact (List.append_nil _).trans hok.runs
      · exact (List.append_nil _).trans hok.findings
  | fenced publish hsucceeds point run findings hstage =>
      obtain rfl : point = .succeeded := hpoint
      obtain ⟨hrun, hfindings⟩ : run = [publish.runRow] ∧ findings = publish.findingRows := by
        rcases hstage with ⟨hstage, -⟩ | ⟨rest, hstage, -⟩ | ⟨-, hwritten⟩
        · exact nomatch hstage
        · exact nomatch hstage
        · exact hwritten
      subst hrun hfindings
      refine ⟨rfl, hok.commit_leases rfl ?_, ?_, ?_, hsucceeds, hok.sound⟩
      · change _ = leaseRow publish.key _
        rw [leaseRow, if_pos rfl, hok.leases]
      · exact congrArg (· ++ [publish.runRow]) hok.runs
      · exact congrArg (· ++ publish.findingRows) hok.findings
  | ended tx hended =>
      rcases hended with hended | hended
      · exact nomatch hended.symm.trans hpoint
      · exact nomatch hended.symm.trans hpoint
  | snapshot claim hpasses => exact nomatch hpoint
  | upsert claim hpasses recent hrecent => exact nomatch hpoint
  | fence publish hlater => exact nomatch hpoint

/-- What a transaction has seen stays true when another one commits that does not conflict with
it. -/
lemma ScanTxOk.others {other : ScanTx} (hok : ScanTablesOk tables) (h : ScanTxOk tables tx)
    (hother : ScanTxOk tables other) (hconflict : scanConflict tx other = false)
    (hlocks : ∀ lock ∈ tx.locks, lock ∉ other.locks) : ScanTxOk (tx.commit tables) other := by
  by_cases hpoint : tx.point = .succeeded
  swap
  · rw [ScanTx.commit, if_neg hpoint]
    exact hother
  have hlocked := (h.succeeded hok hpoint).1
  have hlog : (tx.commit tables).log = tx.call :: tables.log := by
    rw [ScanTx.commit, if_pos hpoint]
  have hleases : ∀ key ≠ tx.call.key, (tx.commit tables).leases key = tables.leases key := by
    intro key hkey
    rw [ScanTx.commit, if_pos hpoint]
    exact Function.update_of_ne hkey _ _
  have hkey : ∀ key ∈ other.locks, key ≠ tx.call.key := by
    rintro key hmem rfl
    exact hlocks _ (hlocked ▸ List.mem_singleton_self _) hmem
  rw [scanConflict, decide_eq_true hpoint, Bool.true_and] at hconflict
  have htoken : ∀ publish publish', tx.call = .publish publish → other.call = .publish publish' →
      publish.leaseToken ≠ publish'.leaseToken := by
    intro publish publish' hcall hcall' heq
    rw [hcall, hcall'] at hconflict
    exact absurd heq.symm (of_decide_eq_false hconflict)
  cases hother with
  | snapshot claim hpasses => exact .snapshot claim hpasses
  | upsert claim hpasses recent hrecent =>
      refine .upsert claim hpasses recent fun hkind => ⟨(hrecent hkind).1, fun publish hmem heq => ?_⟩
      rw [hlog] at hmem
      rcases List.mem_cons.mp hmem with hcall | hmem
      · rw [← hcall] at hconflict
        simp [ScanPoint.hasSnapshot, hkind, heq] at hconflict
      · exact (hrecent hkind).2 publish hmem heq
  | claimed claim hsucceeds =>
      have hne : claim.key ≠ tx.call.key := hkey _ (List.mem_singleton_self _)
      rw [← hleases _ hne]
      refine .claimed claim ?_
      rw [hlog]
      exact hsucceeds.cons (Ne.symm hne) htoken
  | fence publish hlater =>
      refine .fence publish fun earlier hmem heq => ?_
      rw [hlog] at hmem
      rcases List.mem_cons.mp hmem with hcall | hmem
      · exact absurd heq (htoken earlier publish hcall.symm rfl)
      · exact hlater earlier hmem heq
  | fenced publish hsucceeds point run findings hstage =>
      have hne : publish.key ≠ tx.call.key := hkey _ (List.mem_singleton_self _)
      rw [← hleases _ hne]
      refine .fenced publish ?_ point run findings hstage
      rw [hlog]
      exact hsucceeds.cons (Ne.symm hne) htoken
  | ended other hended => exact .ended other hended

lemma scan_invariant : Invariant scanProgram scanConflict ScanTablesOk ScanTxOk where
  start _ h := .start h
  statement hok h hunfinished := h.statement hok hunfinished
  commit hok h _ := by
    rename_i tables tx _
    by_cases hpoint : tx.point = .succeeded
    · exact (h.succeeded hok hpoint).2
    · change ScanTablesOk (tx.commit tables)
      rw [ScanTx.commit, if_neg hpoint]
      exact hok
  others hok h _ hother hconflict hlocks := h.others hok hother hconflict hlocks

lemma ScanTablesOk.empty : ScanTablesOk .empty := ⟨fun _ => rfl, rfl, rfl, trivial⟩

end Statements

/-! ### What a sound log says -/

/-- The token of a claim. -/
def ScanCall.claimToken? : ScanCall → Option String
  | .claim call => some call.token
  | .publish _ => none

/-- The token of the lease that is published. -/
def ScanCall.publishToken? : ScanCall → Option String
  | .claim _ => none
  | .publish call => some call.leaseToken

section SoundLogs

variable {log mid earlier : List ScanCall} {key : ScanKey} {claim : ClaimDoctorScan}

lemma SoundLog.of_append (h : SoundLog (mid ++ log)) : SoundLog log := by
  induction mid with
  | nil => exact h
  | cons call mid ih => exact ih h.2

/-- The lease after a claim: it was published, it is still that of the claim, or it was acquired
anew after the claim had expired. -/
lemma lease_after_claim (h : SoundLog (mid ++ .claim claim :: earlier)) :
    ∃ row, leaseRow claim.key (mid ++ .claim claim :: earlier) = some row ∧
      ((∃ publish, ScanCall.publish publish ∈ mid ∧ publish.key = claim.key ∧
          publish.leaseToken = claim.token) ∨
        (row.leaseToken = claim.token ∧ row.leaseExpiresAt = claim.leaseExpiresAt) ∨
        (claim.leaseExpiresAt ≤ row.leaseAcquiredAt ∧
          row.leaseAcquiredAt ≤ row.leaseExpiresAt)) := by
  induction mid with
  | nil =>
      refine ⟨claim.lease (leaseRow claim.key earlier), ?_, .inr (.inl ⟨rfl, rfl⟩)⟩
      rw [List.nil_append, leaseRow, if_pos rfl]
  | cons call mid ih =>
      obtain ⟨row, hrow, hcases⟩ := ih h.2
      have hpublished : (∃ publish, ScanCall.publish publish ∈ mid ∧ publish.key = claim.key ∧
          publish.leaseToken = claim.token) → ∃ publish, ScanCall.publish publish ∈ call :: mid ∧
          publish.key = claim.key ∧ publish.leaseToken = claim.token :=
        fun ⟨publish, hmem, heq⟩ => ⟨publish, List.mem_cons_of_mem _ hmem, heq⟩
      by_cases hkey : call.key = claim.key
      swap
      · exact ⟨row, (leaseRow_cons_of_ne hkey).trans hrow, hcases.imp_left hpublished⟩
      cases call with
      | claim next =>
          change next.key = claim.key at hkey
          obtain ⟨hexpires, -, hnext, -⟩ := h.1
          have hfree := (hnext row (hkey ▸ hrow)).1
          refine ⟨next.lease (some row), ?_, ?_⟩
          · rw [List.cons_append, leaseRow, if_pos hkey, hrow]
          rcases hcases with hpublish | ⟨-, hsame⟩ | ⟨hafter, hle⟩
          · exact .inl (hpublished hpublish)
          · exact .inr (.inr ⟨hsame ▸ hfree, hexpires.le⟩)
          · exact .inr (.inr ⟨hafter.trans (hle.trans hfree), hexpires.le⟩)
      | publish publish =>
          change publish.key = claim.key at hkey
          obtain ⟨⟨row', hrow', htoken, -, hacquired⟩, -⟩ := h.1
          obtain rfl := Option.some.inj (hrow.symm.trans (hkey ▸ hrow'))
          refine ⟨{ row with leaseExpiresAt := publish.now }, ?_, ?_⟩
          · rw [List.cons_append, leaseRow, if_pos hkey, hrow]
            rfl
          rcases hcases with hpublish | ⟨hsame, -⟩ | ⟨hafter, -⟩
          · exact .inl (hpublished hpublish)
          · exact .inl ⟨publish, List.mem_cons_self, hkey, htoken.symm.trans hsame⟩
          · exact .inr (.inr ⟨hafter, hacquired.le⟩)

/-- The last forced claim is remembered, whatever is claimed and published after it. -/
lemma force_after_claim (h : SoundLog (mid ++ .claim claim :: earlier))
    (hkind : claim.kind = .force) :
    ∃ row requestedAt, leaseRow claim.key (mid ++ .claim claim :: earlier) = some row ∧
      row.lastForceRequestedAt = some requestedAt ∧ claim.now ≤ requestedAt := by
  induction mid with
  | nil =>
      refine ⟨claim.lease (leaseRow claim.key earlier), claim.now, ?_, ?_, le_rfl⟩
      · rw [List.nil_append, leaseRow, if_pos rfl]
      · rw [ClaimDoctorScan.lease, hkind]
  | cons call mid ih =>
      obtain ⟨row, requestedAt, hrow, hrequested, hle⟩ := ih h.2
      by_cases hkey : call.key = claim.key
      swap
      · exact ⟨row, requestedAt, (leaseRow_cons_of_ne hkey).trans hrow, hrequested, hle⟩
      cases call with
      | claim next =>
          change next.key = claim.key at hkey
          have hlease : leaseRow claim.key (.claim next :: mid ++ .claim claim :: earlier) =
              some (next.lease (some row)) := by
            rw [List.cons_append, leaseRow, if_pos hkey, hrow]
          cases hnext : next.kind with
          | scheduled =>
              refine ⟨_, requestedAt, hlease, ?_, hle⟩
              rw [ClaimDoctorScan.lease, hnext]
              exact hrequested
          | force =>
              obtain ⟨-, hcooldown, hprevious, -⟩ := h.1
              have hapart := (hprevious row (hkey ▸ hrow)).2 hnext requestedAt hrequested
              refine ⟨_, next.now, hlease, ?_, by omega⟩
              rw [ClaimDoctorScan.lease, hnext]
      | publish publish =>
          change publish.key = claim.key at hkey
          refine ⟨{ row with leaseExpiresAt := publish.now }, requestedAt, ?_, hrequested, hle⟩
          rw [List.cons_append, leaseRow, if_pos hkey, hrow]
          rfl

/-- The claim that a lease is of, and no later one. -/
lemma claim_of_lease (h : SoundLog log) {row : LeaseRow} (hrow : leaseRow key log = some row) :
    ∃ mid claim rest, log = mid ++ .claim claim :: rest ∧
      (∀ later, ScanCall.claim later ∈ mid → later.key ≠ key) ∧ claim.key = key ∧
      claim.token = row.leaseToken ∧ row.leaseExpiresAt ≤ claim.leaseExpiresAt := by
  induction log generalizing row with
  | nil => exact nomatch hrow
  | cons call log ih =>
      have hskip : (∀ later, call = .claim later → later.key ≠ key) → ∀ {old : LeaseRow},
          leaseRow key log = some old → row.leaseToken = old.leaseToken →
          row.leaseExpiresAt ≤ old.leaseExpiresAt → ∃ mid claim rest,
            call :: log = mid ++ .claim claim :: rest ∧
            (∀ later, ScanCall.claim later ∈ mid → later.key ≠ key) ∧ claim.key = key ∧
            claim.token = row.leaseToken ∧ row.leaseExpiresAt ≤ claim.leaseExpiresAt := by
        intro hcall old hold htoken hexpires
        obtain ⟨mid, claim, rest, rfl, hnone, hkey, htoken', hexpires'⟩ := ih h.2 hold
        refine ⟨call :: mid, claim, rest, rfl, fun later hmem => ?_, hkey,
          htoken'.trans htoken.symm, hexpires.trans hexpires'⟩
        rcases List.mem_cons.mp hmem with heq | hmem
        · exact hcall later heq.symm
        · exact hnone later hmem
      by_cases hkey : call.key = key
      swap
      · rw [leaseRow_cons_of_ne hkey] at hrow
        refine hskip (fun later heq => ?_) hrow rfl le_rfl
        rw [heq] at hkey
        exact hkey
      cases call with
      | claim claim =>
          change claim.key = key at hkey
          rw [leaseRow, if_pos hkey] at hrow
          obtain rfl := Option.some.inj hrow
          exact ⟨[], claim, log, rfl, fun _ hmem => (nomatch hmem), hkey, rfl, le_rfl⟩
      | publish publish =>
          change publish.key = key at hkey
          obtain ⟨⟨old, hold, -, hbefore, -⟩, -⟩ := h.1
          rw [hkey] at hold
          rw [leaseRow, if_pos hkey, hold] at hrow
          obtain rfl := Option.some.inj hrow
          exact hskip (fun _ heq => nomatch heq) hold rfl hbefore.le

/-- A token that is published was claimed. -/
lemma claimed_of_published (h : SoundLog log) {publish : PublishDoctorScan}
    (hmem : ScanCall.publish publish ∈ log) :
    ∃ claim, ScanCall.claim claim ∈ log ∧ claim.token = publish.leaseToken := by
  obtain ⟨later, earlier, rfl⟩ := List.append_of_mem hmem
  obtain ⟨⟨⟨row, hrow, htoken, -⟩, -⟩, hsound⟩ := h.of_append
  obtain ⟨mid, claim, rest, rfl, -, -, heq, -⟩ := claim_of_lease hsound hrow
  exact ⟨claim, by simp, heq.trans htoken⟩

/-- A lease whose token was published ends at the time of a publish of it. -/
lemma lease_of_published (h : SoundLog log) (htokens : (log.filterMap ScanCall.claimToken?).Nodup)
    {publish : PublishDoctorScan} (hmem : ScanCall.publish publish ∈ log) {row : LeaseRow}
    (hrow : leaseRow key log = some row) (htoken : row.leaseToken = publish.leaseToken) :
    ∃ last, ScanCall.publish last ∈ log ∧ last.leaseToken = row.leaseToken ∧
      row.leaseExpiresAt = last.now := by
  induction log generalizing row with
  | nil => exact nomatch hmem
  | cons call log ih =>
      cases call with
      | claim claim =>
          rw [List.filterMap_cons, ScanCall.claimToken?, List.nodup_cons] at htokens
          have hmem : ScanCall.publish publish ∈ log := (List.mem_cons.mp hmem).resolve_left nofun
          by_cases hkey : claim.key = key
          · -- The token of the claim is new, and the published one is not.
            rw [leaseRow, if_pos hkey] at hrow
            obtain rfl := Option.some.inj hrow
            obtain ⟨claimed, hclaimed, heq⟩ := claimed_of_published h.2 hmem
            refine absurd (List.mem_filterMap.mpr ⟨_, hclaimed, ?_⟩) htokens.1
            rw [ScanCall.claimToken?, heq, ← htoken]
            rfl
          · rw [leaseRow, if_neg hkey] at hrow
            obtain ⟨last, hlast, heq⟩ := ih h.2 htokens.2 hmem hrow htoken
            exact ⟨last, List.mem_cons_of_mem _ hlast, heq⟩
      | publish next =>
          have hrest : (log.filterMap ScanCall.claimToken?).Nodup := htokens
          obtain ⟨⟨old, hold, holdToken, -⟩, -⟩ := h.1
          by_cases hkey : next.key = key
          · rw [hkey] at hold
            rw [leaseRow, if_pos hkey, hold] at hrow
            obtain rfl := Option.some.inj hrow
            exact ⟨next, List.mem_cons_self, holdToken.symm, rfl⟩
          · rw [leaseRow, if_neg hkey] at hrow
            rcases List.mem_cons.mp hmem with heq | hmem
            · -- One token would be that of the leases of two keys.
              obtain rfl := ScanCall.publish.inj heq
              obtain ⟨mid, claim, rest, hlog, -, hclaim, htoken', -⟩ := claim_of_lease h.2 hrow
              obtain ⟨mid', claim', rest', hlog', -, hclaim', htoken'', -⟩ := claim_of_lease h.2 hold
              have hmem : ScanCall.claim claim ∈ log := by
                rw [hlog]
                simp
              have hmem' : ScanCall.claim claim' ∈ log := by
                rw [hlog']
                simp
              have hsame : ScanCall.claim claim = .claim claim' :=
                eq_of_nodup_filterMap hrest hmem hmem'
                  (show ScanCall.claimToken? _ = _ from congrArg some (htoken'.trans htoken))
                  (show ScanCall.claimToken? _ = _ from congrArg some (htoken''.trans holdToken))
              obtain rfl := ScanCall.claim.inj hsame
              exact absurd (hclaim'.symm.trans hclaim) hkey
            · obtain ⟨last, hlast, heq⟩ := ih h.2 hrest hmem hrow htoken
              exact ⟨last, List.mem_cons_of_mem _ hlast, heq⟩

/-- A lease is published at most once. -/
lemma nodup_publishTokens (h : SoundLog log)
    (htokens : (log.filterMap ScanCall.claimToken?).Nodup) :
    (log.filterMap ScanCall.publishToken?).Nodup := by
  induction log with
  | nil => exact List.nodup_nil
  | cons call log ih =>
      cases call with
      | claim claim =>
          rw [List.filterMap_cons, ScanCall.claimToken?, List.nodup_cons] at htokens
          exact ih h.2 htokens.2
      | publish publish =>
          rw [List.filterMap_cons, ScanCall.publishToken?, List.nodup_cons]
          refine ⟨fun hmem => ?_, ih h.2 htokens⟩
          obtain ⟨earlier, hearlier, heq⟩ := List.mem_filterMap.mp hmem
          obtain ⟨⟨⟨row, hrow, htoken, hbefore, -⟩, hlater⟩, hsound⟩ := h
          cases earlier with
          | claim claim => exact nomatch heq
          | publish earlier =>
              obtain ⟨last, hlast, hlastToken, hexpires⟩ := lease_of_published hsound htokens
                hearlier hrow (htoken.trans (Option.some.inj heq).symm)
              have hle := hlater last hlast (hlastToken.trans htoken)
              rw [hexpires] at hbefore
              exact absurd hbefore (not_lt.mpr hle)

end SoundLogs

/-! ### The leases -/

/-- What the leases guarantee, told by the calls that succeeded: `later ++ … ++ earlier` is the log,
the last call first. -/
structure DoctorScanLeases (tables : ScanTables) : Prop where
  /-- Two claims are separated by a publish of the first lease, or by its expiry. -/
  separated : ∀ later claim mid first earlier,
    tables.log = later ++ .claim claim :: (mid ++ .claim first :: earlier) →
    claim.key = first.key →
      (∃ publish, ScanCall.publish publish ∈ mid ∧ publish.key = first.key ∧
        publish.leaseToken = first.token) ∨ first.leaseExpiresAt ≤ claim.now
  /-- A lease is published under its current token, and before it expires. -/
  current : ∀ later publish earlier, tables.log = later ++ .publish publish :: earlier →
    ∃ mid claim rest, earlier = mid ++ .claim claim :: rest ∧
      (∀ other, ScanCall.claim other ∈ mid → other.key ≠ publish.key) ∧
      claim.key = publish.key ∧ claim.token = publish.leaseToken ∧
      publish.now < claim.leaseExpiresAt
  /-- A lease is published at most once, if the tokens of the claims are distinct. -/
  once : (tables.log.filterMap ScanCall.claimToken?).Nodup →
    ∀ token, (tables.log.filterMap ScanCall.publishToken?).count token ≤ 1
  /-- The runs and findings are those of the publishes that succeeded, and no others. -/
  stored : tables.runs = runRows tables.log ∧ tables.findings = findingRows tables.log
  /-- Two forced claims are at least the cooldown apart. -/
  forced : ∀ later claim mid first earlier,
    tables.log = later ++ .claim claim :: (mid ++ .claim first :: earlier) →
    claim.key = first.key → claim.kind = .force → first.kind = .force →
      first.now + claim.forceCooldownMs ≤ claim.now
  /-- A scheduled claim succeeds only if no run was completed within its cadence. -/
  scheduled : ∀ later claim earlier, tables.log = later ++ .claim claim :: earlier →
    claim.kind = .scheduled → ∀ row ∈ runRows earlier, row.key = claim.key →
      row.run.completedAt ≤ claim.now - claim.cadenceMs

lemma ScanTablesOk.leasesOk {tables : ScanTables} (h : ScanTablesOk tables) :
    DoctorScanLeases tables where
  separated later claim mid first earlier hlog hkey := by
    have hsound := h.sound
    rw [hlog] at hsound
    obtain ⟨⟨-, -, hfree, -⟩, hbefore⟩ := hsound.of_append
    obtain ⟨row, hrow, hcases⟩ := lease_after_claim hbefore
    have hexpired := (hfree row (hkey ▸ hrow)).1
    rcases hcases with hpublished | ⟨-, hsame⟩ | ⟨hafter, hle⟩
    · exact .inl hpublished
    · exact .inr (hsame ▸ hexpired)
    · exact .inr (hafter.trans (hle.trans hexpired))
  current later publish earlier hlog := by
    have hsound := h.sound
    rw [hlog] at hsound
    obtain ⟨⟨⟨row, hrow, htoken, hbefore, -⟩, -⟩, hearlier⟩ := hsound.of_append
    obtain ⟨mid, claim, rest, rfl, hnone, hkey, heq, hexpires⟩ := claim_of_lease hearlier hrow
    exact ⟨mid, claim, rest, rfl, hnone, hkey, heq.trans htoken, lt_of_lt_of_le hbefore hexpires⟩
  once htokens token :=
    List.nodup_iff_count_le_one.mp (nodup_publishTokens h.sound htokens) token
  stored := ⟨h.runs, h.findings⟩
  forced later claim mid first earlier hlog hkey hkind hfirst := by
    have hsound := h.sound
    rw [hlog] at hsound
    obtain ⟨⟨-, -, hfree, -⟩, hbefore⟩ := hsound.of_append
    obtain ⟨row, requestedAt, hrow, hrequested, hle⟩ := force_after_claim hbefore hfirst
    have hapart := (hfree row (hkey ▸ hrow)).2 hkind requestedAt hrequested
    omega
  scheduled later claim earlier hlog hkind row hrow hkey := by
    have hsound := h.sound
    rw [hlog] at hsound
    obtain ⟨⟨-, -, -, hscheduled⟩, -⟩ := hsound.of_append
    obtain ⟨publish, hmem, rfl⟩ := mem_runRows.mp hrow
    exact hscheduled hkind publish hmem hkey

/-- **The leases of the doctor scans**: in every run in which no publish commits beside the
statement of a scheduled claim that has taken its snapshot, nor beside another publish of its lease,
the leases guarantee what they are for. -/
theorem doctor_scan_leases {s : Running ScanTables ScanTx}
    (h : Run scanProgram scanConflict (.idle .empty) s) : DoctorScanLeases s.tables :=
  (scan_invariant.run (Holds.idle ScanTablesOk.empty) h).tables.leasesOk

/-! ### Two runs -/

def sampleScanKey : ScanKey := ⟨sampleOrganization, "platform-gateway"⟩

def sampleClaim (kind : DoctorScanClaimKind) (now : ℤ) (token : String) : ScanTx :=
  .start (.claim ⟨sampleScanKey, kind, 30000, 300000, 30000, now, token⟩)

def samplePublish (now : ℤ) (runId : String) : ScanTx :=
  .start (.publish ⟨sampleScanKey, "a", ⟨.succeeded, 0, now, 12, 0, none⟩,
    [⟨"gateway.reachable", .info, "Gateway", "Reachable", .available, none, none, false, none⟩], now,
    runId⟩)

/-- The times at which the transactions of a schedule begin. -/
def startTimes (events : List (Event ScanTx)) : List ℤ :=
  events.filterMap fun
    | .start _ tx => some tx.call.now
    | _ => none

/-- A claim, its publish, and a forced claim later on. -/
def oneByOne : List (Event ScanTx) :=
  [.start 0 (sampleClaim .scheduled 0 "a"), .statement 0, .statement 0, .commit 0,
    .start 0 (samplePublish 10 "run"), .statement 0, .statement 0, .statement 0, .statement 0,
    .commit 0, .start 0 (sampleClaim .force 11 "b"), .statement 0, .statement 0, .commit 0]

theorem doctor_scan_leases_oneByOne :
    Run scanProgram scanConflict (.idle .empty)
        (outcome scanProgram scanConflict 1 (.idle .empty) oneByOne) ∧
      (outcome scanProgram scanConflict 1 (.idle .empty) oneByOne).tables.log.length = 3 ∧
      DoctorScanLeases (outcome scanProgram scanConflict 1 (.idle .empty) oneByOne).tables := by
  obtain ⟨-, hrun⟩ := run_outcome scanProgram scanConflict oneByOne (.idle 1 .empty)
    (by decide)
  exact ⟨hrun, by decide, doctor_scan_leases hrun⟩

/-- A scheduled claim whose statement begins while the run is being published: it waits for the
lease, takes it over, and has not seen the run. -/
def staleSnapshot : List (Event ScanTx) :=
  [.start 0 (sampleClaim .scheduled 0 "a"), .statement 0, .statement 0, .commit 0,
    .start 0 (samplePublish 10 "run"), .statement 0, .start 1 (sampleClaim .scheduled 11 "b"),
    .statement 1, .statement 0, .statement 0, .statement 0, .commit 0, .statement 1, .commit 1]

/-- Two publishes of one lease: the one that begins first comes to the row second, and still sees a
lease that ends after its own time. -/
def overlappingPublishes : List (Event ScanTx) :=
  [.start 0 (sampleClaim .scheduled 0 "a"), .statement 0, .statement 0, .commit 0,
    .start 0 (samplePublish 10 "run"), .start 1 (samplePublish 11 "again"), .statement 1,
    .statement 1, .statement 1, .statement 1, .commit 1, .statement 0, .statement 0, .statement 0,
    .statement 0, .commit 0]

/-- What happens otherwise: the clock never goes back, and yet a claim is made right after a run,
and a lease is published twice. -/
theorem doctor_scan_leases_broken :
    ((startTimes staleSnapshot).Pairwise (· ≤ ·) ∧
      Run scanProgram noConflict (.idle .empty)
        (outcome scanProgram noConflict 2 (.idle .empty) staleSnapshot) ∧
      ¬ DoctorScanLeases (outcome scanProgram noConflict 2 (.idle .empty) staleSnapshot).tables) ∧
    ((startTimes overlappingPublishes).Pairwise (· ≤ ·) ∧
      Run scanProgram noConflict (.idle .empty)
        (outcome scanProgram noConflict 2 (.idle .empty) overlappingPublishes) ∧
      ¬ DoctorScanLeases
        (outcome scanProgram noConflict 2 (.idle .empty) overlappingPublishes).tables) := by
  refine ⟨⟨by decide, (run_outcome scanProgram noConflict staleSnapshot (.idle 2 .empty)
    (by decide)).2, fun hleases => ?_⟩, by decide,
    (run_outcome scanProgram noConflict overlappingPublishes (.idle 2 .empty)
      (by decide)).2, fun hleases => ?_⟩
  · have hlog : (outcome scanProgram noConflict 2 (.idle .empty) staleSnapshot).tables.log =
        [(sampleClaim .scheduled 11 "b").call, (samplePublish 10 "run").call,
          (sampleClaim .scheduled 0 "a").call] := by decide
    have hscheduled := hleases.scheduled [] _ _ hlog rfl _ List.mem_cons_self rfl
    exact absurd hscheduled (by decide)
  · exact absurd (hleases.once (by decide) "a") (by decide)

end Opzava.Adapters
