import Opzava.ProjectManagement.Outbox

/-!
The protocol of the issue-close outbox.

* `OutboxOk`: the invariant, of the rows, of the log, and of the workers; one lemma a
  step, `reachable_ok` for whole runs.
* `outbox_protocol`: one row a key, tokens, absorbing states and attempts.
* `close_calls_bounded`: how many calls of `closeIssue` a row may see.
-/

namespace Opzava.ProjectManagement

open Opzava.Library

/-! ### Counting -/

namespace OutboxEvent

/-- The row of an event. -/
def rowId : OutboxEvent → String
  | .claimed _ id _ _ => id
  | .called _ id _ _ _ => id
  | .finalized _ id _ _ => id

/-- A finalization of the row. -/
def isFinalization (id : String) : OutboxEvent → Bool
  | .finalized _ id' _ _ => id' = id
  | _ => false

/-- A claim of the row when nobody holds it. -/
def isFirstClaim (id : String) : OutboxEvent → Bool
  | .claimed _ id' _ again => id' = id ∧ again = false
  | _ => false

/-- A claim of the row from a worker that has held it for too long. -/
def isReclaim (id : String) : OutboxEvent → Bool
  | .claimed _ id' _ again => id' = id ∧ again = true
  | _ => false

/-- A claim of the row. -/
def isClaim (id : String) : OutboxEvent → Bool
  | .claimed _ id' _ _ => id' = id
  | _ => false

/-- A call of `closeIssue` for the row. -/
def isCall (id : String) : OutboxEvent → Bool
  | .called _ id' _ _ _ => id' = id
  | _ => false

end OutboxEvent

variable {m : ℕ} {log new : List OutboxEvent} {rows : List OutboxRow} {row entry : OutboxRow}

/-- The finalizations of a row. -/
def finalizations (id : String) (log : List OutboxEvent) : ℕ :=
  log.countP (OutboxEvent.isFinalization id)

/-- The claims of a row nobody held. -/
def firstClaims (id : String) (log : List OutboxEvent) : ℕ :=
  log.countP (OutboxEvent.isFirstClaim id)

/-- The claims of a row from a worker that has held it for too long. -/
def reclaims (id : String) (log : List OutboxEvent) : ℕ :=
  log.countP (OutboxEvent.isReclaim id)

/-- The calls of `closeIssue` for a row. -/
def closeCalls (id : String) (log : List OutboxEvent) : ℕ :=
  log.countP (OutboxEvent.isCall id)

/-- The tokens `closeIssue` has been called under. -/
def calledTokens (log : List OutboxEvent) : List (Option String) :=
  log.filterMap fun
    | .called _ _ token _ _ => some token
    | _ => none

/-- The tokens rows have been finalized under. -/
def finalizedTokens (log : List OutboxEvent) : List (Option String) :=
  log.filterMap fun
    | .finalized _ _ token _ => some token
    | _ => none

lemma finalizations_append (id : String) : finalizations id (log ++ new) =
    finalizations id log + finalizations id new := List.countP_append

lemma firstClaims_append (id : String) : firstClaims id (log ++ new) =
    firstClaims id log + firstClaims id new := List.countP_append

lemma claimTokens_append : claimTokens (log ++ new) = claimTokens log ++ claimTokens new :=
  List.filterMap_append

lemma calledTokens_append : calledTokens (log ++ new) = calledTokens log ++ calledTokens new :=
  List.filterMap_append

lemma finalizedTokens_append :
    finalizedTokens (log ++ new) = finalizedTokens log ++ finalizedTokens new :=
  List.filterMap_append

lemma mem_claimTokens {token : Option String} :
    token ∈ claimTokens log ↔ ∃ w id again, OutboxEvent.claimed w id token again ∈ log := by
  rw [claimTokens, List.mem_filterMap]
  constructor
  · rintro ⟨event, hevent, htoken⟩
    cases event <;> cases htoken
    exact ⟨_, _, _, hevent⟩
  · rintro ⟨w, id, again, hevent⟩
    exact ⟨_, hevent, rfl⟩

lemma mem_calledTokens {token : Option String} :
    token ∈ calledTokens log ↔ ∃ w id ref ok, OutboxEvent.called w id token ref ok ∈ log := by
  rw [calledTokens, List.mem_filterMap]
  constructor
  · rintro ⟨event, hevent, htoken⟩
    cases event <;> cases htoken
    exact ⟨_, _, _, _, hevent⟩
  · rintro ⟨w, id, ref, ok, hevent⟩
    exact ⟨_, hevent, rfl⟩

lemma mem_finalizedTokens {token : Option String} :
    token ∈ finalizedTokens log ↔ ∃ w id state, OutboxEvent.finalized w id token state ∈ log := by
  rw [finalizedTokens, List.mem_filterMap]
  constructor
  · rintro ⟨event, hevent, htoken⟩
    cases event <;> cases htoken
    exact ⟨_, _, _, hevent⟩
  · rintro ⟨w, id, state, hevent⟩
    exact ⟨_, hevent, rfl⟩

/-- A token belongs to one claim. -/
lemma claimed_unique (h : (claimTokens log).Nodup) {w w' : ℕ} {id id' : String}
    {token : Option String} {again again' : Bool}
    (hclaim : OutboxEvent.claimed w id token again ∈ log)
    (hclaim' : OutboxEvent.claimed w' id' token again' ∈ log) : w = w' ∧ id = id' := by
  have heq := eq_of_nodup_filterMap h hclaim hclaim' rfl rfl
  cases heq
  exact ⟨rfl, rfl⟩

/-! ### The invariant -/

/-- What the log says of a row. -/
structure RowOk (m : ℕ) (log : List OutboxEvent) (row : OutboxRow) : Prop where
  processing : row.state = .processing ↔ row.claimToken ≠ none
  claimedAt : row.claimToken ≠ none ↔ row.claimedAt ≠ none
  attempts : row.attempts = finalizations row.id log
  le : row.attempts ≤ m
  lt : row.state.live = true → row.attempts < m
  first : firstClaims row.id log = row.attempts + if row.state = .processing then 1 else 0
  owner : row.claimToken ≠ none → ∃ w again, .claimed w row.id row.claimToken again ∈ log
  unfinalized : row.claimToken ≠ none → row.claimToken ∉ finalizedTokens log
  closed : row.state = .closed → ∃ w token, .finalized w row.id token .closed ∈ log ∧
    .called w row.id token row.ref true ∈ log

/-- Every claim is called at most once and finalized at most once, by its owner. -/
structure LogOk (log : List OutboxEvent) : Prop where
  claims : (claimTokens log).Nodup
  calls : (calledTokens log).Nodup
  finals : (finalizedTokens log).Nodup
  called : ∀ {w id token ref ok}, .called w id token ref ok ∈ log →
    ∃ again, .claimed w id token again ∈ log
  finalized : ∀ {w id token state}, .finalized w id token state ∈ log →
    ∃ again, .claimed w id token again ∈ log

/-- The entry is a claim of the worker; while the claim stands, the row has the attempts
of the entry. -/
structure Held (rows : List OutboxRow) (log : List OutboxEvent) (w : ℕ) (entry : OutboxRow) :
    Prop where
  token : entry.claimToken ≠ none
  claimed : ∃ again, .claimed w entry.id entry.claimToken again ∈ log
  row : ∃ row ∈ rows, row.id = entry.id ∧ row.ref = entry.ref ∧
    (row.claimToken = entry.claimToken → row.attempts = entry.attempts)

/-- What a worker knows. -/
structure WorkerOk (m : ℕ) (rows : List OutboxRow) (log : List OutboxEvent) (w : ℕ)
    (worker : Worker) : Prop where
  cap : worker.bounds.maxAttempts = m
  held : ∀ entry ∈ worker.entries, Held rows log w entry
  nodup : (worker.entries.map (·.claimToken)).Nodup
  uncalled : ∀ entry ∈ worker.entries, entry.claimToken ∉ calledTokens log
  answered : ∀ entry result, worker.answered = some (entry, result) →
    Held rows log w entry ∧ .called w entry.id entry.claimToken entry.ref result.isOk ∈ log

/-- The invariant of the outbox. -/
structure OutboxOk (m : ℕ) (s : Outbox) : Prop where
  ids : (s.rows.map (·.id)).Nodup
  keys : (s.rows.map (·.dedupeKey)).Nodup
  known : ∀ event ∈ s.log, event.rowId ∈ s.rows.map (·.id)
  rows : ∀ row ∈ s.rows, RowOk m s.log row
  log : LogOk s.log
  workers : ∀ w worker, s.workers w = some worker → WorkerOk m s.rows s.log w worker

lemma OutboxOk.empty (m : ℕ) : OutboxOk m Outbox.empty where
  ids := List.nodup_nil
  keys := List.nodup_nil
  known := by simp [Outbox.empty]
  rows := by simp [Outbox.empty]
  log :=
    { claims := List.nodup_nil
      calls := List.nodup_nil
      finals := List.nodup_nil
      called := by simp [Outbox.empty]
      finalized := by simp [Outbox.empty] }
  workers := by simp [Outbox.empty]

/-! ### What a longer log keeps -/

/-- New events that are no finalization and no first claim of the row keep what is known
of it. -/
lemma RowOk.append (h : RowOk m log row) (hfinal : finalizations row.id new = 0)
    (hfirst : firstClaims row.id new = 0)
    (hopen : row.claimToken ≠ none → row.claimToken ∉ finalizedTokens new) :
    RowOk m (log ++ new) row where
  processing := h.processing
  claimedAt := h.claimedAt
  attempts := by rw [finalizations_append, hfinal, h.attempts, add_zero]
  le := h.le
  lt := h.lt
  first := by rw [firstClaims_append, hfirst, h.first, add_zero]
  owner htoken := by
    obtain ⟨w, again, hclaim⟩ := h.owner htoken
    exact ⟨w, again, List.mem_append_left _ hclaim⟩
  unfinalized htoken := by
    rw [finalizedTokens_append, List.mem_append, not_or]
    exact ⟨h.unfinalized htoken, hopen htoken⟩
  closed hstate := by
    obtain ⟨w, token, hfinalized, hcalled⟩ := h.closed hstate
    exact ⟨w, token, List.mem_append_left _ hfinalized, List.mem_append_left _ hcalled⟩

/-- A row that moves on is still there; a claim that stands keeps its attempts. -/
def Carried (log : List OutboxEvent) (rows rows' : List OutboxRow) : Prop :=
  ∀ row ∈ rows, ∃ row' ∈ rows', row'.id = row.id ∧ row'.ref = row.ref ∧
    ∀ token ∈ claimTokens log, token ≠ none → row'.claimToken = token →
      row.claimToken = token ∧ row'.attempts = row.attempts

lemma Carried.refl (log : List OutboxEvent) (rows : List OutboxRow) : Carried log rows rows :=
  fun row hrow => ⟨row, hrow, rfl, rfl, fun _ _ _ htoken => ⟨htoken, rfl⟩⟩

lemma Held.mono {rows' : List OutboxRow} {w : ℕ} (h : Held rows log w entry)
    (hrows : Carried log rows rows') : Held rows' (log ++ new) w entry where
  token := h.token
  claimed := by
    obtain ⟨again, hclaim⟩ := h.claimed
    exact ⟨again, List.mem_append_left _ hclaim⟩
  row := by
    obtain ⟨row, hrow, hid, href, hattempts⟩ := h.row
    obtain ⟨again, hclaim⟩ := h.claimed
    obtain ⟨row', hrow', hid', href', htoken⟩ := hrows row hrow
    refine ⟨row', hrow', hid'.trans hid, href'.trans href, fun heq => ?_⟩
    obtain ⟨hsame, hcount⟩ := htoken entry.claimToken
      (mem_claimTokens.mpr ⟨_, _, _, hclaim⟩) h.token heq
    rw [hcount, hattempts hsame]

lemma WorkerOk.mono {rows' : List OutboxRow} {w : ℕ} {worker : Worker}
    (h : WorkerOk m rows log w worker) (hrows : Carried log rows rows')
    (hcalled : ∀ entry ∈ worker.entries, entry.claimToken ∉ calledTokens new) :
    WorkerOk m rows' (log ++ new) w worker where
  cap := h.cap
  held entry hentry := (h.held entry hentry).mono hrows
  nodup := h.nodup
  uncalled entry hentry := by
    rw [calledTokens_append, List.mem_append, not_or]
    exact ⟨h.uncalled entry hentry, hcalled entry hentry⟩
  answered entry result hanswered := by
    obtain ⟨hheld, hcall⟩ := h.answered entry result hanswered
    exact ⟨hheld.mono hrows, List.mem_append_left _ hcall⟩

/-- The worker that has moved, or another one. -/
lemma updated_worker {workers : ℕ → Option Worker} {w w' : ℕ} {value : Option Worker}
    {worker : Worker} (h : Function.update workers w value w' = some worker) :
    (w' = w ∧ value = some worker) ∨ (w' ≠ w ∧ workers w' = some worker) := by
  by_cases hw : w' = w
  · subst hw
    rw [Function.update_self] at h
    exact .inl ⟨rfl, h⟩
  · rw [Function.update_of_ne hw] at h
    exact .inr ⟨hw, h⟩

/-- New events that are no claims, each under a claim of its worker. -/
lemma LogOk.append (h : LogOk log) (hclaims : claimTokens new = [])
    (hcalls : (calledTokens log ++ calledTokens new).Nodup)
    (hfinals : (finalizedTokens log ++ finalizedTokens new).Nodup)
    (hcalled : ∀ {w id token ref ok}, .called w id token ref ok ∈ new →
      ∃ again, .claimed w id token again ∈ log)
    (hfinalized : ∀ {w id token state}, .finalized w id token state ∈ new →
      ∃ again, .claimed w id token again ∈ log) : LogOk (log ++ new) where
  claims := by
    rw [claimTokens_append, hclaims, List.append_nil]
    exact h.claims
  calls := by
    rw [calledTokens_append]
    exact hcalls
  finals := by
    rw [finalizedTokens_append]
    exact hfinals
  called hevent := by
    rcases List.mem_append.mp hevent with hold | hnew
    · obtain ⟨again, hclaim⟩ := h.called hold
      exact ⟨again, List.mem_append_left _ hclaim⟩
    · obtain ⟨again, hclaim⟩ := hcalled hnew
      exact ⟨again, List.mem_append_left _ hclaim⟩
  finalized hevent := by
    rcases List.mem_append.mp hevent with hold | hnew
    · obtain ⟨again, hclaim⟩ := h.finalized hold
      exact ⟨again, List.mem_append_left _ hclaim⟩
    · obtain ⟨again, hclaim⟩ := hfinalized hnew
      exact ⟨again, List.mem_append_left _ hclaim⟩

/-! ### Enqueue -/

/-- The two ways an enqueue succeeds. -/
lemma insertOutbox_eq_some {values : EnqueueValues} {id : String} {now : Timestamp}
    {rows' : List OutboxRow} (h : insertOutbox values id now rows = some (row, rows')) :
    (∃ existing ∈ rows, existing.dedupeKey = values.dedupeKey ∧ row = existing.touched now ∧
      rows' = updateWhere (fun row => row.dedupeKey = values.dedupeKey)
        (OutboxRow.touched now) rows) ∨
    ((∀ row ∈ rows, row.dedupeKey ≠ values.dedupeKey) ∧ id ∉ rows.map (·.id) ∧
      row = values.row id now ∧ rows' = rows ++ [values.row id now]) := by
  rw [insertOutbox] at h
  by_cases hnumber : values.issueNumber = 0 ∨ 2147483647 < values.issueNumber
  · rw [if_pos hnumber] at h
    cases h
  rw [if_neg hnumber] at h
  cases hfind : rows.find? fun row => row.dedupeKey = values.dedupeKey with
  | some existing =>
      simp only [hfind] at h
      split_ifs at h
      cases h
      have hkey := List.find?_some hfind
      exact .inl ⟨existing, List.mem_of_find?_eq_some hfind, of_decide_eq_true hkey, rfl, rfl⟩
  | none =>
      simp only [hfind] at h
      split_ifs at h with hid
      cases h
      refine .inr ⟨fun row hrow heq => ?_, hid, rfl, rfl⟩
      exact List.find?_eq_none.mp hfind row hrow (decide_eq_true heq)

lemma RowOk.touched (h : RowOk m log row) (now : Timestamp) : RowOk m log (row.touched now) :=
  ⟨h.processing, h.claimedAt, h.attempts, h.le, h.lt, h.first, h.owner, h.unfinalized, h.closed⟩

/-- A new row nobody has seen yet. -/
lemma RowOk.of_insert (hm : 0 < m) (values : EnqueueValues) {id : String} (now : Timestamp)
    (hknown : ∀ event ∈ log, event.rowId ≠ id) : RowOk m log (values.row id now) where
  processing := by simp [EnqueueValues.row]
  claimedAt := by simp [EnqueueValues.row]
  attempts := by
    refine (List.countP_eq_zero.mpr fun event hevent => ?_).symm
    have hne := hknown event hevent
    cases event <;> simp_all [OutboxEvent.isFinalization, OutboxEvent.rowId, EnqueueValues.row]
  le := Nat.zero_le m
  lt _ := hm
  first := by
    refine List.countP_eq_zero.mpr fun event hevent => ?_
    have hne := hknown event hevent
    cases event <;> simp_all [OutboxEvent.isFirstClaim, OutboxEvent.rowId, EnqueueValues.row]
  owner htoken := absurd rfl htoken
  unfinalized htoken := absurd rfl htoken
  closed hstate := by cases hstate

lemma enqueue_ok {s : Outbox} (hm : 0 < m) (h : OutboxOk m s) {values : EnqueueValues}
    {id : String} {now : Timestamp} {rows' : List OutboxRow}
    (hinserted : insertOutbox values id now s.rows = some (row, rows')) :
    OutboxOk m { s with rows := rows' } := by
  have hworkers : Carried s.log s.rows rows' →
      ∀ w worker, s.workers w = some worker → WorkerOk m rows' s.log w worker := by
    intro hcarried w worker hworker
    rw [← List.append_nil s.log]
    exact (h.workers w worker hworker).mono hcarried fun entry _ => by simp [calledTokens]
  rcases insertOutbox_eq_some hinserted with ⟨existing, -, -, -, rfl⟩ | ⟨hkey, hid, -, rfl⟩
  · have hids : (updateWhere (fun row => decide (row.dedupeKey = values.dedupeKey))
        (OutboxRow.touched now) s.rows).map (·.id) = s.rows.map (·.id) :=
      map_updateWhere _ fun _ => rfl
    have hkeys : (updateWhere (fun row => decide (row.dedupeKey = values.dedupeKey))
        (OutboxRow.touched now) s.rows).map (·.dedupeKey) = s.rows.map (·.dedupeKey) :=
      map_updateWhere _ fun _ => rfl
    refine ⟨?_, ?_, ?_, ?_, h.log, hworkers ?_⟩
    · rw [hids]
      exact h.ids
    · rw [hkeys]
      exact h.keys
    · rw [hids]
      exact h.known
    · intro row hrow
      rcases mem_updateWhere.mp hrow with ⟨hold, -⟩ | ⟨old, hold, -, rfl⟩
      · exact h.rows row hold
      · exact (h.rows old hold).touched now
    · intro row hrow
      by_cases hcond : row.dedupeKey = values.dedupeKey
      · exact ⟨row.touched now, mem_updateWhere.mpr (.inr ⟨row, hrow, decide_eq_true hcond, rfl⟩),
          rfl, rfl, fun _ _ _ htoken => ⟨htoken, rfl⟩⟩
      · exact ⟨row, mem_updateWhere.mpr (.inl ⟨hrow, decide_eq_false hcond⟩), rfl, rfl,
          fun _ _ _ htoken => ⟨htoken, rfl⟩⟩
  · refine ⟨?_, ?_, ?_, ?_, h.log, hworkers ?_⟩
    · rw [List.map_append, List.nodup_append]
      refine ⟨h.ids, List.nodup_singleton _, ?_⟩
      intro a ha b hb heq
      have hnew : b = id := List.mem_singleton.mp hb
      rw [heq, hnew] at ha
      exact hid ha
    · rw [List.map_append, List.nodup_append]
      refine ⟨h.keys, List.nodup_singleton _, ?_⟩
      intro a ha b hb heq
      obtain ⟨old, hold, rfl⟩ := List.mem_map.mp ha
      rw [List.mem_singleton.mp hb] at heq
      exact hkey old hold heq
    · intro event hevent
      rw [List.map_append]
      exact List.mem_append_left _ (h.known event hevent)
    · intro row hrow
      rcases List.mem_append.mp hrow with hold | hnew
      · exact h.rows row hold
      · rw [List.mem_singleton.mp hnew]
        refine RowOk.of_insert hm values now fun event hevent heq => ?_
        exact hid (heq ▸ h.known event hevent)
    · intro row hrow
      exact ⟨row, List.mem_append_left _ hrow, rfl, rfl, fun _ _ _ htoken => ⟨htoken, rfl⟩⟩

/-! ### Claim -/

section Claim

variable {s : Outbox} {input : ProcessIssueCloseOutboxInput} {bounds : OutboxBounds}
  {env : ClaimEnv} {entries : List OutboxRow}

/-- With a common cap no row is ever exhausted. -/
lemma sweep_eq (h : OutboxOk m s) (hcap : bounds.maxAttempts = m) :
    sweep input bounds env s.rows = s.rows := by
  refine updateWhere_of_forall fun row hrow => ?_
  rw [exhausted, decide_eq_false_iff_not]
  rintro ⟨-, hlive, hmax⟩
  have hlt := (h.rows row hrow).lt hlive
  omega

/-- A claimed row was claimable. -/
lemma claimable_of_claims (hids : (rows.map (·.id)).Nodup) (hrow : row ∈ rows)
    (h : claims input bounds env rows row = true) : claimable input bounds env row = true := by
  obtain ⟨row', hrow', hid⟩ := List.mem_map.mp (of_decide_eq_true h)
  have hsorted := (List.mem_filter.mp (List.mem_of_mem_take hrow')).1
  obtain ⟨hmem, hclaimable⟩ := List.mem_filter.mp ((List.mem_insertionSort _).mp hsorted)
  rwa [← eq_of_unique hids hmem hrow hid]

/-- What a row must be like to be claimed. -/
lemma claimable_spec (h : claimable input bounds env row = true) :
    row.attempts < bounds.maxAttempts ∧ row.state.live = true := by
  obtain ⟨-, hattempts, hstate⟩ := of_decide_eq_true h
  refine ⟨hattempts, ?_⟩
  rcases hstate with ⟨hstate, -⟩ | ⟨hstate, -⟩
  · revert hstate
    cases row.state <;> decide
  · rw [hstate]
    rfl

/-- The ids of the claimed entries are distinct. -/
lemma claimed_ids_nodup (hids : (rows.map (·.id)).Nodup) (cond : OutboxRow → Bool) :
    ((returning cond (OutboxRow.claimed env) rows).map (·.id)).Nodup := by
  rw [returning, List.map_map]
  exact hids.sublist (List.filter_sublist.map _)

lemma finalizations_claimEvents (w : ℕ) (id : String) :
    finalizations id (entries.map (claimEvent rows w)) = 0 := by
  refine List.countP_eq_zero.mpr fun event hevent => ?_
  obtain ⟨entry, -, rfl⟩ := List.mem_map.mp hevent
  exact Bool.false_ne_true

lemma calledTokens_claimEvents (w : ℕ) :
    calledTokens (entries.map (claimEvent rows w)) = [] := by
  refine List.filterMap_eq_nil_iff.mpr fun event hevent => ?_
  obtain ⟨entry, -, rfl⟩ := List.mem_map.mp hevent
  rfl

lemma finalizedTokens_claimEvents (w : ℕ) :
    finalizedTokens (entries.map (claimEvent rows w)) = [] := by
  refine List.filterMap_eq_nil_iff.mpr fun event hevent => ?_
  obtain ⟨entry, -, rfl⟩ := List.mem_map.mp hevent
  rfl

lemma claimTokens_claimEvents (w : ℕ) :
    claimTokens (entries.map (claimEvent rows w)) = entries.map (·.claimToken) := by
  rw [claimTokens, List.filterMap_map, ← List.filterMap_eq_map]
  rfl

/-- Whether a claim takes the row from another worker. -/
lemma claimEvent_again (hids : (rows.map (·.id)).Nodup) (hrow : row ∈ rows)
    (hid : entry.id = row.id) :
    (rows.any fun other => other.id = entry.id ∧ other.state = .processing) =
      decide (row.state = .processing) := by
  by_cases hstate : row.state = .processing
  · rw [decide_eq_true hstate, List.any_eq_true]
    exact ⟨row, hrow, decide_eq_true ⟨hid.symm, hstate⟩⟩
  · rw [decide_eq_false hstate, List.any_eq_false]
    intro other hother hboth
    obtain ⟨hsame, hprocessing⟩ := of_decide_eq_true hboth
    rw [eq_of_unique hids hother hrow (hsame.trans hid)] at hprocessing
    exact hstate hprocessing

/-- A claim of the row counts once, unless it takes the row from another worker. -/
lemma firstClaims_claimEvents (w : ℕ) (hids : (rows.map (·.id)).Nodup) (hrow : row ∈ rows)
    (hentries : (entries.map (·.id)).Nodup) (hmem : row.id ∈ entries.map (·.id)) :
    firstClaims row.id (entries.map (claimEvent rows w)) =
      if row.state = .processing then 0 else 1 := by
  have hevent : ∀ entry ∈ entries,
      (OutboxEvent.isFirstClaim row.id ∘ claimEvent rows w) entry =
        decide (entry.id = row.id ∧ ¬row.state = .processing) := by
    intro entry _
    show decide (entry.id = row.id ∧ (rows.any _) = false) = _
    by_cases hid : entry.id = row.id
    · rw [claimEvent_again hids hrow hid]
      simp [hid]
    · simp [hid]
  rw [firstClaims, List.countP_map, List.countP_congr fun entry hentry => by
    rw [hevent entry hentry]]
  by_cases hstate : row.state = .processing
  · rw [if_pos hstate]
    exact List.countP_eq_zero.mpr fun entry _ => by simp [hstate]
  · rw [if_neg hstate]
    calc entries.countP (fun entry => decide (entry.id = row.id ∧ ¬row.state = .processing))
        = entries.countP (fun entry => entry.id == row.id) :=
          List.countP_congr fun entry _ => by simp [hstate]
      _ = (entries.map (·.id)).count row.id := by
          rw [List.count, List.countP_map]
          rfl
      _ = 1 := List.count_eq_one_of_mem hentries hmem

lemma firstClaims_claimEvents_of_notMem (w : ℕ) {id : String} (hmem : id ∉ entries.map (·.id)) :
    firstClaims id (entries.map (claimEvent rows w)) = 0 := by
  refine List.countP_eq_zero.mpr fun event hevent => ?_
  obtain ⟨entry, hentry, rfl⟩ := List.mem_map.mp hevent
  intro hfirst
  obtain ⟨hid, -⟩ := of_decide_eq_true hfirst
  exact hmem (List.mem_map.mpr ⟨entry, hentry, hid⟩)

/-- A claimed row. -/
lemma RowOk.claimed (h : RowOk m log row) (hlt : row.attempts < m) (w : ℕ)
    (hids : (rows.map (·.id)).Nodup) (hrow : row ∈ rows)
    (hentries : (entries.map (·.id)).Nodup) (hmem : row.claimed env ∈ entries)
    (hlog : LogOk log) (hunused : (row.claimed env).claimToken ∉ claimTokens log) :
    RowOk m (log ++ entries.map (claimEvent rows w)) (row.claimed env) where
  processing := by simp [OutboxRow.claimed]
  claimedAt := by simp [OutboxRow.claimed]
  attempts := by
    rw [finalizations_append, finalizations_claimEvents, add_zero]
    exact h.attempts
  le := h.le
  lt _ := hlt
  first := by
    have hnew := firstClaims_claimEvents w hids hrow hentries
      (List.mem_map.mpr ⟨_, hmem, rfl⟩)
    show firstClaims row.id (log ++ entries.map (claimEvent rows w)) = row.attempts + 1
    rw [firstClaims_append, h.first, hnew]
    split_ifs <;> rfl
  owner _ := by
    refine ⟨w, _, List.mem_append_right _ (List.mem_map.mpr ⟨_, hmem, rfl⟩)⟩
  unfinalized _ := by
    rw [finalizedTokens_append, finalizedTokens_claimEvents, List.append_nil]
    intro hfinal
    obtain ⟨w', id, state, hfinal⟩ := mem_finalizedTokens.mp hfinal
    obtain ⟨again, hclaim⟩ := hlog.finalized hfinal
    exact hunused (mem_claimTokens.mpr ⟨_, _, _, hclaim⟩)
  closed hstate := by cases hstate

/-- The claim keeps the invariant. -/
lemma claim_ok (h : OutboxOk m s) (hcap : bounds.maxAttempts = m) (w : ℕ)
    (hreturned : entries.Perm (claimTransaction input bounds env s.rows).1)
    (hfresh : FreshTokens s.log entries) :
    OutboxOk m ⟨(claimTransaction input bounds env s.rows).2,
      Function.update s.workers w (some ⟨input, bounds, entries, none⟩),
      s.log ++ entries.map (claimEvent s.rows w)⟩ := by
  rw [claimTransaction, sweep_eq h hcap] at hreturned ⊢
  dsimp only at hreturned ⊢
  have hmem : ∀ entry, entry ∈ entries ↔ ∃ row ∈ s.rows,
      claims input bounds env s.rows row = true ∧ entry = row.claimed env :=
    fun entry => hreturned.mem_iff.trans mem_returning
  have hentryIds : (entries.map (·.id)).Nodup :=
    ((hreturned.map _).nodup_iff).mpr (claimed_ids_nodup h.ids _)
  have hids : (updateWhere (claims input bounds env s.rows) (OutboxRow.claimed env) s.rows).map
      (·.id) = s.rows.map (·.id) := map_updateWhere _ fun _ => rfl
  have hkeys : (updateWhere (claims input bounds env s.rows) (OutboxRow.claimed env) s.rows).map
      (·.dedupeKey) = s.rows.map (·.dedupeKey) := map_updateWhere _ fun _ => rfl
  have hcarried : Carried s.log s.rows
      (updateWhere (claims input bounds env s.rows) (OutboxRow.claimed env) s.rows) := by
    intro row hrow
    by_cases hclaims : claims input bounds env s.rows row = true
    · refine ⟨row.claimed env, mem_updateWhere.mpr (.inr ⟨row, hrow, hclaims, rfl⟩), rfl, rfl,
        fun token htoken _ heq => ?_⟩
      have hunused := hfresh.unused _ ((hmem _).mpr ⟨row, hrow, hclaims, rfl⟩)
      rw [heq] at hunused
      exact absurd htoken hunused
    · exact ⟨row, mem_updateWhere.mpr (.inl ⟨hrow, Bool.not_eq_true _ ▸ hclaims⟩), rfl, rfl,
        fun _ _ _ htoken => ⟨htoken, rfl⟩⟩
  refine ⟨?_, ?_, ?_, ?_, ?_, ?_⟩
  · rw [hids]
    exact h.ids
  · rw [hkeys]
    exact h.keys
  · intro event hevent
    rw [hids]
    rcases List.mem_append.mp hevent with hevent | hevent
    · exact h.known event hevent
    · obtain ⟨entry, hentry, rfl⟩ := List.mem_map.mp hevent
      obtain ⟨row, hrow, -, rfl⟩ := (hmem entry).mp hentry
      exact List.mem_map.mpr ⟨row, hrow, rfl⟩
  · intro row hrow
    rcases mem_updateWhere.mp hrow with ⟨hold, hclaims⟩ | ⟨old, hold, hclaims, rfl⟩
    · -- a row the claim leaves alone
      have hnot : row.id ∉ entries.map (·.id) := by
        intro hid
        obtain ⟨entry, hentry, hentryId⟩ := List.mem_map.mp hid
        obtain ⟨other, hother, hotherClaims, rfl⟩ := (hmem entry).mp hentry
        rw [eq_of_unique h.ids hother hold hentryId, hclaims] at hotherClaims
        exact Bool.false_ne_true hotherClaims
      refine (h.rows row hold).append (finalizations_claimEvents w row.id)
        (firstClaims_claimEvents_of_notMem w hnot) fun _ => ?_
      rw [finalizedTokens_claimEvents]
      exact List.not_mem_nil
    · have hentry : old.claimed env ∈ entries := (hmem _).mpr ⟨old, hold, hclaims, rfl⟩
      have hspec := claimable_spec (claimable_of_claims h.ids hold hclaims)
      exact (h.rows old hold).claimed (hcap ▸ hspec.1) w h.ids hold hentryIds hentry h.log
        (hfresh.unused _ hentry)
  · refine ⟨?_, ?_, ?_, ?_, ?_⟩
    · rw [claimTokens_append, claimTokens_claimEvents]
      refine h.log.claims.append hfresh.nodup fun token hold hnew => ?_
      obtain ⟨entry, hentry, rfl⟩ := List.mem_map.mp hnew
      exact hfresh.unused entry hentry hold
    · rw [calledTokens_append, calledTokens_claimEvents, List.append_nil]
      exact h.log.calls
    · rw [finalizedTokens_append, finalizedTokens_claimEvents, List.append_nil]
      exact h.log.finals
    · intro w' id token ref ok hcalled
      rcases List.mem_append.mp hcalled with hold | hnew
      · obtain ⟨again, hclaim⟩ := h.log.called hold
        exact ⟨again, List.mem_append_left _ hclaim⟩
      · obtain ⟨entry, -, heq⟩ := List.mem_map.mp hnew
        cases heq
    · intro w' id token state hfinalized
      rcases List.mem_append.mp hfinalized with hold | hnew
      · obtain ⟨again, hclaim⟩ := h.log.finalized hold
        exact ⟨again, List.mem_append_left _ hclaim⟩
      · obtain ⟨entry, -, heq⟩ := List.mem_map.mp hnew
        cases heq
  · intro w' worker hworker
    rcases updated_worker hworker with ⟨rfl, heq⟩ | ⟨-, hworker⟩
    · cases heq
      refine ⟨hcap, ?_, hfresh.nodup, ?_, by simp⟩
      · intro entry hentry
        obtain ⟨row, hrow, hclaims, rfl⟩ := (hmem entry).mp hentry
        refine ⟨Option.some_ne_none _, ⟨_, List.mem_append_right _
          (List.mem_map.mpr ⟨_, hentry, rfl⟩)⟩, row.claimed env,
          mem_updateWhere.mpr (.inr ⟨row, hrow, hclaims, rfl⟩), rfl, rfl, fun _ => rfl⟩
      · intro entry hentry
        rw [calledTokens_append, calledTokens_claimEvents, List.append_nil]
        intro hcalled
        obtain ⟨w', id, ref, ok, hcalled⟩ := mem_calledTokens.mp hcalled
        obtain ⟨again, hclaim⟩ := h.log.called hcalled
        exact hfresh.unused entry hentry (mem_claimTokens.mpr ⟨_, _, _, hclaim⟩)
    · refine (h.workers w' worker hworker).mono hcarried fun entry _ => ?_
      rw [calledTokens_claimEvents]
      exact List.not_mem_nil

end Claim

/-! ### Call -/

section Call

variable {s : Outbox} {input : ProcessIssueCloseOutboxInput} {bounds : OutboxBounds} {w : ℕ}
  {rest : List OutboxRow} {result : CloseResult}

/-- A call of `closeIssue` keeps the invariant. -/
lemma close_ok (h : OutboxOk m s)
    (hrunning : s.workers w = some ⟨input, bounds, entry :: rest, none⟩) :
    OutboxOk m { s with
      workers := Function.update s.workers w (some ⟨input, bounds, rest, some (entry, result)⟩)
      log := s.log ++ [.called w entry.id entry.claimToken entry.ref result.isOk] } := by
  have hworker := h.workers w _ hrunning
  have hheld := hworker.held entry List.mem_cons_self
  have huncalled := hworker.uncalled entry List.mem_cons_self
  obtain ⟨again, hclaim⟩ := hheld.claimed
  refine ⟨h.ids, h.keys, ?_, ?_, ?_, ?_⟩
  · intro event hevent
    rcases List.mem_append.mp hevent with hold | hnew
    · exact h.known event hold
    · rw [List.mem_singleton.mp hnew]
      obtain ⟨row, hrow, hid, -⟩ := hheld.row
      exact List.mem_map.mpr ⟨row, hrow, hid⟩
  · intro row hrow
    exact (h.rows row hrow).append rfl rfl fun _ => List.not_mem_nil
  · refine h.log.append rfl ?_ ?_ ?_ ?_
    · refine h.log.calls.append (List.nodup_singleton _) fun token hold hnew => ?_
      rw [List.mem_singleton.mp hnew] at hold
      exact huncalled hold
    · exact (List.append_nil _).symm ▸ h.log.finals
    · intro w' id token ref ok hevent
      cases List.mem_singleton.mp hevent
      exact ⟨again, hclaim⟩
    · intro w' id token state hevent
      cases List.mem_singleton.mp hevent
  · intro w' worker hupdated
    rcases updated_worker hupdated with ⟨rfl, heq⟩ | ⟨hne, hother⟩
    · cases heq
      have hnodup := List.nodup_cons.mp hworker.nodup
      refine ⟨hworker.cap, ?_, hnodup.2, ?_, ?_⟩
      · intro entry' hentry'
        exact (hworker.held entry' (List.mem_cons_of_mem _ hentry')).mono (.refl _ _)
      · intro entry' hentry'
        rw [calledTokens_append, List.mem_append, not_or]
        refine ⟨hworker.uncalled entry' (List.mem_cons_of_mem _ hentry'), fun hnew => ?_⟩
        exact hnodup.1 (List.mem_map.mpr ⟨entry', hentry', List.mem_singleton.mp hnew⟩)
      · intro entry' result' hanswered
        cases hanswered
        exact ⟨hheld.mono (.refl _ _), List.mem_append_right _ List.mem_cons_self⟩
    · have hworker' := h.workers w' worker hother
      refine hworker'.mono (.refl _ _) fun entry' hentry' hnew => hne ?_
      -- two entries under one token belong to one worker
      obtain ⟨again', hclaim'⟩ := (hworker'.held entry' hentry').claimed
      rw [List.mem_singleton.mp hnew] at hclaim'
      exact (claimed_unique h.log.claims hclaim' hclaim).1

end Call

/-! ### Finalization -/

section Finalization

variable {s : Outbox} {input : ProcessIssueCloseOutboxInput} {bounds : OutboxBounds} {w : ℕ}
  {rest : List OutboxRow} {result : CloseResult} {now : Timestamp}

lemma holds_spec (h : holds input entry row = true) :
    row.id = entry.id ∧ row.claimToken = entry.claimToken ∧ row.claimToken ≠ none := by
  obtain ⟨-, hid, -, hsome, htoken⟩ := of_decide_eq_true h
  exact ⟨hid, htoken, Option.isSome_iff_ne_none.mp hsome⟩

/-- A saved state is no claim. -/
lemma savedState_ne_processing (bounds : OutboxBounds) (entry : OutboxRow)
    (result : CloseResult) : savedState bounds entry result ≠ .processing := by
  cases result with
  | ok => exact OutboxState.noConfusion
  | error =>
      unfold savedState
      split_ifs <;> exact OutboxState.noConfusion

lemma savedState_live (h : (savedState bounds entry result).live = true) :
    entry.attempts + 1 < bounds.maxAttempts := by
  cases result with
  | ok => cases h
  | error =>
      unfold savedState at h
      split_ifs at h with hmax
      · cases h
      · omega

lemma savedState_closed (h : savedState bounds entry result = .closed) : result.isOk = true := by
  cases result with
  | ok => rfl
  | error =>
      unfold savedState at h
      split_ifs at h

/-- A finalized row. -/
lemma RowOk.finalized (h : RowOk m log row) (hcap : bounds.maxAttempts = m)
    (hholds : holds input entry row = true) (hattempts : row.attempts = entry.attempts)
    (href : row.ref = entry.ref)
    (hcalled : .called w entry.id entry.claimToken entry.ref result.isOk ∈ log) :
    RowOk m (log ++ [.finalized w entry.id entry.claimToken (savedState bounds entry result)])
      (OutboxRow.finalized bounds entry result now row) := by
  obtain ⟨hid, -, htoken⟩ := holds_spec hholds
  have hstate := h.processing.mpr htoken
  have hlt : row.attempts < m := h.lt (by rw [hstate]; rfl)
  have hnot := savedState_ne_processing bounds entry result
  refine ⟨?_, ?_, ?_, hlt, ?_, ?_, ?_, ?_, ?_⟩
  · exact ⟨fun hsaved => absurd hsaved hnot, fun hnone => absurd rfl hnone⟩
  · exact ⟨fun hnone => absurd rfl hnone, fun hnone => absurd rfl hnone⟩
  · show row.attempts + 1 = finalizations row.id _
    rw [finalizations_append, ← h.attempts, finalizations, hid, List.countP_singleton]
    simp [OutboxEvent.isFinalization]
  · intro hlive
    have hless := savedState_live hlive
    show row.attempts + 1 < m
    omega
  · show firstClaims row.id _ = row.attempts + 1 + if savedState bounds entry result = _ then 1 else 0
    rw [firstClaims_append, h.first, if_pos hstate, if_neg hnot]
    rfl
  · exact fun hnone => absurd rfl hnone
  · exact fun hnone => absurd rfl hnone
  · intro hclosed
    have hok := savedState_closed hclosed
    refine ⟨w, entry.claimToken, ?_, ?_⟩
    · show OutboxEvent.finalized w row.id entry.claimToken .closed ∈ _
      rw [← (show savedState bounds entry result = .closed from hclosed), hid]
      exact List.mem_append_right _ List.mem_cons_self
    · show OutboxEvent.called w row.id entry.claimToken row.ref true ∈ _
      rw [hid, href, ← hok]
      exact List.mem_append_left _ hcalled

/-- A finalization that finds its row. -/
lemma finalize_found (h : OutboxOk m s) (result : CloseResult) (now : Timestamp)
    (hrow : row ∈ s.rows) (hholds : holds input entry row = true) :
    (finalizeTransaction input bounds entry result now s.rows).1 =
        some (OutboxRow.finalized bounds entry result now row) ∧
      ∀ row' ∈ s.rows, holds input entry row' = true → row' = row := by
  have hunique : ∀ row' ∈ s.rows, holds input entry row' = true → row' = row := by
    intro row' hrow' hholds'
    refine eq_of_unique h.ids hrow' hrow ?_
    exact (holds_spec hholds').1.trans (holds_spec hholds).1.symm
  refine ⟨?_, hunique⟩
  obtain ⟨first, tail, hfilter⟩ := List.exists_cons_of_ne_nil
    (List.ne_nil_of_mem (List.mem_filter.mpr ⟨hrow, hholds⟩))
  have hfirst : first ∈ s.rows ∧ holds input entry first = true := by
    rw [← List.mem_filter, hfilter]
    exact List.mem_cons_self
  rw [finalizeTransaction, returning, hfilter, hunique first hfirst.1 hfirst.2]
  rfl

/-- A finalization that finds no row changes nothing. -/
lemma finalize_missed (hnone : ∀ row ∈ rows, holds input entry row = false) :
    finalizeTransaction input bounds entry result now rows = (none, rows) := by
  rw [finalizeTransaction, updateWhere_of_forall hnone, returning,
    List.filter_eq_nil_iff.mpr fun row hrow => by rw [hnone row hrow]; exact Bool.false_ne_true]
  rfl

/-- The workers after a finalization. -/
lemma finalized_workers (h : OutboxOk m s) {rows' : List OutboxRow}
    {answered : Option (OutboxRow × CloseResult)}
    (hrunning : s.workers w = some ⟨input, bounds, rest, answered⟩)
    (hcarried : Carried s.log s.rows rows') (hnew : calledTokens new = []) :
    ∀ w' worker, Function.update s.workers w (some ⟨input, bounds, rest, none⟩) w' = some worker →
      WorkerOk m rows' (s.log ++ new) w' worker := by
  intro w' worker hupdated
  rcases updated_worker hupdated with ⟨rfl, heq⟩ | ⟨-, hother⟩
  · cases heq
    have hworker := (h.workers w' _ hrunning).mono hcarried fun entry _ => by
      rw [hnew]
      exact List.not_mem_nil
    exact ⟨hworker.cap, hworker.held, hworker.nodup, hworker.uncalled, by simp⟩
  · refine (h.workers w' worker hother).mono hcarried fun entry _ => ?_
    rw [hnew]
    exact List.not_mem_nil

/-- The rows a finalization leaves alone. -/
lemma RowOk.not_finalized (h : OutboxOk m s) (hrow : row ∈ s.rows) (hne : row.id ≠ entry.id)
    (hheld : Held s.rows s.log w entry) (state : OutboxState) :
    RowOk m (s.log ++ [.finalized w entry.id entry.claimToken state]) row := by
  have hok := h.rows row hrow
  refine hok.append ?_ rfl fun htoken hmem => ?_
  · rw [finalizations, List.countP_singleton]
    simp [OutboxEvent.isFinalization, Ne.symm hne]
  · -- one token, one claim, one row
    obtain ⟨w', again', hclaim'⟩ := hok.owner htoken
    obtain ⟨again, hclaim⟩ := hheld.claimed
    rw [List.mem_singleton.mp hmem] at hclaim'
    exact hne (claimed_unique h.log.claims hclaim' hclaim).2

/-- A finalization keeps the invariant. -/
lemma finalize_ok (h : OutboxOk m s)
    (hrunning : s.workers w = some ⟨input, bounds, rest, some (entry, result)⟩) :
    OutboxOk m ⟨(finalizeTransaction input bounds entry result now s.rows).2,
      Function.update s.workers w (some ⟨input, bounds, rest, none⟩),
      s.log ++ finalizeEvents w entry
        (finalizeTransaction input bounds entry result now s.rows).1⟩ := by
  have hworker := h.workers w _ hrunning
  obtain ⟨hheld, hcalled⟩ := hworker.answered entry result rfl
  obtain ⟨again, hclaim⟩ := hheld.claimed
  by_cases hfound : ∃ row ∈ s.rows, holds input entry row = true
  · obtain ⟨row, hrow, hholds⟩ := hfound
    obtain ⟨hid, htoken, hsome⟩ := holds_spec hholds
    obtain ⟨hsaved, hunique⟩ := finalize_found h result now hrow hholds
    have hsame : row.attempts = entry.attempts ∧ row.ref = entry.ref := by
      obtain ⟨row', hrow', hid', href', hattempts⟩ := hheld.row
      rw [eq_of_unique h.ids hrow' hrow (hid'.trans hid.symm)] at href' hattempts
      exact ⟨hattempts htoken, href'⟩
    have hids : (updateWhere (holds input entry) (OutboxRow.finalized bounds entry result now)
        s.rows).map (·.id) = s.rows.map (·.id) := map_updateWhere _ fun _ => rfl
    have hkeys : (updateWhere (holds input entry) (OutboxRow.finalized bounds entry result now)
        s.rows).map (·.dedupeKey) = s.rows.map (·.dedupeKey) := map_updateWhere _ fun _ => rfl
    rw [hsaved]
    refine ⟨?_, ?_, ?_, ?_, ?_, finalized_workers h hrunning ?_ rfl⟩
    · exact hids ▸ h.ids
    · exact hkeys ▸ h.keys
    · intro event hevent
      refine hids ▸ ?_
      rcases List.mem_append.mp hevent with hold | hnew
      · exact h.known event hold
      · rw [List.mem_singleton.mp hnew]
        exact List.mem_map.mpr ⟨row, hrow, hid⟩
    · intro row' hrow'
      rcases mem_updateWhere.mp hrow' with ⟨hold, hnot⟩ | ⟨old, hold, hheldRow, rfl⟩
      · refine RowOk.not_finalized h hold (fun hid' => ?_) hheld _
        rw [eq_of_unique h.ids hold hrow (hid'.trans hid.symm), hholds] at hnot
        cases hnot
      · rw [hunique old hold hheldRow]
        exact (h.rows row hrow).finalized hworker.cap hholds hsame.1 hsame.2 hcalled
    · refine h.log.append rfl ?_ ?_ ?_ ?_
      · exact (List.append_nil _).symm ▸ h.log.calls
      · refine h.log.finals.append (List.nodup_singleton _) fun token hold hnew => ?_
        rw [List.mem_singleton.mp hnew, ← htoken] at hold
        exact (h.rows row hrow).unfinalized hsome hold
      · intro w' id token ref ok hevent
        cases List.mem_singleton.mp hevent
      · intro w' id token state hevent
        cases List.mem_singleton.mp hevent
        exact ⟨again, hclaim⟩
    · intro row' hrow'
      by_cases hholds' : holds input entry row' = true
      · exact ⟨_, mem_updateWhere.mpr (.inr ⟨row', hrow', hholds', rfl⟩), rfl, rfl,
          fun token _ hne heq => absurd heq.symm hne⟩
      · exact ⟨row', mem_updateWhere.mpr (.inl ⟨hrow', Bool.not_eq_true _ ▸ hholds'⟩), rfl, rfl,
          fun _ _ _ heq => ⟨heq, rfl⟩⟩
  · have hnone : ∀ row ∈ s.rows, holds input entry row = false := fun row hrow =>
      Bool.not_eq_true _ ▸ fun hholds => hfound ⟨row, hrow, hholds⟩
    rw [finalize_missed hnone]
    dsimp only [finalizeEvents]
    have hworkers := finalized_workers h hrunning (.refl s.log s.rows) (rfl : calledTokens [] = [])
    rw [List.append_nil] at hworkers ⊢
    exact ⟨h.ids, h.keys, h.known, h.rows, h.log, hworkers⟩

end Finalization

/-! ### Runs -/

/-- A worker that is gone. -/
lemma gone_ok {s : Outbox} (h : OutboxOk m s) (w : ℕ) :
    OutboxOk m { s with workers := Function.update s.workers w none } := by
  refine ⟨h.ids, h.keys, h.known, h.rows, h.log, fun w' worker hupdated => ?_⟩
  rcases updated_worker hupdated with ⟨-, heq⟩ | ⟨-, hother⟩
  · cases heq
  · exact h.workers w' worker hother

theorem step_ok {s s' : Outbox} (hm : 0 < m) (h : OutboxOk m s) (hstep : OutboxStep m s s') :
    OutboxOk m s' := by
  cases hstep with
  | enqueue values id now inserted => exact enqueue_ok hm h inserted
  | claim worker input bounds env entries idle valid cap returned fresh =>
      exact claim_ok h cap worker returned fresh
  | close worker input bounds entry rest result running => exact close_ok h running
  | finalize worker input bounds entry rest result now running => exact finalize_ok h running
  | gone worker => exact gone_ok h worker

theorem reachable_ok {s : Outbox} (hm : 0 < m) (h : OutboxReachable m s) : OutboxOk m s := by
  induction h with
  | refl => exact .empty m
  | tail _ hstep ih => exact step_ok hm ih hstep

/-- What one step does to the rows and the log: who finalizes, what is absorbing, and how
a row becomes closed. -/
structure StepEffect (s s' : Outbox) (new : List OutboxEvent) : Prop where
  log : s'.log = s.log ++ new
  holder : ∀ w id token state, .finalized w id token state ∈ new → token ≠ none ∧
    (∃ row ∈ s.rows, row.id = id ∧ row.claimToken = token) ∧
      ∃ again, .claimed w id token again ∈ s.log
  absorbing : ∀ row ∈ s.rows, row.state.live = false →
    ∃ row' ∈ s'.rows, row'.id = row.id ∧ row'.state = row.state
  closes : ∀ row' ∈ s'.rows, row'.state = .closed →
    (∃ row ∈ s.rows, row.id = row'.id ∧ row.state = .closed) ∨
      ∃ w token, .finalized w row'.id token .closed ∈ new ∧
        .called w row'.id token row'.ref true ∈ s.log

/-- A step that leaves the rows alone and finalizes nothing. -/
lemma StepEffect.of_rows_eq {s s' : Outbox} (hlog : s'.log = s.log ++ new)
    (hrows : s'.rows = s.rows)
    (hfinal : ∀ w id token state, .finalized w id token state ∉ new) : StepEffect s s' new where
  log := hlog
  holder w id token state hevent := absurd hevent (hfinal w id token state)
  absorbing row hrow _ := ⟨row, hrows ▸ hrow, rfl, rfl⟩
  closes row hrow hstate := .inl ⟨row, hrows ▸ hrow, rfl, hstate⟩

lemma enqueue_effect {s : Outbox} {values : EnqueueValues} {id : String} {now : Timestamp}
    {rows' : List OutboxRow} (hinserted : insertOutbox values id now s.rows = some (row, rows')) :
    StepEffect s { s with rows := rows' } [] := by
  refine ⟨(List.append_nil _).symm, by simp, ?_, ?_⟩
  · intro old hold _
    rcases insertOutbox_eq_some hinserted with ⟨-, -, -, -, rfl⟩ | ⟨-, -, -, rfl⟩
    · by_cases hkey : old.dedupeKey = values.dedupeKey
      · exact ⟨old.touched now,
          mem_updateWhere.mpr (.inr ⟨old, hold, decide_eq_true hkey, rfl⟩), rfl, rfl⟩
      · exact ⟨old, mem_updateWhere.mpr (.inl ⟨hold, decide_eq_false hkey⟩), rfl, rfl⟩
    · exact ⟨old, List.mem_append_left _ hold, rfl, rfl⟩
  · intro row' hrow' hstate
    rcases insertOutbox_eq_some hinserted with ⟨-, -, -, -, rfl⟩ | ⟨-, -, -, rfl⟩
    · rcases mem_updateWhere.mp hrow' with ⟨hold, -⟩ | ⟨old, hold, -, rfl⟩
      · exact .inl ⟨row', hold, rfl, hstate⟩
      · exact .inl ⟨old, hold, rfl, hstate⟩
    · rcases List.mem_append.mp hrow' with hold | hnew
      · exact .inl ⟨row', hold, rfl, hstate⟩
      · rw [List.mem_singleton.mp hnew] at hstate
        cases hstate

lemma claim_effect {s s' : Outbox} {input : ProcessIssueCloseOutboxInput} {bounds : OutboxBounds}
    {env : ClaimEnv} {entries : List OutboxRow} {w : ℕ} (h : OutboxOk m s)
    (hcap : bounds.maxAttempts = m)
    (hrows : s'.rows = (claimTransaction input bounds env s.rows).2)
    (hlog : s'.log = s.log ++ entries.map (claimEvent s.rows w)) :
    StepEffect s s' (entries.map (claimEvent s.rows w)) := by
  rw [claimTransaction, sweep_eq h hcap] at hrows
  refine ⟨hlog, ?_, ?_, ?_⟩
  · intro w' id token state hevent
    obtain ⟨entry, -, heq⟩ := List.mem_map.mp hevent
    cases heq
  · intro row hrow hdead
    refine ⟨row, hrows ▸ mem_updateWhere.mpr (.inl ⟨hrow, ?_⟩), rfl, rfl⟩
    refine Bool.eq_false_iff.mpr fun hclaims => ?_
    have hlive := (claimable_spec (claimable_of_claims h.ids hrow hclaims)).2
    rw [hdead] at hlive
    cases hlive
  · intro row' hrow' hstate
    rw [hrows] at hrow'
    rcases mem_updateWhere.mp hrow' with ⟨hold, -⟩ | ⟨old, hold, -, rfl⟩
    · exact .inl ⟨row', hold, rfl, hstate⟩
    · cases hstate

lemma finalize_effect {s s' : Outbox} {input : ProcessIssueCloseOutboxInput}
    {bounds : OutboxBounds} {rest : List OutboxRow} {result : CloseResult} {now : Timestamp}
    {w : ℕ} (h : OutboxOk m s)
    (hrunning : s.workers w = some ⟨input, bounds, rest, some (entry, result)⟩)
    (hrows : s'.rows = (finalizeTransaction input bounds entry result now s.rows).2)
    (hlog : s'.log = s.log ++ finalizeEvents w entry
      (finalizeTransaction input bounds entry result now s.rows).1) :
    StepEffect s s' (finalizeEvents w entry
      (finalizeTransaction input bounds entry result now s.rows).1) := by
  obtain ⟨hheld, hcalled⟩ := (h.workers w _ hrunning).answered entry result rfl
  by_cases hfound : ∃ row ∈ s.rows, holds input entry row = true
  · obtain ⟨row, hrow, hholds⟩ := hfound
    obtain ⟨hid, htoken, hsome⟩ := holds_spec hholds
    obtain ⟨hsaved, hunique⟩ := finalize_found h result now hrow hholds
    have href : row.ref = entry.ref := by
      obtain ⟨row', hrow', hid', href', -⟩ := hheld.row
      rwa [eq_of_unique h.ids hrow' hrow (hid'.trans hid.symm)] at href'
    rw [hsaved] at hlog ⊢
    refine ⟨hlog, ?_, ?_, ?_⟩
    · intro w' id token state hevent
      cases List.mem_singleton.mp hevent
      exact ⟨hheld.token, ⟨row, hrow, hid, htoken⟩, hheld.claimed⟩
    · intro row' hrow' hdead
      refine ⟨row', hrows ▸ mem_updateWhere.mpr (.inl ⟨hrow', ?_⟩), rfl, rfl⟩
      refine Bool.eq_false_iff.mpr fun hholds' => ?_
      rw [(h.rows row' hrow').processing.mpr (holds_spec hholds').2.2] at hdead
      cases hdead
    · intro row' hrow' hstate
      rw [hrows] at hrow'
      rcases mem_updateWhere.mp hrow' with ⟨hold, -⟩ | ⟨old, hold, hholds', rfl⟩
      · exact .inl ⟨row', hold, rfl, hstate⟩
      · rw [hunique old hold hholds'] at hstate ⊢
        refine .inr ⟨w, entry.claimToken, ?_, ?_⟩
        · show OutboxEvent.finalized w row.id entry.claimToken .closed ∈ _
          rw [hid, ← hstate]
          exact List.mem_cons_self
        · show OutboxEvent.called w row.id entry.claimToken row.ref true ∈ _
          rw [hid, href, ← savedState_closed hstate]
          exact hcalled
  · have hnone : ∀ row ∈ s.rows, holds input entry row = false := fun row hrow =>
      Bool.not_eq_true _ ▸ fun hholds => hfound ⟨row, hrow, hholds⟩
    rw [finalize_missed hnone] at hrows hlog ⊢
    exact .of_rows_eq hlog hrows (by simp [finalizeEvents])

theorem step_effect {s s' : Outbox} (h : OutboxOk m s) (hstep : OutboxStep m s s') :
    ∃ new, StepEffect s s' new := by
  cases hstep with
  | enqueue values id now inserted => exact ⟨[], enqueue_effect inserted⟩
  | claim worker input bounds env entries idle valid cap returned fresh =>
      exact ⟨_, claim_effect h cap rfl rfl⟩
  | close worker input bounds entry rest result running =>
      exact ⟨_, .of_rows_eq rfl rfl (by simp)⟩
  | finalize worker input bounds entry rest result now running =>
      exact ⟨_, finalize_effect h running rfl rfl⟩
  | gone worker => exact ⟨[], .of_rows_eq (List.append_nil _).symm rfl (by simp)⟩

/-- **The outbox protocol**, in every reachable outbox with a common cap on the attempts:
one row a key, a token exactly in state `processing`, attempts that count the
finalizations below the cap, every claim finalized at most once; and in every step only
the holder of the token finalizes, `closed` and `dead` are absorbing, and a row becomes
closed only after a call for its own issue has returned ok to the worker that finalizes
it. -/
theorem outbox_protocol {s : Outbox} (hm : 0 < m) (h : OutboxReachable m s) :
    (s.rows.map (·.dedupeKey)).Nodup ∧ (s.rows.map (·.id)).Nodup ∧
    (∀ row ∈ s.rows,
      (row.state = .processing ↔ row.claimToken ≠ none) ∧
      (row.claimToken ≠ none ↔ row.claimedAt ≠ none) ∧
      row.attempts = finalizations row.id s.log ∧ row.attempts ≤ m ∧
      (row.state.live = true → row.attempts < m)) ∧
    (finalizedTokens s.log).Nodup ∧
    ∀ s', OutboxStep m s s' → ∃ new, StepEffect s s' new := by
  have hok := reachable_ok hm h
  refine ⟨hok.keys, hok.ids, fun row hrow => ?_, hok.log.finals, fun s' hstep => ?_⟩
  · have hrowOk := hok.rows row hrow
    exact ⟨hrowOk.processing, hrowOk.claimedAt, hrowOk.attempts, hrowOk.le, hrowOk.lt⟩
  · exact step_effect hok hstep

/-! ### Calls -/

/-- A claim is a first claim or a reclaim. -/
lemma OutboxEvent.isClaim_split (id : String) (event : OutboxEvent) :
    (if event.isClaim id = true then 1 else 0) = (if event.isFirstClaim id = true then 1 else 0) +
      if event.isReclaim id = true then 1 else 0 := by
  cases event with
  | claimed w id' token again =>
      by_cases hid : id' = id <;> cases again <;>
        simp [isClaim, isFirstClaim, isReclaim, hid]
  | called => rfl
  | finalized => rfl

lemma countP_isClaim (id : String) (log : List OutboxEvent) :
    log.countP (OutboxEvent.isClaim id) = firstClaims id log + reclaims id log := by
  induction log with
  | nil => rfl
  | cons event rest ih =>
      have hsplit := event.isClaim_split id
      rw [firstClaims, reclaims] at *
      rw [List.countP_cons, List.countP_cons, List.countP_cons]
      omega

/-- Every call of `closeIssue` has a claim of its own. -/
lemma closeCalls_le_claims (h : LogOk log) (id : String) :
    closeCalls id log ≤ firstClaims id log + reclaims id log := by
  have hcalls : (calledTokens (log.filter (OutboxEvent.isCall id))).length = closeCalls id log :=
    length_filterMap_filter (fun event hevent => by cases event <;> first | rfl | cases hevent) log
  have hclaims : (claimTokens (log.filter (OutboxEvent.isClaim id))).length =
      log.countP (OutboxEvent.isClaim id) :=
    length_filterMap_filter (fun event hevent => by cases event <;> first | rfl | cases hevent) log
  have hnodup : (calledTokens (log.filter (OutboxEvent.isCall id))).Nodup :=
    h.calls.sublist (List.filter_sublist.filterMap _)
  rw [← countP_isClaim, ← hclaims, ← hcalls]
  refine (hnodup.subperm fun token htoken => ?_).length_le
  obtain ⟨w, id', ref, ok, hcalled⟩ := mem_calledTokens.mp htoken
  obtain ⟨hmem, hid⟩ := List.mem_filter.mp hcalled
  obtain ⟨again, hclaim⟩ := h.called hmem
  exact mem_claimTokens.mpr ⟨w, id', again, List.mem_filter.mpr ⟨hclaim, hid⟩⟩

/-- **Calls of `closeIssue`**: a row sees at most as many calls as attempts are allowed,
and one more for each time it was reclaimed from a worker that had held it for too
long. -/
theorem close_calls_bounded {s : Outbox} (hm : 0 < m) (h : OutboxReachable m s) :
    ∀ row ∈ s.rows, closeCalls row.id s.log ≤ m + reclaims row.id s.log := by
  intro row hrow
  have hok := reachable_ok hm h
  have hrowOk := hok.rows row hrow
  have hcalls := closeCalls_le_claims hok.log row.id
  have hfirst : firstClaims row.id s.log ≤ m := by
    rw [hrowOk.first]
    split_ifs with hstate
    · have hlt := hrowOk.lt (by rw [hstate]; rfl)
      omega
    · exact hrowOk.le
  omega

/-! ### Sample runs -/

namespace OutboxSample

def values : EnqueueValues :=
  ⟨"organization", "workspace", "task", "owner/name", 7, "https://github.com/owner/name/issues/7",
    "organization:workspace:task:owner/name#7:close"⟩

def input : ProcessIssueCloseOutboxInput :=
  ⟨"organization", "workspace", "owner/name", none, none, some 1⟩

def bounds : OutboxBounds := ⟨10, 900000, 1⟩

/-- A claim at a time, with one token. -/
def env (now : Timestamp) (token : String) : ClaimEnv := ⟨now, fun _ => token, fun _ => 0,
  fun _ => false⟩

/-- One pending row. -/
def enqueued : Outbox := { Outbox.empty with rows := [values.row "row" 0] }

/-- The worker claims what it can. -/
def claimedBy (s : Outbox) (w : ℕ) (now : Timestamp) (token : String) : Outbox :=
  ⟨(claimTransaction input bounds (env now token) s.rows).2,
    Function.update s.workers w
      (some ⟨input, bounds, (claimTransaction input bounds (env now token) s.rows).1, none⟩),
    s.log ++ (claimTransaction input bounds (env now token) s.rows).1.map (claimEvent s.rows w)⟩

/-- The worker calls `closeIssue` for the entry, which closes the issue. -/
def calledBy (s : Outbox) (w : ℕ) (entry : OutboxRow) : Outbox :=
  { s with
    workers := Function.update s.workers w (some ⟨input, bounds, [], some (entry, .ok ())⟩)
    log := s.log ++ [.called w entry.id entry.claimToken entry.ref true] }

/-- The claimed row. -/
def claimedRow (now : Timestamp) (token : String) : OutboxRow :=
  (values.row "row" 0).claimed (env now token)

/-- The first worker claims the row and calls `closeIssue`. -/
def firstCall : Outbox := calledBy (claimedBy enqueued 0 0 "first") 0 (claimedRow 0 "first")

/-- The first worker is gone before its finalization; half an hour later a second worker
claims the row and calls `closeIssue` again. -/
def secondCall : Outbox :=
  calledBy (claimedBy { firstCall with workers := Function.update firstCall.workers 0 none } 1
    1800000000 "second") 1 (claimedRow 1800000000 "second")

lemma reachable_firstCall : OutboxReachable 1 firstCall := by
  have henqueue : OutboxStep 1 Outbox.empty enqueued := .enqueue _ values "row" 0 rfl
  have hclaim : OutboxStep 1 enqueued (claimedBy enqueued 0 0 "first") :=
    .claim _ 0 input bounds (env 0 "first") _ rfl rfl rfl (.refl _)
      ⟨by decide, by decide⟩
  have hcall : OutboxStep 1 (claimedBy enqueued 0 0 "first") firstCall :=
    .close _ 0 input bounds _ _ (.ok ()) (by decide)
  exact ((Relation.ReflTransGen.single henqueue).tail hclaim).tail hcall

lemma reachable_secondCall : OutboxReachable 1 secondCall := by
  have hgone := reachable_firstCall.tail (.gone firstCall 0)
  have hclaim := hgone.tail (.claim _ 1 input bounds (env 1800000000 "second") _
    (by decide) rfl rfl (.refl _) ⟨by decide, by decide⟩)
  exact hclaim.tail (.close _ 1 input bounds _ _ (.ok ()) (by decide))

end OutboxSample

open OutboxSample

/-- The protocol at the sample run with one call: the claimed row has a token and no
attempt yet. -/
theorem outbox_protocol_firstCall :
    ∃ row ∈ firstCall.rows, row.state = .processing ∧ row.claimToken ≠ none ∧
      row.attempts = finalizations row.id firstCall.log ∧ row.attempts < 1 := by
  obtain ⟨-, -, hrows, -⟩ := outbox_protocol Nat.one_pos reachable_firstCall
  have hmem : claimedRow 0 "first" ∈ firstCall.rows := by decide
  obtain ⟨htoken, -, hattempts, -, hlt⟩ := hrows _ hmem
  exact ⟨_, hmem, rfl, htoken.mp rfl, hattempts, hlt rfl⟩

/-- With one attempt allowed and one reclaim, a row may see two calls. -/
theorem close_calls_bounded_secondCall :
    ∃ row ∈ secondCall.rows, closeCalls row.id secondCall.log ≤ 1 + reclaims row.id secondCall.log ∧
      reclaims row.id secondCall.log = 1 := by
  have hmem : claimedRow 1800000000 "second" ∈ secondCall.rows := by decide
  exact ⟨_, hmem, close_calls_bounded Nat.one_pos reachable_secondCall _ hmem, by decide⟩

/-- The cap on the attempts does not bound the calls: after a crash between the call and
the finalization the row is called again. -/
theorem not_close_calls_le_maxAttempts :
    ¬∀ m s, 0 < m → OutboxReachable m s → ∀ row ∈ s.rows, closeCalls row.id s.log ≤ m := by
  intro h
  have hmem : claimedRow 1800000000 "second" ∈ secondCall.rows := by decide
  have hle := h 1 secondCall Nat.one_pos reachable_secondCall _ hmem
  have htwo : closeCalls (claimedRow 1800000000 "second").id secondCall.log = 2 := by
    decide
  omega

end Opzava.ProjectManagement
