import Opzava.IdentityAccess.AttemptLimits

/-!
How many guesses at a password and at a second factor are compared
(`adapters/better-auth/auth-port-adapter.ts`).

* `LocksOk`, `ReadsOk`: the lock of a user is with one transaction, which has found no lockout.
* `advance_cases`: what the next step of a transaction does.
* `row_write`: what its last statement does to the counters.
* `Secret.lockout`: the counter of a user, with the comparison that is not recorded yet.
* `lockout_step`: a step changes nothing of it, or is a step of a lockout.
* `guesses_bounded`: the bound for passwords and for codes.
-/

namespace Opzava.IdentityAccess.AuthPort

open Opzava.Library

/-! ### Locks -/

/-- The lock of a user is with the transaction that holds it, and no transaction has begun before
the run. -/
structure LocksOk (start : ℕ) (s : AuthState) : Prop where
  holder : ∀ userId n, s.holder userId = some n ↔
    ∃ tx, s.txs.get n = some tx ∧ tx.point.holds = some userId
  begun : ∀ n tx, s.txs.get n = some tx → start ≤ tx.startedAt
  clock : start ≤ s.clock

section Locks

variable {start : ℕ} {s : AuthState} {n : ℕ} {tx : AuthTx} {userId : String} {point : TxPoint}
  {db : AuthDatabase}

lemma no_txs_idle (db : AuthDatabase) (start n : ℕ) (tx : AuthTx) :
    (AuthState.idle db start).txs.get n ≠ some tx := by
  intro htx
  cases htx

lemma locksOk_idle (db : AuthDatabase) (start : ℕ) : LocksOk start (.idle db start) where
  holder userId n := by
    constructor
    · intro hholder
      cases hholder
    · rintro ⟨tx, htx, -⟩
      exact absurd htx (no_txs_idle db start n tx)
  begun n tx htx := absurd htx (no_txs_idle db start n tx)
  clock := le_rfl

/-- A transaction that has the lock of one user has that of no other one. -/
lemma LocksOk.holder_ne (hs : LocksOk start s) (htx : s.txs.get n = some tx) {userId' : String}
    (hholds : tx.point.holds ≠ some userId') : s.holder userId' ≠ some n := by
  intro hholder
  obtain ⟨tx', htx', hholds'⟩ := (hs.holder userId' n).mp hholder
  obtain rfl : tx = tx' := Option.some.inj (htx.symm.trans htx')
  exact hholds hholds'

lemma LocksOk.add (hs : LocksOk start s) (kind : TxKind) :
    LocksOk start { s with txs := s.txs.add ⟨kind, s.clock, .begun⟩ } := by
  refine ⟨fun userId m => ?_, fun m tx htx => ?_, hs.clock⟩
  · dsimp only
    rw [hs.holder]
    constructor
    · rintro ⟨tx, htx, hholds⟩
      exact ⟨tx, Objects.get_add_of_some htx, hholds⟩
    · rintro ⟨tx, htx, hholds⟩
      rcases Objects.get_add_eq_some htx with ⟨-, rfl⟩ | htx
      · cases hholds
      · exact ⟨tx, htx, hholds⟩
  · rcases Objects.get_add_eq_some htx with ⟨-, rfl⟩ | htx
    · exact hs.clock
    · exact hs.begun m tx htx

/-- A transaction goes on, with the locks it has then. -/
lemma LocksOk.next {s' : AuthState} (hs : LocksOk start s) (htx : s.txs.get n = some tx)
    (htxs : s'.txs = s.txs.modify n fun tx => { tx with point := point })
    (hclock : s'.clock = s.clock)
    (hholder : ∀ userId m, s'.holder userId = some m ↔
      if m = n then point.holds = some userId else s.holder userId = some m) :
    LocksOk start s' := by
  refine ⟨fun userId m => ?_, fun m tx' htx' => ?_, hclock ▸ hs.clock⟩
  · rw [hholder, htxs]
    by_cases hm : m = n
    · subst hm
      rw [if_pos rfl, Objects.get_modify_of_some htx]
      simp
    · rw [if_neg hm, Objects.get_modify_of_ne hm]
      exact hs.holder userId m
  · rw [htxs] at htx'
    obtain ⟨old, hold, rfl⟩ := Objects.get_modify_eq_some htx'
    have hbegun := hs.begun m old hold
    split_ifs
    · exact hbegun
    · exact hbegun

/-- A transaction without a lock is over. -/
lemma LocksOk.settle (hs : LocksOk start s) (htx : s.txs.get n = some tx)
    (hnone : tx.point.holds = none) : LocksOk start (s.move n .settled) := by
  refine hs.next htx rfl rfl fun userId m => ?_
  split_ifs with hm
  · subst hm
    refine ⟨fun hholder => absurd hholder (hs.holder_ne htx ?_), nofun⟩
    rw [hnone]
    nofun
  · rfl

/-- A transaction takes a lock. -/
lemma LocksOk.hold (hs : LocksOk start s) (htx : s.txs.get n = some tx)
    (hnone : tx.point.holds = none) (hfree : s.holder userId = none)
    (hholds : point.holds = some userId) : LocksOk start (s.hold n userId point) := by
  refine hs.next htx rfl rfl fun userId' m => ?_
  have hother : s.holder userId' ≠ some n := hs.holder_ne htx (by rw [hnone]; nofun)
  change Function.update s.holder userId (some n) userId' = some m ↔ _
  rw [hholds, Function.update_apply]
  by_cases huser : userId' = userId
  · subst huser
    rw [if_pos rfl, hfree]
    by_cases hm : m = n
    · simp [hm]
    · simp [hm, Ne.symm hm]
  · rw [if_neg huser]
    by_cases hm : m = n
    · subst hm
      simp [hother, Ne.symm huser]
    · rw [if_neg hm]

/-- A transaction keeps its lock. -/
lemma LocksOk.keep {s' : AuthState} (hs : LocksOk start s) (htx : s.txs.get n = some tx)
    (hholds : tx.point.holds = some userId) (hholds' : point.holds = some userId)
    (htxs : s'.txs = (s.move n point).txs) (hclock : s'.clock = s.clock)
    (hholder : s'.holder = s.holder) : LocksOk start s' := by
  refine hs.next htx htxs hclock fun userId' m => ?_
  rw [hholder]
  split_ifs with hm
  · subst hm
    rw [hs.holder, hholds']
    constructor
    · rintro ⟨tx', htx', hholds''⟩
      obtain rfl : tx = tx' := Option.some.inj (htx.symm.trans htx')
      exact hholds.symm.trans hholds''
    · exact fun heq => ⟨tx, htx, hholds.trans heq⟩
  · rfl

/-- A transaction gives its lock back. -/
lemma LocksOk.commit (hs : LocksOk start s) (htx : s.txs.get n = some tx)
    (hholds : tx.point.holds = some userId) (db : AuthDatabase) :
    LocksOk start (s.commit n userId db) := by
  have hholder : s.holder userId = some n := (hs.holder userId n).mpr ⟨tx, htx, hholds⟩
  refine hs.next htx rfl rfl fun userId' m => ?_
  change Function.update s.holder userId none userId' = some m ↔ _
  rw [Function.update_apply]
  by_cases huser : userId' = userId
  · subst huser
    rw [if_pos rfl, hholder]
    by_cases hm : m = n
    · simp [hm, TxPoint.holds]
    · simp [hm, Ne.symm hm]
  · have hother : s.holder userId' ≠ some n :=
      hs.holder_ne htx (by rw [hholds]; exact fun heq => huser (Option.some.inj heq).symm)
    rw [if_neg huser]
    by_cases hm : m = n
    · subst hm
      simp [hother, TxPoint.holds]
    · rw [if_neg hm]

end Locks

/-! ### Steps -/

/-- What is compared, the counter of a user, and where it is in a transaction. -/
inductive Secret
  | password
  | code

namespace Secret

def row : Secret → AuthDatabase → String → Option FailureCounter
  | .password, db, userId => (db.users.get userId).map (·.passwordFailures)
  | .code, db, userId => (db.twoFactor.get userId).map (·.failures)

/-- The comparisons that have failed. -/
def wrong : Secret → AuthState → List (String × ℕ)
  | .password, s => s.wrongPasswords
  | .code, s => s.wrongCodes

/-- There was no lockout when the lock was taken. -/
def opened : Secret → TxPoint → Bool
  | .password, .comparing _ _ | .password, .resetting _ _ | .code, .comparingCode _ _ _ _ _ => true
  | _, _ => false

/-- A comparison has failed and is not recorded yet. -/
def pending : Secret → TxPoint → Bool
  | .password, .mismatched _ | .code, .wrongCode _ => true
  | _, _ => false

end Secret

/-- What a transaction `tx` does next. -/
inductive Advanced (env : Environment) (s : AuthState) (n : ℕ) (tx : AuthTx) : AuthState → Prop
  | same : Advanced env s n tx s
  | settle (hbegun : tx.point = .begun) : Advanced env s n tx (s.move n .settled)
  | hold (userId : String) (point : TxPoint) (hbegun : tx.point = .begun)
      (free : s.holder userId = none) (hholds : point.holds = some userId)
      (quiet : ∀ secret : Secret, secret.pending point = false)
      (unlocked : ∀ secret : Secret, secret.opened point = true →
        ∃ counter, secret.row s.db userId = some counter ∧
          counter.lockedAt tx.startedAt = false) :
      Advanced env s n tx (s.hold n userId point)
  | rightPassword (credential : CredentialRow) (password : String)
      (hpoint : tx.point = .comparing credential password)
      (hright : env.verifyPassword credential.passwordHash password = some true) :
      Advanced env s n tx (s.move n (.authenticated credential.userId))
  | wrongPassword (credential : CredentialRow) (password : String)
      (hpoint : tx.point = .comparing credential password) :
      Advanced env s n tx { s.move n (.mismatched credential.userId) with
        wrongPasswords := (credential.userId, tx.startedAt) :: s.wrongPasswords }
  | rightCode (userId : String) (factor : AuthTwoFactor) (code : String) (method : FactorMethod)
      (disable : Bool) (backupCodes : String)
      (hpoint : tx.point = .comparingCode userId factor code method disable)
      (hright : env.checkCode method factor code s.clock = .right backupCodes) :
      Advanced env s n tx (s.move n (.rightCode userId backupCodes disable))
  | wrongCode (userId : String) (factor : AuthTwoFactor) (code : String) (method : FactorMethod)
      (disable : Bool) (hpoint : tx.point = .comparingCode userId factor code method disable) :
      Advanced env s n tx { s.move n (.wrongCode userId) with
        wrongCodes := (userId, tx.startedAt) :: s.wrongCodes }
  | rollback (userId : String) (hholds : tx.point.holds = some userId)
      (quiet : ∀ secret : Secret, secret.pending tx.point = false) :
      Advanced env s n tx (s.commit n userId s.db)
  | commit (userId : String) (hholds : tx.point.holds = some userId) :
      Advanced env s n tx (s.commit n userId (tx.point.write tx.startedAt s.db))

section Steps

variable {env : Environment} {s : AuthState} {n : ℕ} {tx : AuthTx} {userId : String}

lemma advanced_lockUser (hbegun : tx.point = .begun) (next : Option TxPoint)
    (hnext : ∀ point, next = some point → point.holds = some userId ∧
      (∀ secret : Secret, secret.pending point = false) ∧
      ∀ secret : Secret, secret.opened point = true →
        ∃ counter, secret.row s.db userId = some counter ∧
          counter.lockedAt tx.startedAt = false) :
    Advanced env s n tx (s.lockUser n userId next) := by
  unfold AuthState.lockUser
  split
  · exact .same
  · rename_i hfree
    cases next with
    | none => exact .settle hbegun
    | some point =>
        obtain ⟨hholds, hquiet, hunlocked⟩ := hnext point rfl
        have hnone : s.holder userId = none := by simpa using hfree
        exact .hold userId point hbegun hnone hholds hquiet hunlocked

/-- The credential that is read says whether its user is locked out. -/
lemma row_of_select {lower : String → String} {key : CredentialKey} {now : ℕ}
    {db : AuthDatabase} {credential : CredentialRow}
    (h : selectCredentialForPasswordAttempt lower key now db = some credential) :
    ∃ counter, Secret.password.row db credential.userId = some counter ∧
      counter.lockedAt now = credential.passwordLocked := by
  obtain ⟨⟨userId, user, account⟩, hrow, hcredential⟩ := Option.bind_eq_some_iff.mp h
  obtain ⟨passwordHash, -, rfl⟩ := Option.map_eq_some_iff.mp hcredential
  obtain ⟨⟨id, row⟩, hmem, hfound⟩ := List.exists_of_findSome?_eq_some hrow
  obtain ⟨account', -, heq⟩ := Option.map_eq_some_iff.mp hfound
  cases heq
  have hget : db.users.get userId = some user := OrderedMap.mem_entries_iff.mp hmem
  exact ⟨user.passwordFailures, by rw [Secret.row, hget]; rfl, rfl⟩

lemma advanced_firstStatement (hbegun : tx.point = .begun) :
    Advanced env s n tx (firstStatement env s n tx) := by
  unfold firstStatement
  split
  · -- A password.
    split
    · exact .settle hbegun
    · rename_i credential hselect
      refine advanced_lockUser hbegun _ fun point hpoint => ?_
      split at hpoint
      · cases hpoint
      · rename_i hunlocked
        cases hpoint
        refine ⟨rfl, fun secret => by cases secret <;> rfl, fun secret hopened => ?_⟩
        cases secret with
        | password =>
            obtain ⟨counter, hrow, hlocked⟩ := row_of_select hselect
            exact ⟨counter, hrow, hlocked.trans (Bool.eq_false_iff.mpr hunlocked)⟩
        | code => cases hopened
  · -- A code.
    split
    · refine advanced_lockUser hbegun _ fun point hpoint => ?_
      split at hpoint
      · cases hpoint
      · rename_i factor hfactor
        split at hpoint
        · cases hpoint
        · rename_i hunlocked
          cases hpoint
          refine ⟨rfl, fun secret => by cases secret <;> rfl, fun secret hopened => ?_⟩
          cases secret with
          | password => cases hopened
          | code =>
              refine ⟨factor.failures, by rw [Secret.row, hfactor]; rfl, ?_⟩
              exact Bool.eq_false_iff.mpr fun hlocked =>
                hunlocked (by rw [hlocked, Bool.or_true])
    · exact .settle hbegun
  · -- A reset.
    split
    · exact .settle hbegun
    · rename_i user huser
      refine advanced_lockUser hbegun _ fun point hpoint => ?_
      split at hpoint
      · cases hpoint
      · rename_i hunlocked
        cases hpoint
        refine ⟨rfl, fun secret => by cases secret <;> rfl, fun secret hopened => ?_⟩
        cases secret with
        | password =>
            exact ⟨user.passwordFailures, by rw [Secret.row, huser]; rfl,
              Bool.eq_false_iff.mpr hunlocked⟩
        | code => cases hopened
  all_goals
    split
    · refine advanced_lockUser hbegun _ fun point hpoint => ?_
      cases hpoint
      exact ⟨rfl, fun secret => by cases secret <;> rfl,
        fun secret hopened => by cases secret <;> cases hopened⟩
    · exact .settle hbegun

/-- **What a transaction does next.** -/
lemma advance_cases (htx : s.txs.get n = some tx) : Advanced env s n tx (advance env s n) := by
  unfold advance
  rw [htx]
  dsimp only
  split
  · exact advanced_firstStatement ‹_›
  · rename_i credential password hpoint
    split
    · refine .rollback credential.userId (by rw [hpoint]; rfl) fun secret => ?_
      rw [hpoint]
      cases secret <;> rfl
    · exact .rightPassword credential password hpoint ‹_›
    · exact .wrongPassword credential password hpoint
  · rename_i userId factor code method disable hpoint
    split
    · refine .rollback userId (by rw [hpoint]; rfl) fun secret => ?_
      rw [hpoint]
      cases secret <;> rfl
    · exact .rightCode userId factor code method disable _ hpoint ‹_›
    · exact .wrongCode userId factor code method disable hpoint
  · split
    · exact .same
    · exact .commit _ ‹_›

lemma Advanced.locksOk {start : ℕ} {s' : AuthState} (hs : LocksOk start s)
    (htx : s.txs.get n = some tx) (h : Advanced env s n tx s') : LocksOk start s' := by
  cases h with
  | same => exact hs
  | settle hbegun => exact hs.settle htx (by rw [hbegun]; rfl)
  | hold userId point hbegun free hholds => exact hs.hold htx (by rw [hbegun]; rfl) free hholds
  | rightPassword credential password hpoint =>
      exact hs.keep htx (by rw [hpoint]; rfl) rfl rfl rfl rfl
  | wrongPassword credential password hpoint =>
      exact hs.keep htx (by rw [hpoint]; rfl) rfl rfl rfl rfl
  | rightCode userId factor code method disable backupCodes hpoint =>
      exact hs.keep htx (by rw [hpoint]; rfl) rfl rfl rfl rfl
  | wrongCode userId factor code method disable hpoint =>
      exact hs.keep htx (by rw [hpoint]; rfl) rfl rfl rfl rfl
  | rollback userId hholds => exact hs.commit htx hholds s.db
  | commit userId hholds => exact hs.commit htx hholds _

end Steps

/-! ### The last statements -/

namespace Secret

/-- The last statement records a failure. -/
def recorded : Secret → TxPoint → Bool
  | .password, .mismatched _ | .password, .resetting _ none | .code, .wrongCode _ => true
  | _, _ => false

/-- The last statement clears the counter. -/
def cleared : Secret → TxPoint → Bool
  | .password, .authenticated _ | .password, .resetting _ (some _) | .password, .changing _ _
  | .code, .rightCode _ _ _ | .code, .enrolling _ _ => true
  | _, _ => false

end Secret

section Write

variable {db : AuthDatabase} {userId userId' : String} {point : TxPoint} {now : ℕ}

lemma get_updateUser (f : AuthUser → AuthUser) : (db.updateUser userId f).users.get userId' =
    if userId' = userId then (db.users.get userId').map f else db.users.get userId' := by
  unfold AuthDatabase.updateUser
  cases hget : db.users.get userId with
  | none =>
      split_ifs with huser
      · subst huser
        rw [hget]
        rfl
      · rfl
  | some user =>
      dsimp only
      rw [OrderedMap.get_set]
      split_ifs with huser
      · subst huser
        rw [hget]
        rfl
      · rfl

lemma twoFactor_updateUser (f : AuthUser → AuthUser) :
    (db.updateUser userId f).twoFactor = db.twoFactor := by
  unfold AuthDatabase.updateUser
  split <;> rfl

lemma get_updateTwoFactor (f : AuthTwoFactor → AuthTwoFactor) :
    (db.updateTwoFactor userId f).twoFactor.get userId' =
      if userId' = userId then (db.twoFactor.get userId').map f
      else db.twoFactor.get userId' := by
  unfold AuthDatabase.updateTwoFactor
  cases hget : db.twoFactor.get userId with
  | none =>
      split_ifs with huser
      · subst huser
        rw [hget]
        rfl
      · rfl
  | some factor =>
      dsimp only
      rw [OrderedMap.get_set]
      split_ifs with huser
      · subst huser
        rw [hget]
        rfl
      · rfl

lemma users_updateTwoFactor (f : AuthTwoFactor → AuthTwoFactor) :
    (db.updateTwoFactor userId f).users = db.users := by
  unfold AuthDatabase.updateTwoFactor
  split <;> rfl

/-- An update of a user changes the counter of this user only. -/
lemma passwordRow_updateUser {f : AuthUser → AuthUser} {g : FailureCounter → FailureCounter}
    (hf : ∀ user, (f user).passwordFailures = g user.passwordFailures) :
    Secret.password.row (db.updateUser userId f) userId' =
      if userId' = userId then (Secret.password.row db userId').map g
      else Secret.password.row db userId' := by
  change ((db.updateUser userId f).users.get userId').map _ = _
  rw [get_updateUser]
  dsimp only [Secret.row]
  split_ifs
  · rw [Option.map_map, Option.map_map]
    exact congrArg (Option.map · (db.users.get userId')) (funext hf)
  · rfl

lemma codeRow_updateTwoFactor {f : AuthTwoFactor → AuthTwoFactor}
    {g : FailureCounter → FailureCounter} (hf : ∀ factor, (f factor).failures = g factor.failures) :
    Secret.code.row (db.updateTwoFactor userId f) userId' =
      if userId' = userId then (Secret.code.row db userId').map g
      else Secret.code.row db userId' := by
  change ((db.updateTwoFactor userId f).twoFactor.get userId').map _ = _
  rw [get_updateTwoFactor]
  dsimp only [Secret.row]
  split_ifs
  · rw [Option.map_map, Option.map_map]
    exact congrArg (Option.map · (db.twoFactor.get userId')) (funext hf)
  · rfl

lemma codeRow_updateUser (f : AuthUser → AuthUser) :
    Secret.code.row (db.updateUser userId f) userId' = Secret.code.row db userId' := by
  change ((db.updateUser userId f).twoFactor.get userId').map _ = _
  rw [twoFactor_updateUser]
  rfl

lemma passwordRow_updateTwoFactor (f : AuthTwoFactor → AuthTwoFactor) :
    Secret.password.row (db.updateTwoFactor userId f) userId' = Secret.password.row db userId' := by
  change ((db.updateTwoFactor userId f).users.get userId').map _ = _
  rw [users_updateTwoFactor]
  rfl

lemma passwordRow_updateUser_of_ne (f : AuthUser → AuthUser) (h : userId' ≠ userId) :
    Secret.password.row (db.updateUser userId f) userId' = Secret.password.row db userId' := by
  change ((db.updateUser userId f).users.get userId').map _ = _
  rw [get_updateUser, if_neg h]
  rfl

lemma codeRow_updateTwoFactor_of_ne (f : AuthTwoFactor → AuthTwoFactor) (h : userId' ≠ userId) :
    Secret.code.row (db.updateTwoFactor userId f) userId' = Secret.code.row db userId' := by
  change ((db.updateTwoFactor userId f).twoFactor.get userId').map _ = _
  rw [get_updateTwoFactor, if_neg h]
  rfl

lemma passwordRow_of_keeps {f : AuthUser → AuthUser}
    (hf : ∀ user, (f user).passwordFailures = user.passwordFailures) :
    Secret.password.row (db.updateUser userId f) userId' = Secret.password.row db userId' := by
  rw [passwordRow_updateUser (g := id) hf, Option.map_id, id, ite_self]

lemma codeRow_of_keeps {f : AuthTwoFactor → AuthTwoFactor}
    (hf : ∀ factor, (f factor).failures = factor.failures) :
    Secret.code.row (db.updateTwoFactor userId f) userId' = Secret.code.row db userId' := by
  rw [codeRow_updateTwoFactor (g := id) hf, Option.map_id, id, ite_self]

lemma passwordRow_write (hholds : point.holds = some userId)
    (hcleared : userId' = userId → Secret.password.cleared point = false) :
    Secret.password.row (point.write now db) userId' =
      if userId' = userId ∧ Secret.password.recorded point = true then
        (Secret.password.row db userId').map (·.fail failureLimit fiveMinutes now)
      else Secret.password.row db userId' := by
  have hsame : ∀ {db'}, Secret.password.row db' userId' = Secret.password.row db userId' →
      Secret.password.recorded point = false → Secret.password.row db' userId' =
        if userId' = userId ∧ Secret.password.recorded point = true then
          (Secret.password.row db userId').map (·.fail failureLimit fiveMinutes now)
        else Secret.password.row db userId' := by
    intro db' hrow hnot
    rw [if_neg (by rw [hnot]; nofun), hrow]
  cases point with
  | begun => exact hsame rfl rfl
  | settled => exact hsame rfl rfl
  | comparing credential password => exact hsame rfl rfl
  | comparingCode id factor code method disable => exact hsame rfl rfl
  | mismatched id =>
      cases hholds
      refine (passwordRow_updateUser (g := (·.fail failureLimit fiveMinutes now))
        fun _ => rfl).trans ?_
      exact if_congr ⟨fun heq => ⟨heq, rfl⟩, And.left⟩ rfl rfl
  | authenticated id =>
      cases hholds
      have hne : userId' ≠ userId := fun heq => nomatch hcleared heq
      exact hsame (passwordRow_updateUser_of_ne _ hne) rfl
  | wrongCode id => exact hsame (passwordRow_updateTwoFactor _) rfl
  | rightCode id backupCodes disable =>
      refine hsame ?_ rfl
      cases disable with
      | false => exact passwordRow_updateTwoFactor _
      | true => exact passwordRow_of_keeps fun _ => rfl
  | resetting id newHash =>
      cases hholds
      cases newHash with
      | none =>
          refine (passwordRow_updateUser (g := (·.fail failureLimit fiveMinutes now))
            fun _ => rfl).trans ?_
          exact if_congr ⟨fun heq => ⟨heq, rfl⟩, And.left⟩ rfl rfl
      | some newHash =>
          have hne : userId' ≠ userId := fun heq => nomatch hcleared heq
          exact hsame (passwordRow_updateUser_of_ne _ hne) rfl
  | changing id newHash =>
      cases hholds
      have hne : userId' ≠ userId := fun heq => nomatch hcleared heq
      exact hsame (passwordRow_updateUser_of_ne _ hne) rfl
  | enrolling id secret =>
      refine hsame ?_ rfl
      change Secret.password.row (enroll id secret db) userId' = _
      unfold enroll
      split <;> rfl
  | enabling id backupCodes =>
      refine hsame ?_ rfl
      change Secret.password.row (enableFactor id backupCodes db) userId' = _
      unfold enableFactor
      split
      · rw [passwordRow_of_keeps (f := fun user => { user with twoFactorEnabled := true })
          fun _ => rfl, passwordRow_updateTwoFactor]
      · rfl

lemma codeRow_write (hholds : point.holds = some userId)
    (hcleared : userId' = userId → Secret.code.cleared point = false) :
    Secret.code.row (point.write now db) userId' =
      if userId' = userId ∧ Secret.code.recorded point = true then
        (Secret.code.row db userId').map (·.fail failureLimit fiveMinutes now)
      else Secret.code.row db userId' := by
  have hsame : ∀ {db'}, Secret.code.row db' userId' = Secret.code.row db userId' →
      Secret.code.recorded point = false → Secret.code.row db' userId' =
        if userId' = userId ∧ Secret.code.recorded point = true then
          (Secret.code.row db userId').map (·.fail failureLimit fiveMinutes now)
        else Secret.code.row db userId' := by
    intro db' hrow hnot
    rw [if_neg (by rw [hnot]; nofun), hrow]
  cases point with
  | begun => exact hsame rfl rfl
  | settled => exact hsame rfl rfl
  | comparing credential password => exact hsame rfl rfl
  | comparingCode id factor code method disable => exact hsame rfl rfl
  | mismatched id => exact hsame (codeRow_updateUser _) rfl
  | authenticated id => exact hsame (codeRow_updateUser _) rfl
  | wrongCode id =>
      cases hholds
      refine (codeRow_updateTwoFactor (g := (·.fail failureLimit fiveMinutes now))
        fun _ => rfl).trans ?_
      exact if_congr ⟨fun heq => ⟨heq, rfl⟩, And.left⟩ rfl rfl
  | rightCode id backupCodes disable =>
      cases hholds
      have hne : userId' ≠ userId := fun heq => nomatch hcleared heq
      refine hsame ?_ rfl
      cases disable with
      | false => exact codeRow_updateTwoFactor_of_ne _ hne
      | true =>
          refine (codeRow_updateUser _).trans ?_
          exact congrArg (Option.map _) (OrderedMap.get_delete_of_ne _ hne)
  | resetting id newHash =>
      cases newHash with
      | none => exact hsame (codeRow_updateUser _) rfl
      | some newHash => exact hsame (codeRow_updateUser _) rfl
  | changing id newHash => exact hsame (codeRow_updateUser _) rfl
  | enrolling id secret =>
      cases hholds
      have hne : userId' ≠ userId := fun heq => nomatch hcleared heq
      refine hsame ?_ rfl
      change Secret.code.row (enroll userId secret db) userId' = _
      unfold enroll
      split
      · rfl
      · exact congrArg (Option.map _) (OrderedMap.get_set_of_ne _ _ hne)
  | enabling id backupCodes =>
      refine hsame ?_ rfl
      change Secret.code.row (enableFactor id backupCodes db) userId' = _
      unfold enableFactor
      split
      · rw [codeRow_updateUser, codeRow_of_keeps]
        exact fun _ => rfl
      · rfl

/-- **The last statement of a transaction** changes the counters of its user only: it records a
failure, unless it clears the counter. -/
lemma row_write (secret : Secret) (hholds : point.holds = some userId)
    (hcleared : userId' = userId → secret.cleared point = false) :
    secret.row (point.write now db) userId' =
      if userId' = userId ∧ secret.recorded point = true then
        (secret.row db userId').map (·.fail failureLimit fiveMinutes now)
      else secret.row db userId' := by
  cases secret with
  | password => exact passwordRow_write hholds hcleared
  | code => exact codeRow_write hholds hcleared

end Write

/-! ### What is read under a lock -/

/-- The transaction that has a lock has found no lockout, and there is a row for the failure that
it is going to record. -/
structure ReadsOk (start : ℕ) (s : AuthState) : Prop extends LocksOk start s where
  opened : ∀ n tx userId (secret : Secret), s.txs.get n = some tx →
    tx.point.holds = some userId → secret.opened tx.point = true →
    ∃ counter, secret.row s.db userId = some counter ∧ counter.lockedAt tx.startedAt = false
  pending : ∀ n tx userId (secret : Secret), s.txs.get n = some tx →
    tx.point.holds = some userId → secret.pending tx.point = true →
    ∃ counter, secret.row s.db userId = some counter

section Reads

variable {env : Environment} {start : ℕ} {s s' : AuthState} {n : ℕ} {tx : AuthTx}
  {userId : String} {point : TxPoint}

lemma readsOk_idle (db : AuthDatabase) (start : ℕ) : ReadsOk start (.idle db start) :=
  ⟨locksOk_idle db start, fun n tx _ _ htx => absurd htx (no_txs_idle db start n tx),
    fun n tx _ _ htx => absurd htx (no_txs_idle db start n tx)⟩

lemma ReadsOk.add (hs : ReadsOk start s) (kind : TxKind) :
    ReadsOk start { s with txs := s.txs.add ⟨kind, s.clock, .begun⟩ } := by
  refine ⟨hs.toLocksOk.add kind, fun m tx userId secret htx hholds => ?_,
    fun m tx userId secret htx hholds => ?_⟩
  · rcases Objects.get_add_eq_some htx with ⟨-, rfl⟩ | htx
    · cases hholds
    · exact hs.opened m tx userId secret htx hholds
  · rcases Objects.get_add_eq_some htx with ⟨-, rfl⟩ | htx
    · cases hholds
    · exact hs.pending m tx userId secret htx hholds

/-- A transaction goes on; the rows of the users whose locks are with others are as they were. -/
lemma ReadsOk.next (hs : ReadsOk start s) (hs' : LocksOk start s') (htx : s.txs.get n = some tx)
    (htxs : s'.txs = s.txs.modify n fun tx => { tx with point := point })
    (hrow : ∀ m tx' userId (secret : Secret), m ≠ n → s.txs.get m = some tx' →
      tx'.point.holds = some userId → secret.row s'.db userId = secret.row s.db userId)
    (hopened : ∀ userId (secret : Secret), point.holds = some userId →
      secret.opened point = true → ∃ counter, secret.row s'.db userId = some counter ∧
        counter.lockedAt tx.startedAt = false)
    (hpending : ∀ userId (secret : Secret), point.holds = some userId →
      secret.pending point = true → ∃ counter, secret.row s'.db userId = some counter) :
    ReadsOk start s' := by
  have hsplit : ∀ m tx', s'.txs.get m = some tx' →
      (m ≠ n ∧ s.txs.get m = some tx') ∨ tx' = { tx with point := point } := by
    intro m tx' htx'
    rw [htxs] at htx'
    by_cases hm : m = n
    · subst hm
      rw [Objects.get_modify_of_some htx] at htx'
      exact .inr (Option.some.inj htx').symm
    · rw [Objects.get_modify_of_ne hm] at htx'
      exact .inl ⟨hm, htx'⟩
  refine ⟨hs', fun m tx' userId secret htx' hholds hpoint => ?_,
    fun m tx' userId secret htx' hholds hpoint => ?_⟩
  · rcases hsplit m tx' htx' with ⟨hm, hold⟩ | rfl
    · rw [hrow m tx' userId secret hm hold hholds]
      exact hs.opened m tx' userId secret hold hholds hpoint
    · exact hopened userId secret hholds hpoint
  · rcases hsplit m tx' htx' with ⟨hm, hold⟩ | rfl
    · rw [hrow m tx' userId secret hm hold hholds]
      exact hs.pending m tx' userId secret hold hholds hpoint
    · exact hpending userId secret hholds hpoint

/-- The user of another transaction that has a lock is another one. -/
lemma LocksOk.ne_of_holds (hs : LocksOk start s) (htx : s.txs.get n = some tx)
    (hholds : tx.point.holds = some userId) {m : ℕ} {tx' : AuthTx} {userId' : String}
    (hm : m ≠ n) (htx' : s.txs.get m = some tx') (hholds' : tx'.point.holds = some userId') :
    userId' ≠ userId := by
  rintro rfl
  have hn : s.holder userId' = some n := (hs.holder userId' n).mpr ⟨tx, htx, hholds⟩
  have hm' : s.holder userId' = some m := (hs.holder userId' m).mpr ⟨tx', htx', hholds'⟩
  exact hm (Option.some.inj (hm'.symm.trans hn))

lemma row_write_of_ne (secret : Secret) {db : AuthDatabase} {now : ℕ} {userId' : String}
    (hholds : point.holds = some userId) (hne : userId' ≠ userId) :
    secret.row (point.write now db) userId' = secret.row db userId' := by
  rw [row_write secret hholds fun heq => absurd heq hne, if_neg fun h => hne h.1]

lemma Advanced.readsOk (hs : ReadsOk start s) (htx : s.txs.get n = some tx)
    (h : Advanced env s n tx s') : ReadsOk start s' := by
  have hs' : LocksOk start s' := h.locksOk hs.toLocksOk htx
  cases h with
  | same => exact hs
  | settle hbegun =>
      exact hs.next hs' htx rfl (fun _ _ _ _ _ _ _ => rfl) (fun _ _ hholds => nomatch hholds)
        fun _ _ hholds => nomatch hholds
  | hold userId point hbegun free hholds quiet unlocked =>
      refine hs.next hs' htx rfl (fun _ _ _ _ _ _ _ => rfl)
        (fun userId' secret hholds' hopened => ?_) fun userId' secret _ hpending => ?_
      · obtain rfl : userId = userId' := Option.some.inj (hholds.symm.trans hholds')
        exact unlocked secret hopened
      · rw [quiet secret] at hpending
        cases hpending
  | rightPassword credential password hpoint =>
      refine hs.next hs' htx rfl (fun _ _ _ _ _ _ _ => rfl) (fun _ secret _ hopened => ?_)
        fun _ secret _ hpending => ?_
      · cases secret <;> cases hopened
      · cases secret <;> cases hpending
  | wrongPassword credential password hpoint =>
      refine hs.next hs' htx rfl (fun _ _ _ _ _ _ _ => rfl) (fun _ secret _ hopened => ?_)
        fun userId' secret hholds hpending => ?_
      · cases secret <;> cases hopened
      · cases secret with
        | password =>
            cases hholds
            obtain ⟨counter, hrow, -⟩ := hs.opened n tx credential.userId .password htx
              (by rw [hpoint]; rfl) (by rw [hpoint]; rfl)
            exact ⟨counter, hrow⟩
        | code => cases hpending
  | rightCode userId factor code method disable backupCodes hpoint =>
      refine hs.next hs' htx rfl (fun _ _ _ _ _ _ _ => rfl) (fun _ secret _ hopened => ?_)
        fun _ secret _ hpending => ?_
      · cases secret <;> cases hopened
      · cases secret <;> cases hpending
  | wrongCode userId factor code method disable hpoint =>
      refine hs.next hs' htx rfl (fun _ _ _ _ _ _ _ => rfl) (fun _ secret _ hopened => ?_)
        fun userId' secret hholds hpending => ?_
      · cases secret <;> cases hopened
      · cases secret with
        | password => cases hpending
        | code =>
            cases hholds
            obtain ⟨counter, hrow, -⟩ := hs.opened n tx userId .code htx
              (by rw [hpoint]; rfl) (by rw [hpoint]; rfl)
            exact ⟨counter, hrow⟩
  | rollback userId hholds =>
      exact hs.next hs' htx rfl (fun _ _ _ _ _ _ _ => rfl) (fun _ _ hholds => nomatch hholds)
        fun _ _ hholds => nomatch hholds
  | commit userId hholds =>
      refine hs.next hs' htx rfl (fun m tx' userId' secret hm htx' hholds' => ?_)
        (fun _ _ hholds => nomatch hholds) fun _ _ hholds => nomatch hholds
      exact row_write_of_ne secret hholds (hs.ne_of_holds htx hholds hm htx' hholds')

end Reads

/-! ### The lockout of a user -/

namespace Secret

/-- When the transaction that has the lock of a user has begun, if its comparison has failed. -/
def unrecorded (secret : Secret) (s : AuthState) (userId : String) : Option ℕ :=
  (s.holder userId).bind fun n => (s.txs.get n).bind fun tx =>
    if secret.pending tx.point then some tx.startedAt else none

def lockout (secret : Secret) (s : AuthState) (userId : String) : Lockout :=
  ⟨(secret.row s.db userId).getD .clear, secret.unrecorded s userId,
    ((secret.wrong s).filter (·.1 = userId)).map (·.2)⟩

/-- The transaction commits with which a check, a reset, a change or an enrollment succeeds. -/
def clears (secret : Secret) (userId : String) (s : AuthState) : AuthEvent → Bool
  | .advance n => (s.txs.get n).any fun tx =>
      tx.point.holds = some userId && secret.cleared tx.point
  | _ => false

end Secret

section LockoutSteps

variable {env : Environment} {start : ℕ} {s s' : AuthState} {n : ℕ} {tx : AuthTx}
  {userId userId' : String} {point : TxPoint} (secret : Secret)

lemma unrecorded_of_holds (hs : LocksOk start s) (htx : s.txs.get n = some tx)
    (hholds : tx.point.holds = some userId) :
    secret.unrecorded s userId = if secret.pending tx.point then some tx.startedAt else none := by
  have hholder : s.holder userId = some n := (hs.holder userId n).mpr ⟨tx, htx, hholds⟩
  rw [Secret.unrecorded, hholder, Option.bind_some, htx, Option.bind_some]

lemma holder_commit_self (n : ℕ) (db : AuthDatabase) :
    (s.commit n userId db).holder userId = none := by
  change Function.update s.holder userId none userId = none
  rw [Function.update_self]

lemma holder_commit_of_ne (n : ℕ) (db : AuthDatabase) (hne : userId' ≠ userId) :
    (s.commit n userId db).holder userId' = s.holder userId' := by
  change Function.update s.holder userId none userId' = s.holder userId'
  rw [Function.update_of_ne hne]

lemma unrecorded_of_free (hfree : s.holder userId = none) : secret.unrecorded s userId = none := by
  rw [Secret.unrecorded, hfree, Option.bind_none]

/-- The other transactions go on as they are. -/
lemma unrecorded_of_ne (htxs : s'.txs = s.txs.modify n fun tx => { tx with point := point })
    (hholder : s'.holder userId = s.holder userId) (hne : s.holder userId ≠ some n) :
    secret.unrecorded s' userId = secret.unrecorded s userId := by
  rw [Secret.unrecorded, Secret.unrecorded, hholder, htxs]
  refine Option.bind_congr fun m hm => ?_
  rw [Objects.get_modify_of_ne fun heq => hne (hm.trans (congrArg some heq))]

/-- The transaction with the lock goes on. -/
lemma unrecorded_of_keep (hs : LocksOk start s) (htx : s.txs.get n = some tx)
    (hholds : tx.point.holds = some userId)
    (htxs : s'.txs = s.txs.modify n fun tx => { tx with point := point })
    (hholder : s'.holder = s.holder) :
    secret.unrecorded s' userId = if secret.pending point then some tx.startedAt else none := by
  have hold : s.holder userId = some n := (hs.holder userId n).mpr ⟨tx, htx, hholds⟩
  rw [Secret.unrecorded, hholder, hold, htxs, Option.bind_some, Objects.get_modify_of_some htx,
    Option.bind_some]

lemma lockout_congr (hrow : secret.row s'.db userId = secret.row s.db userId)
    (hunrecorded : secret.unrecorded s' userId = secret.unrecorded s userId)
    (hwrong : (secret.wrong s').filter (·.1 = userId) =
      (secret.wrong s).filter (·.1 = userId)) :
    secret.lockout s' userId = secret.lockout s userId := by
  rw [Secret.lockout, Secret.lockout, hrow, hunrecorded, hwrong]

lemma filter_cons_of_ne {wrong : List (String × ℕ)} {startedAt : ℕ} (hne : userId' ≠ userId) :
    ((userId', startedAt) :: wrong).filter (·.1 = userId) = wrong.filter (·.1 = userId) :=
  List.filter_cons_of_neg (by simpa using hne)

/-- **A comparison that fails** is a wrong attempt of the lockout, which is not recorded yet. -/
lemma lockout_wrong (hs : ReadsOk start s) (htx : s.txs.get n = some tx)
    (hholds : tx.point.holds = some userId) (hopened : secret.opened tx.point = true)
    (hquiet : secret.pending tx.point = false) (hpending : secret.pending point = true)
    (htxs : s'.txs = s.txs.modify n fun tx => { tx with point := point })
    (hholder : s'.holder = s.holder) (hdb : s'.db = s.db)
    (hwrong : secret.wrong s' = (userId, tx.startedAt) :: secret.wrong s) :
    Lockout.Step failureLimit fiveMinutes start (secret.lockout s userId)
      (secret.lockout s' userId) := by
  have halone : secret.unrecorded s userId = none := by
    rw [unrecorded_of_holds secret hs.toLocksOk htx hholds, hquiet]
    rfl
  have hnext : secret.unrecorded s' userId = some tx.startedAt := by
    rw [unrecorded_of_keep secret hs.toLocksOk htx hholds htxs hholder, hpending]
    rfl
  obtain ⟨counter, hrow, hunlocked⟩ := hs.opened n tx userId secret htx hholds hopened
  have hstep := @Lockout.Step.wrong failureLimit fiveMinutes start
    (secret.lockout s userId) tx.startedAt (hs.begun n tx htx) halone
    (by rw [Secret.lockout, hrow]; exact hunlocked)
  have hlockout : secret.lockout s' userId =
      { secret.lockout s userId with
        pending := some tx.startedAt
        starts := tx.startedAt :: (secret.lockout s userId).starts } := by
    rw [Secret.lockout, hnext, hdb, hwrong, List.filter_cons_of_pos (by simp)]
    rfl
  rw [hlockout]
  exact hstep

/-- **The last statement** records the failure, or another one; or it changes no counter. -/
lemma lockout_commit (hs : ReadsOk start s) (htx : s.txs.get n = some tx)
    (hholds : tx.point.holds = some userId) (hcleared : secret.cleared tx.point = false) :
    secret.lockout (s.commit n userId (tx.point.write tx.startedAt s.db)) userId =
        secret.lockout s userId ∨
      Lockout.Step failureLimit fiveMinutes start (secret.lockout s userId)
        (secret.lockout (s.commit n userId (tx.point.write tx.startedAt s.db)) userId) := by
  have hrow : secret.row (tx.point.write tx.startedAt s.db) userId =
      if userId = userId ∧ secret.recorded tx.point = true then
        (secret.row s.db userId).map (·.fail failureLimit fiveMinutes tx.startedAt)
      else secret.row s.db userId := row_write secret hholds fun _ => hcleared
  have hbefore := unrecorded_of_holds secret hs.toLocksOk htx hholds
  have hafter : ∀ db, secret.unrecorded (s.commit n userId db) userId = none := fun db =>
    unrecorded_of_free secret (holder_commit_self n db)
  have hwrong : ∀ db, secret.wrong (s.commit n userId db) = secret.wrong s := fun db => by
    cases secret <;> rfl
  by_cases hrecorded : secret.recorded tx.point = true
  · right
    rw [if_pos ⟨rfl, hrecorded⟩] at hrow
    have hlockout : ∀ counter, secret.row s.db userId = some counter →
        secret.lockout (s.commit n userId (tx.point.write tx.startedAt s.db)) userId =
          { secret.lockout s userId with
            counter := (secret.lockout s userId).counter.fail failureLimit fiveMinutes tx.startedAt
            pending := none } := by
      intro counter hcounter
      rw [hcounter] at hrow
      rw [Secret.lockout, Secret.lockout, hafter, hwrong, hcounter]
      change Lockout.mk ((secret.row (tx.point.write tx.startedAt s.db) userId).getD _) _ _ = _
      rw [hrow]
      rfl
    by_cases hpending : secret.pending tx.point = true
    · rw [if_pos hpending] at hbefore
      obtain ⟨counter, hcounter⟩ := hs.pending n tx userId secret htx hholds hpending
      rw [hlockout counter hcounter]
      exact .record _ _ hbefore
    · -- A new password that is too short.
      have hopened : secret.opened tx.point = true := by
        revert hrecorded hpending
        cases secret <;> cases tx.point <;> simp [Secret.recorded, Secret.pending, Secret.opened]
      obtain ⟨counter, hcounter, hunlocked⟩ := hs.opened n tx userId secret htx hholds hopened
      rw [if_neg hpending] at hbefore
      have hstep := @Lockout.Step.other failureLimit fiveMinutes start
        (secret.lockout s userId) tx.startedAt hbefore
        (by rw [Secret.lockout, hcounter]; exact hunlocked)
      rw [hlockout counter hcounter]
      have hnone : (secret.lockout s userId).pending = none := hbefore
      rw [← hnone]
      exact hstep
  · left
    rw [if_neg fun h => hrecorded h.2] at hrow
    have hquiet : secret.pending tx.point = false := by
      revert hrecorded
      cases secret <;> cases tx.point <;> simp [Secret.recorded, Secret.pending]
    refine lockout_congr secret hrow ?_ (by rw [hwrong])
    rw [hafter, hbefore, hquiet]
    rfl

/-- **A step of a transaction** changes nothing of the lockout of a user, or is a step of it. -/
lemma Advanced.lockout_step (hs : ReadsOk start s) (htx : s.txs.get n = some tx)
    (h : Advanced env s n tx s') (hclears : secret.clears userId s (.advance n) = false) :
    secret.lockout s' userId = secret.lockout s userId ∨
      Lockout.Step failureLimit fiveMinutes start (secret.lockout s userId)
        (secret.lockout s' userId) := by
  -- A transaction that keeps the lock of another user, or is as far as it was.
  have hmove : ∀ (point : TxPoint) (userId' : String), tx.point.holds = some userId' →
      secret.pending tx.point = false → secret.pending point = false →
      ∀ s'' : AuthState, s''.txs = (s.move n point).txs → s''.holder = s.holder →
        secret.unrecorded s'' userId = secret.unrecorded s userId := by
    intro point userId' hholds hquiet hquiet' s'' htxs hholder
    by_cases huser : userId = userId'
    · subst huser
      rw [unrecorded_of_keep secret hs.toLocksOk htx hholds htxs hholder, hquiet',
        unrecorded_of_holds secret hs.toLocksOk htx hholds, hquiet]
    · refine unrecorded_of_ne secret htxs (congrFun hholder userId) (hs.holder_ne htx ?_)
      rw [hholds]
      exact fun heq => huser (Option.some.inj heq).symm
  -- A transaction with the lock of another user.
  have hother : ∀ (point : TxPoint) (userId' : String), userId ≠ userId' →
      tx.point.holds = some userId' → ∀ s'' : AuthState, s''.txs = (s.move n point).txs →
        s''.holder userId = s.holder userId →
        secret.unrecorded s'' userId = secret.unrecorded s userId := by
    intro point userId' hne hholds s'' htxs hholder
    refine unrecorded_of_ne secret htxs hholder (hs.holder_ne htx ?_)
    rw [hholds]
    exact fun heq => hne (Option.some.inj heq).symm
  cases h with
  | same => exact .inl rfl
  | settle hbegun =>
      refine .inl (lockout_congr secret rfl ?_ (by cases secret <;> rfl))
      exact unrecorded_of_ne secret rfl rfl (hs.holder_ne htx (by rw [hbegun]; nofun))
  | hold userId' point hbegun free hholds quiet =>
      refine .inl (lockout_congr secret rfl ?_ (by cases secret <;> rfl))
      by_cases huser : userId = userId'
      · subst huser
        have hs' : LocksOk start (s.hold n userId point) :=
          hs.toLocksOk.hold htx (by rw [hbegun]; rfl) free hholds
        rw [unrecorded_of_free secret free, unrecorded_of_holds secret hs'
          (Objects.get_modify_of_some htx) hholds, quiet secret]
        rfl
      · refine unrecorded_of_ne secret rfl (Function.update_of_ne huser _ _) ?_
        exact hs.holder_ne htx (by rw [hbegun]; nofun)
  | rightPassword credential password hpoint =>
      refine .inl (lockout_congr secret rfl ?_ (by cases secret <;> rfl))
      refine hmove _ credential.userId (by rw [hpoint]; rfl) ?_ ?_ _ rfl rfl
      · rw [hpoint]
        cases secret <;> rfl
      · cases secret <;> rfl
  | rightCode userId' factor code method disable backupCodes hpoint =>
      refine .inl (lockout_congr secret rfl ?_ (by cases secret <;> rfl))
      refine hmove _ userId' (by rw [hpoint]; rfl) ?_ ?_ _ rfl rfl
      · rw [hpoint]
        cases secret <;> rfl
      · cases secret <;> rfl
  | wrongPassword credential password hpoint =>
      have hholds : tx.point.holds = some credential.userId := by rw [hpoint]; rfl
      cases secret with
      | password =>
          by_cases huser : userId = credential.userId
          · subst huser
            exact .inr (lockout_wrong .password hs htx hholds (by rw [hpoint]; rfl)
              (by rw [hpoint]; rfl) rfl rfl rfl rfl rfl)
          · exact .inl (lockout_congr .password rfl
              (hother _ credential.userId huser hholds _ rfl rfl)
              (filter_cons_of_ne (Ne.symm huser)))
      | code =>
          exact .inl (lockout_congr .code rfl
            (hmove _ credential.userId hholds (by rw [hpoint]; rfl) rfl _ rfl rfl) rfl)
  | wrongCode userId' factor code method disable hpoint =>
      have hholds : tx.point.holds = some userId' := by rw [hpoint]; rfl
      cases secret with
      | password =>
          exact .inl (lockout_congr .password rfl
            (hmove _ userId' hholds (by rw [hpoint]; rfl) rfl _ rfl rfl) rfl)
      | code =>
          by_cases huser : userId = userId'
          · subst huser
            exact .inr (lockout_wrong .code hs htx hholds (by rw [hpoint]; rfl)
              (by rw [hpoint]; rfl) rfl rfl rfl rfl rfl)
          · exact .inl (lockout_congr .code rfl (hother _ userId' huser hholds _ rfl rfl)
              (filter_cons_of_ne (Ne.symm huser)))
  | rollback userId' hholds quiet =>
      refine .inl (lockout_congr secret rfl ?_ (by cases secret <;> rfl))
      by_cases huser : userId = userId'
      · subst huser
        rw [unrecorded_of_free secret (holder_commit_self n s.db),
          unrecorded_of_holds secret hs.toLocksOk htx hholds, quiet secret]
        rfl
      · exact hother _ userId' huser hholds _ rfl (holder_commit_of_ne n s.db huser)
  | commit userId' hholds =>
      by_cases huser : userId = userId'
      · subst huser
        have hcleared : secret.cleared tx.point = false := by
          simpa [Secret.clears, htx, hholds] using hclears
        exact lockout_commit secret hs htx hholds hcleared
      · refine .inl (lockout_congr secret (row_write_of_ne secret hholds huser) ?_
          (by cases secret <;> rfl))
        exact hother _ userId' huser hholds _ rfl (holder_commit_of_ne n _ huser)

end LockoutSteps

/-! ### Runs -/

/-- The state of a run, and the steps of the lockout of a user so far. -/
structure RunOk (secret : Secret) (userId : String) (db : AuthDatabase) (start : ℕ)
    (s : AuthState) : Prop extends ReadsOk start s where
  steps : Relation.ReflTransGen (Lockout.Step failureLimit fiveMinutes start)
    ((secret.lockout (.idle db start) userId)) (secret.lockout s userId)

section Runs

variable {env : Environment} {secret : Secret} {userId : String} {db : AuthDatabase} {start : ℕ}
  {s : AuthState}

lemma unrecorded_add (hs : LocksOk start s) (kind : TxKind) :
    secret.unrecorded { s with txs := s.txs.add ⟨kind, s.clock, .begun⟩ } userId =
      secret.unrecorded s userId := by
  refine Option.bind_congr fun n hn => ?_
  obtain ⟨tx, htx, -⟩ := (hs.holder userId n).mp hn
  dsimp only
  rw [htx, Objects.get_add_of_some htx]

lemma runOk_step (hs : RunOk secret userId db start s) (event : AuthEvent)
    (hclears : secret.clears userId s event = false) :
    RunOk secret userId db start ((authMachine env).step s event) := by
  cases event with
  | clock now =>
      exact ⟨⟨⟨hs.holder, hs.begun, hs.clock.trans (le_max_left _ _)⟩, hs.opened, hs.pending⟩,
        by cases secret <;> exact hs.steps⟩
  | call call =>
      simp only [authMachine]
      split
      · exact hs
      · rename_i kind _
        refine ⟨hs.toReadsOk.add kind, ?_⟩
        have hlockout : secret.lockout { s with txs := s.txs.add ⟨kind, s.clock, .begun⟩ } userId =
            secret.lockout s userId :=
          lockout_congr secret rfl (unrecorded_add hs.toLocksOk kind) (by cases secret <;> rfl)
        rw [hlockout]
        exact hs.steps
  | advance n =>
      change RunOk secret userId db start (advance env s n)
      cases htx : s.txs.get n with
      | none =>
          have hsame : advance env s n = s := by
            unfold advance
            rw [htx]
          rw [hsame]
          exact hs
      | some tx =>
          have hadvanced : Advanced env s n tx (advance env s n) := advance_cases htx
          refine ⟨hadvanced.readsOk hs.toReadsOk htx, ?_⟩
          rcases hadvanced.lockout_step secret hs.toReadsOk htx hclears with hsame | hstep
          · rw [hsame]
            exact hs.steps
          · exact hs.steps.tail hstep

/-- **The guesses at a password or at a second factor**: in every interleaving of the calls from
`start` on, whatever the counter of the user is then, of the attempts that have begun up to `t` no
more than five and one for every five minutes compare a wrong password or a wrong code, as long as
no transaction commits with which a check, a reset, a change or an enrollment succeeds. -/
theorem guesses_bounded (env : Environment) (secret : Secret) (userId : String)
    (db : AuthDatabase) (start : ℕ) (events : List AuthEvent)
    (h : (authMachine env).EachStep (fun s event => secret.clears userId s event = false)
      (.idle db start) events) (t : ℕ) :
    (secret.wrong ((authMachine env).outcome (.idle db start) events)).countP
        (fun (user, startedAt) => user = userId ∧ startedAt ≤ t) ≤
      5 + (t - start) / fiveMinutes := by
  have hinitial : RunOk secret userId db start (.idle db start) := ⟨readsOk_idle db start, .refl⟩
  have halways : (authMachine env).Always (RunOk secret userId db start) (.idle db start) events :=
    EventMachine.always_of_eachStep (fun s event hs hevent => runOk_step hs event hevent) hinitial h
  have hrun := halways.outcome
  have hstart : secret.lockout (.idle db start) userId =
      ⟨(secret.row db userId).getD .clear, none, []⟩ := by
    cases secret <;> rfl
  have hsteps := hrun.steps
  rw [hstart] at hsteps
  have hbound := Lockout.starts_bounded (by decide) (by decide) hsteps t
  rw [Secret.lockout, List.countP_map, List.countP_filter] at hbound
  refine le_trans (le_of_eq (List.countP_congr fun (user, startedAt) _ => ?_)) hbound
  simp [and_comm]

end Runs

/-- Passwords are kept as they are, and no code is right. -/
def plainEnvironment : Environment where
  mfaKey := true
  passkeys := true
  normalizeEmail := id
  lower := id
  verifyPassword hash password := some (hash == password)
  checkCode _ _ _ _ := .wrong
  challengeUser challengeId := some challengeId

/-- One user with a password and a factor. -/
def oneUser : AuthDatabase where
  users := OrderedMap.empty.set "ada" ⟨"ada@example.test", true, .clear⟩
  accounts := [⟨"ada", credentialProviderId, "ada@example.test", some "a secret"⟩]
  twoFactor := OrderedMap.empty.set "ada" ⟨"factor", "[]", true, .clear⟩

/-- Two attempts at once, one of which waits for the other one, and a code. -/
def twoGuesses : List AuthEvent :=
  [.call (.signIn "ada@example.test" "a guess"), .call (.renamePasskey "ada" "key" "another"),
    .advance 0, .advance 1, .advance 0, .advance 0, .clock 10, .advance 1, .advance 1,
    .call (.verifyMfaChallenge "ada" "123456" .totp), .advance 1, .advance 2, .advance 2]

theorem guesses_bounded_two :
    (Secret.password.wrong
        ((authMachine plainEnvironment).outcome (.idle oneUser 3) twoGuesses)).countP
      (fun (user, startedAt) => user = "ada" ∧ startedAt ≤ 20) ≤ 5 + (20 - 3) / fiveMinutes :=
  guesses_bounded plainEnvironment .password "ada" oneUser 3 twoGuesses (by decide) 20

example : (Secret.password.wrong
      ((authMachine plainEnvironment).outcome (.idle oneUser 3) twoGuesses),
    Secret.code.wrong ((authMachine plainEnvironment).outcome (.idle oneUser 3) twoGuesses)) =
      ([("ada", 3), ("ada", 3)], [("ada", 10)]) := by
  decide

end Opzava.IdentityAccess.AuthPort
