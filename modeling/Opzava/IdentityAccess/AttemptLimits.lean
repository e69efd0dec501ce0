import Opzava.Library.EventMachine
import Opzava.Library.JavaScript
import Opzava.Library.Lockout
import Opzava.Library.Objects
import Opzava.Library.OrderedMap

/-!
The attempts at a password and at a second factor (`adapters/better-auth/auth-port-adapter.ts`),
with the transactions they run in.

Every transaction locks the row of its user first and holds it until it commits; `now()` is when
it has begun.

* `AuthCall.transaction`: what a call of the port begins.
* `firstStatement`: the lock, and what is read under it.
* `advance`: the statements of a transaction, and the comparison between them.
* `authMachine`: any interleaving of transactions.
-/

namespace Opzava.IdentityAccess.AuthPort

open Opzava.Library

/-! ### The database -/

/-- A row of `auth_users`; the counter is `password_failed_count` and `password_locked_until`. -/
structure AuthUser where
  email : String
  twoFactorEnabled : Bool
  passwordFailures : FailureCounter

structure AuthAccount where
  userId : String
  providerId : String
  accountId : String
  password : Option String

/-- A row of `auth_two_factor`; the counter is `failed_verification_count` and `locked_until`. -/
structure AuthTwoFactor where
  secret : String
  backupCodes : String
  verified : Bool
  failures : FailureCounter

/-- The tables, by the ids of the users. -/
structure AuthDatabase where
  users : OrderedMap String AuthUser
  accounts : List AuthAccount
  twoFactor : OrderedMap String AuthTwoFactor

namespace AuthDatabase

/-- `update public.auth_users … where id = …`. -/
def updateUser (db : AuthDatabase) (userId : String) (f : AuthUser → AuthUser) : AuthDatabase :=
  match db.users.get userId with
  | some user => { db with users := db.users.set userId (f user) }
  | none => db

/-- `update public.auth_two_factor … where user_id = …`. -/
def updateTwoFactor (db : AuthDatabase) (userId : String) (f : AuthTwoFactor → AuthTwoFactor) :
    AuthDatabase :=
  match db.twoFactor.get userId with
  | some factor => { db with twoFactor := db.twoFactor.set userId (f factor) }
  | none => db

end AuthDatabase

/-- `interval '5 minutes'`, in microseconds. -/
def fiveMinutes : ℕ := 5 * 60 * 1000000

/-- The failures from which on an account, or a factor, is locked. -/
def failureLimit : ℕ := 5

def AuthUser.recordFailure (now : ℕ) (user : AuthUser) : AuthUser :=
  { user with passwordFailures := user.passwordFailures.fail failureLimit fiveMinutes now }

def AuthUser.clearFailures (user : AuthUser) : AuthUser :=
  { user with passwordFailures := .clear }

def AuthTwoFactor.recordFailure (now : ℕ) (factor : AuthTwoFactor) : AuthTwoFactor :=
  { factor with failures := factor.failures.fail failureLimit fiveMinutes now }

/-! ### The statements -/

inductive FactorMethod
  | totp
  | recoveryCode
  deriving DecidableEq

/-- What a code is found to be. -/
inductive CodeCheck
  | thrown
  | wrong
  | right (backupCodes : String)

/-- What the adapter is configured with, and the cryptography. A comparison that throws gives
`none`, or `thrown`. -/
structure Environment where
  mfaKey : Bool
  passkeys : Bool
  normalizeEmail : String → String
  /-- `lower(…)` of the database. -/
  lower : String → String
  verifyPassword : String → String → Option Bool
  /-- The check of a code against a factor at a time. -/
  checkCode : FactorMethod → AuthTwoFactor → String → ℕ → CodeCheck
  /-- The user of a challenge that is open. -/
  challengeUser : String → Option String

inductive CredentialKey
  | email (email : String)
  | userId (userId : String)

structure CredentialRow where
  userId : String
  email : String
  passwordHash : String
  twoFactorEnabled : Bool
  passwordLocked : Bool

def credentialProviderId : String := "credential"

/-- The rows of the join that the key selects. -/
def CredentialKey.selects (lower : String → String) (key : CredentialKey) (userId : String)
    (user : AuthUser) (account : AuthAccount) : Bool :=
  account.userId = userId && account.providerId = credentialProviderId &&
    match key with
    | .email address => lower user.email = address && account.accountId = address
    | .userId id => userId = id

def selectCredentialForPasswordAttempt (lower : String → String) (key : CredentialKey) (now : ℕ)
    (db : AuthDatabase) : Option CredentialRow :=
  (db.users.entries.findSome? fun (userId, user) =>
    (db.accounts.find? (key.selects lower userId user)).map (userId, user, ·)).bind
      fun (userId, user, account) => account.password.map fun passwordHash =>
        ⟨userId, user.email, passwordHash, user.twoFactorEnabled,
          user.passwordFailures.lockedAt now⟩

/-! ### The calls -/

/-- What a transaction is for. -/
inductive TxKind
  | passwordAttempt (key : CredentialKey) (password : String)
  | factorAttempt (userId : String) (code : String) (method : FactorMethod) (disable : Bool)
  | resetPassword (userId : String) (newHash : Option String)
  | changePassword (userId : String) (newHash : String)
  | startEnrollment (userId : String) (secret : String)
  | enableMfa (userId : String) (backupCodes : String)

/-- The calls of the port. Those that need a password begin with `verifyPasswordAttempt`, and what
they do after it is another call here; a reset has a token that matches. -/
inductive AuthCall
  | signIn (email password : String)
  | startMfaEnrollment (userId password : String)
  | startPasskeyEnrollment (userId password : String)
  | renamePasskey (userId name password : String)
  | revokePasskey (userId password : String)
  | changePassword (userId currentPassword newPassword : String)
  | verifyMfaChallenge (challengeId code : String) (method : FactorMethod)
  | disableMfa (userId code : String) (method : FactorMethod)
  | resetPassword (userId newPassword newHash : String)
  | passwordChanged (userId newHash : String)
  | enrollmentStarted (userId secret : String)
  | enableMfa (userId backupCodes : String)

def minimumPasswordLength : ℕ := 12

/-- The transaction of a call, unless it is refused before. -/
def AuthCall.transaction (env : Environment) : AuthCall → Option TxKind
  | .signIn email password => some (.passwordAttempt (.email (env.normalizeEmail email)) password)
  | .startMfaEnrollment userId password =>
      if env.mfaKey then some (.passwordAttempt (.userId userId) password) else none
  | .startPasskeyEnrollment userId password =>
      if env.passkeys then some (.passwordAttempt (.userId userId) password) else none
  | .renamePasskey userId name password =>
      if env.passkeys ∧ jsTrim name.toList ≠ [] then
        some (.passwordAttempt (.userId userId) password)
      else none
  | .revokePasskey userId password =>
      if env.passkeys then some (.passwordAttempt (.userId userId) password) else none
  | .changePassword userId currentPassword newPassword =>
      if jsLength newPassword < minimumPasswordLength then none
      else some (.passwordAttempt (.userId userId) currentPassword)
  | .verifyMfaChallenge challengeId code method =>
      (env.challengeUser challengeId).map (.factorAttempt · code method false)
  | .disableMfa userId code method => some (.factorAttempt userId code method true)
  | .resetPassword userId newPassword newHash =>
      some (.resetPassword userId
        (if jsLength newPassword < minimumPasswordLength then none else some newHash))
  | .passwordChanged userId newHash => some (.changePassword userId newHash)
  | .enrollmentStarted userId secret => some (.startEnrollment userId secret)
  | .enableMfa userId backupCodes => some (.enableMfa userId backupCodes)

/-! ### The transactions -/

/-- Where a transaction is; from its first statement on it has the lock of its user. -/
inductive TxPoint
  | begun
  | comparing (credential : CredentialRow) (password : String)
  | mismatched (userId : String)
  | authenticated (userId : String)
  | comparingCode (userId : String) (factor : AuthTwoFactor) (code : String)
      (method : FactorMethod) (disable : Bool)
  | wrongCode (userId : String)
  | rightCode (userId : String) (backupCodes : String) (disable : Bool)
  | resetting (userId : String) (newHash : Option String)
  | changing (userId : String) (newHash : String)
  | enrolling (userId : String) (secret : String)
  | enabling (userId : String) (backupCodes : String)
  | settled

/-- The user whose row is locked. -/
def TxPoint.holds : TxPoint → Option String
  | .begun | .settled => none
  | .comparing credential _ => some credential.userId
  | .mismatched userId | .authenticated userId | .comparingCode userId _ _ _ _ | .wrongCode userId
  | .rightCode userId _ _ | .resetting userId _ | .changing userId _ | .enrolling userId _
  | .enabling userId _ => some userId

structure AuthTx where
  kind : TxKind
  startedAt : ℕ
  point : TxPoint

/-- The database, the transactions and the locks of the rows of `auth_users`. What was compared is
kept with the user and the beginning of the transaction, and no step reads it. -/
structure AuthState where
  db : AuthDatabase
  txs : Objects AuthTx
  holder : String → Option ℕ
  clock : ℕ
  wrongPasswords : List (String × ℕ)
  wrongCodes : List (String × ℕ)

namespace AuthState

def idle (db : AuthDatabase) (clock : ℕ) : AuthState := ⟨db, .empty, fun _ => none, clock, [], []⟩

/-- A transaction goes on. -/
def move (s : AuthState) (n : ℕ) (point : TxPoint) : AuthState :=
  { s with txs := s.txs.modify n fun tx => { tx with point := point } }

/-- A transaction has the lock of a user. -/
def hold (s : AuthState) (n : ℕ) (userId : String) (point : TxPoint) : AuthState :=
  { s.move n point with holder := Function.update s.holder userId (some n) }

/-- A transaction commits, or rolls back, and gives the lock back. -/
def commit (s : AuthState) (n : ℕ) (userId : String) (db : AuthDatabase) : AuthState :=
  { s.move n .settled with db := db, holder := Function.update s.holder userId none }

/-- The first statement of a transaction locks the row of a user, for which it waits while another
one has the lock, and what it reads then says where it goes on, if it does. -/
def lockUser (s : AuthState) (n : ℕ) (userId : String) (next : Option TxPoint) : AuthState :=
  if (s.holder userId).isSome then s
  else
    match next with
    | none => s.move n .settled
    | some point => s.hold n userId point

end AuthState

/-- The first statement of a transaction, and the factor that is read after it. -/
def firstStatement (env : Environment) (s : AuthState) (n : ℕ) (tx : AuthTx) : AuthState :=
  match tx.kind with
  | .passwordAttempt key password =>
      match selectCredentialForPasswordAttempt env.lower key tx.startedAt s.db with
      | none => s.move n .settled
      | some credential =>
          s.lockUser n credential.userId
            (if credential.passwordLocked then none else some (.comparing credential password))
  | .factorAttempt userId code method disable =>
      if s.db.users.has userId then
        s.lockUser n userId <|
          match s.db.twoFactor.get userId with
          | none => none
          | some factor =>
              if !factor.verified || factor.failures.lockedAt tx.startedAt then none
              else some (.comparingCode userId factor code method disable)
      else s.move n .settled
  | .resetPassword userId newHash =>
      match s.db.users.get userId with
      | none => s.move n .settled
      | some user =>
          s.lockUser n userId
            (if user.passwordFailures.lockedAt tx.startedAt then none
            else some (.resetting userId newHash))
  | .changePassword userId newHash =>
      if s.db.users.has userId then s.lockUser n userId (some (.changing userId newHash))
      else s.move n .settled
  | .startEnrollment userId secret =>
      if s.db.users.has userId then s.lockUser n userId (some (.enrolling userId secret))
      else s.move n .settled
  | .enableMfa userId backupCodes =>
      if s.db.users.has userId then s.lockUser n userId (some (.enabling userId backupCodes))
      else s.move n .settled

/-- `update public.auth_accounts set password = …`, and the counter. -/
def setPassword (userId newHash : String) (db : AuthDatabase) : AuthDatabase :=
  let accounts := db.accounts.map fun account : AuthAccount =>
    if account.userId = userId ∧ account.providerId = credentialProviderId then
      { account with password := some newHash }
    else account
  { db with accounts := accounts }.updateUser userId AuthUser.clearFailures

/-- The factor of an enrollment, which replaces one that is not verified. -/
def enroll (userId secret : String) (db : AuthDatabase) : AuthDatabase :=
  if (db.twoFactor.get userId).any (·.verified) then db
  else { db with twoFactor := db.twoFactor.set userId ⟨secret, "[]", false, .clear⟩ }

/-- The factor is verified with its first code, and the user has two factors. -/
def enableFactor (userId backupCodes : String) (db : AuthDatabase) : AuthDatabase :=
  if (db.twoFactor.get userId).any (!·.verified) then
    (db.updateTwoFactor userId fun factor =>
      { factor with backupCodes := backupCodes, verified := true }).updateUser userId fun user =>
        { user with twoFactorEnabled := true }
  else db

/-- A code was right: the factor is kept, or deleted. -/
def acceptCode (userId backupCodes : String) (disable : Bool) (db : AuthDatabase) :
    AuthDatabase :=
  if disable then
    { db with twoFactor := db.twoFactor.delete userId }.updateUser userId fun user =>
      { user with twoFactorEnabled := false }
  else
    db.updateTwoFactor userId fun factor =>
      { factor with backupCodes := backupCodes, failures := .clear }

/-- The last statement of a transaction. -/
def TxPoint.write (now : ℕ) : TxPoint → AuthDatabase → AuthDatabase
  | .mismatched userId, db => db.updateUser userId (AuthUser.recordFailure now)
  | .authenticated userId, db => db.updateUser userId AuthUser.clearFailures
  | .wrongCode userId, db => db.updateTwoFactor userId (AuthTwoFactor.recordFailure now)
  | .rightCode userId backupCodes disable, db => acceptCode userId backupCodes disable db
  -- The policy is checked after the token, and counts as a failure.
  | .resetting userId none, db => db.updateUser userId (AuthUser.recordFailure now)
  | .resetting userId (some newHash), db => setPassword userId newHash db
  | .changing userId newHash, db => setPassword userId newHash db
  | .enrolling userId secret, db => enroll userId secret db
  | .enabling userId backupCodes, db => enableFactor userId backupCodes db
  | .begun, db | .comparing _ _, db | .comparingCode _ _ _ _ _, db | .settled, db => db

/-- What a transaction does next: its first statement, its comparison, or its last statement with
the commit. -/
def advance (env : Environment) (s : AuthState) (n : ℕ) : AuthState :=
  match s.txs.get n with
  | none => s
  | some tx =>
      match tx.point with
      | .begun => firstStatement env s n tx
      | .comparing credential password =>
          match env.verifyPassword credential.passwordHash password with
          | none => s.commit n credential.userId s.db
          | some true => s.move n (.authenticated credential.userId)
          | some false =>
              { s.move n (.mismatched credential.userId) with
                wrongPasswords := (credential.userId, tx.startedAt) :: s.wrongPasswords }
      | .comparingCode userId factor code method disable =>
          match env.checkCode method factor code s.clock with
          | .thrown => s.commit n userId s.db
          | .right backupCodes => s.move n (.rightCode userId backupCodes disable)
          | .wrong =>
              { s.move n (.wrongCode userId) with
                wrongCodes := (userId, tx.startedAt) :: s.wrongCodes }
      | point =>
          match point.holds with
          | none => s
          | some userId => s.commit n userId (point.write tx.startedAt s.db)

/-! ### The machine -/

inductive AuthEvent
  | clock (now : ℕ)
  | call (call : AuthCall)
  | advance (n : ℕ)

/-- Any interleaving of the transactions of any calls. -/
def authMachine (env : Environment) : EventMachine AuthState AuthEvent where
  step s event :=
    match event with
    | .clock now => { s with clock := max s.clock now }
    | .call call =>
        match call.transaction env with
        | none => s
        | some kind => { s with txs := s.txs.add ⟨kind, s.clock, .begun⟩ }
    | .advance n => advance env s n

end Opzava.IdentityAccess.AuthPort
