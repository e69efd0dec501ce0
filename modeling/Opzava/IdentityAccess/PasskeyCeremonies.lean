import Opzava.Library.ReadCommitted

/-!
The transactions that finish a passkey ceremony (`adapters/better-auth/auth-port-adapter.ts`).

* `PasskeyTables`: the challenges, the passkeys, the sessions and the memberships.
* `select`, `consume`, `validate`, `finish`: the statements of `finishPasskeyAssertion` and
  `finishPasskeyEnrollment`, with the tests between them.
* `ceremonyProgram`: any number of these transactions, statement by statement.
-/

namespace Opzava.IdentityAccess.Passkeys

open Opzava.Library.ReadCommitted

/-! ### Rows -/

inductive ChallengePurpose
  | registration
  | authentication
  | stepUp
  deriving DecidableEq

/-- A row of `auth_passkey_challenges`, with its check. -/
structure PasskeyChallenge where
  purpose : ChallengePurpose
  salt : String
  challengeHash : String
  userId : Option String
  sessionId : Option String
  activeOrganizationId : Option String
  membershipVersion : Option ℤ
  expiresAt : ℤ
  usedAt : Option ℤ
  bound : if purpose = .authentication then userId = none ∧ sessionId = none
    else userId.isSome ∧ sessionId.isSome ∧ activeOrganizationId.isSome ∧ membershipVersion.isSome
  deriving DecidableEq

/-- A row of `auth_passkeys`, with its check. -/
structure Passkey where
  id : String
  userId : String
  publicKey : String
  counter : ℤ
  deviceType : String
  backedUp : Bool
  lastUsedAt : Option ℤ
  nonneg : 0 ≤ counter
  deriving DecidableEq

/-- A row of `auth_sessions`. -/
structure Session where
  userId : String
  activeOrganizationId : Option String
  membershipVersion : Option ℤ
  expiresAt : ℤ
  mfaSatisfiedAt : Option ℤ
  deriving DecidableEq

/-- A row of `memberships`; it counts if it is active, and its organization is being provisioned or
active. -/
structure Membership where
  userId : String
  organizationId : String
  membershipVersion : ℤ
  counts : Bool
  deriving DecidableEq

/-- The tables: the challenges by `challenge_lookup_digest`, the passkeys by `credential_id`, the
sessions by `id`, and the memberships in the order of `created_at` and `organization_id`. The last
field has the counters of the accepted assertions, the last one first. -/
structure PasskeyTables where
  challenges : String → Option PasskeyChallenge
  passkeys : String → Option Passkey
  sessions : String → Option Session
  memberships : List Membership
  asserted : List (String × ℤ)

/-! ### What is called -/

/-- `PasskeyResponse`, whose `id` may be no string. -/
structure PasskeyResponse where
  id : Option String
  body : String
  deriving DecidableEq

structure AuthenticationAnswer where
  verified : Bool
  userVerified : Bool
  newCounter : ℤ
  credentialDeviceType : String
  credentialBackedUp : Bool

structure RegistrationAnswer where
  verified : Bool
  userVerified : Bool
  credentialId : String
  publicKey : String
  counter : ℤ
  credentialDeviceType : String
  credentialBackedUp : Bool

/-- The digests, and the verifications, which may throw. There is no lookup digest without a key. -/
structure PasskeyPort where
  tokenLookupDigest : String → Option String
  saltedTokenDigest : String → String → String
  verifyAuthenticationResponse : PasskeyResponse → String → Passkey → Option AuthenticationAnswer
  verifyRegistrationResponse : PasskeyResponse → String → Option RegistrationAnswer

/-- A call of `finishPasskeySignIn`, `finishPasskeyStepUp` or `finishPasskeyEnrollment`. -/
inductive Ceremony
  | signIn (challengeId : String) (response : PasskeyResponse)
  | stepUp (challengeId : String) (response : PasskeyResponse) (userId sessionId : String)
  | enrollment (challengeId : String) (response : PasskeyResponse)
  deriving DecidableEq

namespace Ceremony

def challengeId : Ceremony → String
  | signIn challengeId _ => challengeId
  | stepUp challengeId _ _ _ => challengeId
  | enrollment challengeId _ => challengeId

def response : Ceremony → PasskeyResponse
  | signIn _ response => response
  | stepUp _ response _ _ => response
  | enrollment _ response => response

def purpose : Ceremony → ChallengePurpose
  | signIn _ _ => .authentication
  | stepUp _ _ _ _ => .stepUp
  | enrollment _ _ => .registration

/-- A response to an assertion without a string as its id is refused before the transaction. -/
def isNamed : Ceremony → Bool
  | signIn _ response => response.id.isSome
  | stepUp _ response _ _ => response.id.isSome
  | enrollment _ _ => true

end Ceremony

/-! ### Transactions -/

inductive PasskeyLock
  | challenge (lookup : String)
  | session (id : String)
  | user (id : String)
  | passkey (credentialId : String)
  deriving DecidableEq

/-- `activePasskeySession` gives an organization and a membership version. -/
structure ActiveSession where
  organizationId : String
  membershipVersion : ℤ
  deriving DecidableEq

inductive CeremonyPhase
  | begun
  | selected (lookup : String) (challenge : PasskeyChallenge)
  | consumed (lookup : String) (challenge : PasskeyChallenge)
  | validated (lookup : String) (challenge : PasskeyChallenge) (active : Option ActiveSession)
  | refused
  | accepted
  | thrown
  deriving DecidableEq

/-- A transaction, with its locks and its writes. `now` is the time at which it has begun,
`verifiedAt` the time of the process, and `newSessionId` a random id. -/
structure CeremonyTx where
  ceremony : Ceremony
  now : ℤ
  verifiedAt : ℤ
  newSessionId : String
  newSessionExpiresAt : ℤ
  newPasskeyId : String
  phase : CeremonyPhase
  held : List PasskeyLock
  usedChallenge : Option String
  passkeyWrite : Option (String × Passkey)
  sessionWrite : Option (String × Session)
  assertion : Option (String × ℤ)
  deriving DecidableEq

namespace CeremonyTx

/-- `return null`: what is written is committed. -/
def refuse (tx : CeremonyTx) : CeremonyTx := { tx with phase := .refused }

/-- An exception: the transaction is rolled back. -/
def throw (tx : CeremonyTx) : CeremonyTx := { tx with phase := .thrown }

def lock (tx : CeremonyTx) (locks : List PasskeyLock) : CeremonyTx :=
  { tx with held := locks ++ tx.held }

def enter (tx : CeremonyTx) (phase : CeremonyPhase) : CeremonyTx := { tx with phase := phase }

end CeremonyTx

/-- The row is unused and not expired. -/
def isLive (now : ℤ) (challenge : PasskeyChallenge) : Bool :=
  challenge.usedAt.isNone && now < challenge.expiresAt

/-- The row is the presented challenge, and has the purpose of the ceremony. -/
def presents (port : PasskeyPort) (ceremony : Ceremony) (challenge : PasskeyChallenge) : Bool :=
  challenge.purpose = ceremony.purpose &&
    challenge.challengeHash = port.saltedTokenDigest challenge.salt ceremony.challengeId

/-- The challenge of an enrollment has a user and a session. -/
def hasSession (ceremony : Ceremony) (challenge : PasskeyChallenge) : Bool :=
  match ceremony with
  | .enrollment _ _ => challenge.userId.isSome && challenge.sessionId.isSome
  | _ => true

/-- `select … from auth_passkey_challenges … for update`. -/
def select (port : PasskeyPort) (tables : PasskeyTables) (tx : CeremonyTx) : CeremonyTx :=
  match port.tokenLookupDigest tx.ceremony.challengeId with
  | none => tx.refuse
  | some lookup =>
      if !tx.ceremony.isNamed then tx.refuse
      else
        match tables.challenges lookup with
        | none => tx.refuse
        | some challenge =>
            if !isLive tx.now challenge then tx.refuse
            else if !presents port tx.ceremony challenge || !hasSession tx.ceremony challenge then
              (tx.lock [.challenge lookup]).refuse
            else (tx.lock [.challenge lookup]).enter (.selected lookup challenge)

/-- `update auth_passkey_challenges set used_at = now()`. -/
def consume (tables : PasskeyTables) (tx : CeremonyTx) (lookup : String)
    (challenge : PasskeyChallenge) : CeremonyTx :=
  if (tables.challenges lookup).any (isLive tx.now) then
    { tx with phase := .consumed lookup challenge, usedChallenge := some lookup }
  else tx.refuse

/-- The session of a user, if it is not expired. -/
def liveSession (tables : PasskeyTables) (now : ℤ) (userId sessionId : String) : Option Session :=
  (tables.sessions sessionId).filter fun session =>
    session.userId = userId && now < session.expiresAt

def activePasskeySession (tables : PasskeyTables) (now : ℤ) (userId sessionId : String) :
    Option ActiveSession :=
  (liveSession tables now userId sessionId).bind fun session =>
    match session.activeOrganizationId, session.membershipVersion with
    | some organizationId, some membershipVersion =>
        if tables.memberships.any fun membership => membership.userId = userId &&
            membership.organizationId = organizationId &&
            membership.membershipVersion = membershipVersion && membership.counts
        then some ⟨organizationId, membershipVersion⟩
        else none
    | _, _ => none

/-- The locks of `select … for update of s, u`. -/
def sessionLocks (tables : PasskeyTables) (now : ℤ) (userId sessionId : String) :
    List PasskeyLock :=
  if (liveSession tables now userId sessionId).isSome then [.session sessionId, .user userId]
  else []

/-- The organization and the membership version are those of the challenge. -/
def isPinned (challenge : PasskeyChallenge) (active : ActiveSession) : Bool :=
  challenge.activeOrganizationId = some active.organizationId &&
    challenge.membershipVersion = some active.membershipVersion

/-- The session a ceremony is bound to is looked up. -/
def validate (tables : PasskeyTables) (tx : CeremonyTx) (lookup : String)
    (challenge : PasskeyChallenge) : CeremonyTx :=
  match tx.ceremony with
  | .signIn _ _ => tx.enter (.validated lookup challenge none)
  | .stepUp _ _ userId sessionId =>
      let active := activePasskeySession tables tx.now userId sessionId
      let locked := tx.lock (sessionLocks tables tx.now userId sessionId)
      if challenge.userId ≠ some userId || challenge.sessionId ≠ some sessionId ||
          !active.any (isPinned challenge)
      then locked.refuse
      else locked.enter (.validated lookup challenge active)
  | .enrollment _ _ =>
      match challenge.userId, challenge.sessionId with
      | some userId, some sessionId =>
          let active := activePasskeySession tables tx.now userId sessionId
          let locked := tx.lock (sessionLocks tables tx.now userId sessionId)
          if !active.any (isPinned challenge) then locked.refuse
          else locked.enter (.validated lookup challenge active)
      | _, _ => tx.refuse

/-- `Number.MAX_SAFE_INTEGER`. -/
def maxSafeInteger : ℤ := 2 ^ 53 - 1

/-- The membership a sign-in is for. -/
def firstMembership (tables : PasskeyTables) (userId : String) : Option ActiveSession :=
  (tables.memberships.find? fun membership => membership.userId = userId && membership.counts).map
    fun membership => ⟨membership.organizationId, membership.membershipVersion⟩

/-- What the ceremony does with the session: a step-up marks its own, a sign-in inserts one. -/
def writeSession (tables : PasskeyTables) (tx : CeremonyTx) (userId : String)
    (active : ActiveSession) : CeremonyTx :=
  match tx.ceremony with
  | .stepUp _ _ _ sessionId =>
      match tables.sessions sessionId with
      | some session =>
          if session.userId = userId then
            { tx with
              phase := .accepted
              sessionWrite := some (sessionId, { session with
                mfaSatisfiedAt := some tx.verifiedAt }) }
          else tx.enter .accepted
      | none => tx.enter .accepted
  | _ =>
      if (tables.sessions tx.newSessionId).isSome then tx.throw
      else
        { tx.lock [.session tx.newSessionId] with
          phase := .accepted
          sessionWrite := some (tx.newSessionId,
            ⟨userId, some active.organizationId, some active.membershipVersion,
              tx.newSessionExpiresAt, some tx.verifiedAt⟩) }

/-- `update auth_passkeys …`, with the tests of the answer before it. -/
def advance (tables : PasskeyTables) (tx : CeremonyTx) (credentialId : String)
    (credential : Passkey) (active : ActiveSession) (answer : AuthenticationAnswer) : CeremonyTx :=
  if !answer.verified || !answer.userVerified ||
      (answer.newCounter ≠ 0 && answer.newCounter ≤ credential.counter)
  then tx.refuse
  else if !(credential.counter = 0 || answer.newCounter > credential.counter) then tx.refuse
  else if h : 0 ≤ answer.newCounter then
    writeSession tables
      { tx with
        passkeyWrite := some (credentialId, { credential with
          counter := answer.newCounter
          deviceType := answer.credentialDeviceType
          backedUp := answer.credentialBackedUp
          lastUsedAt := some tx.now
          nonneg := h })
        assertion := some (credentialId, answer.newCounter) } credential.userId active
  else tx.throw

/-- The user and the session a step-up is for. -/
def Ceremony.session : Ceremony → Option (String × String)
  | .stepUp _ _ userId sessionId => some (userId, sessionId)
  | _ => none

/-- `select … from auth_passkeys … for update`, and the assertion. -/
def assertPasskey (port : PasskeyPort) (tables : PasskeyTables) (tx : CeremonyTx)
    (challenge : PasskeyChallenge) (prevalidated : Option ActiveSession) : CeremonyTx :=
  match tx.ceremony.response.id with
  | none => tx.refuse
  | some credentialId =>
      match tables.passkeys credentialId with
      | none => tx.refuse
      | some credential =>
          let locked := tx.lock [.passkey credentialId]
          if maxSafeInteger < credential.counter then locked.refuse
          else if tx.ceremony.session.any fun session => challenge.userId ≠ some session.1 ||
              challenge.sessionId ≠ some session.2 || credential.userId ≠ session.1
          then locked.refuse
          else
            let active := if tx.ceremony.session.isSome then prevalidated
              else firstMembership tables credential.userId
            match active with
            | none => locked.refuse
            | some active =>
                if challenge.activeOrganizationId.isSome && !isPinned challenge active then
                  locked.refuse
                else
                  match port.verifyAuthenticationResponse tx.ceremony.response
                      tx.ceremony.challengeId credential with
                  | none => locked.throw
                  | some answer => advance tables locked credentialId credential active answer

/-- `insert into auth_passkeys`; a credential that is there already violates the index. -/
def register (port : PasskeyPort) (tables : PasskeyTables) (tx : CeremonyTx)
    (challenge : PasskeyChallenge) : CeremonyTx :=
  match port.verifyRegistrationResponse tx.ceremony.response tx.ceremony.challengeId with
  | none => tx.throw
  | some info =>
      if !info.verified || !info.userVerified then tx.refuse
      else
        match challenge.userId, tables.passkeys info.credentialId with
        | some userId, none =>
            if h : 0 ≤ info.counter then
              { tx.lock [.passkey info.credentialId] with
                phase := .accepted
                passkeyWrite := some (info.credentialId, ⟨tx.newPasskeyId, userId, info.publicKey,
                  info.counter, info.credentialDeviceType, info.credentialBackedUp, none, h⟩) }
            else tx.throw
        | _, _ => tx.throw

def finish (port : PasskeyPort) (tables : PasskeyTables) (tx : CeremonyTx)
    (challenge : PasskeyChallenge) (active : Option ActiveSession) : CeremonyTx :=
  match tx.ceremony with
  | .enrollment _ _ => register port tables tx challenge
  | _ => assertPasskey port tables tx challenge active

/-! ### The program -/

def CeremonyTx.begins (tx : CeremonyTx) : Bool :=
  tx.phase = .begun && tx.held = [] && tx.usedChallenge = none && tx.passkeyWrite = none &&
    tx.sessionWrite = none && tx.assertion = none

def ceremonyStatement (port : PasskeyPort) (tables : PasskeyTables) (tx : CeremonyTx) :
    CeremonyTx :=
  match tx.phase with
  | .begun => select port tables tx
  | .selected lookup challenge => consume tables tx lookup challenge
  | .consumed lookup challenge => validate tables tx lookup challenge
  | .validated _ challenge active => finish port tables tx challenge active
  | .refused | .accepted | .thrown => tx

/-- One row is written. -/
def writeRow {ρ : Type} (rows : String → Option ρ) : Option (String × ρ) → String → Option ρ
  | some (id, row) => Function.update rows id (some row)
  | none => rows

def CeremonyTx.commit (tx : CeremonyTx) (tables : PasskeyTables) : PasskeyTables where
  challenges := match tx.usedChallenge with
    | some lookup => Function.update tables.challenges lookup
        ((tables.challenges lookup).map fun challenge => { challenge with usedAt := some tx.now })
    | none => tables.challenges
  passkeys := writeRow tables.passkeys tx.passkeyWrite
  sessions := writeRow tables.sessions tx.sessionWrite
  memberships := tables.memberships
  asserted := tx.assertion.toList ++ tables.asserted

/-- An exception leaves nothing to commit: such a transaction can only be rolled back. -/
def ceremonyProgram (port : PasskeyPort) : Program PasskeyTables CeremonyTx PasskeyLock where
  initial _ tx := tx.begins
  statement := ceremonyStatement port
  locks tx := tx.held
  finished tx := tx.phase = .refused || tx.phase = .accepted
  commit := CeremonyTx.commit

end Opzava.IdentityAccess.Passkeys
