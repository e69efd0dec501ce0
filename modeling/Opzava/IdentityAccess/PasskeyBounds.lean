import Opzava.IdentityAccess.PasskeyCeremonies

/-!
What the passkey ceremonies are bound to, in every interleaving.

* `Locked`, `TxOk`: what a transaction knows of the rows that it has locked.
* `ceremony_invariant`: this is kept by every statement and beside every commit.
* `CommitOk`: what a ceremony that commits has done.
* `passkey_ceremonies_are_bound`: every commit of every run, and the counters of a run.
* `passkey_refusal_without_id`: a response without an id leaves its challenge unused.
-/

namespace Opzava.IdentityAccess.Passkeys

open Opzava.Library.ReadCommitted

/-! ### What a transaction knows -/

/-- The rows that a transaction has written are locked. -/
structure Locked (tx : CeremonyTx) : Prop where
  challenge : ∀ lookup, tx.usedChallenge = some lookup → .challenge lookup ∈ tx.held
  passkey : ∀ id row, tx.passkeyWrite = some (id, row) → .passkey id ∈ tx.held
  session : ∀ id row, tx.sessionWrite = some (id, row) → .session id ∈ tx.held

/-- Nothing but the challenge is written. -/
structure Unwritten (tx : CeremonyTx) : Prop where
  passkey : tx.passkeyWrite = none
  session : tx.sessionWrite = none
  assertion : tx.assertion = none

/-- The row of the challenge is locked, and it is the presented one. -/
structure HoldsChallenge (port : PasskeyPort) (tables : PasskeyTables) (tx : CeremonyTx)
    (lookup : String) (challenge : PasskeyChallenge) : Prop where
  held : .challenge lookup ∈ tx.held
  digest : port.tokenLookupDigest tx.ceremony.challengeId = some lookup
  stored : tables.challenges lookup = some challenge
  presented : presents port tx.ceremony challenge = true
  live : isLive tx.now challenge = true

/-- The row of the session that the challenge was issued to is locked, with the organization and the
membership version of the challenge. -/
def HoldsSession (tables : PasskeyTables) (tx : CeremonyTx) (challenge : PasskeyChallenge)
    (userId sessionId : String) : Prop :=
  challenge.userId = some userId ∧ challenge.sessionId = some sessionId ∧
    .session sessionId ∈ tx.held ∧ ∃ session, tables.sessions sessionId = some session ∧
      session.userId = userId ∧ session.activeOrganizationId = challenge.activeOrganizationId ∧
      session.membershipVersion = challenge.membershipVersion

/-- The challenge that was presented is used, or will be by this transaction. -/
def Spent (port : PasskeyPort) (tables : PasskeyTables) (tx : CeremonyTx) : Prop :=
  tx.ceremony.isNamed = true → ∀ lookup challenge,
    port.tokenLookupDigest tx.ceremony.challengeId = some lookup →
    tables.challenges lookup = some challenge → presents port tx.ceremony challenge = true →
    tx.now < challenge.expiresAt → challenge.usedAt ≠ none ∨ tx.usedChallenge = some lookup

/-- A passkey is written with a counter that an assertion has given. -/
structure Advances (tables : PasskeyTables) (tx : CeremonyTx) (credentialId : String)
    (credential passkey : Passkey) : Prop where
  held : .passkey credentialId ∈ tx.held
  stored : tables.passkeys credentialId = some credential
  written : tx.passkeyWrite = some (credentialId, passkey)
  asserted : tx.assertion = some (credentialId, passkey.counter)
  owner : passkey.userId = credential.userId
  counter : credential.counter < passkey.counter ∨
    (credential.counter = 0 ∧ passkey.counter = 0)

/-- What an accepted ceremony has written. -/
def Accepted (tables : PasskeyTables) (tx : CeremonyTx) (challenge : PasskeyChallenge) : Prop :=
  match tx.ceremony with
  | .signIn _ _ => ∃ credentialId credential passkey session,
      Advances tables tx credentialId credential passkey ∧
        tx.sessionWrite = some (tx.newSessionId, session) ∧
        tables.sessions tx.newSessionId = none ∧ session.userId = credential.userId
  | .stepUp _ _ userId sessionId => ∃ credentialId credential passkey session,
      Advances tables tx credentialId credential passkey ∧ credential.userId = userId ∧
        HoldsSession tables tx challenge userId sessionId ∧
        tables.sessions sessionId = some session ∧
        tx.sessionWrite = some (sessionId, { session with mfaSatisfiedAt := some tx.verifiedAt })
  | .enrollment _ _ => ∃ credentialId passkey userId sessionId,
      HoldsSession tables tx challenge userId sessionId ∧
        .passkey credentialId ∈ tx.held ∧ tables.passkeys credentialId = none ∧
        tx.passkeyWrite = some (credentialId, passkey) ∧ passkey.userId = userId ∧
        tx.sessionWrite = none ∧ tx.assertion = none

/-- The session of a ceremony that has one. -/
def Bound (tables : PasskeyTables) (tx : CeremonyTx) (challenge : PasskeyChallenge) : Prop :=
  match tx.ceremony with
  | .signIn _ _ => True
  | .stepUp _ _ userId sessionId => HoldsSession tables tx challenge userId sessionId
  | .enrollment _ _ => ∃ userId sessionId, HoldsSession tables tx challenge userId sessionId

/-- What a transaction knows, by its phase. -/
def PhaseOk (port : PasskeyPort) (tables : PasskeyTables) (tx : CeremonyTx) : Prop :=
  match tx.phase with
  | .begun => Unwritten tx ∧ tx.usedChallenge = none
  | .selected lookup challenge => Unwritten tx ∧ tx.usedChallenge = none ∧
      HoldsChallenge port tables tx lookup challenge
  | .consumed lookup challenge => Unwritten tx ∧ tx.usedChallenge = some lookup ∧
      HoldsChallenge port tables tx lookup challenge
  | .validated lookup challenge _ => Unwritten tx ∧ tx.usedChallenge = some lookup ∧
      HoldsChallenge port tables tx lookup challenge ∧ Bound tables tx challenge
  | .refused => Unwritten tx ∧ Spent port tables tx
  | .accepted => ∃ lookup challenge, tx.usedChallenge = some lookup ∧
      HoldsChallenge port tables tx lookup challenge ∧ Accepted tables tx challenge
  | .thrown => True

structure TxOk (port : PasskeyPort) (tables : PasskeyTables) (tx : CeremonyTx) : Prop where
  locked : Locked tx
  phase : PhaseOk port tables tx

/-! ### Beside a commit -/

section Frame

variable {port : PasskeyPort} {tables : PasskeyTables} {tx tx' : CeremonyTx}
  {challenge : PasskeyChallenge} {lookup id userId sessionId : String}

lemma writeRow_of_ne {ρ : Type} {rows : String → Option ρ} {write : Option (String × ρ)}
    (h : ∀ row, write ≠ some (id, row)) : writeRow rows write id = rows id := by
  cases write with
  | none => rfl
  | some entry =>
      obtain ⟨other, row⟩ := entry
      refine Function.update_of_ne ?_ _ _
      rintro rfl
      exact h row rfl

/-- A commit changes only rows that its transaction has locked. -/
lemma commit_challenges (h : Locked tx) (hfree : .challenge lookup ∉ tx.held) :
    (tx.commit tables).challenges lookup = tables.challenges lookup := by
  unfold CeremonyTx.commit
  cases hused : tx.usedChallenge with
  | none => rfl
  | some other =>
      refine Function.update_of_ne ?_ _ _
      rintro rfl
      exact hfree (h.challenge lookup hused)

lemma commit_passkeys (h : Locked tx) (hfree : .passkey id ∉ tx.held) :
    (tx.commit tables).passkeys id = tables.passkeys id :=
  writeRow_of_ne fun row hwrite => hfree (h.passkey id row hwrite)

lemma commit_sessions (h : Locked tx) (hfree : .session id ∉ tx.held) :
    (tx.commit tables).sessions id = tables.sessions id :=
  writeRow_of_ne fun row hwrite => hfree (h.session id row hwrite)

/-- A challenge stays the one it was; it may have been used. -/
lemma challenges_of_commit (h : (tx.commit tables).challenges lookup = some challenge) :
    ∃ before, tables.challenges lookup = some before ∧
      (challenge = before ∨ challenge = { before with usedAt := some tx.now }) := by
  unfold CeremonyTx.commit at h
  cases hused : tx.usedChallenge with
  | none =>
      rw [hused] at h
      exact ⟨challenge, h, .inl rfl⟩
  | some other =>
      rw [hused] at h
      dsimp only at h
      by_cases heq : lookup = other
      · subst heq
        rw [Function.update_self] at h
        obtain ⟨before, hbefore, rfl⟩ := Option.map_eq_some_iff.mp h
        exact ⟨before, hbefore, .inr rfl⟩
      · rw [Function.update_of_ne heq] at h
        exact ⟨challenge, h, .inl rfl⟩

/-- What holds of the locked rows holds beside the commit of another transaction. -/
lemma HoldsChallenge.frame (h : HoldsChallenge port tables tx lookup challenge)
    (hlocked : Locked tx') (hfree : ∀ lock ∈ tx'.held, lock ∉ tx.held) :
    HoldsChallenge port (tx'.commit tables) tx lookup challenge where
  held := h.held
  digest := h.digest
  stored := (commit_challenges hlocked fun hheld => hfree _ hheld h.held).trans h.stored
  presented := h.presented
  live := h.live

lemma HoldsSession.frame (h : HoldsSession tables tx challenge userId sessionId)
    (hlocked : Locked tx') (hfree : ∀ lock ∈ tx'.held, lock ∉ tx.held) :
    HoldsSession (tx'.commit tables) tx challenge userId sessionId := by
  obtain ⟨huser, hsession, hheld, session, hstored, hfacts⟩ := h
  refine ⟨huser, hsession, hheld, session, ?_, hfacts⟩
  rw [commit_sessions hlocked fun hother => hfree _ hother hheld, hstored]

lemma Advances.frame {credential passkey : Passkey}
    (h : Advances tables tx id credential passkey) (hlocked : Locked tx')
    (hfree : ∀ lock ∈ tx'.held, lock ∉ tx.held) :
    Advances (tx'.commit tables) tx id credential passkey where
  held := h.held
  stored := (commit_passkeys hlocked fun hheld => hfree _ hheld h.held).trans h.stored
  written := h.written
  asserted := h.asserted
  owner := h.owner
  counter := h.counter

lemma Spent.frame (h : Spent port tables tx) : Spent port (tx'.commit tables) tx := by
  intro hnamed lookup challenge hlookup hstored hpresents hlive
  obtain ⟨before, hbefore, rfl | rfl⟩ := challenges_of_commit hstored
  · exact h hnamed lookup challenge hlookup hbefore hpresents hlive
  · exact .inl nofun

lemma Accepted.frame (h : Accepted tables tx challenge) (hown : Locked tx) (hlocked : Locked tx')
    (hfree : ∀ lock ∈ tx'.held, lock ∉ tx.held) : Accepted (tx'.commit tables) tx challenge := by
  unfold Accepted at h ⊢
  cases hceremony : tx.ceremony with
  | signIn challengeId response =>
      rw [hceremony] at h
      obtain ⟨credentialId, credential, passkey, session, hadvances, hwrite, hnew, howner⟩ := h
      refine ⟨credentialId, credential, passkey, session, hadvances.frame hlocked hfree, hwrite,
        ?_, howner⟩
      rw [commit_sessions hlocked fun hheld => hfree _ hheld (hown.session _ _ hwrite), hnew]
  | stepUp challengeId response userId sessionId =>
      rw [hceremony] at h
      obtain ⟨credentialId, credential, passkey, session, hadvances, howner, hsession, hstored,
        hwrite⟩ := h
      refine ⟨credentialId, credential, passkey, session, hadvances.frame hlocked hfree, howner,
        hsession.frame hlocked hfree, ?_, hwrite⟩
      rw [commit_sessions hlocked fun hheld => hfree _ hheld (hown.session _ _ hwrite), hstored]
  | enrollment challengeId response =>
      rw [hceremony] at h
      obtain ⟨credentialId, passkey, userId, sessionId, hsession, hheld, hnew, hrest⟩ := h
      refine ⟨credentialId, passkey, userId, sessionId, hsession.frame hlocked hfree, hheld, ?_,
        hrest⟩
      rw [commit_passkeys hlocked fun hother => hfree _ hother hheld, hnew]

lemma Bound.frame (h : Bound tables tx challenge) (hlocked : Locked tx')
    (hfree : ∀ lock ∈ tx'.held, lock ∉ tx.held) : Bound (tx'.commit tables) tx challenge := by
  unfold Bound at h ⊢
  cases hceremony : tx.ceremony with
  | signIn challengeId response => trivial
  | stepUp challengeId response userId sessionId =>
      rw [hceremony] at h
      exact HoldsSession.frame h hlocked hfree
  | enrollment challengeId response =>
      rw [hceremony] at h
      obtain ⟨userId, sessionId, hsession⟩ := h
      exact ⟨userId, sessionId, hsession.frame hlocked hfree⟩

lemma TxOk.frame (h : TxOk port tables tx) (hlocked : Locked tx')
    (hfree : ∀ lock ∈ tx'.held, lock ∉ tx.held) : TxOk port (tx'.commit tables) tx := by
  refine ⟨h.locked, ?_⟩
  have hphase := h.phase
  unfold PhaseOk at hphase ⊢
  cases htx : tx.phase with
  | begun => rwa [htx] at hphase
  | selected lookup challenge =>
      rw [htx] at hphase
      obtain ⟨hwrites, hused, hholds⟩ := hphase
      exact ⟨hwrites, hused, hholds.frame hlocked hfree⟩
  | consumed lookup challenge =>
      rw [htx] at hphase
      obtain ⟨hwrites, hused, hholds⟩ := hphase
      exact ⟨hwrites, hused, hholds.frame hlocked hfree⟩
  | validated lookup challenge active =>
      rw [htx] at hphase
      obtain ⟨hwrites, hused, hholds, hbound⟩ := hphase
      exact ⟨hwrites, hused, hholds.frame hlocked hfree, hbound.frame hlocked hfree⟩
  | refused =>
      rw [htx] at hphase
      exact ⟨hphase.1, hphase.2.frame⟩
  | accepted =>
      rw [htx] at hphase
      obtain ⟨lookup, challenge, hused, hholds, haccepted⟩ := hphase
      exact ⟨lookup, challenge, hused, hholds.frame hlocked hfree,
        haccepted.frame h.locked hlocked hfree⟩
  | thrown => trivial

end Frame

/-! ### The statements -/

section Statements

variable {port : PasskeyPort} {tables : PasskeyTables} {tx tx' : CeremonyTx}
  {challenge : PasskeyChallenge} {lookup userId sessionId : String}

/-- What holds with some locks holds with more. -/
lemma HoldsChallenge.lock (h : HoldsChallenge port tables tx lookup challenge)
    (locks : List PasskeyLock) : HoldsChallenge port tables (tx.lock locks) lookup challenge where
  held := List.mem_append_right _ h.held
  digest := h.digest
  stored := h.stored
  presented := h.presented
  live := h.live

lemma HoldsSession.lock (h : HoldsSession tables tx challenge userId sessionId)
    (locks : List PasskeyLock) : HoldsSession tables (tx.lock locks) challenge userId sessionId :=
  ⟨h.1, h.2.1, List.mem_append_right _ h.2.2.1, h.2.2.2⟩

lemma Locked.lock (h : Locked tx) (locks : List PasskeyLock) : Locked (tx.lock locks) where
  challenge lookup hused := List.mem_append_right _ (h.challenge lookup hused)
  passkey id row hwrite := List.mem_append_right _ (h.passkey id row hwrite)
  session id row hwrite := List.mem_append_right _ (h.session id row hwrite)

lemma Locked.enter (h : Locked tx) (phase : CeremonyPhase) : Locked (tx.enter phase) :=
  ⟨h.challenge, h.passkey, h.session⟩

/-- A transaction that has used its challenge may be refused. -/
lemma TxOk.refuse (h : HoldsChallenge port tables tx lookup challenge)
    (hused : tx.usedChallenge = some lookup) (hwrites : Unwritten tx) (hlocked : Locked tx) :
    TxOk port tables tx.refuse := by
  refine ⟨hlocked.enter _, ⟨hwrites.passkey, hwrites.session, hwrites.assertion⟩, ?_⟩
  intro _ other row hother _ _ _
  obtain rfl := Option.some.inj (h.digest.symm.trans hother)
  exact .inr hused

lemma txOk_throw (hlocked : Locked tx) : TxOk port tables tx.throw := ⟨hlocked.enter _, trivial⟩

/-- The check of the table gives the challenge of an enrollment a user and a session. -/
lemma hasSession_of_presents (h : presents port tx.ceremony challenge = true) :
    hasSession tx.ceremony challenge = true := by
  unfold hasSession
  cases hceremony : tx.ceremony with
  | signIn challengeId response => rfl
  | stepUp challengeId response userId sessionId => rfl
  | enrollment challengeId response =>
      rw [hceremony] at h
      have hpurpose : challenge.purpose = .registration :=
        of_decide_eq_true (Bool.and_eq_true_iff.mp h).1
      have hbound := challenge.bound
      rw [if_neg (by rw [hpurpose]; nofun)] at hbound
      exact Bool.and_eq_true_iff.mpr ⟨hbound.1, hbound.2.1⟩

/-- The challenge is looked up. -/
lemma select_ok (hwrites : Unwritten tx) (hused : tx.usedChallenge = none) (hlocked : Locked tx) :
    TxOk port tables (select port tables tx) := by
  have hrefused {tx' : CeremonyTx} (hwrites : Unwritten tx') (hlocked : Locked tx')
      (hspent : Spent port tables tx') : TxOk port tables tx'.refuse :=
    ⟨hlocked.enter _, ⟨hwrites.passkey, hwrites.session, hwrites.assertion⟩, hspent⟩
  unfold select
  split
  · next hnone =>
      refine hrefused hwrites hlocked ?_
      intro _ lookup _ hlookup
      rw [hnone] at hlookup
      cases hlookup
  · next lookup hlookup =>
      split
      · next hunnamed =>
          refine hrefused hwrites hlocked fun hnamed => ?_
          rw [hnamed] at hunnamed
          cases hunnamed
      · split
        · next hnone =>
            refine hrefused hwrites hlocked ?_
            intro _ other challenge hother hstored
            obtain rfl := Option.some.inj (hlookup.symm.trans hother)
            rw [hnone] at hstored
            cases hstored
        · next challenge hstored =>
            split
            · next hdead =>
                refine hrefused hwrites hlocked ?_
                intro _ other row hother hrow _ hunexpired
                obtain rfl := Option.some.inj (hlookup.symm.trans hother)
                obtain rfl := Option.some.inj (hstored.symm.trans hrow)
                refine .inl fun hunused => ?_
                rw [isLive, hunused, decide_eq_true hunexpired] at hdead
                cases hdead
            · next hlive =>
                have hlive : isLive tx.now challenge = true := by simpa using hlive
                split
                · next hother =>
                    refine @hrefused (tx.lock [.challenge lookup])
                      ⟨hwrites.passkey, hwrites.session, hwrites.assertion⟩ (hlocked.lock _) ?_
                    intro _ digest row hdigest hrow hpresents _
                    obtain rfl := Option.some.inj (hlookup.symm.trans hdigest)
                    obtain rfl := Option.some.inj (hstored.symm.trans hrow)
                    change presents port tx.ceremony challenge = true at hpresents
                    rw [hpresents, hasSession_of_presents hpresents] at hother
                    cases hother
                · next hpresents =>
                    have hpresents : presents port tx.ceremony challenge = true := by
                      by_contra hfalse
                      rw [Bool.not_eq_true] at hfalse
                      rw [hfalse] at hpresents
                      exact hpresents rfl
                    exact ⟨(hlocked.lock _).enter _,
                      ⟨hwrites.passkey, hwrites.session, hwrites.assertion⟩, hused,
                      ⟨List.mem_append_left _ List.mem_cons_self, hlookup, hstored, hpresents,
                        hlive⟩⟩

/-- The challenge is used. -/
lemma consume_ok (h : HoldsChallenge port tables tx lookup challenge) (hwrites : Unwritten tx)
    (hlocked : Locked tx) : TxOk port tables (consume tables tx lookup challenge) := by
  have hlive : (tables.challenges lookup).any (isLive tx.now) = true := by
    rw [h.stored]
    exact h.live
  rw [consume, if_pos hlive]
  refine ⟨⟨?_, hlocked.passkey, hlocked.session⟩,
    ⟨hwrites.passkey, hwrites.session, hwrites.assertion⟩, rfl,
    ⟨h.held, h.digest, h.stored, h.presented, h.live⟩⟩
  intro other hother
  obtain rfl := Option.some.inj hother
  exact h.held

/-- An active session is locked, and has the organization and the version that are found. -/
lemma holdsSession_of_active {active : Option ActiveSession}
    (hactive : active = activePasskeySession tables tx.now userId sessionId)
    (huser : challenge.userId = some userId) (hsession : challenge.sessionId = some sessionId)
    (hpinned : active.any (isPinned challenge) = true) :
    HoldsSession tables (tx.lock (sessionLocks tables tx.now userId sessionId)) challenge userId
      sessionId := by
  obtain ⟨found, hfound, hpinned⟩ := (Option.any_eq_true ..).mp hpinned
  rw [hfound, activePasskeySession] at hactive
  obtain ⟨session, hlive, hrow⟩ := Option.bind_eq_some_iff.mp hactive.symm
  have hlock : sessionLocks tables tx.now userId sessionId =
      [.session sessionId, .user userId] := by
    rw [sessionLocks, hlive]
    rfl
  obtain ⟨hstored, howner⟩ := Option.filter_eq_some_iff.mp hlive
  have howner : session.userId = userId := of_decide_eq_true (Bool.and_eq_true_iff.mp howner).1
  obtain ⟨horganization, hversion⟩ := Bool.and_eq_true_iff.mp hpinned
  have horganization := of_decide_eq_true horganization
  have hversion := of_decide_eq_true hversion
  refine ⟨huser, hsession, ?_, session, hstored, howner, ?_⟩
  · rw [hlock]
    exact List.mem_append_left _ List.mem_cons_self
  · split at hrow
    · next organizationId membershipVersion horg hver =>
        split at hrow
        · obtain rfl := Option.some.inj hrow
          exact ⟨horg.trans horganization.symm, hver.trans hversion.symm⟩
        · cases hrow
    · cases hrow

lemma bound_signIn {challengeId : String} {response : PasskeyResponse}
    (h : tx.ceremony = .signIn challengeId response) : Bound tables tx challenge := by
  unfold Bound
  rw [h]
  trivial

lemma bound_stepUp {challengeId : String} {response : PasskeyResponse}
    (h : tx.ceremony = .stepUp challengeId response userId sessionId) :
    Bound tables tx challenge ↔ HoldsSession tables tx challenge userId sessionId := by
  unfold Bound
  rw [h]

lemma bound_enrollment {challengeId : String} {response : PasskeyResponse}
    (h : tx.ceremony = .enrollment challengeId response) : Bound tables tx challenge ↔
      ∃ userId sessionId, HoldsSession tables tx challenge userId sessionId := by
  unfold Bound
  rw [h]

lemma Bound.lock (h : Bound tables tx challenge) (locks : List PasskeyLock) :
    Bound tables (tx.lock locks) challenge := by
  unfold Bound at h ⊢
  change match tx.ceremony with
    | .signIn _ _ => True
    | .stepUp _ _ userId sessionId => HoldsSession tables (tx.lock locks) challenge userId sessionId
    | .enrollment _ _ => ∃ userId sessionId,
        HoldsSession tables (tx.lock locks) challenge userId sessionId
  cases hceremony : tx.ceremony with
  | signIn challengeId response => trivial
  | stepUp challengeId response userId sessionId =>
      rw [hceremony] at h
      exact HoldsSession.lock h locks
  | enrollment challengeId response =>
      rw [hceremony] at h
      obtain ⟨userId, sessionId, hholds⟩ := h
      exact ⟨userId, sessionId, hholds.lock locks⟩

lemma validate_ok (h : HoldsChallenge port tables tx lookup challenge)
    (hused : tx.usedChallenge = some lookup) (hwrites : Unwritten tx) (hlocked : Locked tx) :
    TxOk port tables (validate tables tx lookup challenge) := by
  have hlock (locks : List PasskeyLock) : TxOk port tables (tx.lock locks).refuse :=
    .refuse (h.lock locks) hused ⟨hwrites.passkey, hwrites.session, hwrites.assertion⟩
      (hlocked.lock locks)
  have henter {locks : List PasskeyLock} {active : Option ActiveSession}
      (hbound : Bound tables (tx.lock locks) challenge) :
      TxOk port tables ((tx.lock locks).enter (.validated lookup challenge active)) :=
    ⟨(hlocked.lock locks).enter _, ⟨hwrites.passkey, hwrites.session, hwrites.assertion⟩, hused,
      ⟨(h.lock locks).held, h.digest, h.stored, h.presented, h.live⟩, hbound⟩
  unfold validate
  split
  · next challengeId response hceremony => exact @henter [] none (bound_signIn hceremony)
  · next challengeId response userId sessionId hceremony =>
      dsimp only
      split
      · exact hlock _
      · next hpassed =>
          simp only [Bool.or_eq_true, not_or, decide_eq_true_eq, not_not, Bool.not_eq_true',
            Bool.not_eq_false] at hpassed
          obtain ⟨⟨huser, hsession⟩, hpinned⟩ := hpassed
          have hceremony : (tx.lock (sessionLocks tables tx.now userId sessionId)).ceremony =
            .stepUp challengeId response userId sessionId := hceremony
          exact henter ((bound_stepUp hceremony).mpr
            (holdsSession_of_active rfl huser hsession hpinned))
  · next challengeId response hceremony =>
      split
      · next userId sessionId huser hsession =>
          dsimp only
          split
          · exact hlock _
          · next hpassed =>
              simp only [Bool.not_eq_true', Bool.not_eq_false] at hpassed
              have hceremony : (tx.lock (sessionLocks tables tx.now userId sessionId)).ceremony =
                .enrollment challengeId response := hceremony
              exact henter ((bound_enrollment hceremony).mpr
                ⟨userId, sessionId, holdsSession_of_active rfl huser hsession hpassed⟩)
      · exact hlock []

/-- The counter that is written is above the one that was read, or both are zero. -/
lemma counter_of_passed {answer : AuthenticationAnswer} {credential : Passkey}
    (hanswer : ¬ (!answer.verified || !answer.userVerified ||
      (answer.newCounter ≠ 0 && answer.newCounter ≤ credential.counter)) = true)
    (hwhere : ¬ (!(credential.counter = 0 || answer.newCounter > credential.counter)) = true) :
    credential.counter < answer.newCounter ∨ (credential.counter = 0 ∧ answer.newCounter = 0) := by
  simp only [Bool.or_eq_true, Bool.and_eq_true, Bool.not_eq_true', decide_eq_true_eq, not_or,
    not_and, Bool.not_eq_false] at hanswer hwhere
  have hnonneg := credential.nonneg
  rcases Classical.em (answer.newCounter = 0) with hzero | hpos
  · rcases hwhere with hcounter | hgreater
    · exact .inr ⟨hcounter, hzero⟩
    · omega
  · exact .inl (not_le.mp (hanswer.2 hpos))

/-- The session of an accepted assertion. -/
lemma writeSession_ok {credentialId : String} {credential passkey : Passkey}
    {active : ActiveSession} (h : HoldsChallenge port tables tx lookup challenge)
    (hused : tx.usedChallenge = some lookup) (hlocked : Locked tx)
    (hadvances : Advances tables tx credentialId credential passkey)
    (hbound : Bound tables tx challenge)
    (hassertion : ∀ challengeId response, tx.ceremony ≠ .enrollment challengeId response)
    (howner : ∀ userId sessionId, tx.ceremony.session = some (userId, sessionId) →
      credential.userId = userId) :
    TxOk port tables (writeSession tables tx credential.userId active) := by
  unfold writeSession
  split
  · next challengeId response userId sessionId hceremony =>
      have hholds := (bound_stepUp hceremony).mp hbound
      obtain ⟨-, -, hheld, session, hstored, hown, -⟩ := id hholds
      have huser : credential.userId = userId :=
        howner userId sessionId (by rw [hceremony]; rfl)
      rw [hstored]
      dsimp only
      rw [if_pos (hown.trans huser.symm)]
      refine ⟨⟨hlocked.challenge, hlocked.passkey, ?_⟩, lookup, challenge, hused,
        ⟨h.held, h.digest, h.stored, h.presented, h.live⟩, ?_⟩
      · rintro id row hwrite
        cases hwrite
        exact hheld
      · unfold Accepted
        dsimp only
        rw [hceremony]
        exact ⟨credentialId, credential, passkey, session,
          ⟨hadvances.held, hadvances.stored, hadvances.written, hadvances.asserted,
            hadvances.owner, hadvances.counter⟩, huser, hholds, hstored, rfl⟩
  · next hother =>
      split
      · exact txOk_throw hlocked
      · next hfree =>
          have hfree : tables.sessions tx.newSessionId = none := by
            rwa [Bool.not_eq_true, Option.isSome_eq_false_iff, Option.isNone_iff_eq_none] at hfree
          have hceremony : ∃ challengeId response, tx.ceremony = .signIn challengeId response := by
            cases hceremony : tx.ceremony with
            | signIn challengeId response => exact ⟨challengeId, response, rfl⟩
            | stepUp challengeId response userId sessionId =>
                exact absurd hceremony (hother challengeId response userId sessionId)
            | enrollment challengeId response =>
                exact absurd hceremony (hassertion challengeId response)
          obtain ⟨challengeId, response, hceremony⟩ := hceremony
          have hheld := (h.lock [.session tx.newSessionId]).held
          have hlocked' := hlocked.lock [.session tx.newSessionId]
          refine ⟨⟨hlocked'.challenge, hlocked'.passkey, ?_⟩, lookup, challenge, hused,
            ⟨hheld, h.digest, h.stored, h.presented, h.live⟩, ?_⟩
          · rintro id row hwrite
            cases hwrite
            exact List.mem_append_left _ List.mem_cons_self
          · unfold Accepted
            change match tx.ceremony with
              | .signIn _ _ => _ | .stepUp _ _ userId sessionId => _ | .enrollment _ _ => _
            rw [hceremony]
            exact ⟨credentialId, credential, passkey, _,
              ⟨List.mem_append_right _ hadvances.held, hadvances.stored, hadvances.written,
                hadvances.asserted, hadvances.owner, hadvances.counter⟩, rfl, hfree, rfl⟩

/-- The answer to an assertion. -/
lemma advance_ok {credentialId : String} {credential : Passkey} {active : ActiveSession}
    {answer : AuthenticationAnswer} (h : HoldsChallenge port tables tx lookup challenge)
    (hused : tx.usedChallenge = some lookup) (hwrites : Unwritten tx) (hlocked : Locked tx)
    (hheld : .passkey credentialId ∈ tx.held)
    (hstored : tables.passkeys credentialId = some credential)
    (hbound : Bound tables tx challenge)
    (hassertion : ∀ challengeId response, tx.ceremony ≠ .enrollment challengeId response)
    (howner : ∀ userId sessionId, tx.ceremony.session = some (userId, sessionId) →
      credential.userId = userId) :
    TxOk port tables (advance tables tx credentialId credential active answer) := by
  unfold advance
  split
  · exact .refuse h hused hwrites hlocked
  · next hanswer =>
      split
      · exact .refuse h hused hwrites hlocked
      · next hwhere =>
          split
          · have hcounter := counter_of_passed hanswer hwhere
            refine writeSession_ok ⟨h.held, h.digest, h.stored, h.presented, h.live⟩ hused
              ⟨hlocked.challenge, ?_, ?_⟩
              ⟨hheld, hstored, rfl, rfl, rfl, hcounter⟩ hbound hassertion howner
            · rintro id row hwrite
              cases hwrite
              exact hheld
            · intro id row hwrite
              exact absurd (hwrites.session.symm.trans hwrite) nofun
          · exact txOk_throw hlocked

lemma assertPasskey_ok {active : Option ActiveSession}
    (h : HoldsChallenge port tables tx lookup challenge)
    (hused : tx.usedChallenge = some lookup) (hwrites : Unwritten tx) (hlocked : Locked tx)
    (hbound : Bound tables tx challenge)
    (hassertion : ∀ challengeId response, tx.ceremony ≠ .enrollment challengeId response) :
    TxOk port tables (assertPasskey port tables tx challenge active) := by
  unfold assertPasskey
  split
  · exact .refuse h hused hwrites hlocked
  · next credentialId hid =>
      split
      · exact .refuse h hused hwrites hlocked
      · next credential hstored =>
          have h' := h.lock [.passkey credentialId]
          have hlocked' := hlocked.lock [.passkey credentialId]
          have hwrites' : Unwritten (tx.lock [.passkey credentialId]) :=
            ⟨hwrites.passkey, hwrites.session, hwrites.assertion⟩
          have hrefused : TxOk port tables (tx.lock [.passkey credentialId]).refuse :=
            .refuse h' hused hwrites' hlocked'
          dsimp only
          split
          · exact hrefused
          · split
            · exact hrefused
            · next hsession =>
                split
                · exact hrefused
                · split
                  · exact hrefused
                  · split
                    · exact txOk_throw hlocked'
                    · refine advance_ok h' hused hwrites' hlocked'
                        (List.mem_append_left _ List.mem_cons_self) hstored ?_ hassertion ?_
                      · exact hbound.lock _
                      · intro userId sessionId heq
                        change tx.ceremony.session = some (userId, sessionId) at heq
                        by_contra hne
                        rw [heq] at hsession
                        refine hsession (Bool.or_eq_true_iff.mpr (.inr ?_))
                        exact decide_eq_true hne

lemma register_ok (h : HoldsChallenge port tables tx lookup challenge)
    (hused : tx.usedChallenge = some lookup) (hwrites : Unwritten tx) (hlocked : Locked tx)
    (hbound : Bound tables tx challenge) {challengeId : String} {response : PasskeyResponse}
    (hceremony : tx.ceremony = .enrollment challengeId response) :
    TxOk port tables (register port tables tx challenge) := by
  obtain ⟨userId, sessionId, hholds⟩ := (bound_enrollment hceremony).mp hbound
  unfold register
  split
  · exact txOk_throw hlocked
  · next info hinfo =>
      split
      · exact .refuse h hused hwrites hlocked
      · split
        · next other hother hnone =>
            obtain rfl := Option.some.inj (hholds.1.symm.trans hother)
            split
            · have h' := h.lock [.passkey info.credentialId]
              have hlocked' := hlocked.lock [.passkey info.credentialId]
              refine ⟨⟨hlocked'.challenge, ?_, hlocked'.session⟩, lookup, challenge, hused,
                ⟨h'.held, h.digest, h.stored, h.presented, h.live⟩, ?_⟩
              · rintro id row hwrite
                cases hwrite
                exact List.mem_append_left _ List.mem_cons_self
              · unfold Accepted
                change match tx.ceremony with
                  | .signIn _ _ => _ | .stepUp _ _ userId sessionId => _ | .enrollment _ _ => _
                rw [hceremony]
                exact ⟨info.credentialId, _, userId, sessionId, hholds.lock _,
                  List.mem_append_left _ List.mem_cons_self, hnone, rfl, rfl, hwrites.session,
                  hwrites.assertion⟩
            · exact txOk_throw hlocked
        · exact txOk_throw hlocked

lemma finish_ok {active : Option ActiveSession}
    (h : HoldsChallenge port tables tx lookup challenge)
    (hused : tx.usedChallenge = some lookup) (hwrites : Unwritten tx) (hlocked : Locked tx)
    (hbound : Bound tables tx challenge) :
    TxOk port tables (finish port tables tx challenge active) := by
  unfold finish
  split
  · next hceremony => exact register_ok h hused hwrites hlocked hbound hceremony
  · next hother => exact assertPasskey_ok h hused hwrites hlocked hbound hother

/-- Every statement keeps what its transaction knows. -/
lemma statement_ok (h : TxOk port tables tx) :
    TxOk port tables (ceremonyStatement port tables tx) := by
  have hphase := h.phase
  unfold PhaseOk at hphase
  unfold ceremonyStatement
  split
  · next htx =>
      rw [htx] at hphase
      exact select_ok hphase.1 hphase.2 h.locked
  · next lookup challenge htx =>
      rw [htx] at hphase
      exact consume_ok hphase.2.2 hphase.1 h.locked
  · next lookup challenge htx =>
      rw [htx] at hphase
      exact validate_ok hphase.2.2 hphase.2.1 hphase.1 h.locked
  · next lookup challenge active htx =>
      rw [htx] at hphase
      obtain ⟨hwrites, hused, hholds, hbound⟩ := hphase
      exact finish_ok hholds hused hwrites h.locked hbound
  · exact h
  · exact h
  · exact h

end Statements

/-! ### The commits -/

/-- The challenge that a ceremony has presented is used. -/
def UsesUp (port : PasskeyPort) (tx : CeremonyTx) (before after : PasskeyTables) : Prop :=
  ∀ lookup challenge, port.tokenLookupDigest tx.ceremony.challengeId = some lookup →
    before.challenges lookup = some challenge → presents port tx.ceremony challenge = true →
    tx.now < challenge.expiresAt →
    ∃ used, after.challenges lookup = some used ∧ used.usedAt ≠ none

/-- What a ceremony that commits has done: it uses a live challenge, counters go up, a step-up marks
the session it was started in, an enrollment adds to the user it was started by, and a refusal
changes only its challenge. -/
structure CommitOk (port : PasskeyPort) (tx : CeremonyTx) (before after : PasskeyTables) :
    Prop where
  counters : ∀ id passkey, before.passkeys id = some passkey →
    ∃ passkey', after.passkeys id = some passkey' ∧ passkey.counter ≤ passkey'.counter ∧
      passkey'.userId = passkey.userId
  assertion : ∀ id counter, tx.assertion = some (id, counter) →
    ∃ passkey passkey', before.passkeys id = some passkey ∧ after.passkeys id = some passkey' ∧
      passkey'.counter = counter ∧ (passkey.counter ≠ 0 → passkey.counter < counter)
  challenge : tx.phase = .accepted → ∃ lookup challenge,
    port.tokenLookupDigest tx.ceremony.challengeId = some lookup ∧
      before.challenges lookup = some challenge ∧ presents port tx.ceremony challenge = true ∧
      isLive tx.now challenge = true ∧
      after.challenges lookup = some { challenge with usedAt := some tx.now }
  stepUp : tx.phase = .accepted → ∀ challengeId response userId sessionId,
    tx.ceremony = .stepUp challengeId response userId sessionId →
    ∃ lookup challenge credentialId passkey counter session,
      port.tokenLookupDigest challengeId = some lookup ∧
      before.challenges lookup = some challenge ∧ challenge.userId = some userId ∧
      challenge.sessionId = some sessionId ∧ before.passkeys credentialId = some passkey ∧
      tx.assertion = some (credentialId, counter) ∧ passkey.userId = userId ∧
      before.sessions sessionId = some session ∧ session.userId = userId ∧
      session.activeOrganizationId = challenge.activeOrganizationId ∧
      session.membershipVersion = challenge.membershipVersion ∧
      after.sessions = Function.update before.sessions sessionId
        (some { session with mfaSatisfiedAt := some tx.verifiedAt })
  signIn : tx.phase = .accepted → ∀ challengeId response,
    tx.ceremony = .signIn challengeId response →
    ∃ credentialId passkey counter session, before.passkeys credentialId = some passkey ∧
      tx.assertion = some (credentialId, counter) ∧ before.sessions tx.newSessionId = none ∧
      session.userId = passkey.userId ∧
      after.sessions = Function.update before.sessions tx.newSessionId (some session)
  enrollment : tx.phase = .accepted → ∀ challengeId response,
    tx.ceremony = .enrollment challengeId response →
    ∃ lookup challenge userId sessionId session credentialId passkey,
      port.tokenLookupDigest challengeId = some lookup ∧
      before.challenges lookup = some challenge ∧ challenge.userId = some userId ∧
      challenge.sessionId = some sessionId ∧ before.sessions sessionId = some session ∧
      session.userId = userId ∧ before.passkeys credentialId = none ∧ passkey.userId = userId ∧
      after.passkeys = Function.update before.passkeys credentialId (some passkey) ∧
      after.sessions = before.sessions
  refused : tx.phase = .refused → after.passkeys = before.passkeys ∧
    after.sessions = before.sessions ∧ (tx.ceremony.isNamed = true → UsesUp port tx before after)

/-- What is kept of the counters that were accepted: they are strictly above the ones before that
are not zero, and no higher than the ones that are stored. -/
structure AssertedOk (tables : PasskeyTables) : Prop where
  increasing : tables.asserted.Pairwise fun later earlier =>
    later.1 = earlier.1 → earlier.2 = 0 ∨ earlier.2 < later.2
  stored : ∀ id counter, (id, counter) ∈ tables.asserted →
    ∃ passkey, tables.passkeys id = some passkey ∧ 0 ≤ counter ∧ counter ≤ passkey.counter

section Commits

variable {port : PasskeyPort} {tables : PasskeyTables} {tx : CeremonyTx}
  {challenge : PasskeyChallenge} {lookup : String}

/-- What an accepted ceremony writes to the passkeys: a higher counter or a new passkey. -/
lemma written_of_accepted (h : Accepted tables tx challenge) :
    (∃ credentialId credential passkey, Advances tables tx credentialId credential passkey) ∨
      ∃ credentialId passkey, tables.passkeys credentialId = none ∧
        tx.passkeyWrite = some (credentialId, passkey) ∧ tx.assertion = none := by
  unfold Accepted at h
  cases hceremony : tx.ceremony with
  | signIn challengeId response =>
      rw [hceremony] at h
      obtain ⟨credentialId, credential, passkey, session, hadvances, -⟩ := h
      exact .inl ⟨credentialId, credential, passkey, hadvances⟩
  | stepUp challengeId response userId sessionId =>
      rw [hceremony] at h
      obtain ⟨credentialId, credential, passkey, session, hadvances, -⟩ := h
      exact .inl ⟨credentialId, credential, passkey, hadvances⟩
  | enrollment challengeId response =>
      rw [hceremony] at h
      obtain ⟨credentialId, passkey, userId, sessionId, -, -, hnone, hwrite, -, -, hassertion⟩ := h
      exact .inr ⟨credentialId, passkey, hnone, hwrite, hassertion⟩

lemma Advances.le {credentialId : String} {credential passkey : Passkey}
    (h : Advances tables tx credentialId credential passkey) :
    credential.counter ≤ passkey.counter := by
  rcases h.counter with hlt | ⟨hzero, hzero'⟩
  · exact hlt.le
  · rw [hzero, hzero']

/-- The passkeys after a commit. -/
lemma passkeys_of_commit (h : TxOk port tables tx)
    (hfinished : tx.phase = .refused ∨ tx.phase = .accepted) :
    (tx.passkeyWrite = none ∧ tx.assertion = none ∧ (tx.commit tables).passkeys = tables.passkeys) ∨
      (∃ credentialId credential passkey, Advances tables tx credentialId credential passkey ∧
        (tx.commit tables).passkeys =
          Function.update tables.passkeys credentialId (some passkey)) ∨
      ∃ credentialId passkey, tables.passkeys credentialId = none ∧ tx.assertion = none ∧
        (tx.commit tables).passkeys =
          Function.update tables.passkeys credentialId (some passkey) := by
  have hphase := h.phase
  unfold PhaseOk at hphase
  have hcommit : (tx.commit tables).passkeys = writeRow tables.passkeys tx.passkeyWrite := rfl
  rcases hfinished with htx | htx
  · rw [htx] at hphase
    obtain ⟨hwrites, -⟩ := hphase
    refine .inl ⟨hwrites.passkey, hwrites.assertion, ?_⟩
    rw [hcommit, hwrites.passkey]
    rfl
  · rw [htx] at hphase
    obtain ⟨lookup, challenge, -, -, haccepted⟩ := hphase
    rcases written_of_accepted haccepted with ⟨credentialId, credential, passkey, hadvances⟩ |
      ⟨credentialId, passkey, hnone, hwrite, hassertion⟩
    · refine .inr (.inl ⟨credentialId, credential, passkey, hadvances, ?_⟩)
      rw [hcommit, hadvances.written]
      rfl
    · refine .inr (.inr ⟨credentialId, passkey, hnone, hassertion, ?_⟩)
      rw [hcommit, hwrite]
      rfl

/-- Counters never go down. -/
lemma counters_of_commit (h : TxOk port tables tx)
    (hfinished : tx.phase = .refused ∨ tx.phase = .accepted) (id : String) (passkey : Passkey)
    (hpasskey : tables.passkeys id = some passkey) :
    ∃ passkey', (tx.commit tables).passkeys id = some passkey' ∧
      passkey.counter ≤ passkey'.counter ∧ passkey'.userId = passkey.userId := by
  rcases passkeys_of_commit h hfinished with ⟨-, -, hsame⟩ |
    ⟨credentialId, credential, written, hadvances, hupdate⟩ |
    ⟨credentialId, written, hnone, -, hupdate⟩
  · exact ⟨passkey, by rw [hsame, hpasskey], le_rfl, rfl⟩
  · rw [hupdate]
    by_cases hid : id = credentialId
    · subst hid
      obtain rfl := Option.some.inj (hpasskey.symm.trans hadvances.stored)
      exact ⟨written, Function.update_self .., hadvances.le, hadvances.owner⟩
    · exact ⟨passkey, (Function.update_of_ne hid _ _).trans hpasskey, le_rfl, rfl⟩
  · rw [hupdate]
    have hid : id ≠ credentialId := by
      rintro rfl
      rw [hnone] at hpasskey
      cases hpasskey
    exact ⟨passkey, (Function.update_of_ne hid _ _).trans hpasskey, le_rfl, rfl⟩

lemma AssertedOk.commit (hasserted : AssertedOk tables) (h : TxOk port tables tx)
    (hfinished : tx.phase = .refused ∨ tx.phase = .accepted) : AssertedOk (tx.commit tables) := by
  have hcounters := counters_of_commit h hfinished
  have hstored : ∀ id counter, (id, counter) ∈ tables.asserted →
      ∃ passkey, (tx.commit tables).passkeys id = some passkey ∧ 0 ≤ counter ∧
        counter ≤ passkey.counter := by
    intro id counter hmem
    obtain ⟨passkey, hpasskey, hnonneg, hle⟩ := hasserted.stored id counter hmem
    obtain ⟨passkey', hpasskey', hle', -⟩ := hcounters id passkey hpasskey
    exact ⟨passkey', hpasskey', hnonneg, hle.trans hle'⟩
  have hlist : (tx.commit tables).asserted = tx.assertion.toList ++ tables.asserted := rfl
  have hsame (hnone : tx.assertion = none) : AssertedOk (tx.commit tables) := by
    rw [hnone] at hlist
    exact ⟨hlist ▸ hasserted.increasing, hlist ▸ hstored⟩
  rcases passkeys_of_commit h hfinished with ⟨-, hnone, -⟩ |
    ⟨credentialId, credential, written, hadvances, hupdate⟩ | ⟨-, -, -, hnone, -⟩
  · exact hsame hnone
  · rw [hadvances.asserted] at hlist
    have hlist : (tx.commit tables).asserted =
      (credentialId, written.counter) :: tables.asserted := hlist
    refine ⟨?_, ?_⟩
    · rw [hlist]
      refine List.pairwise_cons.mpr ⟨?_, hasserted.increasing⟩
      rintro ⟨id, counter⟩ hmem rfl
      obtain ⟨passkey, hpasskey, hnonneg, hle⟩ := hasserted.stored _ counter hmem
      obtain rfl := Option.some.inj (hpasskey.symm.trans hadvances.stored)
      rcases hadvances.counter with hlt | ⟨hzero, -⟩
      · exact .inr (hle.trans_lt hlt)
      · exact .inl (le_antisymm (hle.trans hzero.le) hnonneg)
    · intro id counter hmem
      rw [hlist] at hmem
      rcases List.mem_cons.mp hmem with heq | hold
      · cases heq
        exact ⟨written, by rw [hupdate, Function.update_self], written.nonneg, le_rfl⟩
      · exact hstored id counter hold
  · exact hsame hnone

lemma sessions_of_commit {id : String} {session : Session}
    (h : tx.sessionWrite = some (id, session)) :
    (tx.commit tables).sessions = Function.update tables.sessions id (some session) := by
  have hcommit : (tx.commit tables).sessions = writeRow tables.sessions tx.sessionWrite := rfl
  rw [hcommit, h]
  rfl

lemma sessions_of_commit_none (h : tx.sessionWrite = none) :
    (tx.commit tables).sessions = tables.sessions := by
  have hcommit : (tx.commit tables).sessions = writeRow tables.sessions tx.sessionWrite := rfl
  rw [hcommit, h]
  rfl

lemma challenges_of_used (h : tx.usedChallenge = some lookup)
    (hstored : tables.challenges lookup = some challenge) :
    (tx.commit tables).challenges lookup = some { challenge with usedAt := some tx.now } := by
  unfold CeremonyTx.commit
  rw [h]
  dsimp only
  rw [Function.update_self, hstored]
  rfl

/-- A refused ceremony uses up its challenge. -/
lemma usesUp_of_spent (h : Spent port tables tx) (hnamed : tx.ceremony.isNamed = true) :
    UsesUp port tx tables (tx.commit tables) := by
  intro lookup challenge hlookup hstored hpresents hunexpired
  rcases h hnamed lookup challenge hlookup hstored hpresents hunexpired with hused | hown
  · by_cases hown : tx.usedChallenge = some lookup
    · exact ⟨_, challenges_of_used hown hstored, nofun⟩
    · refine ⟨challenge, ?_, hused⟩
      unfold CeremonyTx.commit
      cases hother : tx.usedChallenge with
      | none => exact hstored
      | some other =>
          refine (Function.update_of_ne ?_ _ _).trans hstored
          rintro rfl
          exact hown hother
  · exact ⟨_, challenges_of_used hown hstored, nofun⟩

/-- What a commit does. -/
lemma commit_ok (h : TxOk port tables tx)
    (hfinished : tx.phase = .refused ∨ tx.phase = .accepted) :
    CommitOk port tx tables (tx.commit tables) := by
  have hphase := h.phase
  unfold PhaseOk at hphase
  have haccepted (hphase' : tx.phase = .accepted) : ∃ lookup challenge,
      tx.usedChallenge = some lookup ∧ HoldsChallenge port tables tx lookup challenge ∧
        Accepted tables tx challenge := by
    rw [hphase'] at hphase
    exact hphase
  refine ⟨counters_of_commit h hfinished, fun id counter hassertion => ?_, fun hphase' => ?_,
    fun hphase' challengeId response userId sessionId hceremony => ?_,
    fun hphase' challengeId response hceremony => ?_,
    fun hphase' challengeId response hceremony => ?_, fun hphase' => ?_⟩
  · rcases passkeys_of_commit h hfinished with ⟨-, hnone, -⟩ |
      ⟨credentialId, credential, written, hadvances, hupdate⟩ | ⟨-, -, -, hnone, -⟩
    · rw [hnone] at hassertion
      cases hassertion
    · obtain ⟨rfl, rfl⟩ := Prod.mk.inj (Option.some.inj (hadvances.asserted.symm.trans hassertion))
      refine ⟨credential, written, hadvances.stored, by rw [hupdate, Function.update_self], rfl,
        fun hpos => ?_⟩
      exact hadvances.counter.resolve_right fun hzero => hpos hzero.1
    · rw [hnone] at hassertion
      cases hassertion
  · obtain ⟨lookup, challenge, hused, hholds, -⟩ := haccepted hphase'
    exact ⟨lookup, challenge, hholds.digest, hholds.stored, hholds.presented, hholds.live,
      challenges_of_used hused hholds.stored⟩
  · obtain ⟨lookup, challenge, hused, hholds, haccepted⟩ := haccepted hphase'
    have hdigest := hholds.digest
    unfold Accepted at haccepted
    rw [hceremony] at haccepted hdigest
    obtain ⟨credentialId, credential, passkey, session, hadvances, howner, hsession, hstored,
      hwrite⟩ := haccepted
    obtain ⟨huser, hid, -, row, hrow, hown, horganization, hversion⟩ := hsession
    obtain rfl := Option.some.inj (hstored.symm.trans hrow)
    exact ⟨lookup, challenge, credentialId, credential, passkey.counter, session, hdigest,
      hholds.stored, huser, hid, hadvances.stored, hadvances.asserted, howner, hstored, hown,
      horganization, hversion, sessions_of_commit hwrite⟩
  · obtain ⟨lookup, challenge, hused, hholds, haccepted⟩ := haccepted hphase'
    unfold Accepted at haccepted
    rw [hceremony] at haccepted
    obtain ⟨credentialId, credential, passkey, session, hadvances, hwrite, hnone, howner⟩ :=
      haccepted
    exact ⟨credentialId, credential, passkey.counter, session, hadvances.stored,
      hadvances.asserted, hnone, howner, sessions_of_commit hwrite⟩
  · obtain ⟨lookup, challenge, hused, hholds, haccepted⟩ := haccepted hphase'
    have hdigest := hholds.digest
    unfold Accepted at haccepted
    rw [hceremony] at haccepted hdigest
    obtain ⟨credentialId, passkey, userId, sessionId, hsession, -, hnone, hwrite, howner,
      hsessions, -⟩ := haccepted
    obtain ⟨huser, hid, -, session, hrow, hown, -⟩ := hsession
    have hpasskeys : (tx.commit tables).passkeys =
        Function.update tables.passkeys credentialId (some passkey) := by
      have hcommit : (tx.commit tables).passkeys = writeRow tables.passkeys tx.passkeyWrite := rfl
      rw [hcommit, hwrite]
      rfl
    exact ⟨lookup, challenge, userId, sessionId, session, credentialId, passkey, hdigest,
      hholds.stored, huser, hid, hrow, hown, hnone, howner, hpasskeys,
      sessions_of_commit_none hsessions⟩
  · rw [hphase'] at hphase
    obtain ⟨hwrites, hspent⟩ := hphase
    refine ⟨?_, sessions_of_commit_none hwrites.session, usesUp_of_spent hspent⟩
    have hcommit : (tx.commit tables).passkeys = writeRow tables.passkeys tx.passkeyWrite := rfl
    rw [hcommit, hwrites.passkey]
    rfl

end Commits

/-! ### The runs -/

section Runs

variable {port : PasskeyPort} {tables : PasskeyTables}
  {s : Running PasskeyTables CeremonyTx}

lemma finished_iff {tx : CeremonyTx} : (ceremonyProgram port).finished tx = true ↔
    tx.phase = .refused ∨ tx.phase = .accepted := by
  change (decide _ || decide _) = true ↔ _
  rw [Bool.or_eq_true, decide_eq_true_eq, decide_eq_true_eq]

lemma ceremony_invariant (port : PasskeyPort) :
    Invariant (ceremonyProgram port) noConflict AssertedOk (TxOk port) where
  start {tables tx} _ hinitial := by
    have hinitial : tx.begins = true := hinitial
    simp only [CeremonyTx.begins, Bool.and_eq_true, decide_eq_true_eq] at hinitial
    obtain ⟨⟨⟨⟨⟨hphase, hheld⟩, hused⟩, hpasskey⟩, hsession⟩, hassertion⟩ := hinitial
    refine ⟨⟨?_, ?_, ?_⟩, ?_⟩
    · intro lookup hlookup
      exact absurd (hused.symm.trans hlookup) nofun
    · intro id row hrow
      exact absurd (hpasskey.symm.trans hrow) nofun
    · intro id row hrow
      exact absurd (hsession.symm.trans hrow) nofun
    · unfold PhaseOk
      rw [hphase]
      exact ⟨⟨hpasskey, hsession, hassertion⟩, hused⟩
  statement _ htx _ := statement_ok htx
  commit hok htx hfinished := hok.commit htx (finished_iff.mp hfinished)
  others _ htx _ htx' _ hfree := htx'.frame htx.locked hfree

/-- **Passkey ceremonies are bound**: in every interleaving, the counters never go down, an accepted
counter is above the ones before it that are not zero, and every commit does what its ceremony
may. -/
theorem passkey_ceremonies_are_bound (hstart : tables.asserted = [])
    (hrun : Run (ceremonyProgram port) noConflict (.idle tables) s) :
    (∀ id passkey, tables.passkeys id = some passkey → ∃ passkey',
        s.tables.passkeys id = some passkey' ∧ passkey.counter ≤ passkey'.counter) ∧
      (s.tables.asserted.Pairwise fun later earlier =>
        later.1 = earlier.1 → earlier.2 = 0 ∨ earlier.2 < later.2) ∧
      ∀ p tx s', s.txs p = some tx → Step (ceremonyProgram port) s (.commit p) s' →
        CommitOk port tx s.tables s'.tables := by
  have hok : AssertedOk tables := by
    refine ⟨hstart ▸ List.Pairwise.nil, fun id counter hmem => ?_⟩
    rw [hstart] at hmem
    cases hmem
  have hidle : Holds (ceremonyProgram port) AssertedOk (TxOk port) (.idle tables) := .idle hok
  have hholds := (ceremony_invariant port).run hidle hrun
  refine ⟨?_, hholds.tables.increasing, fun p tx s' htx hstep => ?_⟩
  · refine (ceremony_invariant port).run_tables (R := fun before after => ∀ id passkey,
      before.passkeys id = some passkey → ∃ passkey', after.passkeys id = some passkey' ∧
        passkey.counter ≤ passkey'.counter) ?_ ?_ ?_ hidle hrun
    · exact fun tables id passkey hpasskey => ⟨passkey, hpasskey, le_rfl⟩
    · intro before middle after hbefore hafter id passkey hpasskey
      obtain ⟨passkey', hpasskey', hle⟩ := hbefore id passkey hpasskey
      obtain ⟨passkey'', hpasskey'', hle'⟩ := hafter id passkey' hpasskey'
      exact ⟨passkey'', hpasskey'', hle.trans hle'⟩
    · intro tables tx _ htx hfinished id passkey hpasskey
      obtain ⟨passkey', hpasskey', hle, -⟩ :=
        counters_of_commit htx (finished_iff.mp hfinished) id passkey hpasskey
      exact ⟨passkey', hpasskey', hle⟩
  · cases hstep with
    | commit p old running finished =>
        obtain rfl := Option.some.inj (running.symm.trans htx)
        exact commit_ok (hholds.txs p old htx) (finished_iff.mp finished)

end Runs

/-! ### Two runs -/

/-- A port whose verifications answer with the counter in the body. -/
def samplePort : PasskeyPort where
  tokenLookupDigest token := some token
  saltedTokenDigest salt token := salt ++ token
  verifyAuthenticationResponse response _ _ :=
    some ⟨true, true, response.body.length, "singleDevice", false⟩
  verifyRegistrationResponse _ _ := none

/-- A challenge of a step-up, one of a sign-in, and a passkey of the user of the step-up. -/
def sampleTables : PasskeyTables where
  challenges lookup :=
    if lookup = "step" then
      some ⟨.stepUp, "salt", "saltstep", some "user", some "session", some "org", some 7, 1000,
        none, by decide⟩
    else if lookup = "sign" then
      some ⟨.authentication, "salt", "saltsign", none, none, none, none, 1000, none, by decide⟩
    else none
  passkeys id :=
    if id = "key" then some ⟨"id", "user", "public", 4, "singleDevice", false, none, by decide⟩
    else none
  sessions id := if id = "session" then some ⟨"user", some "org", some 7, 1000, none⟩ else none
  memberships := [⟨"user", "org", 7, true⟩]
  asserted := []

/-- A ceremony that begins. -/
def beginCeremony (ceremony : Ceremony) (newSessionId : String) : CeremonyTx :=
  ⟨ceremony, 10, 20, newSessionId, 900, "new", .begun, [], none, none, none, none⟩

/-- A step-up and a sign-in with one passkey; the sign-in waits for the step-up to commit. -/
def sampleEvents : List (Event CeremonyTx) :=
  [.start 0 (beginCeremony (.stepUp "step" ⟨some "key", "12345"⟩ "user" "session") "a"),
    .start 1 (beginCeremony (.signIn "sign" ⟨some "key", "1234567"⟩) "b"),
    .statement 0, .statement 1, .statement 0, .statement 1, .statement 0, .statement 1,
    .statement 0, .commit 0, .statement 1]

/-- The state in which the sign-in commits. -/
def sampleState : Running PasskeyTables CeremonyTx :=
  outcome (ceremonyProgram samplePort) noConflict 2 (.idle sampleTables) sampleEvents

theorem passkey_ceremonies_are_bound_two :
    (∀ id passkey, sampleTables.passkeys id = some passkey → ∃ passkey',
        sampleState.tables.passkeys id = some passkey' ∧ passkey.counter ≤ passkey'.counter) ∧
      (sampleState.tables.asserted.Pairwise fun later earlier =>
        later.1 = earlier.1 → earlier.2 = 0 ∨ earlier.2 < later.2) ∧
      ∀ p tx s', sampleState.txs p = some tx →
        Step (ceremonyProgram samplePort) sampleState (.commit p) s' →
        CommitOk samplePort tx sampleState.tables s'.tables :=
  passkey_ceremonies_are_bound rfl
    (run_outcome (ceremonyProgram samplePort) noConflict sampleEvents (Bounded.idle 2 sampleTables)
      (by decide)).2

example : sampleState.tables.asserted = [("key", 5)] ∧
    (sampleState.txs 1).map (·.assertion) = some (some ("key", 7)) := by decide

/-- A sign-in with a response whose id is no string. -/
def unnamedEvents : List (Event CeremonyTx) :=
  [.start 0 (beginCeremony (.signIn "sign" ⟨none, ""⟩) "b"), .statement 0]

/-- The state in which it is refused. -/
def unnamedState : Running PasskeyTables CeremonyTx :=
  outcome (ceremonyProgram samplePort) noConflict 1 (.idle sampleTables) unnamedEvents

/-- **A response without an id** is refused before the transaction, and its challenge stays live. -/
theorem passkey_refusal_without_id :
    ¬ ∀ (port : PasskeyPort) (tables : PasskeyTables) (s s' : Running PasskeyTables CeremonyTx)
        (p : ℕ) (tx : CeremonyTx), tables.asserted = [] →
      Run (ceremonyProgram port) noConflict (.idle tables) s → s.txs p = some tx →
      Step (ceremonyProgram port) s (.commit p) s' → tx.phase = .refused →
      UsesUp port tx s.tables s'.tables := by
  intro h
  have hrun := (run_outcome (ceremonyProgram samplePort) noConflict unnamedEvents
    (Bounded.idle 1 sampleTables) (by decide)).2
  have htx : unnamedState.txs 0 =
      some (beginCeremony (.signIn "sign" ⟨none, ""⟩) "b").refuse := by decide
  obtain ⟨challenge, hstored, hpresents, hlive⟩ : ∃ challenge,
      unnamedState.tables.challenges "sign" = some challenge ∧
        presents samplePort (.signIn "sign" ⟨none, ""⟩) challenge = true ∧
        10 < challenge.expiresAt := ⟨⟨.authentication, "salt", "saltsign", none, none, none, none,
          1000, none, by decide⟩, by decide, by decide, by decide⟩
  obtain ⟨used, hused, hne⟩ := h samplePort sampleTables unnamedState _ 0 _ rfl hrun htx
    (.commit _ 0 _ htx (by decide)) rfl "sign" challenge rfl hstored hpresents hlive
  -- The refused transaction has written nothing.
  have hsame : unnamedState.tables.challenges "sign" = some used := hused
  have hunused : (unnamedState.tables.challenges "sign").all (·.usedAt.isNone) = true := by
    decide
  rw [hsame] at hunused
  exact hne (Option.isNone_iff_eq_none.mp hunused)

end Opzava.IdentityAccess.Passkeys
