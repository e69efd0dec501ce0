import Opzava.IdentityAccess.LinkTokens

/-!
The runs of the calls of `link-tokens.ts`, interleaved with deletions of sessions and increments
of membership versions.

* `LinkTokenRow.fixed`: the columns of a row that no event changes.
* `kept_run`, `absent_of_deleted`: a row stays until its session is deleted, and does not come back.
* `link_tokens`: what a verified token was issued for, when it is over, and which tokens are
  verified until then.
-/

namespace Opzava.IdentityAccess

open Opzava.Library Opzava.Adapters LinkTokenDatabase

/-! ### Events -/

inductive LinkTokenEvent
  | issue (input : IssueLinkTokenInput) (draw : LinkTokenDraw) (clock : Clock)
  | verify (token : String) (clock : Clock)
  | revoke (input : RevokeLinkTokenInput) (clock : Clock)
  | deleteSession (sessionId : String)
  | incrementMembershipVersion (organizationId userId : String)
  deriving DecidableEq

namespace LinkTokenEvent

/-- The time of a call. -/
def now : LinkTokenEvent → Option Date
  | .issue _ _ clock => some clock.now
  | .verify _ clock => some clock.now
  | .revoke _ clock => some clock.now
  | _ => none

/-- The `jti` that an issue draws. -/
def jti : LinkTokenEvent → Option String
  | .issue _ draw _ => some draw.jti
  | _ => none

end LinkTokenEvent

namespace LinkTokenDatabase

/-- The tokens of a session are deleted with it. -/
def deleteSession (db : LinkTokenDatabase) (sessionId : String) : LinkTokenDatabase :=
  { db with
    sessions := db.sessions.filter (·.id ≠ sessionId)
    linkTokens := db.linkTokens.filter (·.sessionId ≠ sessionId) }

def incrementMembershipVersion (db : LinkTokenDatabase) (organizationId userId : String) :
    LinkTokenDatabase :=
  { db with
    memberships := updateWhere (fun m => m.organizationId = organizationId && m.userId = userId)
      (fun m => { m with membershipVersion := m.membershipVersion + 1 }) db.memberships }

end LinkTokenDatabase

def linkTokenMachine (collation : String → String → Bool) :
    EventMachine LinkTokenDatabase LinkTokenEvent where
  step db
    | .issue input draw clock => (issueLinkToken db input draw clock).2
    | .verify token clock => (verifyLinkToken collation db token clock).2
    | .revoke input clock => (revokeLinkToken db input clock).2
    | .deleteSession sessionId => db.deleteSession sessionId
    | .incrementMembershipVersion organizationId userId =>
        db.incrementMembershipVersion organizationId userId

/-! ### Rows -/

/-- The columns of a row that no event changes. -/
def LinkTokenRow.fixed (row : LinkTokenRow) : LinkTokenRow :=
  { row with revokedAt := none, lastUsedAt := none }

/-- The keys of the rows are different. -/
structure Keyed (db : LinkTokenDatabase) : Prop where
  ids : (db.linkTokens.map (·.id)).Nodup
  hashes : (db.linkTokens.map (·.tokenHash)).Nodup
  jtis : (db.linkTokens.map (·.jti)).Nodup

/-- The event is a revocation of the token that has the key. -/
def Revokes (id : String) (db : LinkTokenDatabase) (event : LinkTokenEvent) : Prop :=
  ∃ input clock record, event = .revoke input clock ∧
    (revokeLinkToken db input clock).1 = .ok (some record) ∧ record.id = id

/-- **What an event does to the tokens.** It changes when some were used, it revokes some, it
deletes those of a session, it adds one, or it leaves all. -/
inductive TokenStep (collation : String → String → Bool) (db : LinkTokenDatabase) :
    LinkTokenEvent → Prop
  | same {event} (heq : ((linkTokenMachine collation).step db event).linkTokens = db.linkTokens)
      (hno : ∀ id, ¬ Revokes id db event) : TokenStep collation db event
  | used {token clock} (id : String)
      (heq : (linkTokenMachine collation).step db (.verify token clock) =
        { db with linkTokens := updateWhere (·.id = id) (·.used clock.now) db.linkTokens }) :
      TokenStep collation db (.verify token clock)
  | revoked {input clock} (id : String)
      (heq : revokeLinkToken db input clock =
        (.ok ((returning (input.selects id) (·.revoked clock.now) db.linkTokens).head?.map
            LinkTokenRow.toLinkTokenDto),
          { db with linkTokens :=
              updateWhere (input.selects id) (·.revoked clock.now) db.linkTokens })) :
      TokenStep collation db (.revoke input clock)
  | deleted (sessionId : String) : TokenStep collation db (.deleteSession sessionId)
  | issued {input draw clock scopes workspaceId membership}
      (hissued : IsIssued db input draw clock scopes workspaceId membership)
      (heq : issueLinkToken db input draw clock =
        (.ok (input.issued scopes draw clock workspaceId membership.membershipVersion),
          { db with linkTokens := db.linkTokens ++
            [input.row scopes draw clock workspaceId membership.membershipVersion] })) :
      TokenStep collation db (.issue input draw clock)

section Steps

variable {collation : String → String → Bool} {db : LinkTokenDatabase} {event : LinkTokenEvent}
  {row : LinkTokenRow}

lemma tokenStep (collation : String → String → Bool) (db : LinkTokenDatabase)
    (event : LinkTokenEvent) : TokenStep collation db event := by
  cases event with
  | issue input draw clock =>
      rcases issueLinkToken_cases db input draw clock with
        ⟨error, heq⟩ | ⟨scopes, workspaceId, membership, hissued, heq⟩
      · refine .same (congrArg (·.2.linkTokens) heq) ?_
        rintro id ⟨_, _, _, hevent, -⟩
        cases hevent
      · exact .issued hissued heq
  | verify token clock =>
      rcases verifyLinkToken_db collation db token clock with heq | ⟨id, heq⟩
      · refine .same (congrArg (·.linkTokens) heq) ?_
        rintro id ⟨_, _, _, hevent, -⟩
        cases hevent
      · exact .used id heq
  | revoke input clock =>
      rcases revokeLinkToken_cases db input clock with ⟨error, heq⟩ | ⟨id, heq⟩
      · refine .same (congrArg (·.2.linkTokens) heq) ?_
        rintro id ⟨input', clock', record, hevent, hok, -⟩
        cases hevent
        rw [heq] at hok
        cases hok
      · exact .revoked id heq
  | deleteSession sessionId => exact .deleted sessionId
  | incrementMembershipVersion organizationId userId =>
      refine .same rfl ?_
      rintro id ⟨_, _, _, hevent, -⟩
      cases hevent

/-! ### Unique keys -/

/-- An update that keeps the fixed columns keeps the keys. -/
lemma Keyed.updated (h : Keyed db) {cond : LinkTokenRow → Bool}
    {change : LinkTokenRow → LinkTokenRow} (hchange : ∀ row, (change row).fixed = row.fixed)
    {tables : LinkTokenDatabase}
    (heq : tables.linkTokens = updateWhere cond change db.linkTokens) : Keyed tables := by
  have hcolumn {κ : Type} (column : LinkTokenRow → κ)
      (hfixed : ∀ row, column row.fixed = column row) :
      tables.linkTokens.map column = db.linkTokens.map column := by
    rw [heq]
    refine map_updateWhere column fun row => ?_
    rw [← hfixed (change row), hchange, hfixed]
  constructor
  · rw [hcolumn (·.id) fun _ => rfl]
    exact h.ids
  · rw [hcolumn (·.tokenHash) fun _ => rfl]
    exact h.hashes
  · rw [hcolumn (·.jti) fun _ => rfl]
    exact h.jtis

lemma fixed_used (now : Date) (row : LinkTokenRow) : (row.used now).fixed = row.fixed := rfl

lemma fixed_revoked (now : Date) (row : LinkTokenRow) : (row.revoked now).fixed = row.fixed := rfl

/-- The keys of a row that is admitted are new. -/
lemma Keyed.append (h : Keyed db) (hadmits : db.admits row = true) {tables : LinkTokenDatabase}
    (heq : tables.linkTokens = db.linkTokens ++ [row]) : Keyed tables := by
  have hnew : ∀ other ∈ db.linkTokens,
      other.id ≠ row.id ∧ other.tokenHash ≠ row.tokenHash ∧ other.jti ≠ row.jti := by
    rw [admits, Bool.and_eq_true, List.all_eq_true] at hadmits
    intro other hother
    have := hadmits.2 other hother
    simpa [and_assoc] using this
  refine ⟨?_, ?_, ?_⟩ <;> rw [heq]
  · exact nodup_map_append h.ids fun other hother => (hnew other hother).1
  · exact nodup_map_append h.hashes fun other hother => (hnew other hother).2.1
  · exact nodup_map_append h.jtis fun other hother => (hnew other hother).2.2

lemma Keyed.step (h : Keyed db) : Keyed ((linkTokenMachine collation).step db event) := by
  cases tokenStep collation db event with
  | same heq =>
      have hsame : db.linkTokens = updateWhere (fun _ => false) id db.linkTokens :=
        (updateWhere_of_forall fun _ _ => rfl).symm
      exact h.updated (fun _ => rfl) (heq.trans hsame)
  | used id heq => exact h.updated (fixed_used _) (congrArg (·.linkTokens) heq)
  | revoked id heq => exact h.updated (fixed_revoked _) (congrArg (·.2.linkTokens) heq)
  | deleted sessionId =>
      have hsub := List.filter_sublist (p := (·.sessionId ≠ sessionId)) (l := db.linkTokens)
      exact ⟨h.ids.sublist (hsub.map _), h.hashes.sublist (hsub.map _), h.jtis.sublist (hsub.map _)⟩
  | issued hissued heq => exact h.append hissued.admits (congrArg (·.2.linkTokens) heq)

lemma Keyed.outcome (collation : String → String → Bool) (events : List LinkTokenEvent)
    (h : Keyed db) : Keyed ((linkTokenMachine collation).outcome db events) :=
  (EventMachine.always_of_invariant (fun _ _ => Keyed.step) h).outcome

/-! ### A row in a run -/

/-- A revocation of the token revokes the row that has its key. -/
lemma revokes_iff (h : Keyed db) (hrow : row ∈ db.linkTokens) {input : RevokeLinkTokenInput}
    {clock : Clock} {id : String}
    (heq : (revokeLinkToken db input clock).1 =
      .ok ((returning (input.selects id) (·.revoked clock.now) db.linkTokens).head?.map
        LinkTokenRow.toLinkTokenDto)) :
    Revokes row.id db (.revoke input clock) ↔ input.selects id row = true := by
  constructor
  · rintro ⟨input', clock', record, hevent, hok, hid⟩
    cases hevent
    obtain ⟨found, hfound, rfl⟩ := Option.map_eq_some_iff.mp (Except.ok.inj (heq.symm.trans hok))
    obtain ⟨old, hold, hselects, rfl⟩ := mem_returning.mp (List.mem_of_mem_head? hfound)
    rwa [eq_of_unique h.ids hrow hold hid.symm]
  · intro hselects
    have hmem : row.revoked clock.now ∈
        returning (input.selects id) (·.revoked clock.now) db.linkTokens :=
      mem_returning.mpr ⟨row, hrow, hselects, rfl⟩
    cases hhead : (returning (input.selects id) (·.revoked clock.now) db.linkTokens).head? with
    | none =>
        rw [List.head?_eq_none_iff.mp hhead] at hmem
        cases hmem
    | some found =>
        obtain ⟨old, hold, hold', rfl⟩ := mem_returning.mp (List.mem_of_mem_head? hhead)
        refine ⟨input, clock, _, rfl, by rw [heq, hhead]; rfl, ?_⟩
        -- Both rows are selected by the key.
        simp only [RevokeLinkTokenInput.selects, Bool.and_eq_true, decide_eq_true_eq]
          at hselects hold'
        exact hold'.1.2.trans hselects.1.2.symm

/-- Only a revocation revokes. -/
lemma not_revokes {id : String} (h : ∀ input clock, event ≠ .revoke input clock) :
    ¬ Revokes id db event := by
  rintro ⟨input, clock, -, hevent, -⟩
  exact h input clock hevent

lemma mem_updateWhere_of_mem {cond : LinkTokenRow → Bool} {change : LinkTokenRow → LinkTokenRow}
    {rows : List LinkTokenRow} (h : row ∈ rows) :
    (if cond row = true then change row else row) ∈ updateWhere cond change rows :=
  List.mem_map_of_mem h

/-- The row of a token in later tables: the fixed columns are the same, and it is revoked if and
only if it was, or the condition fails. -/
def IsKept (row : LinkTokenRow) (notRevoked : Prop) (db : LinkTokenDatabase) : Prop :=
  ∃ later ∈ db.linkTokens, later.fixed = row.fixed ∧
    (later.revokedAt = none ↔ row.revokedAt = none ∧ notRevoked)

lemma kept_step (collation : String → String → Bool) (h : Keyed db) (hrow : row ∈ db.linkTokens)
    (hevent : event ≠ .deleteSession row.sessionId) :
    IsKept row (¬ Revokes row.id db event) ((linkTokenMachine collation).step db event) := by
  cases tokenStep collation db event with
  | same heq hno => exact ⟨row, heq ▸ hrow, rfl, by simp [hno row.id]⟩
  | @used token clock id heq =>
      have hno : ¬ Revokes row.id db (.verify token clock) := not_revokes nofun
      rw [heq]
      refine ⟨_, mem_updateWhere_of_mem hrow, ?_, ?_⟩
      · split <;> rfl
      · split <;> simp [hno, LinkTokenRow.used]
  | @revoked input clock id heq =>
      have hiff := revokes_iff h hrow (congrArg Prod.fst heq)
      have htables : (linkTokenMachine collation).step db (.revoke input clock) = _ :=
        congrArg Prod.snd heq
      rw [htables]
      refine ⟨_, mem_updateWhere_of_mem hrow, ?_, ?_⟩
      · split <;> rfl
      · rw [hiff]
        split <;> rename_i hselects
        · simp [LinkTokenRow.revoked, hselects]
        · simp [hselects]
  | deleted sessionId =>
      have hno : ¬ Revokes row.id db (.deleteSession sessionId) := not_revokes nofun
      refine ⟨row, List.mem_filter.mpr ⟨hrow, ?_⟩, rfl, by simp [hno]⟩
      rw [decide_eq_true_eq]
      rintro rfl
      exact hevent rfl
  | @issued input draw clock _ _ _ hissued heq =>
      have hno : ¬ Revokes row.id db (.issue input draw clock) := not_revokes nofun
      have htables : (linkTokenMachine collation).step db (.issue input draw clock) = _ :=
        congrArg Prod.snd heq
      rw [htables]
      exact ⟨row, List.mem_append_left _ hrow, rfl, by simp [hno]⟩

/-- **A row in a run.** As long as its session is not deleted it is there, and it is revoked if and
only if one of the calls has revoked it. -/
lemma kept_run {events : List LinkTokenEvent} (h : Keyed db) (hrow : row ∈ db.linkTokens)
    (hevents : .deleteSession row.sessionId ∉ events) :
    IsKept row ((linkTokenMachine collation).EachStep (fun db event => ¬ Revokes row.id db event)
      db events) ((linkTokenMachine collation).outcome db events) := by
  induction events generalizing db row with
  | nil => exact ⟨row, hrow, rfl, by simp [EventMachine.EachStep]⟩
  | cons event events ih =>
      obtain ⟨hevent, hevents⟩ := not_or.mp (mt List.mem_cons.mpr hevents)
      obtain ⟨later, hlater, hfixed, hrevoked⟩ :=
        kept_step collation h hrow (Ne.symm hevent)
      have hid : later.id = row.id := congrArg (·.id) hfixed
      have hsession : later.sessionId = row.sessionId := congrArg (·.sessionId) hfixed
      obtain ⟨last, hlast, hlastFixed, hlastRevoked⟩ :=
        ih (Keyed.step h) hlater (by rwa [hsession])
      refine ⟨last, hlast, hlastFixed.trans hfixed, ?_⟩
      rw [hlastRevoked, hrevoked, hid, and_assoc]
      rfl

/-- A row after an event was there before, or the event has issued its token. -/
lemma rows_step (h : row ∈ ((linkTokenMachine collation).step db event).linkTokens) :
    (∃ old ∈ db.linkTokens, row.fixed = old.fixed) ∨
    ∃ input draw clock scopes workspaceId membershipVersion, event = .issue input draw clock ∧
      (issueLinkToken db input draw clock).1 =
        .ok (input.issued scopes draw clock workspaceId membershipVersion) ∧
      row = input.row scopes draw clock workspaceId membershipVersion := by
  have hupdate {cond : LinkTokenRow → Bool} {change : LinkTokenRow → LinkTokenRow}
      (hchange : ∀ row, (change row).fixed = row.fixed)
      (hrow : row ∈ updateWhere cond change db.linkTokens) :
      ∃ old ∈ db.linkTokens, row.fixed = old.fixed := by
    rcases mem_updateWhere.mp hrow with ⟨hold, -⟩ | ⟨old, hold, -, rfl⟩
    · exact ⟨row, hold, rfl⟩
    · exact ⟨old, hold, hchange old⟩
  cases tokenStep collation db event with
  | same heq => exact .inl ⟨row, heq ▸ h, rfl⟩
  | used id heq =>
      rw [heq] at h
      exact .inl (hupdate (fixed_used _) h)
  | @revoked input clock id heq =>
      have htables : (linkTokenMachine collation).step db (.revoke input clock) = _ :=
        congrArg Prod.snd heq
      rw [htables] at h
      exact .inl (hupdate (fixed_revoked _) h)
  | deleted sessionId => exact .inl ⟨row, List.mem_of_mem_filter h, rfl⟩
  | @issued input draw clock scopes workspaceId membership hissued heq =>
      have htables : (linkTokenMachine collation).step db (.issue input draw clock) = _ :=
        congrArg Prod.snd heq
      rw [htables] at h
      rcases List.mem_append.mp h with hold | hnew
      · exact .inl ⟨row, hold, rfl⟩
      · exact .inr ⟨input, draw, clock, scopes, workspaceId, _, rfl,
          congrArg Prod.fst heq, List.mem_singleton.mp hnew⟩

/-- No row has the `jti`. -/
def Absent (jti : String) (db : LinkTokenDatabase) : Prop := ∀ row ∈ db.linkTokens, row.jti ≠ jti

lemma absent_step {jti : String} (h : Absent jti db) (hevent : event.jti ≠ some jti) :
    Absent jti ((linkTokenMachine collation).step db event) := by
  intro row hrow hjti
  rcases rows_step hrow with ⟨old, hold, hfixed⟩ | ⟨input, draw, clock, _, _, _, rfl, -, rfl⟩
  · have hsame : row.jti = old.jti := congrArg (·.jti) hfixed
    exact h old hold (hsame.symm.trans hjti)
  · exact hevent (congrArg some hjti)

/-- A token that is not there is not issued again without its `jti`. -/
lemma absent_run {events : List LinkTokenEvent} {jti : String} (h : Absent jti db)
    (hevents : ∀ event ∈ events, event.jti ≠ some jti) :
    Absent jti ((linkTokenMachine collation).outcome db events) := by
  induction events generalizing db with
  | nil => exact h
  | cons event events ih =>
      exact ih (absent_step h (hevents event List.mem_cons_self))
        fun other hother => hevents other (List.mem_cons_of_mem _ hother)

/-- **A token whose session is deleted is gone.** -/
lemma absent_of_deleted (collation : String → String → Bool) {events : List LinkTokenEvent}
    (h : Keyed db) (hrow : row ∈ db.linkTokens)
    (hdeleted : .deleteSession row.sessionId ∈ events)
    (hevents : ∀ event ∈ events, event.jti ≠ some row.jti) :
    Absent row.jti ((linkTokenMachine collation).outcome db events) := by
  induction events generalizing db row with
  | nil => cases hdeleted
  | cons event events ih =>
      have hrest : ∀ other ∈ events, other.jti ≠ some row.jti := fun other hother =>
        hevents other (List.mem_cons_of_mem _ hother)
      by_cases hevent : event = .deleteSession row.sessionId
      · subst hevent
        have hgone : Absent row.jti (db.deleteSession row.sessionId) := by
          intro other hother hjti
          obtain ⟨hold, hsession⟩ := List.mem_filter.mp hother
          rw [decide_eq_true_eq] at hsession
          exact hsession (congrArg (·.sessionId) (eq_of_unique h.jtis hold hrow hjti))
        change Absent row.jti ((linkTokenMachine collation).outcome
          (db.deleteSession row.sessionId) events)
        exact absent_run hgone hrest
      · obtain ⟨later, hlater, hfixed, -⟩ := kept_step collation h hrow hevent
        have hjti : later.jti = row.jti := congrArg (·.jti) hfixed
        have hsession : later.sessionId = row.sessionId := congrArg (·.sessionId) hfixed
        have hlast := ih (Keyed.step h) hlater
          (hsession ▸ (List.mem_cons.mp hdeleted).resolve_left (Ne.symm hevent))
          (by rwa [hjti])
        rwa [hjti] at hlast

/-! ### Memberships and sessions in a run -/

/-- The calls write to no table but `link_tokens`. -/
lemma step_tables (collation : String → String → Bool)
    (hdelete : ∀ sessionId, event ≠ .deleteSession sessionId)
    (hincrement : ∀ organizationId userId,
      event ≠ .incrementMembershipVersion organizationId userId) :
    ((linkTokenMachine collation).step db event).memberships = db.memberships ∧
      ((linkTokenMachine collation).step db event).sessions = db.sessions := by
  cases event with
  | issue input draw clock =>
      change (issueLinkToken db input draw clock).2.memberships = _ ∧
        (issueLinkToken db input draw clock).2.sessions = _
      rcases issueLinkToken_cases db input draw clock with ⟨_, heq⟩ | ⟨_, _, _, -, heq⟩ <;>
        rw [heq] <;> exact ⟨rfl, rfl⟩
  | verify token clock =>
      change (verifyLinkToken collation db token clock).2.memberships = _ ∧
        (verifyLinkToken collation db token clock).2.sessions = _
      rcases verifyLinkToken_db collation db token clock with heq | ⟨_, heq⟩ <;>
        rw [heq] <;> exact ⟨rfl, rfl⟩
  | revoke input clock =>
      change (revokeLinkToken db input clock).2.memberships = _ ∧
        (revokeLinkToken db input clock).2.sessions = _
      rcases revokeLinkToken_cases db input clock with ⟨_, heq⟩ | ⟨_, heq⟩ <;>
        rw [heq] <;> exact ⟨rfl, rfl⟩
  | deleteSession sessionId => exact absurd rfl (hdelete sessionId)
  | incrementMembershipVersion organizationId userId =>
      exact absurd rfl (hincrement organizationId userId)

/-- The membership after a number of increments. -/
def Membership.incremented (n : ℕ) (m : Membership) : Membership :=
  { m with membershipVersion := m.membershipVersion + n }

lemma activeMembership_increment (db : LinkTokenDatabase)
    (organizationId userId' orgId userId : String) :
    (db.incrementMembershipVersion organizationId userId').activeMembership orgId userId =
      (db.activeMembership orgId userId).map (·.incremented
        ([LinkTokenEvent.incrementMembershipVersion organizationId userId'].count
          (.incrementMembershipVersion orgId userId))) := by
  rw [activeMembership, incrementMembershipVersion, updateWhere, List.find?_map]
  -- The columns that are compared are not changed.
  have hcond : (fun m : Membership => (m.organizationId = orgId && m.userId = userId &&
      m.status = .active : Bool)) ∘ (fun m => if (m.organizationId = organizationId &&
        m.userId = userId' : Bool) = true then
          { m with membershipVersion := m.membershipVersion + 1 } else m) =
      fun m : Membership => (m.organizationId = orgId && m.userId = userId &&
        m.status = .active : Bool) := by
    funext m
    simp only [Function.comp]
    split <;> rfl
  rw [hcond]
  change Option.map _ (db.activeMembership orgId userId) = _
  cases hactive : db.activeMembership orgId userId with
  | none => rfl
  | some m =>
      have hm := List.find?_some hactive
      simp only [Bool.and_eq_true, decide_eq_true_eq] at hm
      obtain ⟨⟨rfl, rfl⟩, -⟩ := hm
      by_cases hsame : m.organizationId = organizationId ∧ m.userId = userId'
      · obtain ⟨rfl, rfl⟩ := hsame
        simp [Membership.incremented]
      · have hne : LinkTokenEvent.incrementMembershipVersion organizationId userId' ≠
            .incrementMembershipVersion m.organizationId m.userId := by
          intro heq
          cases heq
          exact hsame ⟨rfl, rfl⟩
        simp [Membership.incremented, hsame, hne]

lemma activeMembership_step (collation : String → String → Bool) (db : LinkTokenDatabase)
    (event : LinkTokenEvent) (orgId userId : String) :
    ((linkTokenMachine collation).step db event).activeMembership orgId userId =
      (db.activeMembership orgId userId).map (·.incremented
        ([event].count (.incrementMembershipVersion orgId userId))) := by
  have hcalls (hincrement : ∀ organizationId userId,
      event ≠ .incrementMembershipVersion organizationId userId)
      (htables : ((linkTokenMachine collation).step db event).memberships = db.memberships) :
      ((linkTokenMachine collation).step db event).activeMembership orgId userId =
        (db.activeMembership orgId userId).map (·.incremented
          ([event].count (.incrementMembershipVersion orgId userId))) := by
    have hcount : [event].count (.incrementMembershipVersion orgId userId) = 0 :=
      List.count_eq_zero.mpr fun hmem =>
        hincrement orgId userId (List.mem_singleton.mp hmem).symm
    rw [hcount, activeMembership, htables]
    simp [activeMembership, Membership.incremented]
  by_cases hincrement : ∃ organizationId userId',
      event = .incrementMembershipVersion organizationId userId'
  · obtain ⟨organizationId, userId', rfl⟩ := hincrement
    exact activeMembership_increment db organizationId userId' orgId userId
  · have hnot : ∀ organizationId userId',
        event ≠ .incrementMembershipVersion organizationId userId' :=
      fun organizationId userId' heq => hincrement ⟨organizationId, userId', heq⟩
    by_cases hdelete : ∃ sessionId, event = .deleteSession sessionId
    · obtain ⟨sessionId, rfl⟩ := hdelete
      exact hcalls hnot rfl
    · exact hcalls hnot (step_tables collation (fun id heq => hdelete ⟨id, heq⟩) hnot).1

lemma activeMembership_run (db : LinkTokenDatabase) (events : List LinkTokenEvent)
    (orgId userId : String) :
    ((linkTokenMachine collation).outcome db events).activeMembership orgId userId =
      (db.activeMembership orgId userId).map (·.incremented
        (events.count (.incrementMembershipVersion orgId userId))) := by
  induction events generalizing db with
  | nil => simp [EventMachine.outcome, Membership.incremented]
  | cons event events ih =>
      have htail := ih ((linkTokenMachine collation).step db event)
      rw [activeMembership_step, Option.map_map] at htail
      refine htail.trans (congrArg (fun f => (db.activeMembership orgId userId).map f) ?_)
      funext m
      have hcount : (event :: events).count (.incrementMembershipVersion orgId userId) =
          [event].count (.incrementMembershipVersion orgId userId) +
            events.count (.incrementMembershipVersion orgId userId) := by
        rw [← List.count_append, List.singleton_append]
      rw [hcount]
      simp [Membership.incremented, Int.add_assoc]

/-- A session that is there was not deleted. -/
lemma sessions_step {session : AuthSession}
    (h : session ∈ ((linkTokenMachine collation).step db event).sessions) :
    session ∈ db.sessions ∧ event ≠ .deleteSession session.id := by
  by_cases hdelete : ∃ sessionId, event = .deleteSession sessionId
  · obtain ⟨sessionId, rfl⟩ := hdelete
    obtain ⟨hmem, hne⟩ := List.mem_filter.mp h
    rw [decide_eq_true_eq] at hne
    refine ⟨hmem, fun heq => hne ?_⟩
    cases heq
    rfl
  · have hne : ∀ sessionId, event ≠ .deleteSession sessionId := fun sessionId heq =>
      hdelete ⟨sessionId, heq⟩
    refine ⟨?_, hne session.id⟩
    by_cases hincrement : ∃ organizationId userId,
        event = .incrementMembershipVersion organizationId userId
    · obtain ⟨organizationId, userId, rfl⟩ := hincrement
      exact h
    · rwa [(step_tables collation hne
        fun organizationId userId heq => hincrement ⟨organizationId, userId, heq⟩).2] at h

lemma sessions_run {events : List LinkTokenEvent} {session : AuthSession}
    (h : session ∈ ((linkTokenMachine collation).outcome db events).sessions) :
    session ∈ db.sessions ∧ .deleteSession session.id ∉ events := by
  induction events generalizing db with
  | nil => exact ⟨h, by simp⟩
  | cons event events ih =>
      obtain ⟨hnext, hevents⟩ := ih h
      obtain ⟨hmem, hevent⟩ := sessions_step hnext
      refine ⟨hmem, fun hdeleted => ?_⟩
      rcases List.mem_cons.mp hdeleted with heq | hlater
      · exact hevent heq.symm
      · exact hevents hlater

end Steps

/-! ### The calls that issue a token -/

/-- A call `issueLinkToken` of a run, with the events before and after it. -/
structure IssueCall where
  before : List LinkTokenEvent
  input : IssueLinkTokenInput
  draw : LinkTokenDraw
  clock : Clock
  issued : IssuedLinkToken
  after : List LinkTokenEvent

namespace IssueCall

variable {collation : String → String → Bool} {start : LinkTokenDatabase}
  {events : List LinkTokenEvent} {call : IssueCall}

def event (call : IssueCall) : LinkTokenEvent := .issue call.input call.draw call.clock

/-- The tables right after the call. -/
def tables (collation : String → String → Bool) (start : LinkTokenDatabase) (call : IssueCall) :
    LinkTokenDatabase :=
  (linkTokenMachine collation).step ((linkTokenMachine collation).outcome start call.before)
    call.event

/-- The call is one of the run, and it has returned the token. -/
structure OfRun (collation : String → String → Bool) (start : LinkTokenDatabase)
    (events : List LinkTokenEvent) (call : IssueCall) : Prop where
  events_eq : events = call.before ++ call.event :: call.after
  accepted : (issueLinkToken ((linkTokenMachine collation).outcome start call.before) call.input
    call.draw call.clock).1 = .ok call.issued

/-- A later call has revoked the token. -/
def Revoked (collation : String → String → Bool) (start : LinkTokenDatabase) (call : IssueCall) :
    Prop :=
  ∃ between event rest, call.after = between ++ event :: rest ∧
    Revokes call.issued.record.id
      ((linkTokenMachine collation).outcome (call.tables collation start) between) event

/-- The row of the token when it is issued. -/
def row (call : IssueCall) : LinkTokenRow :=
  { call.issued.record with tokenHash := hashToken call.issued.token }

/-- What the call has checked and written. -/
structure Facts (collation : String → String → Bool) (start : LinkTokenDatabase)
    (call : IssueCall) : Prop where
  mem : call.row ∈ (call.tables collation start).linkTokens
  notRevoked : call.row.revokedAt = none
  parsed : parseToken call.issued.token = .ok call.issued.claims
  parsedScope : parseScopeClaim call.issued.claims.scope = .ok call.issued.record.scopes
  scopes : normalizeScopes call.input.scopes = .ok call.issued.record.scopes
  tenant : isTenantUuid call.input.orgId = true
  claimedTenant : call.issued.claims.tenant_id = call.input.orgId
  organizationId : call.issued.record.organizationId = uuidText call.input.orgId
  workspaceId : readUuid call.input.workspaceId = some call.issued.record.workspaceId
  userId : call.issued.record.userId = call.input.userId
  user : setCurrentUser call.input.userId = true
  sessionId : call.issued.record.sessionId = call.input.sessionId
  sid : call.issued.claims.sid = call.input.sessionId
  jti : call.issued.record.jti = call.draw.jti
  claimedJti : call.issued.claims.jti = call.draw.jti
  exp : call.issued.claims.exp = toString (call.issued.record.expiresAt / 1000)
  membership : ∃ m, (call.tables collation start).activeMembership
    call.issued.record.organizationId call.issued.record.userId = some m ∧
    m.membershipVersion = call.issued.record.membershipVersion

lemma OfRun.facts (h : call.OfRun collation start events) : call.Facts collation start := by
  obtain ⟨-, haccepted⟩ := h
  obtain ⟨before, input, draw, clock, issued, after⟩ := call
  dsimp only at haccepted
  rcases issueLinkToken_cases ((linkTokenMachine collation).outcome start before) input draw clock
    with ⟨error, heq⟩ | ⟨scopes, workspaceId, membership, hissued, heq⟩
  · rw [heq] at haccepted
    cases haccepted
  · have htables : (linkTokenMachine collation).step
        ((linkTokenMachine collation).outcome start before) (.issue input draw clock) = _ :=
      congrArg Prod.snd heq
    rw [heq] at haccepted
    obtain rfl := Except.ok.inj haccepted
    obtain ⟨hid, hscopes⟩ := validateIssueInput_ok hissued.valid
    have hsecret : draw.secret ≠ [] := fun hnil => by
      have hlength := draw.secret_length
      rw [hnil] at hlength
      cases hlength
    exact
      { mem := by
          rw [tables, event, htables]
          exact List.mem_append_right _ (List.mem_singleton.mpr rfl)
        notRevoked := rfl
        parsed := parseToken_tokenFromClaims rfl (isNumeral_int _) hid hsecret
        parsedScope := parseScopeClaim_scopeClaim hscopes
        scopes := hscopes
        tenant := hissued.tenant
        claimedTenant := rfl
        organizationId := rfl
        workspaceId := hissued.workspace
        userId := rfl
        user := hissued.user
        sessionId := rfl
        sid := rfl
        jti := rfl
        claimedJti := rfl
        exp := rfl
        membership := by
          refine ⟨membership, ?_, rfl⟩
          rw [tables, event, htables]
          exact hissued.member }

/-- The token was not revoked if and only if no later call has done so. -/
lemma not_revoked_iff : ¬ call.Revoked collation start ↔
    (linkTokenMachine collation).EachStep (fun db event => ¬ Revokes call.issued.record.id db event)
      (call.tables collation start) call.after := by
  rw [← not_iff_not, not_not, EventMachine.not_eachStep_iff, Revoked]
  simp only [not_not]

lemma OfRun.outcome (h : call.OfRun collation start events) :
    (linkTokenMachine collation).outcome start events =
      (linkTokenMachine collation).outcome (call.tables collation start) call.after := by
  rw [h.events_eq, EventMachine.outcome_append]
  rfl

lemma OfRun.keyed (_h : call.OfRun collation start events) (hstart : start.linkTokens = []) :
    Keyed (call.tables collation start) := by
  have hempty : Keyed start := by
    constructor <;> rw [hstart] <;> exact List.nodup_nil
  exact (hempty.outcome collation call.before).step

/-- A `jti` is drawn once. -/
lemma OfRun.fresh (h : call.OfRun collation start events)
    (hfresh : (events.filterMap LinkTokenEvent.jti).Nodup) :
    ∀ event ∈ call.after, event.jti ≠ some call.draw.jti := by
  intro other hother hjti
  have hevent : call.event.jti = some call.draw.jti := rfl
  rw [h.events_eq, List.filterMap_append, List.filterMap_cons_some hevent] at hfresh
  have htail := (List.nodup_append.mp hfresh).2.1
  exact (List.nodup_cons.mp htail).1 (List.mem_filterMap.mpr ⟨other, hother, hjti⟩)

/-- The row of the token at the end of a run in which its session is not deleted. -/
lemma OfRun.kept (h : call.OfRun collation start events) (hstart : start.linkTokens = [])
    (hsession : .deleteSession call.input.sessionId ∉ call.after) :
    IsKept call.row (¬ call.Revoked collation start)
      ((linkTokenMachine collation).outcome start events) := by
  have hfacts := h.facts
  rw [h.outcome, not_revoked_iff]
  refine kept_run (h.keyed hstart) hfacts.mem ?_
  have hrow : call.row.sessionId = call.input.sessionId := hfacts.sessionId
  rwa [hrow]

/-- The active membership at the end of a run, and the version in it. -/
lemma OfRun.activeMembership (h : call.OfRun collation start events) :
    ∃ m, ((linkTokenMachine collation).outcome start events).activeMembership
        call.issued.record.organizationId call.issued.record.userId = some m ∧
      m.membershipVersion = call.issued.record.membershipVersion + call.after.count
        (.incrementMembershipVersion call.issued.record.organizationId
          call.issued.record.userId) := by
  obtain ⟨m, hm, hversion⟩ := h.facts.membership
  refine ⟨_, by rw [h.outcome, activeMembership_run, hm]; rfl, ?_⟩
  simp only [Membership.incremented, hversion]

end IssueCall

/-! ### What a verified token was issued for -/

/-- The runs of the claim: no token before the first event, times that do not decrease, draws that
are new, and no two of the tokens with the same hash. -/
structure IsRun (collation : String → String → Bool) (start : LinkTokenDatabase)
    (events : List LinkTokenEvent) (token : String) (clock : Clock) : Prop where
  empty : start.linkTokens = []
  ordered : (events.filterMap LinkTokenEvent.now ++ [clock.now]).Pairwise (· ≤ ·)
  fresh : (events.filterMap LinkTokenEvent.jti).Nodup
  hashes : ∀ call : IssueCall, call.OfRun collation start events →
    hashToken call.issued.token = hashToken token → call.issued.token = token

/-- A row has the hash. -/
def HasHash (hash : String) (db : LinkTokenDatabase) : Prop :=
  ∃ row ∈ db.linkTokens, row.tokenHash = hash

section Verified

variable {collation : String → String → Bool} {start : LinkTokenDatabase}
  {events : List LinkTokenEvent} {token : String} {clock : Clock} {call : IssueCall}
  {principal : LinkTokenPrincipal}

/-- The token that is verified was issued by a call of the run. -/
lemma exists_issueCall (hrun : IsRun collation start events token clock)
    (hok : (verifyLinkToken collation ((linkTokenMachine collation).outcome start events) token
      clock).1 = .ok principal) :
    ∃ call : IssueCall, call.OfRun collation start events ∧ call.issued.token = token := by
  obtain ⟨claims, scopes, row, hselects, -, -⟩ := verifyLinkToken_ok hok
  have hfound := List.find?_some hselects.found
  simp only [LinkTokenRow.isSelected, Bool.and_eq_true, decide_eq_true_eq] at hfound
  have hnone : ¬ HasHash (hashToken token) start := by
    rintro ⟨row, hrow, -⟩
    rw [hrun.empty] at hrow
    cases hrow
  have hsome : HasHash (hashToken token) ((linkTokenMachine collation).outcome start events) :=
    ⟨row, List.mem_of_find?_eq_some hselects.found, hfound.1.2⟩
  obtain ⟨before, event, after, heq, hbefore, added, hadded, hhash⟩ :=
    EventMachine.exists_step_of_outcome hnone hsome
  -- The row is new, hence inserted by an issue.
  rcases rows_step hadded with ⟨old, hold, hfixed⟩ |
    ⟨input, draw, clock', scopes', workspaceId, version, rfl, haccepted, rfl⟩
  · have hsame : added.tokenHash = old.tokenHash := congrArg (·.tokenHash) hfixed
    exact absurd ⟨old, hold, hsame.symm.trans hhash⟩ hbefore
  · have hcall : (IssueCall.mk before input draw clock'
        (input.issued scopes' draw clock' workspaceId version) after).OfRun collation start events :=
      ⟨heq, haccepted⟩
    exact ⟨_, hcall, hrun.hashes _ hcall hhash⟩

/-- The row that a verified token selects is the one of the call that issued it, and its session
was not deleted. -/
lemma verified_row (hrun : IsRun collation start events token clock)
    (hcall : call.OfRun collation start events) (htoken : call.issued.token = token)
    (hok : (verifyLinkToken collation ((linkTokenMachine collation).outcome start events) token
      clock).1 = .ok principal) :
    .deleteSession call.input.sessionId ∉ call.after ∧ ∃ row scopes, row.fixed = call.row.fixed ∧
      (row.revokedAt = none ↔ ¬ call.Revoked collation start) ∧
      IsCurrent ((linkTokenMachine collation).outcome start events) call.issued.claims scopes row
        clock ∧
      principal = row.principal (((linkTokenMachine collation).outcome start events).roleKeys
        collation row.organizationId row.userId) := by
  have hfacts := hcall.facts
  obtain ⟨claims, scopes, row, hselects, hcurrent, hprincipal⟩ := verifyLinkToken_ok hok
  obtain rfl : claims = call.issued.claims := by
    rw [← htoken] at hselects
    exact Except.ok.inj (hselects.parsed.symm.trans hfacts.parsed)
  have hfound := List.find?_some hselects.found
  have hmem := List.mem_of_find?_eq_some hselects.found
  simp only [LinkTokenRow.isSelected, Bool.and_eq_true, decide_eq_true_eq] at hfound
  have hjti : row.jti = call.row.jti :=
    hfound.2.trans (hfacts.claimedJti.trans hfacts.jti.symm)
  have hdeleted : .deleteSession call.input.sessionId ∉ call.after := by
    intro hdeleted
    have hfresh := hcall.fresh hrun.fresh
    rw [← hfacts.jti] at hfresh
    have hsession : call.row.sessionId = call.input.sessionId := hfacts.sessionId
    rw [← hsession] at hdeleted
    have habsent := absent_of_deleted collation (hcall.keyed hrun.empty) hfacts.mem hdeleted hfresh
    rw [← hcall.outcome] at habsent
    exact habsent row hmem hjti
  obtain ⟨later, hlater, hfixed, hrevoked⟩ := hcall.kept hrun.empty hdeleted
  have hkeyed := (hcall.keyed hrun.empty).outcome collation call.after
  rw [← hcall.outcome] at hkeyed
  have hlaterJti : later.jti = call.row.jti := congrArg (·.jti) hfixed
  obtain rfl : later = row := eq_of_unique hkeyed.jtis hlater hmem (hlaterJti.trans hjti.symm)
  refine ⟨hdeleted, later, scopes, hfixed, ?_, hcurrent, hprincipal⟩
  rw [hrevoked]
  exact ⟨And.right, fun h => ⟨hfacts.notRevoked, h⟩⟩

/-- A token selects one row. -/
lemma Selects.unique {db : LinkTokenDatabase} {claims claims' : LinkTokenClaims}
    {scopes scopes' : List LinkTokenScope} {row row' : LinkTokenRow}
    (h : Selects db token clock claims scopes row)
    (h' : Selects db token clock claims' scopes' row') :
    claims = claims' ∧ scopes = scopes' ∧ row = row' := by
  obtain rfl := Except.ok.inj (h.parsed.symm.trans h'.parsed)
  exact ⟨rfl, Except.ok.inj (h.parsedScope.symm.trans h'.parsedScope),
    Option.some.inj (h.found.symm.trans h'.found)⟩

/-- Before its expiry, rounded down to the second, a token whose session was not deleted selects
its row. -/
lemma selects_row (hrun : IsRun collation start events token clock)
    (hcall : call.OfRun collation start events) (htoken : call.issued.token = token)
    (hnow : clock.now < call.issued.record.expiresAt / 1000 * 1000)
    (hdeleted : .deleteSession call.input.sessionId ∉ call.after) :
    ∃ row, Selects ((linkTokenMachine collation).outcome start events) token clock
        call.issued.claims call.issued.record.scopes row ∧ row.fixed = call.row.fixed ∧
      (row.revokedAt = none ↔ ¬ call.Revoked collation start) := by
  have hfacts := hcall.facts
  obtain ⟨row, hrow, hfixed, hrevoked⟩ := hcall.kept hrun.empty hdeleted
  have hselected : row.isSelected token call.issued.claims = true := by
    have horg : row.organizationId = call.issued.record.organizationId :=
      congrArg (·.organizationId) hfixed
    have hhash : row.tokenHash = hashToken call.issued.token := congrArg (·.tokenHash) hfixed
    have hjti : row.jti = call.issued.record.jti := congrArg (·.jti) hfixed
    rw [LinkTokenRow.isSelected, horg, hhash, hjti, htoken, hfacts.organizationId, hfacts.jti,
      hfacts.claimedJti, hfacts.claimedTenant]
    simp
  have hkeyed := (hcall.keyed hrun.empty).outcome collation call.after
  rw [← hcall.outcome] at hkeyed
  have hfound : ((linkTokenMachine collation).outcome start events).linkTokens.find?
      (·.isSelected token call.issued.claims) = some row := by
    cases hfind : ((linkTokenMachine collation).outcome start events).linkTokens.find?
        (·.isSelected token call.issued.claims) with
    | none => exact absurd hselected (List.find?_eq_none.mp hfind row hrow)
    | some other =>
        have hother := List.find?_some hfind
        simp only [LinkTokenRow.isSelected, Bool.and_eq_true, decide_eq_true_eq]
          at hother hselected
        rw [eq_of_unique hkeyed.jtis (List.mem_of_find?_eq_some hfind) hrow
          (hother.2.trans hselected.2.symm)]
  refine ⟨row, ⟨htoken ▸ hfacts.parsed, hfacts.parsedScope, ?_, ?_, hfound⟩, hfixed, ?_⟩
  · rw [hfacts.exp]
    exact isExpired_claimExpiresAt hnow
  · rw [hfacts.claimedTenant]
    exact hfacts.tenant
  · rw [hrevoked]
    exact ⟨And.right, fun h => ⟨hfacts.notRevoked, h⟩⟩

/-- A membership is the one of the issue if and only if its version is. -/
lemma membership_any_iff (hcall : call.OfRun collation start events) :
    (((linkTokenMachine collation).outcome start events).activeMembership
        call.issued.record.organizationId call.issued.record.userId).any
        (·.membershipVersion = call.issued.record.membershipVersion) = true ↔
      ((linkTokenMachine collation).outcome start events).activeMembership
          call.issued.record.organizationId call.issued.record.userId =
        (call.tables collation start).activeMembership
          call.issued.record.organizationId call.issued.record.userId := by
  obtain ⟨m, hm, hversion⟩ := hcall.facts.membership
  rw [hcall.outcome, activeMembership_run, hm, Option.map_some, Option.any_some, decide_eq_true_eq,
    Option.some_inj]
  constructor
  · intro h
    have hcount : call.after.count (.incrementMembershipVersion
        call.issued.record.organizationId call.issued.record.userId) = 0 := by
      simp only [Membership.incremented] at h
      omega
    rw [hcount]
    simp [Membership.incremented]
  · intro h
    rw [h, hversion]

/-- Everything a token rests on is as it was when it was issued: it was not revoked, the membership
is the same and active, and the session is current. -/
structure IssueCall.StillCurrent (collation : String → String → Bool) (start : LinkTokenDatabase)
    (events : List LinkTokenEvent) (clock : Clock) (call : IssueCall) : Prop where
  notRevoked : ¬ call.Revoked collation start
  membership : ((linkTokenMachine collation).outcome start events).activeMembership
      call.issued.record.organizationId call.input.userId =
    (call.tables collation start).activeMembership call.issued.record.organizationId
      call.input.userId
  session : ((linkTokenMachine collation).outcome start events).assertSessionCurrent
    clock.transaction call.input.sessionId call.issued.record.organizationId call.input.userId
    call.issued.record.membershipVersion = true

/-- The token was revoked, its session was deleted, its membership version has changed, or its
expiry was reached. -/
def IssueCall.IsOver (collation : String → String → Bool) (start : LinkTokenDatabase)
    (clock : Clock) (call : IssueCall) : Prop :=
  call.Revoked collation start ∨
  .deleteSession call.input.sessionId ∈ call.after ∨
  .incrementMembershipVersion call.issued.record.organizationId call.input.userId ∈ call.after ∨
  (∃ event ∈ call.after, ∃ time, event.now = some time ∧ call.issued.record.expiresAt ≤ time) ∨
  call.issued.record.expiresAt ≤ clock.now

/-- What a verified token was issued for, and what was checked. -/
lemma verified_facts (hrun : IsRun collation start events token clock)
    (hcall : call.OfRun collation start events) (htoken : call.issued.token = token)
    (hok : (verifyLinkToken collation ((linkTokenMachine collation).outcome start events) token
      clock).1 = .ok principal) :
    call.StillCurrent collation start events clock ∧
      clock.now < call.issued.record.expiresAt ∧
      .deleteSession call.input.sessionId ∉ call.after ∧
      (principal.orgId = call.input.orgId ∧
        readUuid call.input.workspaceId = some principal.workspaceId ∧
        principal.userId = call.input.userId ∧ principal.sessionId = call.input.sessionId ∧
        normalizeScopes call.input.scopes = .ok principal.scopes) ∧
      uuidText call.input.orgId = call.input.orgId := by
  have hfacts := hcall.facts
  obtain ⟨hdeleted, row, scopes, hfixed, hrevoked, hcurrent, rfl⟩ :=
    verified_row hrun hcall htoken hok
  have horg : row.organizationId = call.issued.record.organizationId :=
    congrArg (·.organizationId) hfixed
  have huser : row.userId = call.issued.record.userId := congrArg (·.userId) hfixed
  have hsession : row.sessionId = call.issued.record.sessionId := congrArg (·.sessionId) hfixed
  have hversion : row.membershipVersion = call.issued.record.membershipVersion :=
    congrArg (·.membershipVersion) hfixed
  have hexpires : row.expiresAt = call.issued.record.expiresAt := congrArg (·.expiresAt) hfixed
  have hworkspace : row.workspaceId = call.issued.record.workspaceId :=
    congrArg (·.workspaceId) hfixed
  have hscopes : row.scopes = call.issued.record.scopes := congrArg (·.scopes) hfixed
  have hagrees := hcurrent.agrees
  simp only [LinkTokenRow.agrees, Bool.and_eq_true, decide_eq_true_eq] at hagrees
  have hcanonical : row.organizationId = call.input.orgId :=
    hagrees.1.1.1.trans hfacts.claimedTenant
  have hmembership := hcurrent.membership
  have hsessionCurrent := hcurrent.session
  rw [horg, huser, hversion, membership_any_iff hcall, hfacts.userId] at hmembership
  rw [hsession, horg, huser, hversion, hfacts.userId, hfacts.sessionId] at hsessionCurrent
  refine ⟨⟨hrevoked.mp hcurrent.notRevoked, hmembership, hsessionCurrent⟩,
    hexpires ▸ hcurrent.notExpired, hdeleted,
    ⟨hcanonical, ?_, huser.trans hfacts.userId, hsession.trans hfacts.sessionId, ?_⟩, ?_⟩
  · rw [hfacts.workspaceId, ← hworkspace]
    rfl
  · rw [hfacts.scopes, ← hscopes]
    rfl
  · rw [← hfacts.organizationId, ← horg]
    exact hcanonical

/-- A token that is over is not verified. -/
lemma not_verified (hrun : IsRun collation start events token clock)
    (hcall : call.OfRun collation start events) (htoken : call.issued.token = token)
    (hover : call.IsOver collation start clock) :
    (verifyLinkToken collation ((linkTokenMachine collation).outcome start events) token
      clock).1 ≠ .ok principal := by
  intro hok
  have hfacts := hcall.facts
  obtain ⟨hcurrent, hnow, hdeleted, -, -⟩ := verified_facts hrun hcall htoken hok
  rcases hover with hrevoked | hsession | hincrement | ⟨event, hevent, time, htime, hexpired⟩ |
    hexpired
  · exact hcurrent.notRevoked hrevoked
  · exact hdeleted hsession
  · obtain ⟨m, hm, hversion⟩ := hcall.activeMembership
    have hsame := hcurrent.membership
    rw [← hfacts.userId] at hsame hincrement
    rw [← membership_any_iff hcall, hm, Option.any_some, decide_eq_true_eq, hversion] at hsame
    have hpos := List.count_pos_iff.mpr hincrement
    omega
  · -- The call that reached the expiry was not later than this one.
    have hordered := hrun.ordered
    rw [List.pairwise_append] at hordered
    have hmem : event ∈ events := by
      rw [hcall.events_eq]
      exact List.mem_append_right _ (List.mem_cons_of_mem _ hevent)
    have hle := hordered.2.2 time (List.mem_filterMap.mpr ⟨event, hmem, htime⟩) clock.now
      (List.mem_singleton.mpr rfl)
    exact absurd (hexpired.trans hle) (not_le.mpr hnow)
  · exact absurd hexpired (not_le.mpr hnow)

/-- A token that rests on what it was issued for is verified before its expiry if and only if its
organization is written as the database writes it. -/
lemma verified_iff (hrun : IsRun collation start events token clock)
    (hcall : call.OfRun collation start events) (htoken : call.issued.token = token)
    (hnow : clock.now < call.issued.record.expiresAt / 1000 * 1000)
    (hcurrent : call.StillCurrent collation start events clock) :
    (∃ principal, (verifyLinkToken collation ((linkTokenMachine collation).outcome start events)
        token clock).1 = .ok principal ∧ normalizeScopes call.input.scopes = .ok principal.scopes) ↔
      uuidText call.input.orgId = call.input.orgId := by
  constructor
  · rintro ⟨principal, hok, -⟩
    exact (verified_facts hrun hcall htoken hok).2.2.2.2
  intro hcanonical
  have hfacts := hcall.facts
  have hdeleted : .deleteSession call.input.sessionId ∉ call.after := by
    obtain ⟨session, hmem, hsession⟩ := List.any_eq_true.mp hcurrent.session
    simp only [Bool.and_eq_true, decide_eq_true_eq] at hsession
    rw [hcall.outcome] at hmem
    rw [← hsession.1.1.1.1]
    exact (sessions_run hmem).2
  obtain ⟨row, hselects, hfixed, hrevoked⟩ := selects_row hrun hcall htoken hnow hdeleted
  have horg : row.organizationId = call.issued.record.organizationId :=
    congrArg (·.organizationId) hfixed
  have huser : row.userId = call.issued.record.userId := congrArg (·.userId) hfixed
  have hsession : row.sessionId = call.issued.record.sessionId := congrArg (·.sessionId) hfixed
  have hversion : row.membershipVersion = call.issued.record.membershipVersion :=
    congrArg (·.membershipVersion) hfixed
  have hexpires : row.expiresAt = call.issued.record.expiresAt := congrArg (·.expiresAt) hfixed
  have hscopes : row.scopes = call.issued.record.scopes := congrArg (·.scopes) hfixed
  have hjti : row.jti = call.issued.record.jti := congrArg (·.jti) hfixed
  have hrow : IsCurrent ((linkTokenMachine collation).outcome start events) call.issued.claims
      call.issued.record.scopes row clock := by
    refine ⟨?_, ?_, hrevoked.mpr hcurrent.notRevoked, ?_, ?_, ?_⟩
    · rw [huser, hfacts.userId]
      exact hfacts.user
    · rw [LinkTokenRow.agrees, horg, hsession, hjti, hscopes, hfacts.organizationId, hcanonical,
        hfacts.claimedTenant, hfacts.sessionId, hfacts.sid, hfacts.jti, hfacts.claimedJti]
      simp
    · rw [hexpires]
      exact hnow.trans_le (Int.ediv_mul_le _ (by decide))
    · rw [horg, huser, hversion, membership_any_iff hcall, hfacts.userId]
      exact hcurrent.membership
    · rw [hsession, horg, huser, hversion, hfacts.userId, hfacts.sessionId]
      exact hcurrent.session
  rcases verifyLinkToken_cases collation ((linkTokenMachine collation).outcome start events) token
    clock with ⟨hno, -⟩ | ⟨claims, scopes, row', hselects', heq⟩
  · exact absurd ⟨_, _, row, hselects⟩ hno
  obtain ⟨rfl, rfl, rfl⟩ := hselects.unique hselects'
  rcases verifyRow_cases collation ((linkTokenMachine collation).outcome start events)
    call.issued.claims call.issued.record.scopes row clock with ⟨hno, -⟩ | ⟨-, hverified⟩
  · exact absurd hrow hno
  · refine ⟨_, by rw [heq, hverified], ?_⟩
    rw [hfacts.scopes, ← hscopes]
    rfl

end Verified

/-- **Link tokens.** A token is verified only if a call of the run has issued it and everything it
rests on is still current; the principal is the one it was issued for. A token that is over is not
verified again. Until its expiry, rounded down to the second, a token that still rests on what it
was issued for is verified, with its scopes, if and only if the organization was written in lower
case when it was issued. -/
theorem link_tokens (collation : String → String → Bool) (start : LinkTokenDatabase)
    (events : List LinkTokenEvent) (token : String) (clock : Clock)
    (hrun : IsRun collation start events token clock) :
    (∀ principal, (verifyLinkToken collation ((linkTokenMachine collation).outcome start events)
          token clock).1 = .ok principal →
        ∃ call : IssueCall, call.OfRun collation start events ∧ call.issued.token = token ∧
          call.StillCurrent collation start events clock ∧
          clock.now < call.issued.record.expiresAt ∧
          .deleteSession call.input.sessionId ∉ call.after ∧
          principal.orgId = call.input.orgId ∧
          readUuid call.input.workspaceId = some principal.workspaceId ∧
          principal.userId = call.input.userId ∧ principal.sessionId = call.input.sessionId ∧
          normalizeScopes call.input.scopes = .ok principal.scopes) ∧
      (∀ call : IssueCall, call.OfRun collation start events → call.issued.token = token →
        call.IsOver collation start clock → ∀ principal,
          (verifyLinkToken collation ((linkTokenMachine collation).outcome start events) token
            clock).1 ≠ .ok principal) ∧
      ∀ call : IssueCall, call.OfRun collation start events → call.issued.token = token →
        clock.now < call.issued.record.expiresAt / 1000 * 1000 →
        call.StillCurrent collation start events clock →
        ((∃ principal,
            (verifyLinkToken collation ((linkTokenMachine collation).outcome start events) token
              clock).1 = .ok principal ∧ normalizeScopes call.input.scopes = .ok principal.scopes) ↔
          uuidText call.input.orgId = call.input.orgId) := by
  refine ⟨?_, ?_, ?_⟩
  · intro principal hok
    obtain ⟨call, hcall, htoken⟩ := exists_issueCall hrun hok
    obtain ⟨hcurrent, hnow, hdeleted, hprincipal, -⟩ := verified_facts hrun hcall htoken hok
    exact ⟨call, hcall, htoken, hcurrent, hnow, hdeleted, hprincipal⟩
  · intro call hcall htoken hover principal
    exact not_verified hrun hcall htoken hover
  · intro call hcall htoken hnow hcurrent
    exact verified_iff hrun hcall htoken hnow hcurrent

/-! ### A token of an organization in upper case -/

def lowerCase : String := "00000000-0000-4000-8000-00000000000a"

def upperCase : String := "00000000-0000-4000-8000-00000000000A"

def sampleWorkspace : String := "00000000-0000-4000-8000-0000000000bb"

def sampleMember : Membership where
  organizationId := lowerCase
  userId := "user-1"
  status := .active
  membershipVersion := 1

/-- A user with a membership and a session. -/
def sampleTables : LinkTokenDatabase where
  linkTokens := []
  memberships := [sampleMember]
  sessions := [⟨"session-1", "user-1", 10000000, some lowerCase, 1⟩]
  workspaces := [⟨sampleWorkspace, lowerCase⟩]
  roleGrants := []

def sampleInput (orgId : String) : IssueLinkTokenInput where
  orgId := orgId
  workspaceId := sampleWorkspace
  userId := "user-1"
  sessionId := "session-1"
  scopes := ["tasks:read"]
  ttlSeconds := 300

def sampleDraw : LinkTokenDraw where
  id := "00000000-0000-4000-8000-0000000000cc"
  jti := "00000000-0000-4000-8000-0000000000dd"
  secret := List.replicate 32 7
  secret_length := rfl

def sampleCollation (a b : String) : Bool := a ≤ b

/-- The only call of a run. -/
def sampleCall (orgId : String) : IssueCall where
  before := []
  input := sampleInput orgId
  draw := sampleDraw
  clock := ⟨1500, 1500⟩
  issued := (sampleInput orgId).issued [.tasksRead] sampleDraw ⟨1500, 1500⟩ sampleWorkspace 1
  after := []

lemma isIssued_sample {orgId : String} (h : orgId ∈ [lowerCase, upperCase]) :
    IsIssued sampleTables (sampleInput orgId) sampleDraw ⟨1500, 1500⟩ [.tasksRead] sampleWorkspace
      sampleMember := by
  have hhash : isTokenHash ((sampleInput orgId).row [.tasksRead] sampleDraw ⟨1500, 1500⟩
    sampleWorkspace 1).tokenHash = true := isTokenHash_hashToken _
  have hadmits : sampleTables.admits
      ((sampleInput orgId).row [.tasksRead] sampleDraw ⟨1500, 1500⟩ sampleWorkspace 1) = true := by
    rw [admits, hhash]
    rcases List.mem_pair.mp h with rfl | rfl <;> decide
  rcases List.mem_pair.mp h with rfl | rfl <;>
    exact ⟨by decide, by decide, by decide, by decide,
      by decide, by decide, by decide, hadmits⟩

lemma sampleCall_ofRun {orgId : String} (h : orgId ∈ [lowerCase, upperCase]) :
    (sampleCall orgId).OfRun sampleCollation sampleTables [(sampleCall orgId).event] :=
  ⟨rfl, issueLinkToken_of_isIssued (isIssued_sample h)⟩

/-- No other call is in the run. -/
lemma isRun_sample {orgId : String} (h : orgId ∈ [lowerCase, upperCase]) :
    IsRun sampleCollation sampleTables [(sampleCall orgId).event] (sampleCall orgId).issued.token
      ⟨2000, 2000⟩ := by
  refine ⟨rfl, ?_, ?_, ?_⟩
  · change List.Pairwise (· ≤ ·) [(1500 : ℤ), 2000]
    decide
  · exact List.nodup_singleton _
  · rintro call ⟨hevents, haccepted⟩ -
    obtain ⟨hbefore, hevent, hafter⟩ : call.before = [] ∧
        call.event = (sampleCall orgId).event ∧ call.after = [] := by
      cases hbefore : call.before with
      | nil =>
          rw [hbefore] at hevents
          obtain ⟨heq, hafter⟩ := List.cons.inj hevents
          exact ⟨rfl, heq.symm, hafter.symm⟩
      | cons first rest =>
          rw [hbefore] at hevents
          have hlength := congrArg List.length hevents
          simp at hlength
    rw [IssueCall.event, IssueCall.event] at hevent
    injection hevent with hinput hdraw hclock
    rw [hbefore, hinput, hdraw, hclock] at haccepted
    have hsample := (sampleCall_ofRun h).accepted
    rw [Except.ok.inj (haccepted.symm.trans hsample)]

lemma stillCurrent_sample {orgId : String} (h : orgId ∈ [lowerCase, upperCase]) :
    (sampleCall orgId).StillCurrent sampleCollation sampleTables [(sampleCall orgId).event]
      ⟨2000, 2000⟩ := by
  refine ⟨?_, rfl, ?_⟩
  · rintro ⟨between, event, rest, hafter, -⟩
    cases between <;> cases hafter
  · have hsessions : ((linkTokenMachine sampleCollation).outcome sampleTables
        [(sampleCall orgId).event]).sessions = sampleTables.sessions :=
      (step_tables sampleCollation (fun _ heq => by cases heq) (fun _ _ heq => by cases heq)).2
    rw [assertSessionCurrent, hsessions]
    rcases List.mem_pair.mp h with rfl | rfl <;> decide

theorem link_tokens_sample : ∃ principal,
    (verifyLinkToken sampleCollation ((linkTokenMachine sampleCollation).outcome sampleTables
      [(sampleCall lowerCase).event]) (sampleCall lowerCase).issued.token ⟨2000, 2000⟩).1 =
        .ok principal ∧ normalizeScopes ["tasks:read"] = .ok principal.scopes :=
  ((link_tokens sampleCollation sampleTables [(sampleCall lowerCase).event]
    (sampleCall lowerCase).issued.token ⟨2000, 2000⟩ (isRun_sample (by decide))).2.2
      (sampleCall lowerCase) (sampleCall_ofRun (by decide)) rfl (by decide)
      (stillCurrent_sample (by decide))).mpr (by decide)

/-- The token of an organization that is given in upper case is returned, and is never verified. -/
theorem upperCase_not_verified :
    IsRun sampleCollation sampleTables [(sampleCall upperCase).event]
        (sampleCall upperCase).issued.token ⟨2000, 2000⟩ ∧
      (sampleCall upperCase).OfRun sampleCollation sampleTables [(sampleCall upperCase).event] ∧
      2000 < (sampleCall upperCase).issued.record.expiresAt / 1000 * 1000 ∧
      (sampleCall upperCase).StillCurrent sampleCollation sampleTables
        [(sampleCall upperCase).event] ⟨2000, 2000⟩ ∧
      ∀ principal, (verifyLinkToken sampleCollation ((linkTokenMachine sampleCollation).outcome
        sampleTables [(sampleCall upperCase).event]) (sampleCall upperCase).issued.token
          ⟨2000, 2000⟩).1 ≠ .ok principal := by
  have hmem : upperCase ∈ [lowerCase, upperCase] := by decide
  have hrun := isRun_sample hmem
  have hcall := sampleCall_ofRun hmem
  have hcurrent := stillCurrent_sample hmem
  refine ⟨hrun, hcall, by decide, hcurrent, fun principal hok => ?_⟩
  have hcanonical := (verified_facts hrun hcall rfl hok).2.2.2.2
  exact absurd hcanonical (by decide)

end Opzava.IdentityAccess
