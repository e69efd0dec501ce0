import Opzava.Adapters.TenantContext
import Opzava.Library.Base64
import Opzava.Library.EventMachine
import Opzava.Library.Numerals
import Opzava.Library.Sha256
import Opzava.Library.Table

/-!
The link tokens of `link-tokens.ts`: a token is a text with claims and a secret, and the table
`link_tokens` keeps its hash next to what it was issued for.

* `issueLinkToken`, `verifyLinkToken`, `revokeLinkToken`: the calls, each one transaction.
* `parseToken_tokenFromClaims`: the claims of a token are read back.
* `issueLinkToken_cases`, `verifyLinkToken_cases`, `revokeLinkToken_cases`: what the calls do.
-/

namespace Opzava.IdentityAccess

open Opzava.Library Opzava.Adapters

/-! ### The data -/

structure DomainError where
  code : String
  message : String
  deriving DecidableEq

def linkTokenAudience : String := "opzava:mcp"

def linkTokenClientId : String := "claude-code"

def tokenPrefix : String := "opzava_link_"

inductive LinkTokenScope
  | tasksRead
  | tasksWrite
  deriving DecidableEq

def LinkTokenScope.text : LinkTokenScope → String
  | .tasksRead => "tasks:read"
  | .tasksWrite => "tasks:write"

def linkTokenScopes : List LinkTokenScope := [.tasksRead, .tasksWrite]

/-- The claims. The number `exp` is kept as its text. -/
structure LinkTokenClaims where
  aud : String
  scope : String
  sid : String
  tenant_id : String
  exp : String
  jti : String
  deriving DecidableEq

structure LinkTokenDto where
  id : String
  organizationId : String
  workspaceId : String
  userId : String
  sessionId : String
  clientId : String
  scopes : List LinkTokenScope
  jti : String
  membershipVersion : ℤ
  createdAt : Date
  expiresAt : Date
  revokedAt : Option Date
  lastUsedAt : Option Date
  deriving DecidableEq

/-- A row of `link_tokens`. -/
structure LinkTokenRow extends LinkTokenDto where
  tokenHash : String
  deriving DecidableEq

structure LinkTokenPrincipal where
  orgId : String
  workspaceId : String
  userId : String
  sessionId : String
  clientId : String
  scopes : List LinkTokenScope
  tokenId : String
  membershipVersion : ℤ
  roleKeys : List String
  deriving DecidableEq

structure IssueLinkTokenInput where
  orgId : String
  workspaceId : String
  userId : String
  sessionId : String
  scopes : List String
  ttlSeconds : ℚ
  clientId : Option String := none
  deriving DecidableEq

structure IssuedLinkToken where
  token : String
  claims : LinkTokenClaims
  record : LinkTokenDto
  deriving DecidableEq

structure RevokeLinkTokenInput where
  orgId : String
  userId : String
  tokenId : String
  deriving DecidableEq

/-- What an issue draws: the key of the row, the `jti` and the secret. -/
structure LinkTokenDraw where
  id : String
  jti : String
  secret : List UInt8
  secret_length : secret.length = 32
  deriving DecidableEq

/-- The time of a call, `nowDate(input.now)`, and the time `now()` of its transaction. -/
structure Clock where
  now : Date
  transaction : Date
  deriving DecidableEq

inductive MembershipStatus
  | active
  | invited
  | suspended
  | removed
  deriving DecidableEq

/-- A row of `memberships`. An organization and a user have one at most. -/
structure Membership where
  organizationId : String
  userId : String
  status : MembershipStatus
  membershipVersion : ℤ
  deriving DecidableEq

/-- A row of `auth_sessions`. -/
structure AuthSession where
  id : String
  userId : String
  expiresAt : Date
  activeOrganizationId : Option String
  membershipVersion : ℤ
  deriving DecidableEq

structure Workspace where
  id : String
  organizationId : String
  deriving DecidableEq

inductive RoleScope
  | organization
  | project
  deriving DecidableEq

/-- A row of `role_grants`, whose subjects are users. -/
structure RoleGrant where
  organizationId : String
  subjectId : String
  roleKey : String
  scopeType : RoleScope
  scopeId : String
  deriving DecidableEq

/-- The tables that link tokens read. -/
structure LinkTokenDatabase where
  linkTokens : List LinkTokenRow
  memberships : List Membership
  sessions : List AuthSession
  workspaces : List Workspace
  roleGrants : List RoleGrant

/-! ### Checks -/

/-- `/^[a-zA-Z0-9][a-zA-Z0-9_-]{1,127}$/`. -/
def isOpaqueId (value : String) : Bool :=
  match value.toList with
  | [] => false
  | first :: rest => first.isAlphanum && (1 ≤ rest.length && rest.length ≤ 127) &&
      rest.all fun c => c.isAlphanum || c = '_' || c = '-'

def normalizeScopes (scopes : List String) : Except DomainError (List LinkTokenScope) :=
  let normalized := ((scopes.map fun scope => jsTrim scope.toList).filter (· ≠ [])).eraseDups
  if normalized.length = 0 ∨ linkTokenScopes.length < normalized.length then
    .error ⟨"identityAccess.invalidLinkTokenScope",
      "Link token scope must include tasks:read, tasks:write, or both."⟩
  else if normalized.all fun scope => linkTokenScopes.any (·.text.toList = scope) then
    .ok (linkTokenScopes.filter (·.text.toList ∈ normalized))
  else
    .error ⟨"identityAccess.invalidLinkTokenScope",
      "Link token scope must be limited to tasks:read and tasks:write."⟩

def validateIssueInput (input : IssueLinkTokenInput) :
    Except DomainError (List LinkTokenScope) :=
  if !(isOpaqueId input.orgId && isOpaqueId input.workspaceId && isOpaqueId input.userId) then
    .error ⟨"identityAccess.invalidLinkTokenContext",
      "Link token context contains an invalid organization, workspace, or user id."⟩
  else if input.clientId.any (· ≠ linkTokenClientId) then
    .error ⟨"identityAccess.invalidLinkTokenClient",
      "Link tokens are currently limited to the claude-code client."⟩
  else if !input.ttlSeconds.isInt ∨ input.ttlSeconds.num < 60 ∨ 86400 < input.ttlSeconds.num then
    .error ⟨"identityAccess.invalidLinkTokenTtl", "Link token TTL must be 60-86400 seconds."⟩
  else normalizeScopes input.scopes

/-! ### Texts -/

def hashToken (token : String) : String := Sha256.hexDigest token

def base64UrlJson (value : Json) : List Char := base64UrlEncode (utf8Bytes value.print)

/-- `Buffer.toString("utf8")`. -/
def utf8Text (bytes : List UInt8) : List Char :=
  let (chars, state) := decodeBytes {} bytes
  if state.bytesNeeded = 0 then chars else chars ++ [replacementChar]

/-- `JSON.parse` of a part of a token. A number keeps its text. -/
def parseBase64UrlJson (value : List Char) : Option Json :=
  jsonParse String.ofList (utf8Text (base64Decode value))

/-- `JSON.stringify(claims)`. -/
def LinkTokenClaims.json (claims : LinkTokenClaims) : Json :=
  .object [("aud", .string claims.aud), ("scope", .string claims.scope), ("sid", .string claims.sid),
    ("tenant_id", .string claims.tenant_id), ("exp", .number claims.exp),
    ("jti", .string claims.jti)]

def scopeClaim (scopes : List LinkTokenScope) : String :=
  String.intercalate " " (scopes.map LinkTokenScope.text)

/-- The parts of a text between its spaces: `split(/\s+/)` but for the empty parts. -/
def splitSpaces (text : List Char) : List (List Char) :=
  (text.splitOnP isJsSpace).filter (· ≠ [])

def parseScopeClaim (scope : String) : Except DomainError (List LinkTokenScope) :=
  normalizeScopes ((splitSpaces scope.toList).map String.ofList)

/-- `isExpired`. An invalid date is never over. -/
def isExpired (expiresAt : Option Date) (now : Date) : Bool := expiresAt.any (· ≤ now)

/-- `new Date(exp * 1000)`, an invalid date outside the range of dates. -/
def claimExpiresAt (exp : String) : Option Date :=
  let time := (decimalOf exp.toList).truncated 3
  if time.natAbs ≤ 8640000000000000 then some time else none

def tokenFromClaims (claims : LinkTokenClaims) (secret : List UInt8) : String :=
  String.ofList (tokenPrefix.toList ++ base64UrlJson claims.json ++ '.' :: base64UrlEncode secret)

def linkTokenInvalid : DomainError :=
  ⟨"identityAccess.linkTokenInvalid", "Link token is invalid."⟩

/-- The claims of a JSON value whose fields have the types of claims. -/
def claimsOf : Json → Option LinkTokenClaims
  | .object fields =>
      match fields.lookup "aud", fields.lookup "scope", fields.lookup "sid",
        fields.lookup "tenant_id", fields.lookup "exp", fields.lookup "jti" with
      | some (.string aud), some (.string scope), some (.string sid), some (.string tenant_id),
        some (.number exp), some (.string jti) =>
          if aud = linkTokenAudience then some ⟨aud, scope, sid, tenant_id, exp, jti⟩ else none
      | _, _, _, _, _, _ => none
  | _ => none

/-- The claims of a token. -/
def parseToken (token : String) : Except DomainError LinkTokenClaims :=
  if !jsStartsWith token tokenPrefix then .error linkTokenInvalid
  else
    let body := token.toList.drop tokenPrefix.toList.length
    let claimsPart := body.takeWhile (· ≠ '.')
    match body.dropWhile (· ≠ '.') with
    | [] => .error linkTokenInvalid
    | _ :: rest =>
        let secretPart := rest.takeWhile (· ≠ '.')
        if jsTrim claimsPart = [] ∨ jsTrim secretPart = [] then .error linkTokenInvalid
        else match (parseBase64UrlJson claimsPart).bind claimsOf with
        | some claims => if isOpaqueId claims.tenant_id then .ok claims else .error linkTokenInvalid
        | none => .error linkTokenInvalid

/-! ### The calls -/

namespace LinkTokenDatabase

/-- `assertCurrentUser` after `set_config`: the user is set unless the text is blank. -/
def setCurrentUser (userId : String) : Bool := jsTrim userId.toList ≠ []

/-- The active membership of a user in an organization. -/
def activeMembership (db : LinkTokenDatabase) (orgId userId : String) : Option Membership :=
  db.memberships.find? fun m => m.organizationId = orgId && m.userId = userId && m.status = .active

/-- The keys of the roles of a user in an organization, in their order. -/
def roleKeys (collation : String → String → Bool) (db : LinkTokenDatabase)
    (orgId userId : String) : List String :=
  ((db.roleGrants.filter fun grant => grant.organizationId = orgId && grant.subjectId = userId &&
    grant.scopeType = .organization && grant.scopeId = orgId).map RoleGrant.roleKey).insertionSort
      (fun a b => collation a b = true)

def assertSessionCurrent (db : LinkTokenDatabase) (transaction : Date)
    (sessionId orgId userId : String) (membershipVersion : ℤ) : Bool :=
  db.sessions.any fun s => s.id = sessionId && s.userId = userId &&
    s.activeOrganizationId = some orgId && s.membershipVersion = membershipVersion &&
    transaction < s.expiresAt

def assertWorkspaceInTenant (db : LinkTokenDatabase) (orgId workspaceId : String) : Bool :=
  db.workspaces.any fun w => w.id = workspaceId && w.organizationId = orgId

/-- `^[a-f0-9]{64}$`. -/
def isTokenHash (hash : String) : Bool :=
  hash.toList.length = 64 && hash.toList.all fun c => ('a' ≤ c ∧ c ≤ 'f') ∨ ('0' ≤ c ∧ c ≤ '9')

/-- The checks and the unique indexes of `link_tokens` admit the row. -/
def admits (db : LinkTokenDatabase) (row : LinkTokenRow) : Bool :=
  row.clientId = linkTokenClientId && (1 ≤ row.scopes.length && row.scopes.length ≤ 2) &&
    row.scopes.Nodup && isTokenHash row.tokenHash && row.jti.toList.any (· ≠ ' ') &&
    row.jti.toList.length ≤ 180 && 0 < row.membershipVersion && row.createdAt < row.expiresAt &&
    db.linkTokens.all fun other => other.id ≠ row.id && other.tokenHash ≠ row.tokenHash &&
      other.jti ≠ row.jti

end LinkTokenDatabase

open LinkTokenDatabase

def linkTokenIssueFailed : DomainError :=
  ⟨"identityAccess.linkTokenIssueFailed", "Link token could not be issued."⟩

def linkTokenCannotBeIssued : DomainError :=
  ⟨"identityAccess.linkTokenSessionDrift",
    "Link token cannot be issued because the session membership is no longer current."⟩

namespace IssueLinkTokenInput

/-- When a token that is issued at the time is over. -/
def expiresAt (input : IssueLinkTokenInput) (clock : Clock) : Date :=
  clock.now + input.ttlSeconds.num * 1000

/-- The claims of a token with the scopes. -/
def claims (input : IssueLinkTokenInput) (scopes : List LinkTokenScope) (draw : LinkTokenDraw)
    (clock : Clock) : LinkTokenClaims where
  aud := linkTokenAudience
  scope := scopeClaim scopes
  sid := input.sessionId
  tenant_id := input.orgId
  exp := toString (input.expiresAt clock / 1000)
  jti := draw.jti

/-- The row that the statement inserts. -/
def row (input : IssueLinkTokenInput) (scopes : List LinkTokenScope) (draw : LinkTokenDraw)
    (clock : Clock) (workspaceId : String) (membershipVersion : ℤ) : LinkTokenRow where
  id := draw.id
  organizationId := uuidText input.orgId
  workspaceId := workspaceId
  userId := input.userId
  sessionId := input.sessionId
  clientId := linkTokenClientId
  scopes := scopes
  jti := draw.jti
  membershipVersion := membershipVersion
  createdAt := clock.now
  expiresAt := input.expiresAt clock
  revokedAt := none
  lastUsedAt := none
  tokenHash := hashToken (tokenFromClaims (input.claims scopes draw clock) draw.secret)

/-- What the call returns. -/
def issued (input : IssueLinkTokenInput) (scopes : List LinkTokenScope) (draw : LinkTokenDraw)
    (clock : Clock) (workspaceId : String) (membershipVersion : ℤ) : IssuedLinkToken where
  token := tokenFromClaims (input.claims scopes draw clock) draw.secret
  claims := input.claims scopes draw clock
  record := (input.row scopes draw clock workspaceId membershipVersion).toLinkTokenDto

end IssueLinkTokenInput

/-- The result, and the tables after the transaction. -/
def issueLinkToken (db : LinkTokenDatabase) (input : IssueLinkTokenInput) (draw : LinkTokenDraw)
    (clock : Clock) : Except DomainError IssuedLinkToken × LinkTokenDatabase :=
  match validateIssueInput input with
  | .error error => (.error error, db)
  | .ok scopes =>
      let orgId := uuidText input.orgId
      if !isTenantUuid input.orgId || !setCurrentUser input.userId then
        (.error linkTokenIssueFailed, db)
      else match readUuid input.workspaceId with
      | none => (.error linkTokenIssueFailed, db)
      | some workspaceId =>
          if !db.assertWorkspaceInTenant orgId workspaceId then
            (.error ⟨"identityAccess.workspaceNotFound", "Workspace was not found."⟩, db)
          else match db.activeMembership orgId input.userId with
          | none => (.error linkTokenCannotBeIssued, db)
          | some membership =>
              let row := input.row scopes draw clock workspaceId membership.membershipVersion
              if !db.assertSessionCurrent clock.transaction input.sessionId orgId input.userId
                  membership.membershipVersion then (.error linkTokenCannotBeIssued, db)
              else if !db.admits row then (.error linkTokenIssueFailed, db)
              else
                (.ok (input.issued scopes draw clock workspaceId membership.membershipVersion),
                  { db with linkTokens := db.linkTokens ++ [row] })

def linkTokenExpired : DomainError :=
  ⟨"identityAccess.linkTokenExpired", "Link token has expired."⟩

def linkTokenVerifyFailed : DomainError :=
  ⟨"identityAccess.linkTokenVerifyFailed", "Link token could not be verified."⟩

def linkTokenSessionDrift : DomainError :=
  ⟨"identityAccess.linkTokenSessionDrift", "Link token session membership is no longer current."⟩

/-- The row that the token and its claims select, among those of the organization. -/
def LinkTokenRow.isSelected (token : String) (claims : LinkTokenClaims) (row : LinkTokenRow) :
    Bool :=
  row.organizationId = uuidText claims.tenant_id && row.tokenHash = hashToken token &&
    row.jti = claims.jti

/-- The row says what the claims say. -/
def LinkTokenRow.agrees (row : LinkTokenRow) (claims : LinkTokenClaims)
    (scopes : List LinkTokenScope) : Bool :=
  row.organizationId = claims.tenant_id && row.sessionId = claims.sid && row.jti = claims.jti &&
    scopeClaim row.scopes = scopeClaim scopes

def LinkTokenRow.principal (row : LinkTokenRow) (roleKeys : List String) : LinkTokenPrincipal where
  orgId := row.organizationId
  workspaceId := row.workspaceId
  userId := row.userId
  sessionId := row.sessionId
  clientId := linkTokenClientId
  scopes := row.scopes
  tokenId := row.id
  membershipVersion := row.membershipVersion
  roleKeys := roleKeys

def LinkTokenRow.used (now : Date) (row : LinkTokenRow) : LinkTokenRow :=
  { row with lastUsedAt := some now }

/-- The check of a row that was selected, and its use. -/
def verifyRow (collation : String → String → Bool) (db : LinkTokenDatabase)
    (claims : LinkTokenClaims) (scopes : List LinkTokenScope) (row : LinkTokenRow) (clock : Clock) :
    Except DomainError LinkTokenPrincipal × LinkTokenDatabase :=
  if !setCurrentUser row.userId then (.error linkTokenVerifyFailed, db)
  else if !row.agrees claims scopes then (.error linkTokenInvalid, db)
  else if row.revokedAt.isSome then
    (.error ⟨"identityAccess.linkTokenRevoked", "Link token has been revoked."⟩, db)
  else if isExpired (some row.expiresAt) clock.now then (.error linkTokenExpired, db)
  else if !(db.activeMembership row.organizationId row.userId).any
      (·.membershipVersion = row.membershipVersion) then (.error linkTokenSessionDrift, db)
  else if !db.assertSessionCurrent clock.transaction row.sessionId row.organizationId row.userId
      row.membershipVersion then (.error linkTokenSessionDrift, db)
  else
    (.ok (row.principal (db.roleKeys collation row.organizationId row.userId)),
      { db with linkTokens := updateWhere (·.id = row.id) (·.used clock.now) db.linkTokens })

def verifyLinkToken (collation : String → String → Bool) (db : LinkTokenDatabase) (token : String)
    (clock : Clock) : Except DomainError LinkTokenPrincipal × LinkTokenDatabase :=
  match parseToken token with
  | .error error => (.error error, db)
  | .ok claims =>
      match parseScopeClaim claims.scope with
      | .error error => (.error error, db)
      | .ok scopes =>
          if isExpired (claimExpiresAt claims.exp) clock.now then (.error linkTokenExpired, db)
          else if !isTenantUuid claims.tenant_id then (.error linkTokenVerifyFailed, db)
          else match db.linkTokens.find? (·.isSelected token claims) with
          | none => (.error linkTokenInvalid, db)
          | some row => verifyRow collation db claims scopes row clock

def linkTokenRevokeFailed : DomainError :=
  ⟨"identityAccess.linkTokenRevokeFailed", "Link token could not be revoked."⟩

/-- The row that a revocation updates: it is the row of the organization and of the user. -/
def RevokeLinkTokenInput.selects (input : RevokeLinkTokenInput) (id : String) (row : LinkTokenRow) :
    Bool :=
  row.organizationId = uuidText input.orgId && row.id = id && row.userId = input.userId

def LinkTokenRow.revoked (now : Date) (row : LinkTokenRow) : LinkTokenRow :=
  { row with revokedAt := some (row.revokedAt.getD now) }

def revokeLinkToken (db : LinkTokenDatabase) (input : RevokeLinkTokenInput) (clock : Clock) :
    Except DomainError (Option LinkTokenDto) × LinkTokenDatabase :=
  if !(isOpaqueId input.orgId && isOpaqueId input.userId) then
    (.error ⟨"identityAccess.invalidLinkTokenContext",
      "Link token context contains an invalid organization or user id."⟩, db)
  else if !isTenantUuid input.orgId || !setCurrentUser input.userId then
    (.error linkTokenRevokeFailed, db)
  else match readUuid input.tokenId with
  | none => (.error linkTokenRevokeFailed, db)
  | some id =>
      (.ok ((returning (input.selects id) (·.revoked clock.now) db.linkTokens).head?.map
          LinkTokenRow.toLinkTokenDto),
        { db with linkTokens := updateWhere (input.selects id) (·.revoked clock.now) db.linkTokens })
/-! ### The claims are read back -/

lemma utf8Text_utf8Bytes (text : List Char) : utf8Text (utf8Bytes text) = text := by
  rw [utf8Text, decodeBytes_utf8Bytes]
  rfl

lemma LinkTokenClaims.json_ok {claims : LinkTokenClaims}
    (hexp : isNumeral claims.exp.toList = true) : claims.json.Ok String.ofList := by
  refine ⟨⟨trivial, trivial, trivial, trivial, ⟨hexp, ?_⟩, trivial, trivial⟩, ?_⟩
  · rw [String.ofList_toList]
  · simp

lemma parseBase64UrlJson_base64UrlJson {value : Json} (h : value.Ok String.ofList) :
    parseBase64UrlJson (base64UrlJson value) = some value := by
  rw [parseBase64UrlJson, base64UrlJson, base64Decode_base64UrlEncode, utf8Text_utf8Bytes,
    jsonParse_print h]

lemma claimsOf_json {claims : LinkTokenClaims} (haud : claims.aud = linkTokenAudience) :
    claimsOf claims.json = some claims := by
  obtain ⟨aud, scope, sid, tenant_id, exp, jti⟩ := claims
  obtain rfl : aud = linkTokenAudience := haud
  rw [LinkTokenClaims.json, claimsOf]
  simp [List.lookup]

lemma dot_notMem_base64UrlEncode (bytes : List UInt8) : '.' ∉ base64UrlEncode bytes := fun h =>
  forall_mem_base64UrlEncode (P := (· ≠ '.')) (by decide) bytes '.' h rfl

lemma jsTrim_base64UrlEncode {bytes : List UInt8} (h : bytes ≠ []) :
    jsTrim (base64UrlEncode bytes) ≠ [] := by
  rw [jsTrim_of_forall (forall_mem_base64UrlEncode (by decide) bytes)]
  exact base64UrlEncode_ne_nil h

lemma utf8Bytes_print_ne_nil (fields : List (String × Json)) :
    utf8Bytes (Json.object fields).print ≠ [] := by
  have hprint : (Json.object fields).print ≠ [] := by cases fields <;> simp [Json.print]
  intro hnil
  have hback := utf8Text_utf8Bytes (Json.object fields).print
  rw [hnil] at hback
  exact hprint hback.symm

/-- **The claims of a token.** -/
lemma parseToken_tokenFromClaims {claims : LinkTokenClaims} {secret : List UInt8}
    (haud : claims.aud = linkTokenAudience) (hexp : isNumeral claims.exp.toList = true)
    (hid : isOpaqueId claims.tenant_id = true) (hsecret : secret ≠ []) :
    parseToken (tokenFromClaims claims secret) = .ok claims := by
  have htext : (tokenFromClaims claims secret).toList =
      tokenPrefix.toList ++ (base64UrlJson claims.json ++ '.' :: base64UrlEncode secret) := by
    rw [tokenFromClaims, String.toList_ofList, List.append_assoc]
  have hstarts : jsStartsWith (tokenFromClaims claims secret) tokenPrefix = true := by
    rw [jsStartsWith, htext]
    exact List.isPrefixOf_iff_prefix.mpr (List.prefix_append _ _)
  have hclaims : jsTrim (base64UrlJson claims.json) ≠ [] :=
    jsTrim_base64UrlEncode (utf8Bytes_print_ne_nil _)
  have hdot : '.' ∉ base64UrlJson claims.json := dot_notMem_base64UrlEncode _
  rw [parseToken, hstarts, htext, List.drop_left]
  dsimp only
  rw [if_neg (by simp), takeWhile_separator hdot, dropWhile_separator hdot]
  dsimp only
  rw [takeWhile_of_notMem (dot_notMem_base64UrlEncode secret),
    if_neg (not_or.mpr ⟨hclaims, jsTrim_base64UrlEncode hsecret⟩),
    parseBase64UrlJson_base64UrlJson (LinkTokenClaims.json_ok hexp), Option.bind_some,
    claimsOf_json haud]
  dsimp only
  rw [if_pos hid]
/-- The scopes that a list of texts can give. -/
lemma normalizeScopes_ok {texts : List String} {scopes : List LinkTokenScope}
    (h : normalizeScopes texts = .ok scopes) :
    scopes = [.tasksRead] ∨ scopes = [.tasksWrite] ∨ scopes = [.tasksRead, .tasksWrite] := by
  rw [normalizeScopes] at h
  generalize ((texts.map fun scope => jsTrim scope.toList).filter (· ≠ [])).eraseDups = normalized
    at h
  split at h
  · cases h
  · rename_i hlength
    split at h
    · rename_i hall
      -- The first text is one of the two scopes.
      obtain ⟨first, hfirst⟩ := List.exists_mem_of_length_pos
        (Nat.pos_of_ne_zero fun hzero => hlength (.inl hzero))
      have hscope := List.all_eq_true.mp hall first hfirst
      obtain rfl := Except.ok.inj h
      by_cases hread : LinkTokenScope.tasksRead.text.toList ∈ normalized <;>
        by_cases hwrite : LinkTokenScope.tasksWrite.text.toList ∈ normalized
      · exact .inr (.inr (by simp [linkTokenScopes, hread, hwrite]))
      · exact .inl (by simp [linkTokenScopes, hread, hwrite])
      · exact .inr (.inl (by simp [linkTokenScopes, hread, hwrite]))
      · obtain ⟨scope, hmem, heq⟩ := List.any_eq_true.mp hscope
        rw [decide_eq_true_eq] at heq
        subst heq
        cases scope with
        | tasksRead => exact absurd hfirst hread
        | tasksWrite => exact absurd hfirst hwrite
    · cases h

/-- The scopes are read back from their claim. -/
lemma parseScopeClaim_scopeClaim {texts : List String} {scopes : List LinkTokenScope}
    (h : normalizeScopes texts = .ok scopes) : parseScopeClaim (scopeClaim scopes) = .ok scopes := by
  rcases normalizeScopes_ok h with rfl | rfl | rfl <;> decide

/-- The expiry of the claims is the expiry of the row, without its fraction of a second. -/
lemma isExpired_claimExpiresAt {exp : ℤ} {now : Date} (h : now < exp * 1000) :
    isExpired (claimExpiresAt (toString exp)) now = false := by
  have htime : (decimalOf (toString exp).toList).truncated 3 = exp * 1000 := by
    rw [decimalOf_int]
    rfl
  rw [claimExpiresAt, htime]
  split
  · rw [isExpired, Option.any_some, decide_eq_false_iff_not, not_le]
    exact h
  · rfl

lemma validateIssueInput_ok {input : IssueLinkTokenInput} {scopes : List LinkTokenScope}
    (h : validateIssueInput input = .ok scopes) :
    isOpaqueId input.orgId = true ∧ normalizeScopes input.scopes = .ok scopes := by
  rw [validateIssueInput] at h
  split at h
  · cases h
  rename_i hids
  simp only [Bool.not_eq_true', Bool.not_eq_false, Bool.and_eq_true] at hids
  split at h
  · cases h
  split at h
  · cases h
  exact ⟨hids.1.1, h⟩

/-! ### What the calls do -/

/-- The parts of an issue that is accepted. -/
structure IsIssued (db : LinkTokenDatabase) (input : IssueLinkTokenInput) (draw : LinkTokenDraw)
    (clock : Clock) (scopes : List LinkTokenScope) (workspaceId : String)
    (membership : Membership) : Prop where
  valid : validateIssueInput input = .ok scopes
  tenant : isTenantUuid input.orgId = true
  user : setCurrentUser input.userId = true
  workspace : readUuid input.workspaceId = some workspaceId
  workspaceRow : db.assertWorkspaceInTenant (uuidText input.orgId) workspaceId = true
  member : db.activeMembership (uuidText input.orgId) input.userId = some membership
  session : db.assertSessionCurrent clock.transaction input.sessionId (uuidText input.orgId)
    input.userId membership.membershipVersion = true
  admits : db.admits
    (input.row scopes draw clock workspaceId membership.membershipVersion) = true

/-- **What an issue does.** It is accepted, with the token of its claims and a new row, or nothing
changes. -/
lemma issueLinkToken_cases (db : LinkTokenDatabase) (input : IssueLinkTokenInput)
    (draw : LinkTokenDraw) (clock : Clock) :
    (∃ error, issueLinkToken db input draw clock = (.error error, db)) ∨
    ∃ scopes workspaceId membership, IsIssued db input draw clock scopes workspaceId membership ∧
      issueLinkToken db input draw clock =
        (.ok (input.issued scopes draw clock workspaceId membership.membershipVersion),
          { db with linkTokens := db.linkTokens ++
              [input.row scopes draw clock workspaceId membership.membershipVersion] }) := by
  cases hvalid : validateIssueInput input with
  | error error => exact .inl ⟨error, by rw [issueLinkToken, hvalid]⟩
  | ok scopes =>
      rw [issueLinkToken, hvalid]
      dsimp only
      split
      · exact .inl ⟨_, rfl⟩
      rename_i htenant
      simp only [Bool.or_eq_true, Bool.not_eq_true', not_or, Bool.not_eq_false] at htenant
      cases hworkspace : readUuid input.workspaceId with
      | none => exact .inl ⟨_, rfl⟩
      | some workspaceId =>
          dsimp only
          split
          · exact .inl ⟨_, rfl⟩
          rename_i hrow
          cases hmembership : db.activeMembership (uuidText input.orgId) input.userId with
          | none => exact .inl ⟨_, rfl⟩
          | some membership =>
              dsimp only
              split
              · exact .inl ⟨_, rfl⟩
              rename_i hsession
              split
              · exact .inl ⟨_, rfl⟩
              rename_i hadmits
              simp only [Bool.not_eq_true', Bool.not_eq_false] at hrow hsession hadmits
              exact .inr ⟨scopes, workspaceId, membership, ⟨hvalid, htenant.1, htenant.2, hworkspace,
                hrow, hmembership, hsession, hadmits⟩, rfl⟩

/-- The hash of a token passes the check of its column. -/
lemma isTokenHash_hashToken (token : String) : isTokenHash (hashToken token) = true := by
  have hdigit : ∀ n < 16, (('a' ≤ Sha256.hexDigit n ∧ Sha256.hexDigit n ≤ 'f') ∨
      ('0' ≤ Sha256.hexDigit n ∧ Sha256.hexDigit n ≤ '9')) := by decide
  rw [isTokenHash, hashToken, Sha256.hexDigest, String.toList_ofList, Bool.and_eq_true,
    decide_eq_true_eq, List.all_eq_true]
  constructor
  · simp [Sha256.hexWord]
  · intro c hc
    obtain ⟨word, -, hword⟩ := List.mem_flatMap.mp hc
    obtain ⟨i, -, rfl⟩ := List.mem_map.mp hword
    exact decide_eq_true (hdigit _ (Nat.mod_lt _ (by decide)))

lemma issueLinkToken_of_isIssued {db : LinkTokenDatabase} {input : IssueLinkTokenInput}
    {draw : LinkTokenDraw} {clock : Clock} {scopes : List LinkTokenScope} {workspaceId : String}
    {membership : Membership} (h : IsIssued db input draw clock scopes workspaceId membership) :
    (issueLinkToken db input draw clock).1 =
      .ok (input.issued scopes draw clock workspaceId membership.membershipVersion) := by
  rw [issueLinkToken, h.valid]
  dsimp only
  rw [h.tenant, h.user, h.workspace]
  dsimp only
  rw [h.member]
  dsimp only
  rw [h.workspaceRow, h.session, h.admits]
  rfl
/-- The row can be used: it says what the claims say, and everything it rests on is current. -/
structure IsCurrent (db : LinkTokenDatabase) (claims : LinkTokenClaims)
    (scopes : List LinkTokenScope) (row : LinkTokenRow) (clock : Clock) : Prop where
  user : setCurrentUser row.userId = true
  agrees : row.agrees claims scopes = true
  notRevoked : row.revokedAt = none
  notExpired : clock.now < row.expiresAt
  membership : (db.activeMembership row.organizationId row.userId).any
    (·.membershipVersion = row.membershipVersion) = true
  session : db.assertSessionCurrent clock.transaction row.sessionId row.organizationId row.userId
    row.membershipVersion = true

/-- **What the check of a row does.** -/
lemma verifyRow_cases (collation : String → String → Bool) (db : LinkTokenDatabase)
    (claims : LinkTokenClaims) (scopes : List LinkTokenScope) (row : LinkTokenRow) (clock : Clock) :
    (¬ IsCurrent db claims scopes row clock ∧
      ∃ error, verifyRow collation db claims scopes row clock = (.error error, db)) ∨
    (IsCurrent db claims scopes row clock ∧ verifyRow collation db claims scopes row clock =
      (.ok (row.principal (db.roleKeys collation row.organizationId row.userId)),
        { db with linkTokens := updateWhere (·.id = row.id) (·.used clock.now) db.linkTokens })) := by
  rw [verifyRow]
  split
  · rename_i h
    exact .inl ⟨fun hrow => by simp [hrow.user] at h, _, rfl⟩
  rename_i huser
  split
  · rename_i h
    exact .inl ⟨fun hrow => by simp [hrow.agrees] at h, _, rfl⟩
  rename_i hagrees
  split
  · rename_i h
    exact .inl ⟨fun hrow => by simp [hrow.notRevoked] at h, _, rfl⟩
  rename_i hrevoked
  split
  · rename_i h
    rw [isExpired, Option.any_some, decide_eq_true_eq] at h
    exact .inl ⟨fun hrow => absurd hrow.notExpired (not_lt.mpr h), _, rfl⟩
  rename_i hexpired
  split
  · rename_i h
    exact .inl ⟨fun hrow => by simp [hrow.membership] at h, _, rfl⟩
  rename_i hmembership
  split
  · rename_i h
    exact .inl ⟨fun hrow => by simp [hrow.session] at h, _, rfl⟩
  rename_i hsession
  refine .inr ⟨?_, rfl⟩
  rw [isExpired, Option.any_some, decide_eq_true_eq, not_le] at hexpired
  simp only [Bool.not_eq_true', Bool.not_eq_false] at huser hagrees hmembership hsession
  exact ⟨huser, hagrees, by simpa using hrevoked, hexpired, hmembership, hsession⟩

/-- A token selects a row, by its claims and its hash. -/
structure Selects (db : LinkTokenDatabase) (token : String) (clock : Clock)
    (claims : LinkTokenClaims) (scopes : List LinkTokenScope) (row : LinkTokenRow) : Prop where
  parsed : parseToken token = .ok claims
  parsedScope : parseScopeClaim claims.scope = .ok scopes
  notExpired : isExpired (claimExpiresAt claims.exp) clock.now = false
  tenant : isTenantUuid claims.tenant_id = true
  found : db.linkTokens.find? (·.isSelected token claims) = some row

/-- **What a verification does.** It selects a row and checks it, or nothing changes. -/
lemma verifyLinkToken_cases (collation : String → String → Bool) (db : LinkTokenDatabase)
    (token : String) (clock : Clock) :
    ((¬ ∃ claims scopes row, Selects db token clock claims scopes row) ∧
      ∃ error, verifyLinkToken collation db token clock = (.error error, db)) ∨
    ∃ claims scopes row, Selects db token clock claims scopes row ∧
      verifyLinkToken collation db token clock = verifyRow collation db claims scopes row clock := by
  rw [verifyLinkToken]
  cases hparse : parseToken token with
  | error error =>
      refine .inl ⟨?_, error, rfl⟩
      rintro ⟨claims, scopes, row, h⟩
      exact nomatch hparse.symm.trans h.parsed
  | ok claims =>
      have hclaims {claims' scopes row} (h : Selects db token clock claims' scopes row) :
          claims' = claims := Except.ok.inj (h.parsed.symm.trans hparse)
      dsimp only
      cases hscopes : parseScopeClaim claims.scope with
      | error error =>
          refine .inl ⟨?_, error, rfl⟩
          rintro ⟨claims', scopes, row, h⟩
          obtain rfl := hclaims h
          exact nomatch hscopes.symm.trans h.parsedScope
      | ok scopes =>
          dsimp only
          split
          · rename_i hexpired
            refine .inl ⟨?_, _, rfl⟩
            rintro ⟨claims', scopes', row, h⟩
            obtain rfl := hclaims h
            exact absurd (hexpired.symm.trans h.notExpired) (by simp)
          rename_i hexpired
          split
          · rename_i htenant
            refine .inl ⟨?_, _, rfl⟩
            rintro ⟨claims', scopes', row, h⟩
            obtain rfl := hclaims h
            rw [h.tenant] at htenant
            cases htenant
          rename_i htenant
          cases hrow : db.linkTokens.find? (·.isSelected token claims) with
          | none =>
              refine .inl ⟨?_, _, rfl⟩
              rintro ⟨claims', scopes', row, h⟩
              obtain rfl := hclaims h
              exact nomatch hrow.symm.trans h.found
          | some row =>
              refine .inr ⟨claims, scopes, row, ⟨hparse, hscopes, ?_, ?_, hrow⟩, rfl⟩
              · simpa using hexpired
              · simpa using htenant

/-- **When a token is verified.** -/
lemma verifyLinkToken_ok {collation : String → String → Bool} {db : LinkTokenDatabase}
    {token : String} {clock : Clock} {principal : LinkTokenPrincipal}
    (h : (verifyLinkToken collation db token clock).1 = .ok principal) :
    ∃ claims scopes row, Selects db token clock claims scopes row ∧
      IsCurrent db claims scopes row clock ∧
      principal = row.principal (db.roleKeys collation row.organizationId row.userId) := by
  rcases verifyLinkToken_cases collation db token clock with
    ⟨-, error, heq⟩ | ⟨claims, scopes, row, hselects, heq⟩
  · rw [heq] at h
    cases h
  · rw [heq] at h
    rcases verifyRow_cases collation db claims scopes row clock with ⟨-, error, hrow⟩ | ⟨hcurrent, hrow⟩
    · rw [hrow] at h
      cases h
    · rw [hrow] at h
      exact ⟨claims, scopes, row, hselects, hcurrent, (Except.ok.inj h).symm⟩

/-- A verification changes at most when a row was used. -/
lemma verifyLinkToken_db (collation : String → String → Bool) (db : LinkTokenDatabase)
    (token : String) (clock : Clock) :
    (verifyLinkToken collation db token clock).2 = db ∨
    ∃ id, (verifyLinkToken collation db token clock).2 =
      { db with linkTokens := updateWhere (·.id = id) (·.used clock.now) db.linkTokens } := by
  rcases verifyLinkToken_cases collation db token clock with
    ⟨-, error, heq⟩ | ⟨claims, scopes, row, -, heq⟩
  · exact .inl (by rw [heq])
  · rcases verifyRow_cases collation db claims scopes row clock with ⟨-, error, hrow⟩ | ⟨-, hrow⟩
    · exact .inl (by rw [heq, hrow])
    · exact .inr ⟨row.id, by rw [heq, hrow]⟩

/-- **What a revocation does.** -/
lemma revokeLinkToken_cases (db : LinkTokenDatabase) (input : RevokeLinkTokenInput)
    (clock : Clock) :
    (∃ error, revokeLinkToken db input clock = (.error error, db)) ∨
    ∃ id, revokeLinkToken db input clock =
      (.ok ((returning (input.selects id) (·.revoked clock.now) db.linkTokens).head?.map
          LinkTokenRow.toLinkTokenDto),
        { db with linkTokens :=
            updateWhere (input.selects id) (·.revoked clock.now) db.linkTokens }) := by
  rw [revokeLinkToken]
  split
  · exact .inl ⟨_, rfl⟩
  split
  · exact .inl ⟨_, rfl⟩
  cases readUuid input.tokenId with
  | none => exact .inl ⟨_, rfl⟩
  | some id => exact .inr ⟨id, rfl⟩

end Opzava.IdentityAccess
