import Opzava.Library.MergePatch
import Opzava.Library.OrderedMap
import Opzava.Provisioning.ModelRegistry

/-!
The credentials in the configuration of the gateway (`provisioning/provider-read-model.ts`) and
what a disconnect does to them (`disconnectModelProviderInner`,
`connections-provisioning-service.ts`).

* `canonicalProviderIdentity`: providers that share their credentials.
* `firstProfileIdForProvider`: the profile that is selected for a provider.
* `disconnectProfileIds`, `siblingProfileIdsByProvider`: what a disconnect removes, and from whom.
* `logoutParams`, `disconnectPatch`: the calls and the patch of a disconnect.
-/

namespace Opzava.Provisioning

open Opzava.Library

/-! ### Identities -/

/-- `MODEL_PROVIDER_AUTH_ALIASES`. -/
def modelProviderAuthAliases : List (String × String) :=
  [("byteplus-plan", "byteplus"), ("gmi-cloud", "gmi"), ("gmicloud", "gmi"),
    ("minimax-cn", "minimax"), ("minimax-portal-cn", "minimax-portal"),
    ("moonshot-ai", "moonshot"), ("moonshotai", "moonshot"), ("novita-ai", "novita"),
    ("novitaai", "novita"), ("volcengine-plan", "volcengine"), ("x-ai", "xai")]

/-- `providerId.trim().toLowerCase()`. -/
def normalizedProviderId (providerId : String) : String :=
  (String.ofList (jsTrim providerId.toList)).toLower

/-- `canonicalModelProviderAuthId`. -/
def canonicalProviderIdentity (providerId : String) : String :=
  (modelProviderAuthAliases.lookup (normalizedProviderId providerId)).getD
    (normalizedProviderId providerId)

/-- `providerIdentitiesMatch`, of ids that are there. -/
def identitiesMatch (left right : String) : Bool :=
  canonicalProviderIdentity left = canonicalProviderIdentity right

def providerIdentitiesMatch (left : Option String) (right : String) : Bool :=
  left.any (identitiesMatch · right)

/-- The key is the id of the provider, up to blanks and case. -/
def isExactKey (providerId key : String) : Bool :=
  normalizedProviderId key = normalizedProviderId providerId

/-- The entries of the provider: the exact ones, and those of its aliases. -/
def providerIdentityEntries {α : Type} (record : List (String × α)) (providerId : String) :
    List (String × α) × List (String × α) :=
  (record.filter fun entry => isExactKey providerId entry.1,
    record.filter fun entry =>
      !isExactKey providerId entry.1 && identitiesMatch entry.1 providerId)

/-! ### Profiles -/

def authConfig (config : JsonFields) : JsonFields := (recordValue (config.lookup "auth")).getD []

def authProfiles (config : JsonFields) : JsonFields :=
  (recordValue ((authConfig config).lookup "profiles")).getD []

def authOrder (config : JsonFields) : JsonFields :=
  (recordValue ((authConfig config).lookup "order")).getD []

/-- `id.split(c, 1)[0]`, when the character is in the id. -/
def idBefore (c : Char) (id : String) : Option String :=
  if c ∈ id.toList then some (String.ofList (id.toList.takeWhile (· ≠ c))) else none

def providerIdFromProfilePrefix ( id : String) : Option String := idBefore ':' id

def providerIdFromProfile (id : String) (profile : JsonFields) : Option String :=
  (stringValue (profile.lookup "providerId")).orElse fun _ =>
    (stringValue (profile.lookup "provider")).orElse fun _ =>
      (idBefore ':' id).orElse fun _ => idBefore '-' id

def authChoiceIdFromProfile (id : String) (profile : JsonFields) : Option String :=
  (stringValue (profile.lookup "authChoiceId")).orElse fun _ =>
    (stringValue (profile.lookup "authChoice")).orElse fun _ =>
      (stringValue (profile.lookup "choice")).orElse fun _ =>
        if '-' ∈ id.toList then some (String.ofList ((id.toList.dropWhile (· ≠ '-')).drop 1))
        else none

/-- `authModeFromChoiceId` is not `device-flow`. -/
def isApiKeyChoice (choiceId : String) : Bool :=
  !decide ("oauth".toList <:+: choiceId.toLower.toList) &&
    !decide ("device".toList <:+: choiceId.toLower.toList)

def profileUsesGatewayCredentialAuth (id : String) (profile : JsonFields) : Bool :=
  let mode := (stringValue (profile.lookup "type")).orElse fun _ =>
    (stringValue (profile.lookup "mode")).orElse fun _ => stringValue (profile.lookup "auth")
  mode.any (["oauth", "token", "api_key", "api-key"].contains ·) ||
    (authChoiceIdFromProfile id profile).any isApiKeyChoice

/-- The profile of an entry belongs to the provider. -/
def profileMatchesProvider (providerId id : String) (profile : Option Json) : Bool :=
  (recordValue profile).any fun fields =>
    providerIdentitiesMatch (providerIdFromProfile id fields) providerId

def providerHasAuthProfile (config : JsonFields) (providerId : String) : Bool :=
  (authProfiles config).any fun entry => profileMatchesProvider providerId entry.1 (some entry.2)

/-! ### The selected profile -/

/-- What `auth.order` says for a provider. -/
inductive AuthOrderEntry
  | absent
  | ambiguous
  | value (value : Json)

def authOrderEntryOf :
    List (String × Json) × List (String × Json) → AuthOrderEntry
  | ([], []) => .absent
  | ([(_, value)], []) | ([], [(_, value)]) => .value value
  | ([(_, value)], [(_, other)]) => if value.print = other.print then .value value else .ambiguous
  | _ => .ambiguous

def authOrderEntry (config : JsonFields) (providerId : String) : AuthOrderEntry :=
  authOrderEntryOf (providerIdentityEntries (authOrder config) providerId)

/-- The first text of an order that is the id of a profile of the provider. -/
def firstOrderedProfile (profiles : JsonFields) (providerId : String) (items : List Json) :
    Option String :=
  items.findSome? fun item =>
    match item with
    | .string id =>
        if profileMatchesProvider providerId id (profiles.lookup id) then some id else none
    | _ => none

/-- The profile that an entry selects; without one it is the first one of the provider. -/
def selectedProfile (profiles : JsonFields) (providerId : String) : AuthOrderEntry → Option String
  | .value (.array items) => firstOrderedProfile profiles providerId items
  | .value (.string id) =>
      if jsTrim id.toList ≠ [] ∧ profileMatchesProvider providerId id (profiles.lookup id) then
        some id
      else none
  | .value _ | .ambiguous => none
  | .absent =>
      (profiles.find? fun entry =>
        profileMatchesProvider providerId entry.1 (some entry.2)).map (·.1)

def firstProfileIdForProvider (providerId : String) (config : JsonFields) : Option String :=
  selectedProfile (authProfiles config) providerId (authOrderEntry config providerId)

def providerHasBlockingAuthOrder (config : JsonFields) (providerId : String) : Bool :=
  match authOrderEntry config providerId with
  | .ambiguous => true
  | .value _ => (firstProfileIdForProvider providerId config).isNone
  | .absent => false

/-! ### What a disconnect removes -/

/-- `ProviderProfileOwnership`: the profiles that each provider declares as its own. -/
abbrev ProviderProfileOwnership := List (String × List String)

def configCredentialProfileIdsForProvider (config : JsonFields) (providerId : String) :
    List String :=
  ((authProfiles config).filter fun entry =>
    (isRecord entry.2).any fun profile =>
      providerIdentitiesMatch (providerIdFromProfile entry.1 profile) providerId &&
        profileUsesGatewayCredentialAuth entry.1 profile).map (·.1)

def ownedProfileIdsForProvider (ownership : Option ProviderProfileOwnership)
    (providerId : String) : List String :=
  let entries := providerIdentityEntries (ownership.getD []) providerId
  ((entries.1 ++ entries.2).flatMap (·.2)).eraseDups

/-- `disconnectProfileIdsForProvider`: the profiles of the provider, and those it declares, unless
they are in the configuration without a credential of the gateway. -/
def disconnectProfileIds (config : JsonFields) (providerId : String)
    (ownership : Option ProviderProfileOwnership) : List String :=
  (configCredentialProfileIdsForProvider config providerId ++
    (ownedProfileIdsForProvider ownership providerId).filter fun id =>
      match recordValue ((authProfiles config).lookup id) with
      | some profile => profileUsesGatewayCredentialAuth id profile
      | none => true).eraseDups

/-- The provider that declares a profile; the disconnected one first. -/
def declaredOwnerId (ownership : Option ProviderProfileOwnership) (disconnectedProviderId : String)
    (profileId : String) : Option String :=
  let declaring := (ownership.getD []).filter fun entry => profileId ∈ entry.2
  let entries := providerIdentityEntries declaring disconnectedProviderId
  ((entries.1 ++ entries.2 ++ declaring).head?).map (·.1)

/-- The owner of a removed profile. -/
def profileOwner (config : JsonFields) (ownership : Option ProviderProfileOwnership)
    (disconnectedProviderId profileId : String) : Option String :=
  match recordValue ((authProfiles config).lookup profileId) with
  | some profile => providerIdFromProfile profileId profile
  | none =>
      (providerIdFromProfilePrefix profileId).orElse fun _ =>
        (declaredOwnerId ownership disconnectedProviderId profileId).orElse fun _ =>
          providerIdFromProfile profileId []

def profileOwnersForDisconnect (config : JsonFields) (profileIds : List String)
    (ownership : Option ProviderProfileOwnership) (disconnectedProviderId : String) :
    List (String × String) :=
  profileIds.filterMap fun profileId =>
    (profileOwner config ownership disconnectedProviderId profileId).map (profileId, ·)

/-- A removed profile is listed with its owner, unless it is the disconnected provider itself. -/
def addSibling (providerId : String) (siblings : OrderedMap String (List String))
    (owned : String × String) : OrderedMap String (List String) :=
  let canonicalOwnerId := canonicalProviderIdentity owned.2
  if identitiesMatch canonicalOwnerId providerId then siblings
  else
    siblings.set canonicalOwnerId ((siblings.get canonicalOwnerId).getD [] ++ [owned.1])

/-! ### The disconnect -/

/-- What a disconnect starts from. -/
structure Disconnect where
  config : JsonFields
  providerId : String
  ownership : Option ProviderProfileOwnership

/-- The parameters of `models.authLogout`. -/
structure LogoutParams where
  provider : String
  agent : Option String
  profileIds : Option (List String)

def configuredLogoutAgentIds (config : JsonFields) : List String :=
  ((agentsList config).filterMap agentIdOf).eraseDups

/-- The strings of an array. -/
def stringItems (items : List Json) : List String :=
  items.filterMap fun item =>
    match item with
    | .string text => some text
    | _ => none

/-- `Object.fromEntries`. -/
def objectFromEntries (entries : List (String × Json)) : JsonFields :=
  entries.foldl (fun fields entry => writeField fields entry.1 entry.2) []

namespace Disconnect

def prunedModelKeys (d : Disconnect) : List String := enabledKeys d.config d.providerId

def profileIds (d : Disconnect) : List String :=
  disconnectProfileIds d.config d.providerId d.ownership

def siblingProfileIdsByProvider (d : Disconnect) : OrderedMap String (List String) :=
  (profileOwnersForDisconnect d.config d.profileIds d.ownership d.providerId).foldl
    (addSibling d.providerId) .empty

/-- The logouts of a provider from the default store and from every agent. -/
def logoutsOf (agentIds : List String) (provider : String) (profileIds : Option (List String)) :
    List LogoutParams :=
  ⟨provider, none, profileIds⟩ :: agentIds.map (⟨provider, some ·, profileIds⟩)

def logoutParams (d : Disconnect) : List LogoutParams :=
  let logoutAgentIds := configuredLogoutAgentIds d.config
  logoutsOf logoutAgentIds d.providerId none ++
    d.siblingProfileIdsByProvider.entries.flatMap fun (provider, sharedProfileIds) =>
      logoutsOf logoutAgentIds provider (some sharedProfileIds)

/-- The order of a sibling without the removed profiles. -/
def siblingOrder (d : Disconnect) (providerId : String) : List String :=
  match (authOrder d.config).lookup providerId with
  | some (.array items) => (stringItems items).filter (· ∉ d.profileIds)
  | _ => []

/-- `nextAuthOrder`: the orders that are written, or removed. -/
def nextAuthOrder (d : Disconnect) : OrderedMap String (Option (List String)) :=
  let entries := providerIdentityEntries (authOrder d.config) d.providerId
  let cleared := (entries.1 ++ entries.2).foldl
    (fun order entry => if entry.1 = d.providerId then order else order.set entry.1 none)
    (OrderedMap.empty.set d.providerId (some []))
  d.siblingProfileIdsByProvider.entries.foldl
    (fun order sibling => order.set sibling.1 (some (d.siblingOrder sibling.1))) cleared

/-- An order that has something in it. -/
def orderHasEntries : Option Json → Bool
  | some (.array items) => !items.isEmpty
  | some (.string text) => jsTrim text.toList ≠ []
  | _ => false

def orderHasProviderEntries (d : Disconnect) : Bool :=
  d.nextAuthOrder.entries.any fun entry => orderHasEntries ((authOrder d.config).lookup entry.1)

/-- An order as it is written. -/
def orderPatch : Option (List String) → Json
  | some profileIds => jsonStrings profileIds
  | none => .null

/-- The patch of a disconnect; there is none when nothing is to be removed. -/
def disconnectPatch (d : Disconnect) : Option JsonFields :=
  if d.profileIds ≠ [] ∨ d.orderHasProviderEntries ∨ d.prunedModelKeys ≠ [] then
    some ([("auth", .object
        [("profiles", .object (d.profileIds.map (·, .null))),
          ("order", .object (d.nextAuthOrder.entries.map fun entry =>
            (entry.1, orderPatch entry.2)))])] ++
      if d.prunedModelKeys = [] then []
      else
        [("agents", .object [("defaults", .object
          [("models", .object (objectFromEntries (d.prunedModelKeys.map (·, .null))))])])])
  else none

/-- The configuration after the patch. -/
def configAfter (d : Disconnect) : JsonFields :=
  match d.disconnectPatch with
  | some patch => mergeFields d.config patch
  | none => d.config

end Disconnect

end Opzava.Provisioning
