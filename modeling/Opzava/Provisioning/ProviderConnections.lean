import Mathlib
import Opzava.Library.Numerals
import Opzava.Provisioning.ProviderModels

/-!
The catalog of the providers and their connections, as they are read from the answers of the
gateway and from its configuration (`provisioning/provider-read-model.ts`).

* `modelStatusAuthEvidence`: whether the gateway can use the credentials of a provider.
* `providerConnectionFromConnectionSources`: the connection of a provider, its status and model.
* `providerCatalogFromModels`: the catalog.
* `providerStillHasCredentials`: the stores in which credentials are left.
-/

namespace Opzava.Provisioning

open Opzava.Library

/-! ### The status of the models -/

/-- A number of a value. -/
def numberValue : Option Json → Option ℚ
  | some (.number text) =>
      let number := decimalOf text.toList
      some (number.mantissa * (10 : ℚ) ^ number.exponent)
  | _ => none

/-- `auth` of the answer. -/
def modelStatusAuth (status : Option Json) : Option JsonFields :=
  recordValue (fieldOf (recordValue status) "auth")

/-- The records of an array. -/
def recordItems (value : Option Json) : List JsonFields := (arrayValue value).filterMap isRecord

def modelStatusProvider (status : Option Json) (providerId : String) : Option JsonFields :=
  let providers := recordItems (fieldOf (modelStatusAuth status) "providers")
  let requestedProviderId := beforeSlash providerId
  (providers.find? fun provider =>
    (stringValue (provider.lookup "provider")).map (·.toLower) =
      some requestedProviderId.toLower).orElse fun _ =>
    providers.find? fun provider =>
      providerIdentitiesMatch (stringValue (provider.lookup "provider")) requestedProviderId

def modelStatusOAuthProvider (status : Option Json) (providerId : String) : Option JsonFields :=
  (recordItems (fieldOf (recordValue (fieldOf (modelStatusAuth status) "oauth"))
    "providers")).find? fun provider =>
      providerIdentitiesMatch (stringValue (provider.lookup "provider")) providerId

/-- `profiles` of a provider in the answer. -/
def statusProfiles (provider : Option JsonFields) : Option JsonFields :=
  recordValue (fieldOf provider "profiles")

def modelStatusProfileLabels (provider : Option JsonFields) : List String :=
  stringArrayValue (fieldOf (statusProfiles provider) "labels")

def modelStatusProfileCount (provider : Option JsonFields) : ℚ :=
  match numberValue (fieldOf (statusProfiles provider) "count") with
  | some count => count
  | none =>
      let typedCount := (["oauth", "token", "apiKey", "api_key", "api-key"].map fun key =>
        (numberValue (fieldOf (statusProfiles provider) key)).getD 0).sum
      if 0 < typedCount then typedCount else (modelStatusProfileLabels provider).length

inductive ProviderAuthUsability
  | usable
  | blocked
  | absent
  | unknown
  deriving DecidableEq

/-- `modelStatusAuthEvidence`, its usability; `blocking` says whether an order blocks the
provider. -/
def authUsability (status : Option Json) (providerId : String) (blocking : Bool) :
    ProviderAuthUsability :=
  let provider := modelStatusProvider status providerId
  let profileCount := modelStatusProfileCount provider
  let matchesProvider := fun value => providerIdentitiesMatch (stringValue value) providerId
  match modelStatusAuth status with
  | none => if blocking then .blocked else .unknown
  | some auth =>
      let routes := (recordItems (auth.lookup "runtimeAuthRoutes")).filter fun route =>
        matchesProvider (route.lookup "provider")
      let effectiveKind := stringValue (fieldOf (recordValue (fieldOf provider "effective")) "kind")
      let effectiveProfiles := (modelStatusOAuthProvider status providerId).bind fun oauth =>
        (oauth.lookup "effectiveProfiles").map fun value => recordItems (some value)
      if (stringArrayValue (auth.lookup "missingProvidersInUse")).any fun value =>
          matchesProvider (some (.string value)) then .blocked
      else if routes ≠ [] then
        if routes.any fun route => stringValue (route.lookup "status") = some "usable" then .usable
        else .blocked
      else if effectiveKind = some "env" ∨ effectiveKind = some "models.json" ∨
          effectiveKind = some "synthetic" then .usable
      else
        match effectiveProfiles with
        | some profiles =>
            if profiles.any fun profile =>
                (stringValue (profile.lookup "status")).any
                  (["ok", "expiring", "static"].contains ·) then .usable
            else .blocked
        | none =>
            if effectiveKind = some "profiles" then
              if 0 < profileCount then .usable else .blocked
            else if effectiveKind = some "missing" then
              if 0 < profileCount then .blocked else .absent
            else if provider.isSome then
              if blocking then .blocked else if 0 < profileCount then .usable else .absent
            else if (auth.lookup "providers").isSome then .absent
            else .unknown

def modelStatusAuthEvidence (status : Option Json) (providerId : String) (config : JsonFields) :
    ProviderAuthUsability :=
  authUsability status providerId (providerHasBlockingAuthOrder config providerId)

/-! ### The status of the authorization -/

inductive ProviderAuthHealth
  | ok
  | expiring
  | expired
  | missing
  | static
  deriving DecidableEq

inductive ConnectedAuthMode
  | oauth
  | token
  | apiKey
  deriving DecidableEq

def providerAuthHealth (value : Option Json) : Option ProviderAuthHealth :=
  (stringValue value).bind fun status =>
    [("ok", ProviderAuthHealth.ok), ("expiring", .expiring), ("expired", .expired),
      ("missing", .missing), ("static", .static)].lookup status

def connectedAuthMode (value : Option Json) : Option ConnectedAuthMode :=
  (stringValue value).bind fun mode =>
    [("oauth", ConnectedAuthMode.oauth), ("token", .token), ("api_key", .apiKey)].lookup mode

def connectedAuthModeFromProfiles (value : Option Json) : Option ConnectedAuthMode :=
  let profiles := recordItems value
  (["ok", "expiring", "static", "expired", "missing"].findSome? fun status =>
    (profiles.find? fun entry => stringValue (entry.lookup "status") = some status).bind
      fun profile => connectedAuthMode (profile.lookup "type")).orElse fun _ =>
    profiles.findSome? fun profile => connectedAuthMode (profile.lookup "type")

/-- The fields that are read here; the status is `connected` unless the health says otherwise. -/
structure ModelAuthStatusConnection where
  providerId : String
  authHealth : ProviderAuthHealth
  connectedAuthMode : Option ConnectedAuthMode

def modelAuthStatusMap (payload : Json) : OrderedMap String ModelAuthStatusConnection :=
  (recordItems (fieldOf (recordValue (some payload)) "providers")).foldl
    (fun byProvider provider =>
      match (stringValue (provider.lookup "provider")).orElse fun _ =>
          stringValue (provider.lookup "providerId"), providerAuthHealth (provider.lookup "status")
        with
      | some providerId, some authHealth =>
          byProvider.set providerId ⟨providerId, authHealth,
            connectedAuthModeFromProfiles (provider.lookup "profiles")⟩
      | _, _ => byProvider) .empty

/-! ### The connection of a provider -/

/-- `providerConnectionFromConfig`. -/
def providerConnectionFromConfig (provider : ModelProviderCatalogEntry) (config : JsonFields) :
    ProviderConnection :=
  let model := configuredModelForProvider provider.id config provider.models
  let profile := (firstProfileIdForProvider provider.id config).bind fun id =>
    recordValue ((authProfiles config).lookup id)
  { providerId := provider.id
    status := if profile.isNone then "not_connected"
      else if model.isSome then "connected" else "needs_attention"
    model := model }

/-- Nothing is said of the provider: then the configuration decides. -/
def providerConnectionFromModelStatus (provider : ModelProviderCatalogEntry) (config : JsonFields)
    (modelStatus : Json) : Option ProviderConnection :=
  let usability := modelStatusAuthEvidence (some modelStatus) provider.id config
  let profileCount := modelStatusProfileCount (modelStatusProvider (some modelStatus) provider.id)
  if usability = .unknown ∨ (usability = .absent ∧ profileCount ≤ 0 ∧
      providerHasAuthProfile config provider.id = false) then none
  else
    let providerAllowed := (stringArrayValue (fieldOf (recordValue (some modelStatus))
      "allowed")).any fun model => jsStartsWith model (provider.id ++ "/")
    let model := configuredModelForProvider provider.id config provider.models
    some
      { providerId := provider.id
        status := if usability = .usable ∧ (providerAllowed = true ∨ model.isSome = true) then
            "connected"
          else "needs_attention"
        model := model }

/-- What the gateway says of the models and of the authorization; a result that was not ok is not
there. -/
structure GatewayStatus where
  modelStatus : Option Json
  authStatus : Option (OrderedMap String ModelAuthStatusConnection)

/-- The status of a model provider without the authorization. -/
def baseConnection (provider : ModelProviderCatalogEntry) (config : JsonFields)
    (modelStatus : Option Json) : ProviderConnection :=
  let fromModelStatus := match modelStatus with
    | none | some .null => none
    | some status => providerConnectionFromModelStatus provider config status
  fromModelStatus.getD (providerConnectionFromConfig provider config)

def providerConnectionFromConnectionSources (provider : ModelProviderCatalogEntry)
    (config : JsonFields) (gateway : GatewayStatus) : ProviderConnection :=
  let connection := baseConnection provider config gateway.modelStatus
  match gateway.authStatus.bind (·.get provider.id) with
  | none => connection
  | some authState =>
      { connection with
        status := if authState.authHealth = .expired then "needs_attention"
          else connection.status }

/-! ### The catalog -/

/-- What the sources say of a provider before the configuration is read. -/
structure CatalogSource where
  id : String
  label : String
  suggestedModel : String
  roleStrength : String
  whenToUse : String

def connectedModelUse : String := "Use when this connected model is appropriate."

/-- A provider that the answer names. -/
def addProviderSource (catalog : OrderedMap String CatalogSource) (source : JsonFields) :
    OrderedMap String CatalogSource :=
  match (stringValue (source.lookup "id")).orElse fun _ =>
      stringValue (source.lookup "providerId") with
  | none => catalog
  | some id =>
      catalog.set id
        { id := id
          label := ((stringValue (source.lookup "label")).orElse fun _ =>
            stringValue (source.lookup "name")).getD id
          suggestedModel := ((stringValue (source.lookup "suggestedModel")).orElse fun _ =>
            stringValue (source.lookup "model")).getD id
          roleStrength := (stringValue (source.lookup "roleStrength")).getD
            "Gateway-advertised provider"
          whenToUse := (stringValue (source.lookup "whenToUse")).getD connectedModelUse }

/-- A model that the answer names: its provider is added, or gets a suggested model. -/
def addModelSource (catalog : OrderedMap String CatalogSource) (source : JsonFields) :
    OrderedMap String CatalogSource :=
  match modelRecordProviderId source with
  | none => catalog
  | some providerId =>
      match catalog.get providerId with
      | some existing =>
          match modelRecordRef source with
          | some modelId =>
              if existing.suggestedModel = providerId then
                catalog.set providerId { existing with suggestedModel := modelId }
              else catalog
          | none => catalog
      | none =>
          catalog.set providerId
            { id := providerId
              label := (stringValue (source.lookup "providerLabel")).getD providerId
              suggestedModel := (modelRecordRef source).getD providerId
              roleStrength := "Gateway-advertised provider"
              whenToUse := connectedModelUse }

/-- A profile of the configuration, whose provider is added. -/
def addProfileSource (catalog : OrderedMap String CatalogSource) (entry : String × Json) :
    OrderedMap String CatalogSource :=
  match isRecord entry.2 with
  | none => catalog
  | some profile =>
      match providerIdFromProfile entry.1 profile with
      | none => catalog
      | some providerId =>
          if catalog.has providerId then catalog
          else
            catalog.set providerId
              { id := providerId
                label := providerId
                suggestedModel := (stringValue (profile.lookup "model")).getD providerId
                roleStrength := "Connected provider"
                whenToUse := connectedModelUse }

/-- The providers, by their ids; the profiles are those of the configuration. -/
def catalogSources (payload : Json) (profiles : JsonFields) : OrderedMap String CatalogSource :=
  let root := (recordValue (some payload)).getD []
  let providers := (arrayValue (root.lookup "providers") ++
    arrayValue (root.lookup "authProviders") ++ arrayValue (root.lookup "authChoices")).filterMap
      isRecord
  profiles.foldl addProfileSource
    ((modelsListRecords payload).foldl addModelSource (providers.foldl addProviderSource .empty))

/-- An entry of the catalog, with the models that are routable and those that are listed. -/
def CatalogSource.entry (source : CatalogSource) (payload : Json) (config : JsonFields)
    (discovery : Option PluginModelCatalogDiscovery) : ModelProviderCatalogEntry where
  id := source.id
  label := source.label
  suggestedModel := source.suggestedModel
  roleStrength := source.roleStrength
  whenToUse := source.whenToUse
  models := some (enabledModelsForProvider source.id config)
  catalogModels := some (catalogModelsForProvider payload discovery source.id)

def providerCatalogFromModels (payload : Json) (config : JsonFields)
    (discovery : Option PluginModelCatalogDiscovery) : List ModelProviderCatalogEntry :=
  (catalogSources payload (authProfiles config)).values.map (·.entry payload config discovery)

/-! ### What is left of the credentials -/

def durableCredentialStore : String := "config.auth.profiles"

/-- An order that names a profile. -/
def namesProfile : Json → Bool
  | .array items => !(stringItems items).isEmpty
  | .string text => jsTrim text.toList ≠ []
  | _ => false

/-- `models.authStatus` still has a credential of the provider; no status of it is
`not_connected`. -/
def authStatusSurvives (authStatus : Option (OrderedMap String ModelAuthStatusConnection))
    (providerId : String) : Bool :=
  ((authStatus.map (·.values)).getD []).any fun provider =>
    identitiesMatch provider.providerId providerId &&
      (provider.connectedAuthMode = some .oauth || provider.connectedAuthMode = some .token ||
        provider.authHealth ≠ .missing)

/-- `models.status` still counts a profile of the provider. -/
def modelStatusSurvives (modelStatus : Option Json) (providerId : String) : Bool :=
  (recordItems (fieldOf (modelStatusAuth modelStatus) "providers")).any fun provider =>
    providerIdentitiesMatch (stringValue (provider.lookup "provider")) providerId &&
      0 < modelStatusProfileCount (some provider)

/-- The configuration still has a removed profile, a credential of a provider or an order. -/
def durableCredentialSurvives (config : JsonFields) (providerIds profileIds : List String) :
    Bool :=
  profileIds.any (fun id => (recordValue ((authProfiles config).lookup id)).isSome) ||
    providerIds.any (fun id => !(configCredentialProfileIdsForProvider config id).isEmpty) ||
    providerIds.any fun id =>
      let entries := providerIdentityEntries (authOrder config) id
      (entries.1 ++ entries.2).any fun entry => namesProfile entry.2

/-- `providerStillHasCredentials`, the stores. -/
def providerStillHasCredentials (providerIds profileIds : List String) (config : JsonFields)
    (gateway : GatewayStatus) : List String :=
  (if providerIds.any (authStatusSurvives gateway.authStatus) then ["models.authStatus"] else []) ++
    (if providerIds.any (modelStatusSurvives gateway.modelStatus) then ["models.status"] else []) ++
      if durableCredentialSurvives config providerIds profileIds then [durableCredentialStore]
      else []

end Opzava.Provisioning
