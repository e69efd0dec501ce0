import Opzava.Provisioning.OrchestratorConfig

/-!
The models that the gateway knows of and those it routes to (`provisioning/provider-read-model.ts`),
and the patches that change them (`connections-provisioning-service.ts`).

* `configProviderEntry`, `pluginModelRecord`: what is known of a provider and of a model.
* `providerRegistryPatchForModel`: the patch that registers a model.
* `modelTogglePatch`, `reconcilePatch`: the patches of a toggle and of a rebuild.
-/

namespace Opzava.Provisioning

open Opzava.Library
open DevBoard (DomainError)

/-! ### Records of models -/

def modelsListRecords (payload : Json) : List JsonFields :=
  let root := (recordValue (some payload)).getD []
  (arrayValue (root.lookup "models") ++ arrayValue (some payload)).filterMap isRecord

/-- The `id` of a model, or else its `model`. -/
def modelRecordRef (model : JsonFields) : Option String :=
  (stringValue (model.lookup "id")).orElse fun _ => stringValue (model.lookup "model")

/-- `text.split("/", 1)[0]`. -/
def beforeSlash (text : String) : String := String.ofList (text.toList.takeWhile (· ≠ '/'))

/-- `text.slice(text.indexOf("/") + 1)`. -/
def afterSlash (text : String) : String :=
  if '/' ∈ text.toList then String.ofList ((text.toList.dropWhile (· ≠ '/')).drop 1) else text

def modelRecordProviderId (model : JsonFields) : Option String :=
  (stringValue (model.lookup "providerId")).orElse fun _ =>
    (stringValue (model.lookup "provider")).orElse fun _ =>
      (modelRecordRef model).bind fun id =>
        if '/' ∈ id.toList then some (beforeSlash id) else none

/-- A text without the provider and the slash before it, in any case. -/
def withoutProvider (providerId text : String) : String :=
  if jsStartsWith text.toLower (providerId.toLower ++ "/") then
    String.ofList (text.toList.drop (providerId.length + 1))
  else text

def modelRecordId (model : JsonFields) (providerId : String) : Option String :=
  (modelRecordRef model).map (withoutProvider providerId)

/-- A catalog that a plugin generates. -/
structure PluginModelProviderCatalog where
  baseUrl : Option String
  api : Option String
  models : List JsonFields

structure PluginModelCatalogDiscovery where
  catalogs : List (String × List (String × PluginModelProviderCatalog))
  plugins : List (String × Bool)

def enabledPluginCatalogProvider (discovery : Option PluginModelCatalogDiscovery)
    (providerId : String) : Option PluginModelProviderCatalog :=
  discovery.bind fun discovery =>
    let enabledPlugins := (discovery.plugins.filter (·.2)).map (·.1.toLower)
    discovery.catalogs.findSome? fun (pluginId, providers) =>
      if pluginId.toLower = providerId.toLower ∧ pluginId.toLower ∈ enabledPlugins then
        (providers.find? fun entry => entry.1.toLower = providerId.toLower).map (·.2)
      else none

/-- The definition of a model in the catalog of its plugin. -/
def pluginModelRecord (discovery : Option PluginModelCatalogDiscovery)
    (providerId modelId : String) : Option (PluginModelProviderCatalog × JsonFields) :=
  (enabledPluginCatalogProvider discovery providerId).bind fun provider =>
    (provider.models.find? fun entry =>
      (modelRecordId entry providerId).map (·.toLower) = some modelId.toLower).map (provider, ·)

/-- `catalogModelsForProvider`, the id under which it lists a model: the last one of the gateway's
list, or else the first one of the plugin's. -/
def catalogModelId (modelsPayload : Json) (discovery : Option PluginModelCatalogDiscovery)
    (providerId requestedModelId : String) : Option String :=
  let isRequested := fun id : String => id ≠ "" ∧ id.toLower = requestedModelId.toLower
  let listed := (modelsListRecords modelsPayload).filter fun model =>
    (modelRecordProviderId model).map (·.toLower) = some providerId.toLower
  let plugged := ((enabledPluginCatalogProvider discovery providerId).map (·.models)).getD []
  ((listed.filterMap (modelRecordId · providerId)).reverse.find? isRequested).orElse fun _ =>
    (plugged.filterMap (modelRecordId · providerId)).find? isRequested

/-! ### The registry of the configuration -/

/-- `models.providers`. -/
def modelProviders (config : JsonFields) : Option JsonFields :=
  recordValue (fieldOf (recordValue (config.lookup "models")) "providers")

/-- The first entry of the provider, in any case, when it is an object. -/
def configProviderEntry (config : JsonFields) (providerId : String) :
    Option (String × JsonFields) :=
  match ((modelProviders config).getD []).find? fun entry =>
      entry.1.toLower = providerId.toLower with
  | some (key, .object fields) => some (key, fields)
  | _ => none

def modelDefinitionUnavailable : DomainError :=
  ⟨"provisioning.connections.modelDefinitionUnavailable",
    "The model catalog did not provide the registry definition required to enable it."⟩

/-- A model of the list has this id, as a text or as the id of a record. -/
def isRegistered (providerId modelId : String) : Json → Bool
  | .string text => text.toLower = modelId.toLower
  | .object fields => (modelRecordId fields providerId).map (·.toLower) = some modelId.toLower
  | _ => false

/-- A field, when there is a value for it. -/
def optionalField (name : String) (value : Option String) : JsonFields :=
  match value with
  | some text => [(name, .string text)]
  | none => []

/-- The entry of a provider, with a model added to its list. -/
def registryEntry (existing : Option (String × JsonFields)) (provider : PluginModelProviderCatalog)
    (model : JsonFields) : JsonFields :=
  match existing with
  | some (_, fields) =>
      [("models", .array (arrayValue (fields.lookup "models") ++ [.object model]))]
  | none =>
      optionalField "baseUrl" provider.baseUrl ++ optionalField "api" provider.api ++
        [("models", .array [.object model])]

/-- `providerRegistryPatchForModel`: nothing, when the gateway or the configuration has the
model. -/
def providerRegistryPatchForModel (config : JsonFields) (modelsPayload : Json)
    (discovery : Option PluginModelCatalogDiscovery) (providerId modelId : String) :
    Except DomainError (Option (String × JsonFields)) :=
  if (modelsListRecords modelsPayload).any fun model =>
      (modelRecordProviderId model).map (·.toLower) = some providerId.toLower ∧
        (modelRecordId model providerId).map (·.toLower) = some modelId.toLower then .ok none
  else
    match pluginModelRecord discovery providerId modelId with
    | none => .error modelDefinitionUnavailable
    | some (provider, model) =>
        let existing := configProviderEntry config providerId
        let existingModels := arrayValue (existing.bind fun entry => entry.2.lookup "models")
        if existingModels.any (isRegistered providerId modelId) then .ok none
        else
          .ok (some ((existing.map (·.1)).getD providerId, registryEntry existing provider model))

/-- The part of a patch with a registry patch, if there is one. -/
def registryPart : Option (String × JsonFields) → JsonFields
  | some (key, entry) => [("models", .object [("providers", .object [(key, .object entry)])])]
  | none => []

/-! ### The toggle of a model -/

/-- What a toggle works with: its input, the answers about the catalog, and whether the provider is
connected. -/
structure ModelToggle where
  providerId : String
  modelId : String
  enabled : Bool
  modelsPayload : Json
  discovery : Option PluginModelCatalogDiscovery
  providerConnected : Bool

def agentModelSelectorKeys : List String :=
  ["model", "imageModel", "imageGenerationModel", "videoGenerationModel", "musicGenerationModel",
    "voiceModel", "pdfModel"]

def modelSelectorRefs : Option Json → List String
  | some (.string s) => (stringValue (some (.string s))).toList
  | some (.object fields) =>
      (stringValue (fields.lookup "primary")).toList ++
        (arrayValue (fields.lookup "fallbacks")).filterMap fun entry => stringValue (some entry)
  | _ => []

/-- The models that the selectors of an agent name. -/
def selectedRefs (agent : Option JsonFields) : List String :=
  agentModelSelectorKeys.flatMap fun key => modelSelectorRefs (fieldOf agent key)

def protectedModelRefs (config : JsonFields) : List String :=
  let profiles := (recordValue (fieldOf (recordValue (config.lookup "auth")) "profiles")).getD []
  (selectedRefs (agentDefaults config) ++
    ((agentsList config).flatMap fun agent => selectedRefs (some agent)) ++
    (profiles.filterMap fun entry => isRecord entry.2).flatMap fun profile =>
      modelSelectorRefs (profile.lookup "model")).map (·.toLower)

def providerNotConnected : DomainError :=
  ⟨"provisioning.connections.providerNotConnected",
    "Connect the provider before changing its enabled models."⟩

def modelNotInCatalog : DomainError :=
  ⟨"provisioning.connections.modelNotInCatalog",
    "The live gateway catalog does not advertise that model for this provider."⟩

def modelInUse : DomainError :=
  ⟨"provisioning.connections.modelInUse",
    "That model is a configured primary or fallback and cannot be disabled."⟩

def lastEnabledModel : DomainError :=
  ⟨"provisioning.connections.lastEnabledModel",
    "A connected provider must keep at least one model enabled."⟩

/-- `modelRefMatchesProvider`. -/
def modelRefMatchesProvider (modelRef providerId : String) : Bool :=
  let first := beforeSlash (String.ofList (jsTrim modelRef.toList))
  first ≠ "" ∧ first.toLower = providerId.toLower

/-- The keys of the provider's enabled models. -/
def enabledKeys (config : JsonFields) (providerId : String) : List String :=
  (enabledDefaultModelKeys config).filter fun key => modelRefMatchesProvider key providerId

/-- `existingEnabled`: the key of the model, when it is enabled. -/
def existingEnabled (config : JsonFields) (toggle : ModelToggle) : Option String :=
  (enabledKeys config toggle.providerId).find? fun key =>
    (afterSlash key).toLower = (withoutProvider toggle.providerId toggle.modelId).toLower

/-- `canonicalModelId`. -/
def canonicalModelId (toggle : ModelToggle) : String :=
  let requestedModelId := withoutProvider toggle.providerId toggle.modelId
  (catalogModelId toggle.modelsPayload toggle.discovery toggle.providerId requestedModelId).getD
    requestedModelId

/-- `targetRef`: the key that the toggle writes. -/
def targetRef (config : JsonFields) (toggle : ModelToggle) : String :=
  (existingEnabled config toggle).getD (toggle.providerId ++ "/" ++ canonicalModelId toggle)

/-- The registry patch of a toggle: a model that is disabled keeps its definition. -/
def toggleRegistryPatch (config : JsonFields) (toggle : ModelToggle) :
    Except DomainError (Option (String × JsonFields)) :=
  if toggle.enabled then
    providerRegistryPatchForModel config toggle.modelsPayload toggle.discovery toggle.providerId
      (canonicalModelId toggle)
  else .ok none

/-- The patch of `setModelProviderModelEnabledInner`; there is none when nothing is to change. -/
def modelTogglePatch (config : JsonFields) (toggle : ModelToggle) :
    Except DomainError (Option JsonFields) :=
  let requestedModelId := withoutProvider toggle.providerId toggle.modelId
  if !toggle.providerConnected then .error providerNotConnected
  else if toggle.enabled ∧ catalogModelId toggle.modelsPayload toggle.discovery toggle.providerId
      requestedModelId = none then .error modelNotInCatalog
  else if toggle.enabled = (existingEnabled config toggle).isSome then .ok none
  else if !toggle.enabled ∧ (targetRef config toggle).toLower ∈ protectedModelRefs config then
    .error modelInUse
  else if !toggle.enabled ∧ (enabledKeys config toggle.providerId).length ≤ 1 then
    .error lastEnabledModel
  else
    match toggleRegistryPatch config toggle with
    | .error error => .error error
    | .ok registry =>
        .ok (some ([("agents", .object [("defaults", .object [("models", .object
          [(targetRef config toggle, if toggle.enabled then .object [] else .null)])])])] ++
          registryPart registry))

/-! ### The rebuild of the orchestrator -/

/-- What a rebuild writes with: the model and the provider it has selected, and what it has read of
the catalog and of the connections. -/
structure OrchestratorRebuild where
  orchestratorModel : String
  orchestratorProviderId : String
  catalog : List ModelProviderCatalogEntry
  providerConnections : List ProviderConnection
  connectedProviderIds : List String
  modelsPayload : Json
  discovery : Option PluginModelCatalogDiscovery

namespace OrchestratorRebuild

def subagents (rebuild : OrchestratorRebuild) : List OrchestratorSubagentRole :=
  connectedProviderSubagents rebuild.catalog rebuild.providerConnections
    rebuild.connectedProviderIds rebuild.orchestratorProviderId

/-- `orchestratorCatalogModel`, its id. -/
def orchestratorCatalogModel (rebuild : OrchestratorRebuild) : Option String :=
  ((rebuild.catalog.find? fun provider =>
      provider.id = rebuild.orchestratorProviderId).bind (·.catalogModels)).bind fun models =>
    models.find? fun id =>
      (providerModelRef rebuild.orchestratorProviderId id).toLower =
        rebuild.orchestratorModel.toLower

end OrchestratorRebuild

def rebuildRegistryPatch (config : JsonFields) (rebuild : OrchestratorRebuild) :
    Except DomainError (Option (String × JsonFields)) :=
  match rebuild.orchestratorCatalogModel with
  | some modelId =>
      providerRegistryPatchForModel config rebuild.modelsPayload rebuild.discovery
        rebuild.orchestratorProviderId modelId
  | none => .ok none

/-- The patch of `reconcileOrchestrator` once it has selected a model; there is none when the
configuration is current. -/
def reconcilePatch (config : JsonFields) (rebuild : OrchestratorRebuild) :
    Except DomainError (Option JsonFields) :=
  let primaryModel := gatewayPrimaryModel config
  match buildOrchestratorAgentConfig rebuild.subagents rebuild.orchestratorModel with
  | .error error => .error error
  | .ok canonical =>
      match rebuildRegistryPatch config rebuild with
      | .error error => .error error
      | .ok registry =>
          if orchestratorConfigIsCurrent config rebuild.orchestratorModel primaryModel
              rebuild.subagents then .ok none
          else
            .ok (some ([("agents", .object
              [("defaults", .object
                  ((if some rebuild.orchestratorModel = primaryModel then []
                    else [("model", .object [("primary", .string rebuild.orchestratorModel)])]) ++
                  [("models", .object [(rebuild.orchestratorModel, .object [])])])),
                ("list", .array ((foreignAgents config ++ canonical).map .object))])] ++
              registryPart registry))

end Opzava.Provisioning
