import Opzava.Provisioning.AuthProfiles

/-!
The models that the configuration names for a provider (`provisioning/provider-read-model.ts`).

* `configuredModelRefs`: the references in the configuration.
* `configuredModelForProvider`: the model that a provider is used with.
* `orchestratorModelForProvider`: the model of the orchestrator, when the provider is selected.
* `catalogModelsForProvider`: the models that the gateway lists, and those of the plugin.
-/

namespace Opzava.Provisioning

open Opzava.Library

/-! ### References -/

def modelProviderId (modelRef : String) : Option String :=
  let providerId := beforeSlash (String.ofList (jsTrim modelRef.toList))
  if providerId = "" then none else some providerId

/-- What an agent, or the defaults, name: the selectors and the routable models. -/
def agentModelRefs (agent : JsonFields) : List String :=
  selectedRefs (some agent) ++ ((recordValue (agent.lookup "models")).getD []).map Prod.fst

/-- The models that profiles pin. -/
def profileModelRefs (config : JsonFields) : List String :=
  (authProfiles config).filterMap fun entry =>
    (isRecord entry.2).bind fun profile => modelSelectorPrimary (profile.lookup "model")

def configuredModelRefs (config : JsonFields) : List String :=
  ((agentDefaults config).toList.flatMap agentModelRefs ++
    (agentsList config).flatMap agentModelRefs ++ profileModelRefs config).eraseDups

/-- The ids of the models that are configured for a provider. -/
def configuredModelsForProvider (providerId : String) (config : JsonFields) : List String :=
  ((((configuredModelRefs config).filter (modelRefMatchesProvider · providerId)).map
    afterSlash).filter (· ≠ "")).eraseDups

/-- The ids of the models that are routable for a provider, one for each in any case. -/
def enabledModelsForProvider (providerId : String) (config : JsonFields) : List String :=
  (((enabledKeys config providerId).map afterSlash).filter (· ≠ "")).eraseDupsBy
    fun id id' => id.toLower = id'.toLower

/-! ### The model of a provider -/

/-- The id of a model in the list of a provider's entry. -/
def registeredModelOf : Json → Option String
  | .string text => stringValue (some (.string text))
  | .object fields =>
      (stringValue (fields.lookup "id")).orElse fun _ =>
        (stringValue (fields.lookup "model")).orElse fun _ => stringValue (fields.lookup "name")
  | _ => none

/-- The model that the entry of a provider in `models.providers` names. -/
def registeredModelId (providerId : String) (config : JsonFields) : Option String :=
  (recordValue (fieldOf (modelProviders config) providerId)).bind fun provider =>
    (modelSelectorPrimary (provider.lookup "model")).orElse fun _ =>
      (modelSelectorPrimary (provider.lookup "default")).orElse fun _ =>
        (stringValue (provider.lookup "primary")).orElse fun _ =>
          (stringValue (provider.lookup "defaultModel")).orElse fun _ =>
            (stringValue (provider.lookup "defaultModelId")).orElse fun _ =>
              (stringValue (provider.lookup "modelId")).orElse fun _ =>
                (arrayValue (provider.lookup "models")).findSome? registeredModelOf

def firstConfiguredProviderModel (providerId : String) (config : JsonFields) : Option String :=
  (registeredModelId providerId config).map (providerModelRef providerId)

/-- The primary model of the gateway, when it is of the provider. -/
def primaryModelOf (providerId : String) (config : JsonFields) : Option String :=
  (gatewayPrimaryModel config).filter (modelRefMatchesProvider · providerId)

def configuredModelForProvider (providerId : String) (config : JsonFields)
    (models : Option (List String)) : Option String :=
  match (configuredModelsForProvider providerId config).head? with
  | some id => some (providerModelRef providerId id)
  | none =>
      (primaryModelOf providerId config).orElse fun _ =>
        (firstConfiguredProviderModel providerId config).orElse fun _ => models.bind List.head?

def orchestratorModelForProvider (providerId : Option String)
    (catalog : List ModelProviderCatalogEntry) (config : JsonFields) : Option String :=
  providerId.bind fun id =>
    let provider := catalog.find? fun entry => entry.id = id
    match configuredModelForProvider id config (provider.bind (·.models)) with
    | some model => some (providerModelRef id model)
    | none => provider.map fun entry => providerModelRef id entry.suggestedModel

/-! ### The catalog of a provider -/

/-- The models that the gateway lists for a provider, by their ids; a later one replaces an earlier
one with the same id in another case. -/
def listedModels (modelsPayload : Json) (providerId : String) : OrderedMap String String :=
  (((modelsListRecords modelsPayload).filter fun model =>
    (modelRecordProviderId model).map (·.toLower) = some providerId.toLower).filterMap
      (modelRecordId · providerId)).foldl
    (fun seen id => if id = "" then seen else seen.set id.toLower id) .empty

/-- The models in the catalog of a provider, by their ids in lower case: those of its plugin are
added, unless they are listed. -/
def catalogModels (modelsPayload : Json) (discovery : Option PluginModelCatalogDiscovery)
    (providerId : String) : OrderedMap String String :=
  ((((enabledPluginCatalogProvider discovery providerId).map (·.models)).getD []).filterMap
      (modelRecordId · providerId)).foldl
    (fun seen id => if id = "" ∨ seen.has id.toLower then seen else seen.set id.toLower id)
    (listedModels modelsPayload providerId)

def catalogModelsForProvider (modelsPayload : Json) (discovery : Option PluginModelCatalogDiscovery)
    (providerId : String) : List String := (catalogModels modelsPayload discovery providerId).values

end Opzava.Provisioning
