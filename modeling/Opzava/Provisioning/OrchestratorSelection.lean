import Opzava.Provisioning.ProviderConnections

/-!
The model that the orchestrator is rebuilt with (`reconcileOrchestrator`,
`provisioning/connections-provisioning-service.ts`, and the read model it selects with).

* `connectedProviderIdForModel`: the connected provider that a model is of.
* `orchestratorSelection`: the choice of the operator, the primary model or a fallback.
* `reconcileOrchestrator`: the patch of a rebuild.
-/

namespace Opzava.Provisioning

open Opzava.Library
open DevBoard (DomainError)

/-! ### The provider of a model -/

/-- A connected provider with this model, or else the provider that the model names. -/
def orchestratorProviderIdFromConnections (primaryModel : Option String)
    (providerConnections : List ProviderConnection) : Option String :=
  primaryModel.bind fun model =>
    match providerConnections.find? fun entry => entry.status = "connected" ∧
        entry.model.map (fun other => jsTrim other.toList) = some (jsTrim model.toList) with
    | some connection => some connection.providerId
    | none => modelProviderId model

def connectedProviderIdForModel (model : Option String)
    (providerConnections : List ProviderConnection) : Option String :=
  (orchestratorProviderIdFromConnections model providerConnections).filter fun providerId =>
    providerConnections.any fun connection =>
      connection.providerId = providerId && connection.status = "connected"

/-- The `model` of the orchestrator's agent: what the operator has selected. -/
def askAdminModel (config : JsonFields) : Option String :=
  let askAdmin := (agentsList config).find? fun agent => agentIdOf agent = some askAdminAgentId
  modelSelectorPrimary (fieldOf askAdmin "model")

def preferredConnectedOrchestratorSelection (config : JsonFields)
    (providerConnections : List ProviderConnection) : Option (String × String) :=
  let selectionOf := fun model => (connectedProviderIdForModel model providerConnections).bind
    fun providerId => model.map (·, providerId)
  (selectionOf (askAdminModel config)).orElse fun _ => selectionOf (gatewayPrimaryModel config)

/-- The readers of the provider read model; the delay and the redaction are as given. -/
def readModelReads (reads : ProviderReads) : ProviderReads where
  providerCatalogFromModels payload config := providerCatalogFromModels payload config none
  providerConnectionFromConnectionSources provider config modelStatus authStatus _ :=
    providerConnectionFromConnectionSources provider config
      ⟨modelStatus, some (modelAuthStatusMap authStatus)⟩
  configuredModelForProvider := configuredModelForProvider
  preferredConnectedOrchestratorSelection := preferredConnectedOrchestratorSelection
  rateLimitRetryAfterMs := reads.rateLimitRetryAfterMs
  redactDeviceCodeLog := reads.redactDeviceCodeLog

/-! ### The selection of a rebuild -/

/-- What a rebuild reads; the set of the connected providers may be given by its caller. -/
structure ReconcileReadings where
  config : JsonFields
  catalog : List ModelProviderCatalogEntry
  providerConnections : List ProviderConnection
  connectedProviderIds : Option (List String)
  modelsPayload : Json
  discovery : Option PluginModelCatalogDiscovery

namespace ReconcileReadings

/-- `connectedProviders`. -/
def connectedProviders (readings : ReconcileReadings) : List String :=
  readings.connectedProviderIds.getD
    ((readings.providerConnections.filter (·.status = "connected")).map (·.providerId))

/-- A model and its provider, if the provider is connected and in the set. -/
def routed (readings : ReconcileReadings) (model : Option String) : Option (String × String) :=
  model.bind fun model =>
    ((connectedProviderIdForModel (some model) readings.providerConnections).filter
      (· ∈ readings.connectedProviders)).map (model, ·)

/-- The first connected provider in the set. -/
def fallbackProviderId (readings : ReconcileReadings) : Option String :=
  (readings.providerConnections.find? fun connection =>
    connection.status = "connected" ∧ connection.providerId ∈ readings.connectedProviders).map
      (·.providerId)

/-- A fallback is used with the model that it is configured with. -/
def fallback (readings : ReconcileReadings) : Option (String × String) :=
  readings.fallbackProviderId.bind fun providerId =>
    (orchestratorModelForProvider (some providerId) readings.catalog readings.config).map
      (·, providerId)

/-- `orchestratorModel` and `orchestratorProviderId`, when there are both. -/
def orchestratorSelection (readings : ReconcileReadings) : Option (String × String) :=
  (readings.routed (askAdminModel readings.config)).orElse fun _ =>
    (readings.routed (gatewayPrimaryModel readings.config)).orElse fun _ => readings.fallback

/-- What the rebuild writes with. -/
def rebuild (readings : ReconcileReadings) (selection : String × String) : OrchestratorRebuild where
  orchestratorModel := selection.1
  orchestratorProviderId := selection.2
  catalog := readings.catalog
  providerConnections := readings.providerConnections
  connectedProviderIds := readings.connectedProviders
  modelsPayload := readings.modelsPayload
  discovery := readings.discovery

end ReconcileReadings

/-- The patch of a rebuild; there is none when nothing can be selected or nothing is to change. -/
def reconcileOrchestrator (readings : ReconcileReadings) :
    Except DomainError (Option JsonFields) :=
  match readings.orchestratorSelection with
  | none => .ok none
  | some selection => reconcilePatch readings.config (readings.rebuild selection)

end Opzava.Provisioning
