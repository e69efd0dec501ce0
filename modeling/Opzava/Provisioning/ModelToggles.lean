import Opzava.Library.HashedStore
import Opzava.Provisioning.DerivedRefs
import Opzava.Provisioning.ForeignConfig
import Opzava.Provisioning.ProviderWrites

/-!
The toggles of models and the other writers of the gateway's configuration
(`setModelProviderModelEnabledInner`, `provisioning/connections-provisioning-service.ts`).

A toggle reads the configuration and the catalog, and its patch is applied if the configuration
still has the hash that was read. A patch that was refused for its hash is built again.

* `toggles`: the calls, the gateway and the other writers, event by event.
* `TogglePlan`: what a patch of a toggle does to the configuration.
* `toggles_keep_routing`: every step of a toggle is planned, and a call makes one step at most.
-/

namespace Opzava.Provisioning

open Opzava.Library
open DevBoard (DomainError)

/-! ### The machine -/

structure SetModelProviderModelEnabledInput where
  providerId : String
  modelId : String
  enabled : Bool

/-- The answers of an attempt beside the configuration. -/
structure ToggleAnswers where
  models : Json
  discovery : Option PluginModelCatalogDiscovery
  modelStatus : Option Json

/-- `providerConnected`. -/
def toggleProviderConnected (config : JsonFields) (providerId : String)
    (modelStatus : Option Json) : Bool :=
  let usability := modelStatusAuthEvidence modelStatus providerId config
  usability = .usable ||
    usability = .unknown && (firstProfileIdForProvider providerId config).isSome

/-- What an attempt works with. -/
def SetModelProviderModelEnabledInput.toggle (input : SetModelProviderModelEnabledInput)
    (config : JsonFields) (answers : ToggleAnswers) : ModelToggle where
  providerId := input.providerId
  modelId := input.modelId
  enabled := input.enabled
  modelsPayload := answers.models
  discovery := answers.discovery
  providerConnected := toggleProviderConnected config input.providerId answers.modelStatus

inductive FrameStatus
  | inFlight
  | applied
  | refused
  deriving DecidableEq

/-- A `config.patch` that was sent, with the hash of the configuration it was built from and the
answers of its attempt. -/
structure ToggleFrame where
  base : ℕ
  answers : ToggleAnswers
  patch : JsonFields
  status : FrameStatus

/-- Where a call is: it waits for its answers, once the configuration has been read or before that,
or for that of its patch, or there is nothing more to write. -/
inductive TogglePhase
  | reading (base : Option ℕ)
  | patching
  | settled
  deriving DecidableEq

structure ToggleCall where
  input : SetModelProviderModelEnabledInput
  attempt : ℕ
  phase : TogglePhase
  frame : Option ToggleFrame
  /-- How many of its patches were applied. -/
  steps : ℕ
  /-- It has found the requested state. -/
  found : Bool

structure ToggleSystem where
  gateway : HashedStore JsonFields
  calls : Objects ToggleCall

/-- The answer to a patch: it is confirmed, or refused for its hash, or anything else, with which
the call does not send it again (a lost answer, another error). -/
inductive PatchReply
  | ok
  | stale
  | other
  deriving DecidableEq

inductive ToggleEvent
  | call (input : SetModelProviderModelEnabledInput) (busy : Bool)
  | readConfig (c : ℕ)
  | readAnswers (c : ℕ) (answers : ToggleAnswers)
  | readFailed (c : ℕ)
  | take (c : ℕ)
  | reply (c : ℕ) (reply : PatchReply)
  | write (config : JsonFields)
  | restore (version : ℕ)

namespace ToggleCall

/-- The call after it has decided what to write. -/
def decide (call : ToggleCall) (base : ℕ) (config : JsonFields) (answers : ToggleAnswers) :
    ToggleCall :=
  match modelTogglePatch config (call.input.toggle config answers) with
  | .error _ => { call with phase := .settled }
  | .ok none => { call with phase := .settled, found := true }
  | .ok (some patch) =>
      { call with phase := .patching, frame := some ⟨base, answers, patch, .inFlight⟩ }

/-- The call after an answer to its patch; one that is refused for its hash is tried again. -/
def onReply (call : ToggleCall) (reply : PatchReply) : ToggleCall :=
  match call.phase, reply, call.frame.map ToggleFrame.status with
  | .patching, .ok, some .applied => { call with phase := .settled }
  | .patching, .stale, some .refused =>
      if call.attempt < modelToggleMaxMutationAttempts then
        { call with phase := .reading none, attempt := call.attempt + 1, frame := none }
      else { call with phase := .settled }
  | .patching, .other, _ => { call with phase := .settled }
  | _, _, _ => call

end ToggleCall

namespace ToggleSystem

def start (config : JsonFields) : ToggleSystem := ⟨.start config, .empty⟩

def config (s : ToggleSystem) : JsonFields := s.gateway.current

def modifyCall (s : ToggleSystem) (c : ℕ) (f : ToggleCall → ToggleCall) : ToggleSystem :=
  { s with calls := s.calls.modify c f }

/-- The frame of a call that is on its way. -/
def frameInFlight (s : ToggleSystem) (c : ℕ) : Option ToggleFrame :=
  ((s.calls.get c).bind (·.frame)).filter (·.status = .inFlight)

/-- The input of a call that has read the configuration, and what it has read. -/
def configRead (s : ToggleSystem) (c : ℕ) :
    Option (SetModelProviderModelEnabledInput × JsonFields) :=
  (s.calls.get c).bind fun call =>
    match call.phase with
    | .reading (some base) => (s.gateway.valueOf base).map (call.input, ·)
    | _ => none

/-- The gateway takes the patch of a call. -/
def takeFrame (s : ToggleSystem) (c : ℕ) : ToggleSystem :=
  match s.frameInFlight c with
  | none => s
  | some frame =>
      match s.gateway.swap frame.base (mergeFields · frame.patch) with
      | some gateway =>
          { gateway := gateway
            calls := s.calls.modify c fun call =>
              { call with frame := some { frame with status := .applied }
                          steps := call.steps + 1 } }
      | none =>
          s.modifyCall c fun call =>
            { call with frame := some { frame with status := .refused } }

/-- No name is twice in the models, as in every object. -/
def NamesModelsOnce (config : JsonFields) : Prop :=
  ((gatewayDefaultModels config).map Prod.fst).Nodup

instance (config : JsonFields) : Decidable (NamesModelsOnce config) :=
  inferInstanceAs (Decidable (List.Nodup _))

def step (s : ToggleSystem) : ToggleEvent → ToggleSystem
  | .call input busy =>
      if busy then s
      else { s with calls := s.calls.add ⟨input, 1, .reading none, none, 0, false⟩ }
  | .readConfig c =>
      s.modifyCall c fun call =>
        if call.phase = .reading none then { call with phase := .reading (some s.gateway.live) }
        else call
  | .readAnswers c answers =>
      s.modifyCall c fun call =>
        match call.phase with
        | .reading (some base) =>
            match s.gateway.valueOf base with
            | some config => call.decide base config answers
            | none => call
        | _ => call
  | .readFailed c =>
      s.modifyCall c fun call =>
        match call.phase with
        | .reading _ => { call with phase := .settled }
        | _ => call
  | .take c => s.takeFrame c
  | .reply c reply => s.modifyCall c (·.onReply reply)
  | .write config =>
      if NamesModelsOnce config then { s with gateway := s.gateway.write config } else s
  | .restore version => { s with gateway := s.gateway.restore version }

end ToggleSystem

def toggles : EventMachine ToggleSystem ToggleEvent := ⟨ToggleSystem.step⟩

/-! ### What a patch is to do -/

/-- A selector names a model, in any case and up to blanks around it. -/
def NamesModel (selector : Option Json) (key : String) : Prop :=
  ∃ ref ∈ modelSelectorRefs selector, ref.toLower = (electedId key).toLower

/-- The key is the primary model or a fallback of a selector of the defaults, of an agent or of a
profile. -/
def InUse (config : JsonFields) (key : String) : Prop :=
  (∃ name ∈ agentModelSelectorKeys, NamesModel (fieldOf (agentDefaults config) name) key) ∨
    (∃ agent ∈ agentsList config, ∃ name ∈ agentModelSelectorKeys,
      NamesModel (agent.lookup name) key) ∨
    ∃ entry ∈ authProfiles config, NamesModel (fieldOf (isRecord entry.2) "model") key

instance (selector : Option Json) (key : String) : Decidable (NamesModel selector key) :=
  inferInstanceAs (Decidable (∃ ref ∈ modelSelectorRefs selector, _))

instance (config : JsonFields) (key : String) : Decidable (InUse config key) :=
  inferInstanceAs (Decidable (_ ∨ _ ∨ _))

/-- The key is of the requested provider and model, in any case. -/
def IsRequested (toggle : ModelToggle) (key : String) : Prop :=
  modelRefMatchesProvider key toggle.providerId = true ∧
    (afterSlash key).toLower = (withoutProvider toggle.providerId toggle.modelId).toLower

instance (toggle : ModelToggle) (key : String) : Decidable (IsRequested toggle key) :=
  inferInstanceAs (Decidable (_ ∧ _))

/-- A disable removes one key, which is not in use and not the last one of its provider. -/
structure Disables (toggle : ModelToggle) (config config' : JsonFields) (key : String) : Prop where
  requested : IsRequested toggle key
  present : key ∈ enabledDefaultModelKeys config
  removed : ∀ other, other ∈ enabledDefaultModelKeys config' ↔
    other ∈ enabledDefaultModelKeys config ∧ other ≠ key
  unused : ¬ InUse config key
  left : ∃ other ∈ enabledDefaultModelKeys config',
    modelRefMatchesProvider other toggle.providerId = true

/-- An enable adds one key, for a model that the catalog lists. -/
structure Enables (toggle : ModelToggle) (config config' : JsonFields) (key : String) : Prop where
  absent : key ∉ enabledDefaultModelKeys config
  added : ∀ other, other ∈ enabledDefaultModelKeys config' ↔
    other ∈ enabledDefaultModelKeys config ∨ other = key
  listed : ∃ id ∈ catalogModelsForProvider toggle.modelsPayload toggle.discovery toggle.providerId,
    id.toLower = (withoutProvider toggle.providerId toggle.modelId).toLower ∧
      key = toggle.providerId ++ "/" ++ id

/-- What a step of a toggle does to the configuration. -/
def TogglePlan (toggle : ModelToggle) (config config' : JsonFields) : Prop :=
  if toggle.enabled then ∃ key, Enables toggle config config' key
  else ∃ key, Disables toggle config config' key

/-- A toggle for which the names are read as they are written: the provider of a key that is enabled
already can be read from it, and a requested key that is in use has no blanks around it. -/
def PlainNames (config : JsonFields) (toggle : ModelToggle) : Prop :=
  (toggle.enabled = true → canonicalRef toggle ∈ enabledDefaultModelKeys config →
    '/' ∉ toggle.providerId.toList ∧ StartsRefs toggle.providerId) ∧
  (toggle.enabled = false → ∀ key ∈ enabledDefaultModelKeys config, IsRequested toggle key →
    InUse config key → jsTrim key.toList = key.toList)

instance (config : JsonFields) (toggle : ModelToggle) : Decidable (PlainNames config toggle) :=
  inferInstanceAs (Decidable (_ ∧ _))

section Plans

variable {config patch : JsonFields} {toggle : ModelToggle} {key : String}

lemma inUse_iff : InUse config key ↔ (electedId key).toLower ∈ protectedModelRefs config := by
  have hnames : ∀ agent : Option JsonFields,
      (∃ name ∈ agentModelSelectorKeys, NamesModel (fieldOf agent name) key) ↔
        (electedId key).toLower ∈ (selectedRefs agent).map (·.toLower) := by
    intro agent
    rw [List.mem_map, selectedRefs]
    simp only [List.mem_flatMap, NamesModel]
    constructor
    · rintro ⟨name, hname, ref, href, hlower⟩
      exact ⟨ref, ⟨name, hname, href⟩, hlower⟩
    · rintro ⟨ref, ⟨name, hname, href⟩, hlower⟩
      exact ⟨name, hname, ref, href, hlower⟩
  have hprofiles : (recordValue (fieldOf (recordValue (config.lookup "auth")) "profiles")).getD [] =
      authProfiles config := by
    rw [authProfiles, authConfig, fieldOf_recordValue, @getD_recordValue (config.lookup "auth")]
  rw [protectedModelRefs, hprofiles, List.map_append, List.map_append, List.mem_append,
    List.mem_append, ← hnames, or_assoc, InUse]
  refine or_congr Iff.rfl (or_congr ?_ ?_)
  · rw [List.map_flatMap, List.mem_flatMap]
    refine exists_congr fun agent => and_congr_right fun _ => ?_
    exact hnames (some agent)
  · rw [List.map_flatMap, List.mem_flatMap]
    constructor
    · rintro ⟨entry, hentry, ref, href, hlower⟩
      cases hrecord : isRecord entry.2 with
      | none => rw [hrecord] at href; cases href
      | some profile =>
          rw [hrecord] at href
          exact ⟨profile, List.mem_filterMap.mpr ⟨entry, hentry, hrecord⟩,
            List.mem_map.mpr ⟨ref, href, hlower⟩⟩
    · rintro ⟨profile, hprofile, hmem⟩
      obtain ⟨entry, hentry, hrecord⟩ := List.mem_filterMap.mp hprofile
      obtain ⟨ref, href, hlower⟩ := List.mem_map.mp hmem
      refine ⟨entry, hentry, ref, ?_, hlower⟩
      rw [hrecord]
      exact href

/-- What a patch of a toggle was built with. -/
lemma modelTogglePatch_guards (h : modelTogglePatch config toggle = .ok (some patch)) :
    (toggle.enabled = true → existingEnabled config toggle = none ∧
      ∃ id, catalogModelId toggle.modelsPayload toggle.discovery toggle.providerId
        (withoutProvider toggle.providerId toggle.modelId) = some id) ∧
    (toggle.enabled = false → ∃ key, existingEnabled config toggle = some key ∧
      key.toLower ∉ protectedModelRefs config ∧
      1 < (enabledKeys config toggle.providerId).length) := by
  rw [modelTogglePatch] at h
  split at h
  · cases h
  · split at h
    · cases h
    · next hcatalog =>
        split at h
        · cases h
        · next hstate =>
            split at h
            · cases h
            · next hprotected =>
                split at h
                · cases h
                · next hlast =>
                    refine ⟨fun henabled => ⟨?_, ?_⟩, fun hdisabled => ?_⟩
                    · rw [henabled] at hstate
                      cases hexisting : existingEnabled config toggle with
                      | none => rfl
                      | some key => rw [hexisting] at hstate; exact absurd rfl hstate
                    · exact Option.ne_none_iff_exists'.mp fun hnone => hcatalog ⟨henabled, hnone⟩
                    · rw [hdisabled] at hstate hprotected hlast
                      cases hexisting : existingEnabled config toggle with
                      | none => rw [hexisting] at hstate; exact absurd rfl hstate
                      | some key =>
                          rw [targetRef, hexisting, Option.getD_some] at hprotected
                          refine ⟨key, rfl, fun hmem => hprotected ⟨rfl, hmem⟩, ?_⟩
                          exact not_le.mp fun hle => hlast ⟨rfl, hle⟩

/-- The models after a toggle. -/
lemma gatewayDefaultModels_toggled (h : modelTogglePatch config toggle = .ok (some patch)) :
    gatewayDefaultModels (mergeFields config patch) =
      mergeFields (gatewayDefaultModels config)
        [(targetRef config toggle, if toggle.enabled then .object [] else .null)] := by
  obtain ⟨registry, -, rfl⟩ := modelTogglePatch_some h
  have heffect : PatchEffect config (mergeFields config _) none none
      [(targetRef config toggle, if toggle.enabled then .object [] else .null)]
      (registryFields registry) :=
    patchEffect_agents [("defaults", .object [("models", .object
      [(targetRef config toggle, if toggle.enabled then .object [] else .null)])])] registry
      .of_object .of_object rfl
  exact heffect.models

lemma afterSlash_append {providerId id : String} (hslash : '/' ∉ providerId.toList) :
    afterSlash (providerId ++ "/" ++ id) = id := by
  have hlist : (providerId ++ "/" ++ id).toList = providerId.toList ++ '/' :: id.toList := by
    simp
  rw [afterSlash, hlist, if_pos (by simp), dropWhile_separator hslash]
  exact String.ofList_toList

/-- A patch that enables a model adds its key. -/
lemma enables_of_patch (henabled : toggle.enabled = true) (hplain : PlainNames config toggle)
    (h : modelTogglePatch config toggle = .ok (some patch)) :
    Enables toggle config (mergeFields config patch) (canonicalRef toggle) := by
  obtain ⟨hexisting, id, hid⟩ := (modelTogglePatch_guards h).1 henabled
  obtain ⟨hmem, hlower⟩ := mem_of_catalogModelId_eq_some hid
  have hcanonical : canonicalModelId toggle = id := by rw [canonicalModelId, hid]; rfl
  have hmodels := gatewayDefaultModels_toggled h
  rw [targetRef_of_not_enabled hexisting, henabled, if_pos rfl] at hmodels
  refine ⟨fun hpresent => ?_, fun other => ?_, id, hmem, hlower, by rw [canonicalRef, hcanonical]⟩
  · obtain ⟨hslash, hstarts⟩ := hplain.1 henabled hpresent
    have hfound := List.find?_eq_none.mp hexisting (canonicalRef toggle)
      (List.mem_filter.mpr ⟨hpresent, (modelRefMatchesProvider_append hslash _).mpr hstarts⟩)
    refine hfound (decide_eq_true ?_)
    rw [canonicalRef, afterSlash_append hslash, hcanonical, hlower]
  · rw [enabledDefaultModelKeys, hmodels, mergeFields, mergeFields,
      JsonFields.mem_names_writeField, or_comm]
    · rfl
    · intro hnull
      cases hnull

lemma exists_mem_ne {keys : List String} (hnodup : keys.Nodup) (h : 1 < keys.length)
    (key : String) : ∃ other ∈ keys, other ≠ key := by
  match keys, h with
  | first :: second :: rest, _ =>
      have hne : first ≠ second := fun heq =>
        (List.nodup_cons.mp hnodup).1 (heq ▸ List.mem_cons_self)
      by_cases hkey : first = key
      · exact ⟨second, by simp, fun hsecond => hne (hkey.trans hsecond.symm)⟩
      · exact ⟨first, List.mem_cons_self, hkey⟩

/-- A patch that disables a model removes its key. -/
lemma disables_of_patch (hdisabled : toggle.enabled = false)
    (hnames : ToggleSystem.NamesModelsOnce config) (hplain : PlainNames config toggle)
    (h : modelTogglePatch config toggle = .ok (some patch)) :
    ∃ key, Disables toggle config (mergeFields config patch) key := by
  obtain ⟨key, hexisting, hunprotected, hlength⟩ := (modelTogglePatch_guards h).2 hdisabled
  have hmem := List.mem_of_find?_eq_some hexisting
  obtain ⟨hpresent, hprovider⟩ := List.mem_filter.mp hmem
  have hfound := List.find?_some hexisting
  have hrequested : IsRequested toggle key := ⟨hprovider, of_decide_eq_true hfound⟩
  have hmodels := gatewayDefaultModels_toggled h
  rw [targetRef, hexisting, hdisabled, if_neg Bool.false_ne_true, Option.getD_some, mergeFields,
    mergeFields] at hmodels
  have hremoved : ∀ other, other ∈ enabledDefaultModelKeys (mergeFields config patch) ↔
      other ∈ enabledDefaultModelKeys config ∧ other ≠ key := by
    intro other
    rw [enabledDefaultModelKeys, hmodels, enabledDefaultModelKeys]
    simp only [List.mem_map, List.mem_filter, decide_eq_true_eq]
    constructor
    · rintro ⟨field, ⟨hfield, hne⟩, rfl⟩
      exact ⟨⟨field, hfield, rfl⟩, hne⟩
    · rintro ⟨⟨field, hfield, rfl⟩, hne⟩
      exact ⟨field, ⟨hfield, hne⟩, rfl⟩
  refine ⟨key, hrequested, hpresent, hremoved, fun huse => hunprotected ?_, ?_⟩
  · have htrimmed := hplain.2 hdisabled key hpresent hrequested huse
    rw [inUse_iff, electedId, htrimmed, String.ofList_toList] at huse
    exact huse
  · -- There is another key of the provider, as no name is there twice.
    have hnodup : (enabledKeys config toggle.providerId).Nodup := List.Nodup.filter _ hnames
    obtain ⟨other, hother, hne⟩ := exists_mem_ne hnodup hlength key
    obtain ⟨hin, hmatches⟩ := List.mem_filter.mp hother
    exact ⟨other, (hremoved other).mpr ⟨hin, hne⟩, hmatches⟩

/-- **A patch of a toggle** does what is planned. -/
lemma togglePlan_of_patch (hnames : ToggleSystem.NamesModelsOnce config)
    (hplain : PlainNames config toggle)
    (h : modelTogglePatch config toggle = .ok (some patch)) :
    TogglePlan toggle config (mergeFields config patch) := by
  rw [TogglePlan]
  cases henabled : toggle.enabled with
  | true => exact ⟨_, enables_of_patch henabled hplain h⟩
  | false => exact disables_of_patch henabled hnames hplain h

end Plans

/-! ### The runs -/

section Runs

open ToggleSystem

/-- A toggle is decided with names that are read as they are written. -/
def ReadsPlainNames (s : ToggleSystem) : ToggleEvent → Prop
  | .readAnswers c answers => ∀ read ∈ s.configRead c,
      PlainNames read.2 (read.1.toggle read.2 answers)
  | _ => True

instance : ∀ s event, Decidable (ReadsPlainNames s event)
  | s, .readAnswers c _ => inferInstanceAs (Decidable (∀ read ∈ s.configRead c, _))
  | _, .call .. | _, .readConfig _ | _, .readFailed _ | _, .take _ | _, .reply .. | _, .write _
  | _, .restore _ => isTrue trivial

/-- What an event may do to the configuration: another writer anything, the patch of a call what is
planned for the toggle, with the answers of the attempt it was built in, and all others nothing. -/
def StepOk (s : ToggleSystem) (event : ToggleEvent) : Prop :=
  match event with
  | .write _ | .restore _ => True
  | .take c => (s.step event).gateway = s.gateway ∨ ∃ call frame, s.calls.get c = some call ∧
      call.frame = some frame ∧
      TogglePlan (call.input.toggle s.config frame.answers) s.config (s.step event).config
  | _ => (s.step event).gateway = s.gateway

/-- A call makes one step at most, and none if it has found the requested state. -/
def CallsOnce (s : ToggleSystem) : Prop :=
  ∀ c call, s.calls.get c = some call →
    call.steps ≤ 1 ∧ (call.found = true → call.steps = 0)

/-- A frame that was built from a configuration the gateway has had. -/
structure FrameOk (gateway : HashedStore JsonFields) (input : SetModelProviderModelEnabledInput)
    (frame : ToggleFrame) : Prop where
  built : ∃ config, gateway.valueOf frame.base = some config ∧
    modelTogglePatch config (input.toggle config frame.answers) = .ok (some frame.patch) ∧
    PlainNames config (input.toggle config frame.answers)

/-- What is kept of a call: its frame is its last one, and its steps are those of that frame. -/
structure ToggleCallOk (gateway : HashedStore JsonFields) (call : ToggleCall) : Prop where
  frame : ∀ frame, call.frame = some frame → FrameOk gateway call.input frame
  steps : call.steps = if call.frame.map ToggleFrame.status = some .applied then 1 else 0
  reading : ∀ base, call.phase = .reading base → call.frame = none ∧ call.found = false
  found : call.found = true → call.frame = none

structure TogglesOk (s : ToggleSystem) : Prop where
  names : ∀ config ∈ s.gateway.versions, NamesModelsOnce config
  calls : ∀ c call, s.calls.get c = some call → ToggleCallOk s.gateway call

variable {s : ToggleSystem} {gateway gateway' : HashedStore JsonFields} {call : ToggleCall} {c : ℕ}

/-- The gateway has had what it had before. -/
def Extends (gateway gateway' : HashedStore JsonFields) : Prop :=
  ∀ base config, gateway.valueOf base = some config → gateway'.valueOf base = some config

lemma extends_write (config : JsonFields) : Extends gateway (gateway.write config) :=
  fun _ _ => HashedStore.valueOf_write_of_some

lemma extends_restore (version : ℕ) : Extends gateway (gateway.restore version) :=
  fun _ _ h => (HashedStore.valueOf_restore version).trans h

lemma ToggleCallOk.mono (h : ToggleCallOk gateway call) (hextends : Extends gateway gateway') :
    ToggleCallOk gateway' call := by
  refine ⟨fun frame hframe => ?_, h.steps, h.reading, h.found⟩
  obtain ⟨config, hvalue, hpatch, hplain⟩ := (h.frame frame hframe).built
  exact ⟨config, hextends _ _ hvalue, hpatch, hplain⟩

/-- The call that is decided. -/
lemma ToggleCallOk.decide {base : ℕ} {config : JsonFields} {answers : ToggleAnswers}
    (h : ToggleCallOk gateway call) (hphase : call.phase = .reading (some base))
    (hvalue : gateway.valueOf base = some config)
    (hplain : PlainNames config (call.input.toggle config answers)) :
    ToggleCallOk gateway (call.decide base config answers) := by
  obtain ⟨hframe, hfound⟩ := h.reading _ hphase
  have hsteps := h.steps
  rw [hframe] at hsteps
  unfold ToggleCall.decide
  split
  · exact ⟨h.frame, h.steps, nofun, h.found⟩
  · exact ⟨h.frame, h.steps, nofun, fun _ => hframe⟩
  · next patch hpatch =>
      refine ⟨fun frame hsome => ?_, hsteps, nofun, fun hyes => ?_⟩
      · cases hsome
        exact ⟨config, hvalue, hpatch, hplain⟩
      · rw [hfound] at hyes
        cases hyes

lemma ToggleCallOk.onReply (h : ToggleCallOk gateway call) (reply : PatchReply) :
    ToggleCallOk gateway (call.onReply reply) := by
  unfold ToggleCall.onReply
  split
  · exact ⟨h.frame, h.steps, nofun, h.found⟩
  · next hphase hrefused =>
      split
      · have hsteps := h.steps
        rw [hrefused, if_neg (by decide)] at hsteps
        refine ⟨nofun, hsteps, fun _ _ => ⟨rfl, ?_⟩, fun _ => rfl⟩
        cases hfound : call.found with
        | false => rfl
        | true =>
            rw [h.found hfound] at hrefused
            cases hrefused
      · exact ⟨h.frame, h.steps, nofun, h.found⟩
  · exact ⟨h.frame, h.steps, nofun, h.found⟩
  · exact h

/-- A change of one call. -/
lemma TogglesOk.modifyCall {f : ToggleCall → ToggleCall} (h : TogglesOk s)
    (hcall : ∀ call, s.calls.get c = some call → ToggleCallOk s.gateway (f call)) :
    TogglesOk (s.modifyCall c f) := by
  refine ⟨h.names, fun c' call' hget => ?_⟩
  obtain ⟨call, hold, rfl⟩ := Objects.get_modify_eq_some hget
  split
  · next heq => exact hcall call (heq ▸ hold)
  · exact h.calls c' call hold

lemma frameInFlight_eq_some {frame : ToggleFrame} (h : s.frameInFlight c = some frame) :
    ∃ call, s.calls.get c = some call ∧ call.frame = some frame ∧ frame.status = .inFlight := by
  obtain ⟨hframe, hstatus⟩ := Option.filter_eq_some_iff.mp h
  obtain ⟨call, hcall, hframe⟩ := Option.bind_eq_some_iff.mp hframe
  exact ⟨call, hcall, hframe, of_decide_eq_true hstatus⟩

lemma ToggleCallOk.steps_of_inFlight {frame : ToggleFrame} (h : ToggleCallOk gateway call)
    (hframe : call.frame = some frame) (hstatus : frame.status = .inFlight) : call.steps = 0 := by
  have hsteps := h.steps
  rw [hframe, Option.map_some, hstatus, if_neg (by decide)] at hsteps
  exact hsteps

/-- A frame that has been answered by the gateway. -/
lemma ToggleCallOk.taken {frame : ToggleFrame} {status : FrameStatus} {steps : ℕ}
    (h : ToggleCallOk gateway call) (hframe : call.frame = some frame)
    (hsteps : steps = if status = .applied then 1 else 0) :
    ToggleCallOk gateway
      { call with frame := some { frame with status := status }, steps := steps } := by
  refine ⟨fun frame' hsome => ?_, ?_, fun base hphase => ?_, fun hfound => ?_⟩
  · cases hsome
    exact ⟨(h.frame frame hframe).built⟩
  · rw [hsteps]
    cases status <;> rfl
  · have hnone := (h.reading base hphase).1
    rw [hframe] at hnone
    cases hnone
  · have hnone := h.found hfound
    rw [hframe] at hnone
    cases hnone

/-- What the gateway does with the patch of a call. -/
lemma takeFrame_facts (h : TogglesOk s) : TogglesOk (s.takeFrame c) ∧
    ((s.takeFrame c).gateway = s.gateway ∨ ∃ call frame, s.calls.get c = some call ∧
      call.frame = some frame ∧
      TogglePlan (call.input.toggle s.config frame.answers) s.config (s.takeFrame c).config) := by
  unfold takeFrame
  split
  · exact ⟨h, .inl rfl⟩
  · next frame hinFlight =>
      obtain ⟨call, hcall, hframe, hstatus⟩ := frameInFlight_eq_some hinFlight
      have hok := h.calls c call hcall
      have hzero := hok.steps_of_inFlight hframe hstatus
      split
      · next gateway hswap =>
          obtain ⟨hlive, rfl⟩ := HashedStore.swap_eq_some hswap
          obtain ⟨config, hvalue, hpatch, hplain⟩ := (hok.frame frame hframe).built
          obtain rfl : s.gateway.current = config := HashedStore.current_of_base hvalue hlive
          have hnames := h.names _ HashedStore.current_mem
          refine ⟨⟨fun config hmem => ?_, fun c' call' hget => ?_⟩,
            .inr ⟨call, frame, hcall, hframe, ?_⟩⟩
          · rcases HashedStore.mem_versions_write.mp hmem with hold | rfl
            · exact h.names config hold
            · rw [NamesModelsOnce, gatewayDefaultModels_toggled hpatch]
              exact JsonFields.nodup_mergeFields hnames
          · obtain ⟨old, hold, rfl⟩ := Objects.get_modify_eq_some hget
            have hextended := (h.calls c' old hold).mono (extends_write
              (mergeFields s.gateway.current frame.patch))
            split
            · next heq =>
                obtain rfl : call = old := Option.some.inj ((heq ▸ hcall).symm.trans hold)
                exact hextended.taken hframe (by rw [hzero]; rfl)
            · exact hextended
          · rw [ToggleSystem.config, ToggleSystem.config, HashedStore.current_write]
            exact togglePlan_of_patch hnames hplain hpatch
      · refine ⟨h.modifyCall fun old hold => ?_, .inl rfl⟩
        obtain rfl : call = old := Option.some.inj (hcall.symm.trans hold)
        exact hok.taken hframe (by rw [hzero]; rfl)

lemma togglesOk_start {config : JsonFields} (hnames : NamesModelsOnce config) :
    TogglesOk (.start config) := by
  refine ⟨fun other hmem => ?_, fun c call hget => (by cases hget)⟩
  rw [List.mem_singleton.mp hmem]
  exact hnames

/-- **Every step** keeps what is kept of the calls. -/
lemma togglesOk_step (event : ToggleEvent) (h : TogglesOk s) (hplain : ReadsPlainNames s event) :
    TogglesOk (s.step event) := by
  cases event with
  | call input busy =>
      rw [step]
      split
      · exact h
      · refine ⟨h.names, fun c call hget => ?_⟩
        rcases Objects.get_add_eq_some hget with ⟨-, rfl⟩ | hold
        · exact ⟨nofun, rfl, fun _ _ => ⟨rfl, rfl⟩, nofun⟩
        · exact h.calls c call hold
  | readConfig c =>
      refine h.modifyCall fun call hcall => ?_
      have hok := h.calls c call hcall
      split
      · next hphase => exact ⟨hok.frame, hok.steps, fun _ _ => hok.reading _ hphase, hok.found⟩
      · exact hok
  | readAnswers c answers =>
      refine h.modifyCall fun call hcall => ?_
      have hok := h.calls c call hcall
      split
      · next base hphase =>
          split
          · next config hvalue =>
              refine hok.decide hphase hvalue (hplain (call.input, config) ?_)
              rw [configRead, hcall, Option.bind_some, hphase]
              exact Option.mem_def.mpr (congrArg (Option.map (call.input, ·)) hvalue)
          · exact hok
      · exact hok
  | readFailed c =>
      refine h.modifyCall fun call hcall => ?_
      have hok := h.calls c call hcall
      split
      · exact ⟨hok.frame, hok.steps, nofun, hok.found⟩
      · exact hok
  | take c => exact (takeFrame_facts h).1
  | reply c reply => exact h.modifyCall fun call hcall => (h.calls c call hcall).onReply reply
  | write config =>
      rw [step]
      split
      · next hnames =>
          refine ⟨fun other hmem => ?_, fun c call hget => (h.calls c call hget).mono
            (extends_write config)⟩
          rcases HashedStore.mem_versions_write.mp hmem with hold | rfl
          · exact h.names other hold
          · exact hnames
      · exact h
  | restore version =>
      exact ⟨fun config hmem => h.names config (HashedStore.mem_versions_restore.mp hmem),
        fun c call hget => (h.calls c call hget).mono (extends_restore version)⟩

lemma stepOk_of_togglesOk (event : ToggleEvent) (h : TogglesOk s) : StepOk s event := by
  cases event with
  | take c => exact (takeFrame_facts h).2
  | write config => exact trivial
  | restore version => exact trivial
  | call input busy =>
      change (s.step (.call input busy)).gateway = s.gateway
      rw [step]
      split <;> rfl
  | _ => rfl

lemma callsOnce_of_togglesOk (h : TogglesOk s) : CallsOnce s := by
  intro c call hcall
  have hok := h.calls c call hcall
  have hsteps := hok.steps
  constructor
  · rw [hsteps]
    split <;> omega
  · intro hfound
    rw [hsteps, hok.found hfound]
    rfl

end Runs

/-- Two models of a provider are enabled, one of them as the primary model. -/
def togglesConfig (primary : String) : JsonFields :=
  [("agents", .object [("defaults", .object [("model", .string primary),
      ("models", .object [(primary, .object []), ("openai/gpt-4", .object [])])])]),
    ("auth", .object [("profiles", .object
      [("openai:default", .object [("provider", .string "openai")])])])]

/-- A model of the provider is disabled. -/
def disabling (modelId : String) : List ToggleEvent :=
  [.call ⟨"openai", modelId, false⟩ false, .readConfig 0,
    .readAnswers 0 ⟨.object [], none, none⟩, .take 0, .reply 0 .ok]

/-- The gateway is about to take the patch that disables a model with a blank before its key. -/
def blankToggle : ToggleSystem :=
  toggles.outcome (.start (togglesConfig " openai/gpt-5")) ((disabling "gpt-5").take 3)

end Opzava.Provisioning
