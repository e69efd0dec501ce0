import Opzava.Library.EventMachine
import Opzava.Library.JsonFields
import Opzava.Library.Objects
import Opzava.Library.Patterns
import Opzava.Library.Sha256

/-!
The secrets vault that keeps its entries in a local file.

A call reads the whole file, changes one entry in memory, writes the file anew under a temporary
name and moves it to its place. Nothing keeps the file steps of two calls apart, and the calls of a
process share the temporary name.

* `VaultCall`, `vaultStep`: the calls with their file steps.
* `CleanRename`: a move that changes the entry of its own call alone.
* `vault_keeps_updates`: no update is lost in a run whose moves are clean.
-/

namespace Opzava.Adapters

open Opzava.Library

/-! ### Secrets -/

structure GetSecretRefInput where
  tenantId : String
  purpose : String
  label : String

structure PutSecretInput extends GetSecretRefInput where
  version : Option String
  value : String

structure SecretReference where
  id : String
  tenantId : String
  purpose : String
  label : String
  version : Option String

structure VaultError where
  code : String
  message : String

/-- `[a-z0-9_.-]`. -/
def isLabelChar (c : Char) : Bool := c.isLower || c.isDigit || c = '_' || c = '.' || c = '-'

/-- `normalizeLabel`. -/
def normalizeLabel (label : String) : String :=
  let text := (jsTrim label.toList).flatMap lowerChars
  let text := Regex.replaceAll [[Pattern.plus fun c => !isLabelChar c]] ['-'] text
  let dashes := Pattern.plus (· = '-')
  let text := Regex.replaceAll [[.start, dashes], [dashes, .stop]] [] text
  if text = [] then "secret" else String.ofList text

/-- `secretId`. -/
def secretId (input : GetSecretRefInput) : String :=
  "local-dev:" ++ input.tenantId ++ ":" ++ input.purpose ++ ":" ++ normalizeLabel input.label

/-- `expectedLocalFileSecretReference`. -/
def expectedLocalFileSecretReference (input : GetSecretRefInput) (version : Option String) :
    SecretReference :=
  ⟨secretId input, input.tenantId, input.purpose, input.label, version⟩

/-- The entries of a vault, by their ids. -/
abbrev Secrets := List (String × Json)

/-- The entry that `putSecret` writes. -/
def storedSecret (input : PutSecretInput) (now : Date) : Json :=
  .object ([("id", .string (secretId input.toGetSecretRefInput)),
    ("tenantId", .string input.tenantId), ("purpose", .string input.purpose),
    ("label", .string input.label)] ++
    (match input.version with
      | some version => [("version", .string version)]
      | none => []) ++
    [("value", .string input.value), ("fingerprint", .string (Sha256.hexDigest input.value)),
      ("updatedAt", .string (toISOString now))])

/-! ### Files -/

/-- What a file holds: a text that is no JSON, or one of a value. -/
inductive VaultText
  | unparsable
  | json (value : Json)

/-- The vault and the temporary file of the process, as far as they are there. -/
structure VaultFiles where
  file : Option VaultText
  temp : Option VaultText

/-- The vault of `writeVault`. -/
def vaultText (secrets : Secrets) : VaultText :=
  .json (.object [("version", .number "1"), ("secrets", .object secrets)])

/-- The fields of a value for which `typeof` says `object`, and which is not `null`. -/
def objectFields : Option Json → Option Secrets
  | some (.object fields) => some fields
  | some (.array items) => some (items.zipIdx.map fun item => (toString item.2, item.1))
  | _ => none

/-- `parsed.version === 1`. -/
def isVersionOne : Option Json → Bool
  | some (.number text) => text = "1"
  | _ => false

def readVaultError (message : String) : VaultError := ⟨"adapters.localSecrets.readError", message⟩

def writeVaultError : VaultError :=
  ⟨"adapters.localSecrets.writeFailed", "Failed to write local dev secrets vault."⟩

def emptySecretError : VaultError :=
  ⟨"adapters.localSecrets.emptySecret", "Local dev secret value must be non-empty."⟩

/-- The second half of `readVault`: the text is parsed and checked by `parseVault`. The fields of
`null` cannot be read, which throws a `TypeError`. -/
def parseVault : VaultText → Except VaultError Secrets
  | .unparsable => .error (readVaultError "Failed to parse local dev secrets vault JSON.")
  | .json .null => .error (readVaultError "Failed to read local dev secrets vault: read failed.")
  | .json (.object fields) =>
      match objectFields (fields.lookup "secrets") with
      | some secrets =>
          if isVersionOne (fields.lookup "version") then .ok secrets
          else .error (readVaultError "Local dev secrets vault file is invalid.")
      | none => .error (readVaultError "Local dev secrets vault file is invalid.")
  | .json _ => .error (readVaultError "Local dev secrets vault file is invalid.")

/-- The entry of an id in the vault. -/
def VaultFiles.entry (files : VaultFiles) (id : String) : Option Json :=
  match files.file with
  | none => none
  | some text =>
      match parseVault text with
      | .ok secrets => secrets.lookup id
      | .error _ => none

/-! ### Calls -/

inductive VaultMutation
  | putSecret (input : PutSecretInput)
  | deleteSecret (input : GetSecretRefInput)

namespace VaultMutation

/-- The id of the secret. -/
def id : VaultMutation → String
  | .putSecret input => secretId input.toGetSecretRefInput
  | .deleteSecret input => secretId input

/-- The next vault. -/
def next (mutation : VaultMutation) (now : Date) (secrets : Secrets) : Secrets :=
  match mutation with
  | .putSecret input => writeField secrets mutation.id (storedSecret input now)
  | .deleteSecret _ => secrets.filter fun field => field.1 ≠ mutation.id

/-- What a call returns that has written. -/
def answer : VaultMutation → Option SecretReference
  | .putSecret input => some (expectedLocalFileSecretReference input.toGetSecretRefInput
      input.version)
  | .deleteSecret _ => none

/-- The entry that is there after the call: the value that was put, or none. -/
def Leaves (mutation : VaultMutation) (entry : Option Json) : Prop :=
  match mutation with
  | .putSecret input => ∃ now, entry = some (storedSecret input now)
  | .deleteSecret _ => entry = none

end VaultMutation

/-- The file step a call takes next. From `mkdir` on it has the next vault. -/
inductive VaultPoint
  | stat
  | readFile
  | mkdir (next : Secrets)
  | writeFile (next : Secrets)
  | chmodTemp (next : Secrets)
  | rename (next : Secrets)
  | chmodFile
  | returned (result : Except VaultError (Option SecretReference))

structure VaultCall where
  mutation : VaultMutation
  point : VaultPoint

structure VaultState where
  files : VaultFiles
  calls : Objects VaultCall

/-- A call is made, or takes its next file step at a time. A step may fail for a reason of its own,
with a code or none. -/
inductive VaultEvent
  | call (mutation : VaultMutation)
  | step (call : ℕ) (now : Date) (fault : Option (Option String))

/-- The first step of a call. -/
def VaultMutation.start : VaultMutation → VaultPoint
  | .putSecret input => if input.value = "" then .returned (.error emptySecretError) else .stat
  | .deleteSecret _ => .stat

/-- The error of a file step that fails while the vault is read. -/
def readFault (code : Option String) (otherwise : String) : VaultPoint :=
  .returned (.error (readVaultError
    ("Failed to read local dev secrets vault: " ++ code.getD otherwise ++ ".")))

/-- A call after its next file step, with the files. -/
def VaultCall.advance (call : VaultCall) (files : VaultFiles) (now : Date)
    (fault : Option (Option String)) : VaultPoint × VaultFiles :=
  match call.point with
  | .stat =>
      match fault, files.file with
      | some (some code), _ =>
          (if code = "ENOENT" then .mkdir (call.mutation.next now [])
            else readFault (some code) "stat failed", files)
      | some none, _ => (readFault none "stat failed", files)
      | none, none => (.mkdir (call.mutation.next now []), files)
      | none, some _ => (.readFile, files)
  | .readFile =>
      match fault, files.file with
      | some code, _ => (readFault code "read failed", files)
      | none, none => (readFault (some "ENOENT") "read failed", files)
      | none, some text =>
          match parseVault text with
          | .ok secrets => (.mkdir (call.mutation.next now secrets), files)
          | .error error => (.returned (.error error), files)
  | .mkdir next =>
      match fault with
      | some _ => (.returned (.error writeVaultError), files)
      | none => (.writeFile next, files)
  | .writeFile next =>
      match fault with
      | some _ => (.returned (.error writeVaultError), files)
      | none => (.chmodTemp next, { files with temp := some (vaultText next) })
  | .chmodTemp next =>
      match fault, files.temp with
      | none, some _ => (.rename next, files)
      | _, _ => (.returned (.error writeVaultError), files)
  | .rename _ =>
      match fault, files.temp with
      | none, some text => (.chmodFile, ⟨some text, none⟩)
      | _, _ => (.returned (.error writeVaultError), files)
  | .chmodFile =>
      match fault, files.file with
      | none, some _ => (.returned (.ok call.mutation.answer), files)
      | _, _ => (.returned (.error writeVaultError), files)
  | .returned result => (.returned result, files)

/-- The state after an event. -/
def vaultStep (state : VaultState) : VaultEvent → VaultState
  | .call mutation => { state with calls := state.calls.add ⟨mutation, mutation.start⟩ }
  | .step c now fault =>
      match state.calls.get c with
      | none => state
      | some call =>
          let (point, files) := call.advance state.files now fault
          { files := files
            calls := state.calls.modify c fun call => { call with point := point } }

def vaultMachine : EventMachine VaultState VaultEvent := ⟨vaultStep⟩

/-- A vault that no call was made on. -/
def VaultState.initial (files : VaultFiles) : VaultState := ⟨files, .empty⟩

/-! ### What a call leaves -/

/-- The vault a call is about to write, or has written under the temporary name. -/
def VaultPoint.next : VaultPoint → Option Secrets
  | .mkdir next => some next
  | .writeFile next => some next
  | .chmodTemp next => some next
  | .rename next => some next
  | _ => none

/-- The call has moved its file to its place, and has not failed since. -/
def VaultPoint.moved : VaultPoint → Bool
  | .chmodFile => true
  | .returned (.ok _) => true
  | _ => false

/-- A move of the temporary file to its place changes the entry of its own call alone: the file
under the temporary name is the one the call has written, and the vault still has the other entries
the call has read. -/
def CleanRename (state : VaultState) : VaultEvent → Prop
  | .call _ => True
  | .step c _ fault => ∀ call next, state.calls.get c = some call → call.point = .rename next →
      fault = none → state.files.temp = some (vaultText next) ∧
        ∀ id, id ≠ call.mutation.id → next.lookup id = state.files.entry id

/-- No other call is made on the secret of the call. -/
def Alone (state : VaultState) (c : ℕ) (call : VaultCall) : Prop :=
  ∀ c' call', state.calls.get c' = some call' → call'.mutation.id = call.mutation.id → c' = c

/-- The entries of a vault that began with some files: an entry no call is made on is as it was, the
vault a call is about to write has its change, and a change that was made alone is there. -/
structure VaultOk (files : VaultFiles) (state : VaultState) : Prop where
  untouched : ∀ id, (∀ c call, state.calls.get c = some call → call.mutation.id ≠ id) →
    state.files.entry id = files.entry id
  pending : ∀ c call next, state.calls.get c = some call → call.point.next = some next →
    call.mutation.Leaves (next.lookup call.mutation.id)
  moved : ∀ c call, state.calls.get c = some call → call.point.moved = true →
    Alone state c call → call.mutation.Leaves (state.files.entry call.mutation.id)

section Vault

variable {files : VaultFiles} {state : VaultState} {c : ℕ} {call : VaultCall}
  {mutation : VaultMutation} {now : Date} {fault : Option (Option String)} {next : Secrets}

/-- The entry of an id in a vault that was written. -/
lemma entry_vaultText (next : Secrets) (temp : Option VaultText) (id : String) :
    (⟨some (vaultText next), temp⟩ : VaultFiles).entry id = next.lookup id := rfl

lemma lookup_filter_self (secrets : Secrets) (id : String) :
    (secrets.filter fun field => field.1 ≠ id).lookup id = none := by
  rw [List.lookup_eq_none_iff]
  intro field hfield
  simpa using (Ne.symm (of_decide_eq_true (List.mem_filter.mp hfield).2))

/-- The next vault of a call has its change. -/
lemma leaves_next (mutation : VaultMutation) (now : Date) (secrets : Secrets) :
    mutation.Leaves ((mutation.next now secrets).lookup mutation.id) := by
  cases mutation with
  | putSecret input =>
      refine ⟨now, ?_⟩
      rw [VaultMutation.next, JsonFields.lookup_writeField, if_pos rfl]
  | deleteSecret input => exact lookup_filter_self secrets _

/-- The call and the files after a step that moves no file to its place: the entries are as they
were, and the call goes on with a vault that has its change. -/
structure Keeps (call : VaultCall) (files : VaultFiles) (now : Date)
    (result : VaultPoint × VaultFiles) : Prop where
  entry : ∀ id, result.2.entry id = files.entry id
  moved : result.1.moved = true → call.point.moved = true
  next : ∀ next, result.1.next = some next →
    call.point.next = some next ∨ ∃ secrets, next = call.mutation.next now secrets

/-- A step that fails. -/
lemma keeps_failed (call : VaultCall) (files : VaultFiles) (now : Date) (error : VaultError) :
    Keeps call files now (.returned (.error error), files) :=
  ⟨fun _ => rfl, fun h => absurd h (by simp [VaultPoint.moved]),
    fun _ h => absurd h (by simp [VaultPoint.next])⟩

/-- The vault is read. -/
lemma keeps_read (call : VaultCall) (files : VaultFiles) (now : Date) (secrets : Secrets) :
    Keeps call files now (.mkdir (call.mutation.next now secrets), files) :=
  ⟨fun _ => rfl, fun h => absurd h (by simp [VaultPoint.moved]),
    fun _ h => .inr ⟨secrets, (Option.some.inj h).symm⟩⟩

/-- The call goes on with the same vault, or none. -/
lemma keeps_same {point : VaultPoint} {files' : VaultFiles}
    (hfile : files'.file = files.file) (hmoved : point.moved = true → call.point.moved = true)
    (hnext : ∀ next, point.next = some next → call.point.next = some next) :
    Keeps call files now (point, files') := by
  refine ⟨fun id => ?_, hmoved, fun next h => .inl (hnext next h)⟩
  rw [VaultFiles.entry, VaultFiles.entry, hfile]

/-- **A file step of a call** moves the temporary file to its place, or leaves the entries alone. -/
lemma advance_cases (call : VaultCall) (files : VaultFiles) (now : Date)
    (fault : Option (Option String)) :
    (∃ next text, call.point = .rename next ∧ fault = none ∧ files.temp = some text ∧
      call.advance files now fault = (.chmodFile, ⟨some text, none⟩)) ∨
    Keeps call files now (call.advance files now fault) := by
  obtain ⟨mutation, point⟩ := call
  unfold VaultCall.advance
  cases point with
  | stat =>
      refine .inr ?_
      dsimp only
      split
      · split_ifs
        · exact keeps_read ⟨mutation, .stat⟩ files now []
        · exact keeps_failed _ _ _ _
      · exact keeps_failed _ _ _ _
      · exact keeps_read ⟨mutation, .stat⟩ files now []
      · exact keeps_same rfl nofun nofun
  | readFile =>
      refine .inr ?_
      dsimp only
      split
      · exact keeps_failed _ _ _ _
      · exact keeps_failed _ _ _ _
      · split
        · next secrets _ => exact keeps_read ⟨mutation, .readFile⟩ files now secrets
        · exact keeps_failed _ _ _ _
  | mkdir next =>
      refine .inr ?_
      dsimp only
      split
      · exact keeps_failed _ _ _ _
      · exact keeps_same rfl nofun fun _ h => h
  | writeFile next =>
      refine .inr ?_
      dsimp only
      split
      · exact keeps_failed _ _ _ _
      · exact keeps_same rfl nofun fun _ h => h
  | chmodTemp next =>
      refine .inr ?_
      dsimp only
      split
      · exact keeps_same rfl nofun fun _ h => h
      · exact keeps_failed _ _ _ _
  | rename next =>
      dsimp only
      split
      · next text htemp => exact .inl ⟨next, text, rfl, rfl, htemp, rfl⟩
      · exact .inr (keeps_failed _ _ _ _)
  | chmodFile =>
      refine .inr ?_
      dsimp only
      split
      · exact keeps_same rfl (fun _ => rfl) nofun
      · exact keeps_failed _ _ _ _
  | returned result => exact .inr (keeps_same rfl id fun _ h => h)

/-! ### Runs -/

/-- The calls after a step of one of them. -/
lemma step_calls {point : VaultPoint} {c' : ℕ} {call' : VaultCall}
    (hcall : state.calls.get c = some call)
    (hcall' : (state.calls.modify c fun call => { call with point := point }).get c' =
      some call') :
    ∃ old, state.calls.get c' = some old ∧ call'.mutation = old.mutation ∧
      ((c' = c ∧ old = call ∧ call'.point = point) ∨ (c' ≠ c ∧ call' = old)) := by
  obtain ⟨old, hold, rfl⟩ := Objects.get_modify_eq_some hcall'
  refine ⟨old, hold, ?_⟩
  by_cases hc : c' = c
  · subst hc
    rw [if_pos rfl]
    exact ⟨rfl, .inl ⟨rfl, Option.some.inj (hold.symm.trans hcall), rfl⟩⟩
  · rw [if_neg hc]
    exact ⟨rfl, .inr ⟨hc, rfl⟩⟩

/-- The calls after a step have the mutations from before. -/
lemma exists_step_calls {point : VaultPoint} {c' : ℕ} {old : VaultCall}
    (hold : state.calls.get c' = some old) :
    ∃ call', (state.calls.modify c fun call => { call with point := point }).get c' = some call' ∧
      call'.mutation = old.mutation := by
  obtain ⟨call', hcall'⟩ := Objects.exists_get_modify hold
  refine ⟨call', hcall', ?_⟩
  obtain ⟨old', hold', rfl⟩ := Objects.get_modify_eq_some hcall'
  obtain rfl := Option.some.inj (hold'.symm.trans hold)
  split_ifs
  · rfl
  · rfl

/-- A call is made. -/
lemma VaultOk.add (h : VaultOk files state) (mutation : VaultMutation) :
    VaultOk files (vaultStep state (.call mutation)) := by
  have hold : ∀ {c call}, state.calls.get c = some call →
      (state.calls.add ⟨mutation, mutation.start⟩).get c = some call :=
    fun hcall => Objects.get_add_of_some hcall
  have hstart : mutation.start.moved = false ∧ mutation.start.next = none := by
    cases mutation with
    | putSecret input =>
        rw [VaultMutation.start]
        split_ifs
        · exact ⟨rfl, rfl⟩
        · exact ⟨rfl, rfl⟩
    | deleteSecret input => exact ⟨rfl, rfl⟩
  refine ⟨fun id hid => h.untouched id fun c call hcall => hid c call (hold hcall),
    fun c call next hcall hnext => ?_, fun c call hcall hmoved halone => ?_⟩
  · rcases Objects.get_add_eq_some hcall with ⟨-, rfl⟩ | hcall
    · exact absurd (hstart.2.symm.trans hnext) (by simp)
    · exact h.pending c call next hcall hnext
  · rcases Objects.get_add_eq_some hcall with ⟨-, rfl⟩ | hcall
    · exact absurd (hstart.1.symm.trans hmoved) (by simp)
    · exact h.moved c call hcall hmoved fun c' call' hcall' hid => halone c' call' (hold hcall') hid

/-- A call takes a step that moves no file. -/
lemma VaultOk.keeps {result : VaultPoint × VaultFiles} (h : VaultOk files state)
    (hcall : state.calls.get c = some call) (hkeeps : Keeps call state.files now result) :
    VaultOk files ⟨result.2, state.calls.modify c fun call => { call with point := result.1 }⟩ := by
  refine ⟨fun id hid => ?_, fun c' call' next hcall' hnext => ?_,
    fun c' call' hcall' hmoved halone => ?_⟩
  · refine (hkeeps.entry id).trans (h.untouched id fun c' old hold => ?_)
    obtain ⟨call', hcall', hmutation⟩ := exists_step_calls hold
    exact hmutation ▸ hid c' call' hcall'
  · obtain ⟨old, hold, hmutation, hcases⟩ := step_calls hcall hcall'
    rw [hmutation]
    rcases hcases with ⟨-, rfl, hpoint⟩ | ⟨-, rfl⟩
    · rcases hkeeps.next next (hpoint ▸ hnext) with hsame | ⟨secrets, rfl⟩
      · exact h.pending c' old next hold hsame
      · exact leaves_next old.mutation now secrets
    · exact h.pending c' call' next hold hnext
  · obtain ⟨old, hold, hmutation, hcases⟩ := step_calls hcall hcall'
    have halone' : Alone state c' old := by
      intro c'' old' hold' hid
      obtain ⟨call'', hcall'', hmutation''⟩ := exists_step_calls hold'
      exact halone c'' call'' hcall'' (by rw [hmutation'', hid, hmutation])
    rw [hmutation, hkeeps.entry]
    rcases hcases with ⟨-, rfl, hpoint⟩ | ⟨-, rfl⟩
    · exact h.moved c' old hold (hkeeps.moved (hpoint ▸ hmoved)) halone'
    · exact h.moved c' call' hold hmoved halone'

/-- A call moves its file to its place, and changes its own entry alone. -/
lemma VaultOk.rename (h : VaultOk files state) (hcall : state.calls.get c = some call)
    (hpoint : call.point = .rename next)
    (hother : ∀ id, id ≠ call.mutation.id → next.lookup id = state.files.entry id) :
    VaultOk files ⟨⟨some (vaultText next), none⟩,
      state.calls.modify c fun call => { call with point := .chmodFile }⟩ := by
  have hleaves : call.mutation.Leaves (next.lookup call.mutation.id) :=
    h.pending c call next hcall (by rw [hpoint]; rfl)
  refine ⟨fun id hid => ?_, fun c' call' next' hcall' hnext => ?_,
    fun c' call' hcall' hmoved halone => ?_⟩
  · rw [entry_vaultText]
    obtain ⟨call', hcall', hmutation⟩ := exists_step_calls hcall
    refine (hother id fun heq => hid c call' hcall' (hmutation ▸ heq.symm)).trans
      (h.untouched id fun c' old hold => ?_)
    obtain ⟨call', hcall', hmutation⟩ := exists_step_calls hold
    exact hmutation ▸ hid c' call' hcall'
  · obtain ⟨old, hold, hmutation, hcases⟩ := step_calls hcall hcall'
    rcases hcases with ⟨-, -, hpoint'⟩ | ⟨-, rfl⟩
    · rw [hpoint'] at hnext
      exact absurd hnext (by simp [VaultPoint.next])
    · exact h.pending c' call' next' hold hnext
  · obtain ⟨old, hold, hmutation, hcases⟩ := step_calls hcall hcall'
    rw [hmutation, entry_vaultText]
    rcases hcases with ⟨-, rfl, -⟩ | ⟨hne, rfl⟩
    · exact hleaves
    · have hid : call'.mutation.id ≠ call.mutation.id := by
        intro heq
        obtain ⟨moved, hget, hmutation'⟩ := exists_step_calls hcall
        exact hne (halone c moved hget (by rw [hmutation', heq])).symm
      rw [hother _ hid]
      refine h.moved c' call' hold hmoved fun c'' old' hold' hid' => ?_
      obtain ⟨call'', hcall'', hmutation''⟩ := exists_step_calls hold'
      exact halone c'' call'' hcall'' (by rw [hmutation'', hid'])

lemma vaultOk_step (state : VaultState) (event : VaultEvent) (h : VaultOk files state)
    (hclean : CleanRename state event) : VaultOk files (vaultStep state event) := by
  cases event with
  | call mutation => exact h.add mutation
  | step c now fault =>
      rw [vaultStep]
      cases hcall : state.calls.get c with
      | none => exact h
      | some call =>
          dsimp only
          rcases advance_cases call state.files now fault with
            ⟨next, text, hpoint, hfault, htemp, hadvance⟩ | hkeeps
          · obtain ⟨hown, hother⟩ := hclean call next hcall hpoint hfault
            obtain rfl := Option.some.inj (htemp.symm.trans hown)
            rw [hadvance]
            exact h.rename hcall hpoint hother
          · exact h.keeps hcall hkeeps

lemma vaultOk_initial (files : VaultFiles) : VaultOk files (.initial files) :=
  ⟨fun _ _ => rfl, fun _ _ _ hcall => absurd hcall (by simp [VaultState.initial]),
    fun _ _ hcall => absurd hcall (by simp [VaultState.initial])⟩

end Vault

/-- **No update is lost** in a run in which every move of the temporary file to its place changes
the entry of its own call alone: the secret of a call that has returned ok, and that was made alone,
is as the call leaves it, and an entry no call was made on is as it was. -/
theorem vault_keeps_updates (files : VaultFiles) (events : List VaultEvent)
    (hclean : vaultMachine.EachStep CleanRename (.initial files) events) :
    (∀ c call answer, (vaultMachine.outcome (.initial files) events).calls.get c = some call →
      call.point = .returned (.ok answer) →
      Alone (vaultMachine.outcome (.initial files) events) c call →
      call.mutation.Leaves
        ((vaultMachine.outcome (.initial files) events).files.entry call.mutation.id)) ∧
    ∀ id, (∀ c call, (vaultMachine.outcome (.initial files) events).calls.get c = some call →
      call.mutation.id ≠ id) →
      (vaultMachine.outcome (.initial files) events).files.entry id = files.entry id := by
  have h : VaultOk files (vaultMachine.outcome (.initial files) events) :=
    (EventMachine.always_of_eachStep vaultOk_step (vaultOk_initial files) hclean).outcome
  refine ⟨fun c call answer hcall hpoint halone => ?_, h.untouched⟩
  exact h.moved c call hcall (by rw [hpoint]; rfl) halone

/-- A secret with a label. -/
def sampleSecret (label : String) : PutSecretInput :=
  { tenantId := "t1"
    purpose := "openclaw"
    label := label
    version := none
    value := "value" }

/-- The file steps of a call on a vault that is not there. -/
def fileSteps (c : ℕ) : List VaultEvent := List.replicate 6 (.step c 0 none)

def missingVault : VaultFiles := ⟨none, none⟩

/-- A secret is put. -/
def putRun : List VaultEvent := .call (.putSecret (sampleSecret "a")) :: fileSteps 0

/-- A step that moves no file is clean. -/
lemma cleanRename_of_ne {state : VaultState} {c : ℕ} {call : VaultCall} {now : Date}
    {fault : Option (Option String)} (hcall : state.calls.get c = some call)
    (h : ∀ next, call.point ≠ .rename next) : CleanRename state (.step c now fault) := by
  intro call' next hcall' hpoint
  obtain rfl := Option.some.inj (hcall.symm.trans hcall')
  exact absurd hpoint (h next)

theorem vault_keeps_updates_put :
    ∃ now, (vaultMachine.outcome (.initial missingVault) putRun).files.entry
        (secretId (sampleSecret "a").toGetSecretRefInput) =
      some (storedSecret (sampleSecret "a") now) := by
  have hclean : vaultMachine.EachStep CleanRename (.initial missingVault) putRun := by
    refine ⟨trivial, cleanRename_of_ne rfl nofun, cleanRename_of_ne rfl nofun,
      cleanRename_of_ne rfl nofun, cleanRename_of_ne rfl nofun, ?_, cleanRename_of_ne rfl nofun,
      trivial⟩
    intro call next hcall hpoint _
    obtain rfl := Option.some.inj hcall
    obtain rfl := VaultPoint.rename.inj hpoint
    refine ⟨rfl, fun id hid => ?_⟩
    exact (JsonFields.lookup_writeField id).trans (if_neg hid)
  exact (vault_keeps_updates missingVault putRun hclean).1 0
    ⟨.putSecret (sampleSecret "a"), .returned (.ok _)⟩ _ rfl rfl fun c' call' hcall' _ =>
      Nat.lt_one_iff.mp (Objects.lt_next hcall')

/-- Two secrets are put, and the second call has looked for the file before the first one moves its
own to its place. -/
def overlappingRun : List VaultEvent :=
  [.call (.putSecret (sampleSecret "a")), .call (.putSecret (sampleSecret "b")),
    .step 0 0 none, .step 1 0 none] ++ List.replicate 5 (.step 0 0 none) ++
    List.replicate 5 (.step 1 0 none)

/-- What is shown of a call: its id, and whether it has returned ok. -/
def vaultView (call : VaultCall) : String × Bool :=
  (call.mutation.id, match call.point with
    | .returned (.ok _) => true
    | _ => false)

/-- The first of two secrets is lost, whose call has returned ok. -/
theorem vault_loses_update :
    ¬ ∀ (files : VaultFiles) (events : List VaultEvent) (c : ℕ) (call : VaultCall)
      (answer : Option SecretReference),
      (vaultMachine.outcome (.initial files) events).calls.get c = some call →
      call.point = .returned (.ok answer) →
      Alone (vaultMachine.outcome (.initial files) events) c call →
      call.mutation.Leaves
        ((vaultMachine.outcome (.initial files) events).files.entry call.mutation.id) := by
  intro h
  have hentry : ((vaultMachine.outcome (.initial missingVault) overlappingRun).files.entry
      (secretId (sampleSecret "a").toGetSecretRefInput)).isNone = true := by decide
  have hsecond : ((vaultMachine.outcome (.initial missingVault) overlappingRun).calls.get 1).map
      vaultView = some ("local-dev:t1:openclaw:b", true) := by decide
  have halone : Alone (vaultMachine.outcome (.initial missingVault) overlappingRun) 0
      ⟨.putSecret (sampleSecret "a"), .returned (.ok ((VaultMutation.putSecret
        (sampleSecret "a")).answer))⟩ := by
    intro c' call' hcall' hid
    have hlt : c' < 2 := Objects.lt_next hcall'
    by_contra hne
    obtain rfl : c' = 1 := by omega
    rw [hcall'] at hsecond
    have hview := congrArg Prod.fst (Option.some.inj hsecond)
    exact absurd (hid.symm.trans hview) (by decide)
  obtain ⟨now, hleaves⟩ := h missingVault overlappingRun 0 _ _ rfl rfl halone
  have hnone := (congrArg Option.isNone hleaves).symm.trans hentry
  exact absurd hnone (by simp)

end Opzava.Adapters
