import Opzava.DevBoard.Domain
import Opzava.Library.DirectoryScript
import Opzava.Library.EventMachine
import Opzava.Library.JavaScript
import Opzava.Library.Numerals
import Opzava.Library.Objects
import Opzava.Library.OrderedMap

/-!
The interactive logins of the gateway runtime (`provisioning/docker-gateway-runtime.ts`).

A login is a process in the container with the files of its flow. Its handle is polled, gets a
code, and is cancelled by a stop that Docker has to confirm, request by request.

* `secureDeleteFlowArtifactsCommand`: the deletion of the files.
* `stopRequest`, `wakeStop`: `stopInteractiveLogin`, from one await to the next.
* `LoginRuntime.call`, `LoginRuntime.request`: the public calls.
* `loginMachine`: the runtime with its calls, Docker and the processes.
-/

namespace Opzava.Provisioning

open Opzava.Library
open DevBoard (DomainError)

/-! ### Docker -/

/-- What becomes of a request: it is carried out and answered, or carried out and its answer lost,
or it fails and nothing happens. -/
inductive Fate
  | answered
  | lost (error : DomainError)
  | failed (error : DomainError)
  deriving DecidableEq

/-- The requests of `exec`: the list of the containers, unless the container has a name, the create
and the start of an exec, and the inspection of its exit code. -/
inductive ExecPoint
  | list
  | create
  | start
  | inspect (exitCode : ℕ) (stdout : String)
  deriving DecidableEq

/-- The first request of `exec`. -/
def execFirst (named : Bool) : ExecPoint := if named then .create else .list

/-- `GatewayRuntimeCommandResult`, without the errors it prints. -/
structure CommandResult where
  exitCode : ℕ
  stdout : String

/-- `exec` waits for another request, or has a result. -/
inductive ExecNext
  | await (point : ExecPoint)
  | done (result : Except DomainError CommandResult)

/-- A request of `exec`, with the directory after it. -/
def execRequest (script : Script) : ExecPoint → Fate → Directory → ExecNext × Directory
  | .list, .answered, directory => (.await .create, directory)
  | .create, .answered, directory => (.await .start, directory)
  | .start, .answered, directory =>
      let result := script directory
      (.await (.inspect result.exitCode result.stdout), result.directory)
  | .start, .lost error, directory => (.done (.error error), (script directory).directory)
  | .inspect exitCode stdout, .answered, directory => (.done (.ok ⟨exitCode, stdout⟩), directory)
  | _, .lost error, directory => (.done (.error error), directory)
  | _, .failed error, directory => (.done (.error error), directory)

/-! ### The files of a flow -/

inductive LoginKind
  | device
  | setupToken
  deriving DecidableEq

/-- The log in the directory of a flow. -/
def LoginKind.log : LoginKind → String
  | .device => "device.log"
  | .setupToken => "setup.log"

/-- `flowControlPath`. -/
def controlFile : String := "session.pid"

def temporaryControlFile : String := "session.pid.tmp"

def stdinFile : String := "stdin"

/-- The names of the files of a flow. -/
def flowFiles (kind : LoginKind) : List String :=
  [kind.log, controlFile, temporaryControlFile, stdinFile]

/-- `secureDeleteCommand`; what is shredded is gone. -/
def secureDeleteCommand (log : String) : List Script :=
  [.ifFile log (.rmForce [log]), .orTrue .rmdir]

/-- `secureDeleteFlowArtifactsCommand`. -/
def secureDeleteFlowArtifactsCommand (log : String) : Script :=
  .setE (secureDeleteCommand log ++
    [.rmForce [controlFile, temporaryControlFile, stdinFile], .rmdir])

/-- The signal to the process group leaves the files alone; the process may exit after it. -/
def killCommand : Script := fun directory => ⟨0, "", directory⟩

/-- The write of a code to the stdin of the process. -/
def writeCodeCommand (code : String) : Script := fun directory =>
  ⟨0, "", directory.write stdinFile code⟩

/-! ### Errors -/

/-- `interactiveLoginNotFound`. -/
def interactiveLoginNotFound (kind : LoginKind) : DomainError :=
  ⟨"provisioning.docker.interactiveLoginNotFound",
    "The " ++ (if kind = .device then "device" else "setup-token") ++
      " login handle is invalid or no longer active."⟩

/-- `interactiveLoginCancellationFailed`, with the code of its cause. -/
def interactiveLoginCancellationFailed (kind : LoginKind) : DomainError :=
  ⟨"provisioning.docker.interactiveLoginCancellationFailed",
    "The " ++ (if kind = .device then "device" else "setup-token") ++
      " login could not be safely cancelled."⟩

def flowControlUnavailable : DomainError :=
  ⟨"provisioning.docker.flowControlUnavailable",
    "The provider authorization control pid could not be read."⟩

def flowControlInvalid : DomainError :=
  ⟨"provisioning.docker.flowControlInvalid",
    "The provider authorization control pid is invalid."⟩

def stopKillFailed : DomainError :=
  ⟨"provisioning.docker.deviceCodeStopKillFailed",
    "Could not stop the device-code login process."⟩

def stopTimeout : DomainError :=
  ⟨"provisioning.docker.deviceCodeStopTimeout",
    "Docker did not confirm that the device-code login stopped in time."⟩

def logDeleteFailed : DomainError :=
  ⟨"provisioning.docker.deviceCodeLogDeleteFailed",
    "Could not securely delete the device-code login log."⟩

/-- `validatedFlowControlPid`: the text, trimmed, matches `^[1-9][0-9]*$`, and the number fits. -/
def validatedFlowControlPid (value : String) : Except DomainError ℕ :=
  match jsTrim value.toList with
  | [] => .error flowControlInvalid
  | first :: rest =>
      if ('1' ≤ first ∧ first ≤ '9') ∧ rest.all Char.isDigit then
        let pid := (first :: rest).foldl (fun n c => 10 * n + (c.toNat - '0'.toNat)) 0
        if pid ≤ 2147483647 then .ok pid else .error flowControlInvalid
      else .error flowControlInvalid

/-! ### The stop -/

def deviceCodeStopInspectTimeoutMs : ℕ := 5000

/-- The requests of `stopInteractiveLogin`: the read of the control pid, the first inspection, the
signal, the inspections until the deadline, and the deletion. -/
inductive StopAwait
  | readPid (point : ExecPoint)
  | initial (pid : ℕ)
  | kill (pid : ℕ) (point : ExecPoint)
  | inspect (deadline : ℕ)
  | delete (point : ExecPoint)
  deriving DecidableEq

/-- The exec of a flow: its process, and the directory of the flow. -/
structure FlowExec where
  kind : LoginKind
  running : Bool
  directory : Directory
  deriving DecidableEq

/-- The stop waits for a request, sleeps, is done or has thrown. -/
inductive StopNext
  | await (next : StopAwait)
  | sleep (deadline : ℕ)
  | stopped
  | threw (error : DomainError)

/-- What the stop does after a request of an `exec` of its own. -/
def afterExec (next : ExecNext) (await : ExecPoint → StopAwait)
    (finish : CommandResult → StopNext) : StopNext :=
  match next with
  | .await point => .await (await point)
  | .done (.ok result) => finish result
  | .done (.error error) => .threw error

/-- What the stop does after an inspection of the exec. -/
def afterInspection (fate : Fate) (running : Bool) (finish : Bool → StopNext) : StopNext :=
  match fate with
  | .answered => finish running
  | .lost error => .threw error
  | .failed error => .threw error

/-- `readFlowControlPid`, after its `cat`. -/
def takeControlPid (result : CommandResult) : StopNext :=
  if result.exitCode ≠ 0 then .threw flowControlUnavailable
  else
    match validatedFlowControlPid result.stdout with
    | .error error => .threw error
    | .ok pid => .await (.initial pid)

/-- A request of `stopInteractiveLogin` at a time, with the directory after it. -/
def stopRequest (named : Bool) (clock : ℕ) (flow : FlowExec) (fate : Fate) :
    StopAwait → StopNext × Directory
  | .readPid point =>
      let (next, directory) := execRequest (.cat controlFile) point fate flow.directory
      (afterExec next .readPid takeControlPid, directory)
  | .initial pid =>
      (afterInspection fate flow.running fun running =>
        if running then .await (.kill pid (execFirst named))
        else .await (.inspect (clock + deviceCodeStopInspectTimeoutMs)), flow.directory)
  | .kill pid point =>
      let (next, directory) := execRequest killCommand point fate flow.directory
      (afterExec next (.kill pid) fun result =>
        if result.exitCode ≠ 0 then .threw stopKillFailed
        else .await (.inspect (clock + deviceCodeStopInspectTimeoutMs)), directory)
  | .inspect deadline =>
      (afterInspection fate flow.running fun running =>
        if running then .sleep deadline
        else .await (.delete (execFirst named)), flow.directory)
  | .delete point =>
      let (next, directory) := execRequest (secureDeleteFlowArtifactsCommand flow.kind.log) point
        fate flow.directory
      (afterExec next .delete fun result =>
        if result.exitCode ≠ 0 then .threw logDeleteFailed else .stopped, directory)

/-- The stop after a sleep at a time. -/
def wakeStop (clock deadline : ℕ) : StopNext :=
  if deadline ≤ clock then .threw stopTimeout else .await (.inspect deadline)

/-! ### Calls -/

/-- The calls on a handle. -/
inductive LoginOperation
  | pollDeviceLogin
  | cancelDeviceLogin
  | pollSetupTokenLogin
  | submitSetupTokenCode (code : String)
  | cancelSetupTokenLogin
  deriving DecidableEq

namespace LoginOperation

def kind : LoginOperation → LoginKind
  | .pollDeviceLogin => .device
  | .cancelDeviceLogin => .device
  | .pollSetupTokenLogin => .setupToken
  | .submitSetupTokenCode _ => .setupToken
  | .cancelSetupTokenLogin => .setupToken

def IsCancel (operation : LoginOperation) : Prop :=
  operation = .cancelDeviceLogin ∨ operation = .cancelSetupTokenLogin

instance : DecidablePred IsCancel := fun _ => inferInstanceAs (Decidable (_ ∨ _))

end LoginOperation

/-- What a call answers: the log that the state of a login is read from (none for `unavailable`),
that a code was submitted, or that a login was cancelled. -/
inductive LoginAnswer
  | polled (log : Option String)
  | submitted
  | cancelled
  deriving DecidableEq

/-- An entry of `interactiveLogins`; `exec` stands for the exec and the paths of its flow. -/
structure InteractiveLogin where
  kind : LoginKind
  exec : ℕ
  deriving DecidableEq

inductive LoginWork
  | polling (point : ExecPoint)
  | submitting (code : String) (point : ExecPoint)
  | stopping (await : StopAwait)
  | sleeping (deadline : ℕ)
  deriving DecidableEq

inductive LoginPhase
  | awaiting (login : InteractiveLogin) (work : LoginWork)
  | returned (result : Except DomainError LoginAnswer)

/-- What Docker said to a stop: whether the exec was running, and how its deletion exited. -/
inductive DockerReport
  | running (value : Bool)
  | deleted (exitCode : ℕ)
  deriving DecidableEq

/-- What has happened to a call, which no step reads: its handle could be used and the process was
stopped when the call was made, the number of its requests, whether all of them were answered, and
what Docker said. -/
structure LoginHistory where
  admitted : Bool
  stoppedBefore : Bool
  requests : ℕ
  answered : Bool
  reports : List DockerReport
  deriving DecidableEq

structure LoginCall where
  operation : LoginOperation
  token : ℕ
  phase : LoginPhase
  history : LoginHistory

/-- The runtime, with the calls on it, the processes and the files. `named` says that the container
has a name; a handle and its exec have the same number. -/
structure LoginRuntime where
  named : Bool
  clock : ℕ
  execs : Objects FlowExec
  interactiveLogins : OrderedMap ℕ InteractiveLogin
  cancellingInteractiveLogins : List ℕ
  calls : Objects LoginCall

def LoginRuntime.empty (named : Bool) : LoginRuntime := ⟨named, 0, .empty, .empty, [], .empty⟩

/-- What a call starts with. -/
def LoginOperation.work (named : Bool) : LoginOperation → LoginWork
  | .pollDeviceLogin => .polling (execFirst named)
  | .pollSetupTokenLogin => .polling (execFirst named)
  | .submitSetupTokenCode code => .submitting code (execFirst named)
  | .cancelDeviceLogin => .stopping (.readPid (execFirst named))
  | .cancelSetupTokenLogin => .stopping (.readPid (execFirst named))

inductive WorkNext
  | await (work : LoginWork)
  | logRead (log : Option String)
  | written (result : Except DomainError Unit)
  | stopped
  | threw (error : DomainError)

def StopNext.work : StopNext → WorkNext
  | .await next => .await (.stopping next)
  | .sleep deadline => .await (.sleeping deadline)
  | .stopped => .stopped
  | .threw error => .threw error

/-- A request of a call, with the directory after it. The exec of a code is started detached and
not inspected. -/
def workRequest (named : Bool) (clock : ℕ) (flow : FlowExec) (fate : Fate) :
    LoginWork → WorkNext × Directory
  | .polling point =>
      let (next, directory) := execRequest (.orTrue (.cat flow.kind.log)) point fate flow.directory
      (match next with
        | .await point => .await (.polling point)
        | .done (.ok result) => .logRead (some result.stdout)
        | .done (.error _) => .logRead none, directory)
  | .submitting code point =>
      let (next, directory) := execRequest (writeCodeCommand code) point fate flow.directory
      (match next with
        | .await (.inspect _ _) => .written (.ok ())
        | .await point => .await (.submitting code point)
        | .done (.ok _) => .written (.ok ())
        | .done (.error error) => .written (.error error), directory)
  | .stopping await =>
      let (next, directory) := stopRequest named clock flow fate await
      (next.work, directory)
  | .sleeping deadline => (.await (.sleeping deadline), flow.directory)

/-- What Docker says with a request. -/
def dockerReports (flow : FlowExec) (fate : Fate) (work : LoginWork) : List DockerReport :=
  match work, fate with
  | .stopping (.initial _), .answered => [.running flow.running]
  | .stopping (.inspect _), .answered => [.running flow.running]
  | .stopping (.delete (.inspect exitCode _)), .answered => [.deleted exitCode]
  | _, _ => []

def LoginHistory.request (history : LoginHistory) (flow : FlowExec) (fate : Fate)
    (work : LoginWork) : LoginHistory where
  admitted := history.admitted
  stoppedBefore := history.stoppedBefore
  requests := history.requests + 1
  answered := history.answered && decide (fate = .answered)
  reports := history.reports ++ dockerReports flow fate work

namespace LoginRuntime

/-- The login of a handle that may be used. -/
def usable (runtime : LoginRuntime) (kind : LoginKind) (token : ℕ) : Option InteractiveLogin :=
  (runtime.interactiveLogins.get token).filter fun login =>
    login.kind = kind ∧ token ∉ runtime.cancellingInteractiveLogins

/-- A call on a handle, until its first await. -/
def call (runtime : LoginRuntime) (operation : LoginOperation) (token : ℕ) : LoginRuntime :=
  let stopped := (runtime.execs.get token).any fun flow => !flow.running
  match runtime.usable operation.kind token with
  | none =>
      { runtime with
        calls := runtime.calls.add ⟨operation, token,
          .returned (.error (interactiveLoginNotFound operation.kind)),
          false, stopped, 0, true, []⟩ }
  | some login =>
      { runtime with
        cancellingInteractiveLogins :=
          if operation.IsCancel then token :: runtime.cancellingInteractiveLogins
          else runtime.cancellingInteractiveLogins
        calls := runtime.calls.add ⟨operation, token,
          .awaiting login (operation.work runtime.named), true, stopped, 0, true, []⟩ }

/-- A call goes on waiting, or returns. -/
def setPhase (runtime : LoginRuntime) (n : ℕ) (phase : LoginPhase) : LoginRuntime :=
  { runtime with calls := runtime.calls.modify n fun call => { call with phase := phase } }

/-- The result of a poll or a submit, which asks again whether its handle may be used. -/
def checkedResult (runtime : LoginRuntime) (kind : LoginKind) (token : ℕ)
    (login : InteractiveLogin) (result : Except DomainError LoginAnswer) :
    Except DomainError LoginAnswer :=
  if runtime.interactiveLogins.get token ≠ some login ∨
      token ∈ runtime.cancellingInteractiveLogins then .error (interactiveLoginNotFound kind)
  else result

def revoke (runtime : LoginRuntime) (token : ℕ) : LoginRuntime :=
  { runtime with cancellingInteractiveLogins :=
      runtime.cancellingInteractiveLogins.filter (· ≠ token) }

/-- A call after an await. -/
def resume (runtime : LoginRuntime) (n token : ℕ) (kind : LoginKind) (login : InteractiveLogin) :
    WorkNext → LoginRuntime
  | .await work => runtime.setPhase n (.awaiting login work)
  | .logRead log =>
      runtime.setPhase n (.returned (runtime.checkedResult kind token login (.ok (.polled log))))
  | .written result =>
      runtime.setPhase n (.returned
        (runtime.checkedResult kind token login (result.map fun _ => .submitted)))
  | .stopped =>
      let deleted :=
        if runtime.interactiveLogins.get token = some login then
          { runtime with interactiveLogins := runtime.interactiveLogins.delete token }
        else runtime
      (deleted.revoke token).setPhase n (.returned (.ok .cancelled))
  | .threw _ =>
      let restored :=
        if runtime.interactiveLogins.get token = some login then runtime.revoke token else runtime
      restored.setPhase n (.returned (.error (interactiveLoginCancellationFailed kind)))

/-- What a request leaves, in the container and in the history of its call. -/
def carry (runtime : LoginRuntime) (n exec : ℕ) (flow : FlowExec) (fate : Fate) (work : LoginWork)
    (directory : Directory) : LoginRuntime :=
  { runtime with
    execs := runtime.execs.modify exec fun flow => { flow with directory := directory }
    calls := runtime.calls.modify n fun call =>
      { call with history := call.history.request flow fate work } }

/-- Docker gets a request of a call. -/
def request (runtime : LoginRuntime) (n : ℕ) (fate : Fate) : LoginRuntime :=
  match runtime.calls.get n with
  | some ⟨_, _, .awaiting _ (.sleeping _), _⟩ => runtime
  | some ⟨operation, token, .awaiting login work, _⟩ =>
      match runtime.execs.get login.exec with
      | some flow =>
          let (next, directory) := workRequest runtime.named runtime.clock flow fate work
          (runtime.carry n login.exec flow fate work directory).resume n token operation.kind login
            next
      | none => runtime
  | _ => runtime

/-- The sleep of a stop is over. -/
def wake (runtime : LoginRuntime) (n : ℕ) : LoginRuntime :=
  match runtime.calls.get n with
  | some ⟨operation, token, .awaiting login (.sleeping deadline), _⟩ =>
      runtime.resume n token operation.kind login (wakeStop runtime.clock deadline).work
  | _ => runtime

/-- `beginDeviceLogin` or `beginSetupTokenLogin` has launched a process, which may have exited
since, and has read its control pid. -/
def begin (runtime : LoginRuntime) (kind : LoginKind) (running : Bool) (control : String) :
    LoginRuntime :=
  match validatedFlowControlPid control with
  | .error _ => runtime
  | .ok _ =>
      let stdin := if kind = .setupToken then [(stdinFile, "")] else []
      { runtime with
        execs := runtime.execs.add ⟨kind, running,
          some ([(kind.log, ""), (controlFile, control)] ++ stdin)⟩
        interactiveLogins := runtime.interactiveLogins.set runtime.execs.next
          ⟨kind, runtime.execs.next⟩ }

/-- A process writes to its log. -/
def output (runtime : LoginRuntime) (exec : ℕ) (text : String) : LoginRuntime :=
  { runtime with execs := runtime.execs.modify exec fun flow =>
      match flow.directory.read flow.kind.log with
      | some log => { flow with directory := flow.directory.write flow.kind.log (log ++ text) }
      | none => flow }

/-- A process exits. -/
def exits (runtime : LoginRuntime) (exec : ℕ) : LoginRuntime :=
  { runtime with execs := runtime.execs.modify exec fun flow => { flow with running := false } }

end LoginRuntime

/-! ### The machine -/

inductive LoginEvent
  | begin (kind : LoginKind) (running : Bool) (control : String)
  | call (operation : LoginOperation) (token : ℕ)
  | request (n : ℕ) (fate : Fate)
  | wake (n : ℕ)
  | output (exec : ℕ) (text : String)
  | exits (exec : ℕ)
  | tick (ms : ℕ)

def LoginRuntime.step (runtime : LoginRuntime) : LoginEvent → LoginRuntime
  | .begin kind running control => runtime.begin kind running control
  | .call operation token => runtime.call operation token
  | .request n fate => runtime.request n fate
  | .wake n => runtime.wake n
  | .output exec text => runtime.output exec text
  | .exits exec => runtime.exits exec
  | .tick ms => { runtime with clock := runtime.clock + ms }

def loginMachine : EventMachine LoginRuntime LoginEvent := ⟨LoginRuntime.step⟩

end Opzava.Provisioning
