import Opzava.Provisioning.InteractiveLogins

/-!
The verified stop of an interactive login, over the runs of the runtime with its calls.

* `LoginsOk`: the invariant of all runs; a handle under a cancel is revoked, and has one stop.
* `RetryOk`: what also holds when every deletion that was carried out is reported.
* `verified_stop`: the laws of the runs.
-/

namespace Opzava.Provisioning

open Opzava.Library
open DevBoard (DomainError)

/-! ### Requests -/

section Requests

variable {operation : LoginOperation} {reports : List DockerReport} {flow : FlowExec} {fate : Fate}
  {named : Bool} {clock : ℕ} {script : Script} {point : ExecPoint} {directory : Directory}

/-- A call waits for work of its own kind, and Docker has reported an exec stopped whose files are
to be deleted. -/
def WorkOk (operation : LoginOperation) (reports : List DockerReport) : LoginWork → Prop
  | .polling _ => ¬ operation.IsCancel
  | .submitting _ _ => ¬ operation.IsCancel
  | .stopping (.delete _) => operation.IsCancel ∧ .running false ∈ reports
  | .stopping _ => operation.IsCancel
  | .sleeping _ => operation.IsCancel

/-- What comes after an await is of the same kind; a stop that is done has the reports of Docker. -/
def NextOk (operation : LoginOperation) (reports : List DockerReport) : WorkNext → Prop
  | .await work => WorkOk operation reports work
  | .logRead _ => ¬ operation.IsCancel
  | .written _ => ¬ operation.IsCancel
  | .stopped => operation.IsCancel ∧ .running false ∈ reports ∧ .deleted 0 ∈ reports
  | .threw _ => operation.IsCancel

lemma WorkOk.mono {reports' : List DockerReport} {work : LoginWork}
    (hreports : ∀ report ∈ reports, report ∈ reports') (h : WorkOk operation reports work) :
    WorkOk operation reports' work := by
  cases work with
  | polling point => exact h
  | submitting code point => exact h
  | sleeping deadline => exact h
  | stopping await =>
      cases await with
      | readPid point => exact h
      | initial pid => exact h
      | kill pid point => exact h
      | inspect deadline => exact h
      | delete point => exact ⟨h.1, hreports _ h.2⟩

lemma WorkOk.isCancel {await : StopAwait} (h : WorkOk operation reports (.stopping await)) :
    operation.IsCancel := by
  cases await with
  | readPid point => exact h
  | initial pid => exact h
  | kill pid point => exact h
  | inspect deadline => exact h
  | delete point => exact h.1

/-- The result of an `exec` is the one of its inspection. -/
lemma execRequest_done {result : CommandResult}
    (h : (execRequest script point fate directory).1 = .done (.ok result)) :
    point = .inspect result.exitCode result.stdout ∧ fate = .answered := by
  cases point with
  | list => cases fate <;> cases h
  | create => cases fate <;> cases h
  | start => cases fate <;> cases h
  | inspect exitCode stdout =>
      cases fate with
      | answered =>
          cases h
          exact ⟨rfl, rfl⟩
      | lost error => cases h
      | failed error => cases h

lemma nextOk_afterExec {next : ExecNext} {await : ExecPoint → StopAwait}
    {finish : CommandResult → StopNext} (hcancel : operation.IsCancel)
    (hawait : ∀ point, WorkOk operation reports (.stopping (await point)))
    (hfinish : ∀ result, next = .done (.ok result) →
      NextOk operation reports (finish result).work) :
    NextOk operation reports (afterExec next await finish).work := by
  cases next with
  | await point => exact hawait point
  | done result =>
      cases result with
      | error error => exact hcancel
      | ok result => exact hfinish result rfl

lemma nextOk_afterInspection {running : Bool} {finish : Bool → StopNext}
    (hcancel : operation.IsCancel)
    (hfinish : fate = .answered → NextOk operation reports (finish running).work) :
    NextOk operation reports (afterInspection fate running finish).work := by
  cases fate with
  | answered => exact hfinish rfl
  | lost error => exact hcancel
  | failed error => exact hcancel

lemma nextOk_takeControlPid (result : CommandResult) (hcancel : operation.IsCancel) :
    NextOk operation reports (takeControlPid result).work := by
  unfold takeControlPid
  split_ifs
  · exact hcancel
  · split
    · exact hcancel
    · exact hcancel

lemma mem_reports {report : DockerReport} {work : LoginWork}
    (h : report ∈ dockerReports flow fate work) :
    report ∈ reports ++ dockerReports flow fate work := List.mem_append_right _ h

/-- A request keeps the kind of its call, and a stop that is done has the reports of Docker. -/
lemma workRequest_nextOk {work : LoginWork} (h : WorkOk operation reports work) :
    NextOk operation (reports ++ dockerReports flow fate work)
      (workRequest named clock flow fate work).1 := by
  cases work with
  | sleeping deadline => exact h
  | polling point =>
      unfold workRequest
      dsimp only
      split
      · exact h
      · exact h
      · exact h
  | submitting code point =>
      unfold workRequest
      dsimp only
      split
      · exact h
      · exact h
      · exact h
      · exact h
  | stopping await =>
      cases await with
      | readPid point =>
          exact nextOk_afterExec h (fun _ => h) fun result _ => nextOk_takeControlPid result h
      | initial pid =>
          refine nextOk_afterInspection h fun _ => ?_
          split_ifs
          · exact h
          · exact h
      | kill pid point =>
          refine nextOk_afterExec h (fun _ => h) fun result _ => ?_
          split_ifs
          · exact h
          · exact h
      | inspect deadline =>
          refine nextOk_afterInspection h fun hfate => ?_
          split_ifs with hrunning
          · exact h
          · refine ⟨h, mem_reports ?_⟩
            rw [hfate, dockerReports, Bool.eq_false_iff.mpr hrunning]
            exact List.mem_singleton_self _
      | delete point =>
          have hdelete : WorkOk operation (reports ++ dockerReports flow fate
              (.stopping (.delete point))) (.stopping (.delete point)) :=
            h.mono fun _ => List.mem_append_left _
          refine nextOk_afterExec h.1 (fun _ => hdelete) fun result hresult => ?_
          obtain ⟨rfl, rfl⟩ := execRequest_done hresult
          split_ifs with hexit
          · exact h.1
          · refine ⟨h.1, hdelete.2, mem_reports ?_⟩
            rw [dockerReports, not_not.mp hexit]
            exact List.mem_singleton_self _

lemma wakeStop_nextOk {deadline : ℕ} (hcancel : operation.IsCancel) :
    NextOk operation reports (wakeStop clock deadline).work := by
  unfold wakeStop
  split_ifs
  · exact hcancel
  · exact hcancel

end Requests

/-! ### The invariant of all runs -/

/-- The call is a cancel that has not returned. -/
def LoginCall.CancelInFlight (call : LoginCall) : Prop :=
  call.operation.IsCancel ∧ ∃ login work, call.phase = .awaiting login work

/-- A cancel of a handle has returned ok, after Docker reported its exec stopped and the deletion of
its files exited with 0. -/
def LoginRuntime.CancelledOk (s : LoginRuntime) (token : ℕ) : Prop :=
  ∃ n call, s.calls.get n = some call ∧ call.token = token ∧ call.operation.IsCancel ∧
    call.phase = .returned (.ok .cancelled) ∧ .running false ∈ call.history.reports ∧
    .deleted 0 ∈ call.history.reports

/-- At most one stop of a handle is in flight. -/
def LoginRuntime.OneStop (s : LoginRuntime) : Prop :=
  ∀ n m call call', s.calls.get n = some call → s.calls.get m = some call' →
    call.CancelInFlight → call'.CancelInFlight → call.token = call'.token → n = m

/-- A handle that has left `interactiveLogins` was cancelled. -/
def LoginRuntime.LeftCancelled (s : LoginRuntime) : Prop :=
  ∀ token, token < s.execs.next → s.interactiveLogins.get token = none → s.CancelledOk token

structure LoginsOk (s : LoginRuntime) : Prop where
  logins : ∀ token login, s.interactiveLogins.get token = some login →
    login.exec = token ∧ token < s.execs.next
  calls : ∀ n call login work, s.calls.get n = some call → call.phase = .awaiting login work →
    login.exec = call.token ∧ WorkOk call.operation call.history.reports work
  cancels : ∀ n call login work, s.calls.get n = some call → call.phase = .awaiting login work →
    call.operation.IsCancel →
    s.interactiveLogins.get call.token = some login ∧ call.token ∈ s.cancellingInteractiveLogins
  oneStop : s.OneStop
  left : s.LeftCancelled

section Invariant

variable {s : LoginRuntime} {n token : ℕ} {call : LoginCall} {login : InteractiveLogin}
  {work : LoginWork} {phase : LoginPhase}

lemma loginsOk_empty (named : Bool) : LoginsOk (.empty named) where
  logins _ _ h := by cases h
  calls _ _ _ _ h := by cases h
  cancels _ _ _ _ h := by cases h
  oneStop _ _ _ _ h := by cases h
  left _ h := by cases h

/-- The cancels that wait keep the handle revoked. -/
lemma LoginsOk.not_cancelInFlight (h : LoginsOk s) (hget : s.calls.get n = some call)
    (htoken : call.token ∉ s.cancellingInteractiveLogins) : ¬ call.CancelInFlight := by
  rintro ⟨hcancel, login, work, hphase⟩
  exact htoken (h.cancels n call login work hget hphase hcancel).2

/-- A call that waits goes on waiting for work of its kind, or returns. -/
lemma LoginsOk.setPhase (h : LoginsOk s) (hget : s.calls.get n = some call)
    (hphase : call.phase = .awaiting login work)
    (hok : ∀ login' work', phase = .awaiting login' work' →
      login' = login ∧ WorkOk call.operation call.history.reports work') :
    LoginsOk (s.setPhase n phase) := by
  -- What waits after the change has waited before it, for the same login.
  have hbefore : ∀ m call', (s.setPhase n phase).calls.get m = some call' →
      ∃ old, s.calls.get m = some old ∧ call'.operation = old.operation ∧
        call'.token = old.token ∧ ∀ login' work', call'.phase = .awaiting login' work' →
          ∃ work, old.phase = .awaiting login' work ∧
            (WorkOk old.operation old.history.reports work →
              WorkOk call'.operation call'.history.reports work') := by
    intro m call' hget'
    obtain ⟨old, hold, rfl⟩ := Objects.get_modify_eq_some hget'
    refine ⟨old, hold, ?_⟩
    split_ifs with hm
    · subst hm
      obtain rfl := Option.some.inj (hold.symm.trans hget)
      refine ⟨rfl, rfl, fun login' work' hawaiting => ?_⟩
      obtain ⟨rfl, hwork'⟩ := hok login' work' hawaiting
      exact ⟨work, hphase, fun _ => hwork'⟩
    · exact ⟨rfl, rfl, fun login' work' hawaiting => ⟨work', hawaiting, id⟩⟩
  refine ⟨h.logins, ?_, ?_, ?_, ?_⟩
  · intro m call' login' work' hget' hawaiting
    obtain ⟨old, hold, -, htoken, hwaits⟩ := hbefore m call' hget'
    obtain ⟨work, hwork, hmono⟩ := hwaits login' work' hawaiting
    obtain ⟨hexec, hworkOk⟩ := h.calls m old login' work hold hwork
    exact ⟨hexec.trans htoken.symm, hmono hworkOk⟩
  · intro m call' login' work' hget' hawaiting hcancel
    obtain ⟨old, hold, hoperation, htoken, hwaits⟩ := hbefore m call' hget'
    obtain ⟨work, hwork, -⟩ := hwaits login' work' hawaiting
    rw [htoken]
    exact h.cancels m old login' work hold hwork (hoperation ▸ hcancel)
  · intro m m' call' call'' hget' hget'' hflight hflight' hsame
    obtain ⟨old, hold, hoperation, htoken, hwaits⟩ := hbefore m call' hget'
    obtain ⟨old', hold', hoperation', htoken', hwaits'⟩ := hbefore m' call'' hget''
    obtain ⟨hcancel, login', work', hawaiting⟩ := hflight
    obtain ⟨hcancel', login'', work'', hawaiting'⟩ := hflight'
    obtain ⟨work, hwork, -⟩ := hwaits login' work' hawaiting
    obtain ⟨work₂, hwork₂, -⟩ := hwaits' login'' work'' hawaiting'
    exact h.oneStop m m' old old' hold hold' ⟨hoperation ▸ hcancel, login', work, hwork⟩
      ⟨hoperation' ▸ hcancel', login'', work₂, hwork₂⟩ (htoken.symm.trans (hsame.trans htoken'))
  · intro token htoken hnone
    obtain ⟨m, old, hold, hrest⟩ := h.left token htoken hnone
    have hm : m ≠ n := by
      rintro rfl
      obtain rfl := Option.some.inj (hold.symm.trans hget)
      rw [hphase] at hrest
      cases hrest.2.2.1
    exact ⟨m, old, (Objects.get_modify_of_ne hm).trans hold, hrest⟩

/-- A request writes into the history of its call. -/
lemma LoginsOk.carry {exec : ℕ} {flow : FlowExec} {fate : Fate} {directory : Directory}
    (h : LoginsOk s) : LoginsOk (s.carry n exec flow fate work directory) := by
  have hbefore : ∀ m call', (s.carry n exec flow fate work directory).calls.get m = some call' →
      ∃ old, s.calls.get m = some old ∧ call'.operation = old.operation ∧
        call'.token = old.token ∧ call'.phase = old.phase ∧
        ∀ report ∈ old.history.reports, report ∈ call'.history.reports := by
    intro m call' hget'
    obtain ⟨old, hold, rfl⟩ := Objects.get_modify_eq_some hget'
    refine ⟨old, hold, ?_⟩
    split_ifs
    · exact ⟨rfl, rfl, rfl, fun report hreport => List.mem_append_left _ hreport⟩
    · exact ⟨rfl, rfl, rfl, fun report hreport => hreport⟩
  refine ⟨h.logins, ?_, ?_, ?_, ?_⟩
  · intro m call' login' work' hget' hawaiting
    obtain ⟨old, hold, hoperation, htoken, hphase, hreports⟩ := hbefore m call' hget'
    obtain ⟨hexec, hworkOk⟩ := h.calls m old login' work' hold (hphase ▸ hawaiting)
    rw [hoperation, htoken]
    exact ⟨hexec, hworkOk.mono hreports⟩
  · intro m call' login' work' hget' hawaiting hcancel
    obtain ⟨old, hold, hoperation, htoken, hphase, -⟩ := hbefore m call' hget'
    rw [htoken]
    exact h.cancels m old login' work' hold (hphase ▸ hawaiting) (hoperation ▸ hcancel)
  · intro m m' call' call'' hget' hget'' hflight hflight' hsame
    obtain ⟨old, hold, hoperation, htoken, hphase, -⟩ := hbefore m call' hget'
    obtain ⟨old', hold', hoperation', htoken', hphase', -⟩ := hbefore m' call'' hget''
    rw [LoginCall.CancelInFlight, hoperation, hphase] at hflight
    rw [LoginCall.CancelInFlight, hoperation', hphase'] at hflight'
    exact h.oneStop m m' old old' hold hold' hflight hflight'
      (htoken.symm.trans (hsame.trans htoken'))
  · intro token htoken hnone
    obtain ⟨m, old, hold, hsame, hcancel, hphase, hrunning, hdeleted⟩ := h.left token htoken hnone
    obtain ⟨call', hget'⟩ := Objects.exists_get_modify (m := n) (f := fun call =>
      { call with history := call.history.request flow fate work }) hold
    obtain ⟨old', hold', hoperation', htoken', hphase', hreports⟩ := hbefore m call' hget'
    obtain rfl := Option.some.inj (hold'.symm.trans hold)
    exact ⟨m, call', hget', htoken'.trans hsame, hoperation' ▸ hcancel, hphase'.trans hphase,
      hreports _ hrunning, hreports _ hdeleted⟩

/-- A handle may be used again when no cancel of it is in flight. -/
lemma LoginsOk.revoke (h : LoginsOk s) (hnone : ∀ m call', s.calls.get m = some call' →
    call'.CancelInFlight → call'.token ≠ token) : LoginsOk (s.revoke token) where
  logins := h.logins
  calls := h.calls
  cancels m call' login' work' hget hphase hcancel := by
    obtain ⟨hlogin, hmem⟩ := h.cancels m call' login' work' hget hphase hcancel
    have hne := hnone m call' hget ⟨hcancel, login', work', hphase⟩
    exact ⟨hlogin, List.mem_filter.mpr ⟨hmem, decide_eq_true hne⟩⟩
  oneStop := h.oneStop
  left := h.left

/-- A handle leaves when it was cancelled and no cancel of it is in flight. -/
lemma LoginsOk.delete (h : LoginsOk s) (hnone : ∀ m call', s.calls.get m = some call' →
    call'.CancelInFlight → call'.token ≠ token) (hcancelled : s.CancelledOk token) :
    LoginsOk { s with interactiveLogins := s.interactiveLogins.delete token } where
  logins token' login' hget := by
    rw [OrderedMap.get_delete] at hget
    split_ifs at hget
    exact h.logins token' login' hget
  calls := h.calls
  cancels m call' login' work' hget hphase hcancel := by
    obtain ⟨hlogin, hmem⟩ := h.cancels m call' login' work' hget hphase hcancel
    have hne := hnone m call' hget ⟨hcancel, login', work', hphase⟩
    exact ⟨(OrderedMap.get_delete_of_ne _ hne).trans hlogin, hmem⟩
  oneStop := h.oneStop
  left token' htoken hget := by
    by_cases hsame : token' = token
    · rw [hsame]
      exact hcancelled
    · rw [OrderedMap.get_delete_of_ne _ hsame] at hget
      exact h.left token' htoken hget

/-- When the stop of a handle returns, no cancel of it is left. -/
lemma LoginsOk.no_other_cancel (result : Except DomainError LoginAnswer) (h : LoginsOk s)
    (hget : s.calls.get n = some call) (hphase : call.phase = .awaiting login work)
    (hcancel : call.operation.IsCancel) :
    ∀ m call', (s.setPhase n (.returned result)).calls.get m = some call' →
      call'.CancelInFlight → call'.token ≠ call.token := by
  intro m call' hget' hflight hsame
  obtain ⟨old, hold, rfl⟩ := Objects.get_modify_eq_some hget'
  split_ifs at hflight hsame with hm
  · obtain ⟨-, login', work', hawaiting⟩ := hflight
    cases hawaiting
  · exact hm (h.oneStop m n old call hold hget hflight ⟨hcancel, login, work, hphase⟩ hsame)

/-- The call after an await. -/
lemma LoginsOk.resume {next : WorkNext} (h : LoginsOk s) (hget : s.calls.get n = some call)
    (hphase : call.phase = .awaiting login work)
    (hnext : NextOk call.operation call.history.reports next) :
    LoginsOk (s.resume n call.token call.operation.kind login next) := by
  have hreturned : ∀ result, LoginsOk (s.setPhase n (.returned result)) := fun result =>
    h.setPhase hget hphase fun _ _ heq => by cases heq
  cases next with
  | await work' =>
      refine h.setPhase hget hphase fun login'' work'' heq => ?_
      obtain ⟨rfl, rfl⟩ := LoginPhase.awaiting.inj heq
      exact ⟨rfl, hnext⟩
  | logRead log => exact hreturned _
  | written result => exact hreturned _
  | stopped =>
      obtain ⟨hcancel, hrunning, hdeleted⟩ := hnext
      have hnone := h.no_other_cancel (.ok .cancelled) hget hphase hcancel
      obtain ⟨hlogin, -⟩ := h.cancels n call login work hget hphase hcancel
      have hcancelled : (s.setPhase n (.returned (.ok .cancelled))).CancelledOk call.token :=
        ⟨n, _, Objects.get_modify_of_some hget, rfl, hcancel, rfl, hrunning, hdeleted⟩
      have hleft := ((hreturned (.ok .cancelled)).delete hnone hcancelled).revoke hnone
      rw [LoginRuntime.resume, if_pos hlogin]
      exact hleft
  | threw error =>
      obtain ⟨hlogin, -⟩ := h.cancels n call login work hget hphase hnext
      have hnone := h.no_other_cancel
        (.error (interactiveLoginCancellationFailed call.operation.kind)) hget hphase hnext
      rw [LoginRuntime.resume, if_pos hlogin]
      exact (hreturned _).revoke hnone

/-- What a request does: nothing, or it is carried out as its fate says and the call goes on. -/
lemma request_cases (s : LoginRuntime) (n : ℕ) (fate : Fate) : s.request n fate = s ∨
    ∃ call login work flow, s.calls.get n = some call ∧ call.phase = .awaiting login work ∧
      (∀ deadline, work ≠ .sleeping deadline) ∧ s.execs.get login.exec = some flow ∧
      s.request n fate =
        (s.carry n login.exec flow fate work
          (workRequest s.named s.clock flow fate work).2).resume n call.token call.operation.kind
            login (workRequest s.named s.clock flow fate work).1 := by
  unfold LoginRuntime.request
  split
  · exact .inl rfl
  · next operation token login work history hsleeping hget =>
      split
      · next flow hflow =>
          refine .inr ⟨_, login, work, flow, hget, rfl, ?_, hflow, rfl⟩
          rintro deadline rfl
          exact hsleeping deadline rfl
      · exact .inl rfl
  · exact .inl rfl

/-- What the end of a sleep does. -/
lemma wake_cases (s : LoginRuntime) (n : ℕ) : s.wake n = s ∨
    ∃ call login deadline, s.calls.get n = some call ∧
      call.phase = .awaiting login (.sleeping deadline) ∧
      s.wake n = s.resume n call.token call.operation.kind login
        (wakeStop s.clock deadline).work := by
  unfold LoginRuntime.wake
  split
  · next operation token login deadline history hget =>
      exact .inr ⟨_, login, deadline, hget, rfl, rfl⟩
  · exact .inl rfl

lemma LoginsOk.request (h : LoginsOk s) (fate : Fate) : LoginsOk (s.request n fate) := by
  rcases request_cases s n fate with
    heq | ⟨call, login, work, flow, hget, hphase, -, hflow, heq⟩
  · rw [heq]
    exact h
  · rw [heq]
    obtain ⟨-, hwork⟩ := h.calls n call login work hget hphase
    have hcarried : (s.carry n login.exec flow fate work
        (workRequest s.named s.clock flow fate work).2).calls.get n =
        some { call with history := call.history.request flow fate work } :=
      Objects.get_modify_of_some hget
    have hnext : NextOk call.operation (call.history.reports ++ dockerReports flow fate work)
        (workRequest s.named s.clock flow fate work).1 := workRequest_nextOk hwork
    have hresumed := h.carry.resume hcarried hphase hnext
    exact hresumed

lemma LoginsOk.wake (h : LoginsOk s) : LoginsOk (s.wake n) := by
  rcases wake_cases s n with heq | ⟨call, login, deadline, hget, hphase, heq⟩
  · rw [heq]
    exact h
  · rw [heq]
    obtain ⟨-, hwork⟩ := h.calls n call login _ hget hphase
    exact h.resume hget hphase (wakeStop_nextOk hwork)

/-- Another call is made. -/
lemma LoginsOk.made (h : LoginsOk s) (operation : LoginOperation) :
    LoginsOk (s.call operation token) := by
  have hleft : ∀ call', ∀ token', s.CancelledOk token' →
      ∃ m old, (s.calls.add call').get m = some old ∧ old.token = token' ∧
        old.operation.IsCancel ∧ old.phase = .returned (.ok .cancelled) ∧
        .running false ∈ old.history.reports ∧ .deleted 0 ∈ old.history.reports := by
    rintro call' token' ⟨m, old, hold, hrest⟩
    exact ⟨m, old, Objects.get_add_of_some hold, hrest⟩
  unfold LoginRuntime.call
  dsimp only
  split
  · refine ⟨h.logins, ?_, ?_, ?_, fun token' htoken hnone =>
      hleft _ token' (h.left token' htoken hnone)⟩
    · intro m call' login' work' hget hphase
      rcases Objects.get_add_eq_some hget with ⟨-, rfl⟩ | hold
      · cases hphase
      · exact h.calls m call' login' work' hold hphase
    · intro m call' login' work' hget hphase
      rcases Objects.get_add_eq_some hget with ⟨-, rfl⟩ | hold
      · cases hphase
      · exact h.cancels m call' login' work' hold hphase
    · intro m m' call' call'' hget hget' hflight hflight'
      rcases Objects.get_add_eq_some hget with ⟨-, rfl⟩ | hold
      · obtain ⟨-, login', work', hphase⟩ := hflight
        cases hphase
      · rcases Objects.get_add_eq_some hget' with ⟨-, rfl⟩ | hold'
        · obtain ⟨-, login', work', hphase⟩ := hflight'
          cases hphase
        · exact h.oneStop m m' call' call'' hold hold' hflight hflight'
  · next login husable =>
      obtain ⟨hlogin, hfree⟩ := Option.filter_eq_some_iff.mp husable
      obtain ⟨-, hfree⟩ := of_decide_eq_true hfree
      have hmono : ∀ token', token' ∈ s.cancellingInteractiveLogins →
          token' ∈ (if operation.IsCancel then token :: s.cancellingInteractiveLogins
            else s.cancellingInteractiveLogins) := by
        intro token' hmem
        split_ifs
        · exact List.mem_cons_of_mem _ hmem
        · exact hmem
      refine ⟨h.logins, ?_, ?_, ?_, fun token' htoken hnone =>
        hleft _ token' (h.left token' htoken hnone)⟩
      · intro m call' login' work' hget hphase
        rcases Objects.get_add_eq_some hget with ⟨-, rfl⟩ | hold
        · obtain ⟨rfl, rfl⟩ := LoginPhase.awaiting.inj hphase
          refine ⟨(h.logins token login hlogin).1, ?_⟩
          cases operation with
          | pollDeviceLogin => exact (by decide : ¬ LoginOperation.pollDeviceLogin.IsCancel)
          | cancelDeviceLogin => exact .inl rfl
          | pollSetupTokenLogin => exact (by decide : ¬ LoginOperation.pollSetupTokenLogin.IsCancel)
          | submitSetupTokenCode code => rintro (heq | heq) <;> cases heq
          | cancelSetupTokenLogin => exact .inr rfl
        · exact h.calls m call' login' work' hold hphase
      · intro m call' login' work' hget hphase hcancel
        rcases Objects.get_add_eq_some hget with ⟨-, rfl⟩ | hold
        · obtain ⟨rfl, rfl⟩ := LoginPhase.awaiting.inj hphase
          refine ⟨hlogin, ?_⟩
          dsimp only
          rw [if_pos hcancel]
          exact List.mem_cons_self
        · obtain ⟨hlogin', hmem⟩ := h.cancels m call' login' work' hold hphase hcancel
          exact ⟨hlogin', hmono _ hmem⟩
      · intro m m' call' call'' hget hget' hflight hflight' hsame
        rcases Objects.get_add_eq_some hget with ⟨rfl, rfl⟩ | hold
        · rcases Objects.get_add_eq_some hget' with ⟨rfl, -⟩ | hold'
          · rfl
          · exact absurd hflight' (h.not_cancelInFlight hold' (hsame ▸ hfree))
        · rcases Objects.get_add_eq_some hget' with ⟨-, rfl⟩ | hold'
          · exact absurd hflight (h.not_cancelInFlight hold (hsame.symm ▸ hfree))
          · exact h.oneStop m m' call' call'' hold hold' hflight hflight' hsame

/-- A login is begun. -/
lemma LoginsOk.begin (h : LoginsOk s) (kind : LoginKind) (running : Bool) (control : String) :
    LoginsOk (s.begin kind running control) := by
  unfold LoginRuntime.begin
  split
  · exact h
  · refine ⟨?_, h.calls, ?_, h.oneStop, ?_⟩
    · intro token login hget
      rcases OrderedMap.get_set_eq_some hget with ⟨rfl, rfl⟩ | ⟨-, hold⟩
      · exact ⟨rfl, Nat.lt_succ_self _⟩
      · obtain ⟨hexec, hlt⟩ := h.logins token login hold
        exact ⟨hexec, Nat.lt_succ_of_lt hlt⟩
    · intro m call' login' work' hget hphase hcancel
      obtain ⟨hlogin, hmem⟩ := h.cancels m call' login' work' hget hphase hcancel
      have hne := (h.logins call'.token login' hlogin).2.ne
      exact ⟨(OrderedMap.get_set_of_ne _ _ hne).trans hlogin, hmem⟩
    · intro token htoken hnone
      dsimp only at hnone
      by_cases hne : token = s.execs.next
      · rw [hne, OrderedMap.get_set_self] at hnone
        cases hnone
      · rw [OrderedMap.get_set_of_ne _ _ hne] at hnone
        exact h.left token (lt_of_le_of_ne (Nat.lt_succ_iff.mp htoken) hne) hnone

/-- **The invariant** is kept by every event. -/
lemma LoginsOk.step (h : LoginsOk s) (event : LoginEvent) : LoginsOk (s.step event) := by
  cases event with
  | begin kind running control => exact h.begin kind running control
  | call operation token => exact h.made operation
  | request n fate => exact h.request fate
  | wake n => exact h.wake
  | output exec text => exact ⟨h.logins, h.calls, h.cancels, h.oneStop, h.left⟩
  | exits exec => exact ⟨h.logins, h.calls, h.cancels, h.oneStop, h.left⟩
  | tick ms => exact ⟨h.logins, h.calls, h.cancels, h.oneStop, h.left⟩

end Invariant

/-! ### Answers -/

/-- A call that returns ok in a step does so while no cancel of its handle is in flight. -/
def AnswersAlone (s : LoginRuntime) (event : LoginEvent) : Prop :=
  ∀ n call answer, (s.step event).calls.get n = some call → call.phase = .returned (.ok answer) →
    (∀ old, s.calls.get n = some old → old.phase ≠ call.phase) →
    ∀ m other, (s.step event).calls.get m = some other → other.token = call.token →
      ¬ other.CancelInFlight

section Answers

variable {s s' : LoginRuntime} {n : ℕ} {call : LoginCall} {login : InteractiveLogin}
  {work : LoginWork}

/-- The calls that return ok in a step leave a handle that is not being cancelled. -/
def OkFree (s s' : LoginRuntime) : Prop :=
  ∀ n call answer, s'.calls.get n = some call → call.phase = .returned (.ok answer) →
    (∀ old, s.calls.get n = some old → old.phase ≠ call.phase) →
    call.token ∉ s'.cancellingInteractiveLogins

lemma okFree_of_calls (h : s'.calls = s.calls) : OkFree s s' := by
  intro n call answer hget _ hnew
  rw [h] at hget
  exact absurd rfl (hnew call hget)

lemma checkedResult_ok {kind : LoginKind} {token : ℕ} {result : Except DomainError LoginAnswer}
    {answer : LoginAnswer} (h : s.checkedResult kind token login result = .ok answer) :
    token ∉ s.cancellingInteractiveLogins := by
  unfold LoginRuntime.checkedResult at h
  split_ifs at h with hrefused
  exact fun hmem => hrefused (.inr hmem)

/-- The phase of a call after an await. -/
def LoginRuntime.phaseAfter (s : LoginRuntime) (token : ℕ) (kind : LoginKind)
    (login : InteractiveLogin) : WorkNext → LoginPhase
  | .await work => .awaiting login work
  | .logRead log => .returned (s.checkedResult kind token login (.ok (.polled log)))
  | .written result => .returned (s.checkedResult kind token login (result.map fun _ => .submitted))
  | .stopped => .returned (.ok .cancelled)
  | .threw _ => .returned (.error (interactiveLoginCancellationFailed kind))

/-- An await changes the phase of its call alone. -/
lemma resume_calls (s : LoginRuntime) (n token : ℕ) (kind : LoginKind) (login : InteractiveLogin)
    (next : WorkNext) : (s.resume n token kind login next).calls =
      s.calls.modify n fun call => { call with phase := s.phaseAfter token kind login next } := by
  cases next with
  | await work => rfl
  | logRead log => rfl
  | written result => rfl
  | stopped =>
      rw [LoginRuntime.resume]
      split_ifs
      · rfl
      · rfl
  | threw error =>
      rw [LoginRuntime.resume]
      split_ifs
      · rfl
      · rfl

lemma not_mem_revoke (s : LoginRuntime) (token : ℕ) :
    token ∉ (s.revoke token).cancellingInteractiveLogins :=
  fun hmem => of_decide_eq_true (List.mem_filter.mp hmem).2 rfl

/-- A handle whose call returns ok is not being cancelled. -/
lemma resume_ok {token : ℕ} {kind : LoginKind} {next : WorkNext} {answer : LoginAnswer}
    (h : s.phaseAfter token kind login next = .returned (.ok answer)) :
    token ∉ (s.resume n token kind login next).cancellingInteractiveLogins := by
  cases next with
  | await work => cases h
  | logRead log => exact checkedResult_ok (LoginPhase.returned.inj h)
  | written result => exact checkedResult_ok (LoginPhase.returned.inj h)
  | stopped => exact not_mem_revoke _ token
  | threw error => cases h

/-- Only the call itself returns after an await. -/
lemma okFree_resume {before : LoginRuntime} (hcalls : ∀ m call', s.calls.get m = some call' →
      ∃ old, before.calls.get m = some old ∧ old.phase = call'.phase)
    (hget : s.calls.get n = some call) (next : WorkNext) :
    OkFree before (s.resume n call.token call.operation.kind login next) := by
  intro m call' answer hget' hphase hnew
  rw [resume_calls] at hget'
  obtain ⟨old, hold, rfl⟩ := Objects.get_modify_eq_some hget'
  split_ifs at hphase hnew ⊢ with hm
  · subst hm
    obtain rfl := Option.some.inj (hold.symm.trans hget)
    exact resume_ok hphase
  · obtain ⟨first, hfirst, hsame⟩ := hcalls m old hold
    exact absurd hsame (hnew first hfirst)

lemma okFree_step (s : LoginRuntime) (event : LoginEvent) : OkFree s (s.step event) := by
  cases event with
  | begin kind running control =>
      refine okFree_of_calls ?_
      rw [LoginRuntime.step, LoginRuntime.begin]
      split
      · rfl
      · rfl
  | call operation token =>
      intro m call' answer hget hphase hnew
      rw [LoginRuntime.step, LoginRuntime.call] at hget
      split at hget
      · rcases Objects.get_add_eq_some hget with ⟨-, rfl⟩ | hold
        · cases hphase
        · exact absurd rfl (hnew call' hold)
      · rcases Objects.get_add_eq_some hget with ⟨-, rfl⟩ | hold
        · cases hphase
        · exact absurd rfl (hnew call' hold)
  | request n fate =>
      rcases request_cases s n fate with
        heq | ⟨call, login, work, flow, hget, hphase, -, hflow, heq⟩
      · rw [LoginRuntime.step, heq]
        exact okFree_of_calls rfl
      · rw [LoginRuntime.step, heq]
        have hcarried : (s.carry n login.exec flow fate work
            (workRequest s.named s.clock flow fate work).2).calls.get n =
            some { call with history := call.history.request flow fate work } :=
          Objects.get_modify_of_some hget
        refine okFree_resume (fun m call' hget' => ?_) hcarried _
        obtain ⟨old, hold, rfl⟩ := Objects.get_modify_eq_some hget'
        refine ⟨old, hold, ?_⟩
        split_ifs
        · rfl
        · rfl
  | wake n =>
      rcases wake_cases s n with heq | ⟨call, login, deadline, hget, hphase, heq⟩
      · rw [LoginRuntime.step, heq]
        exact okFree_of_calls rfl
      · rw [LoginRuntime.step, heq]
        exact okFree_resume (fun m call' hget' => ⟨call', hget', rfl⟩) hget _
  | output exec text => exact okFree_of_calls rfl
  | exits exec => exact okFree_of_calls rfl
  | tick ms => exact okFree_of_calls rfl

/-- **No call answers ok** while a cancel of its handle is in flight. -/
lemma LoginsOk.answersAlone (h : LoginsOk s) (event : LoginEvent) : AnswersAlone s event := by
  intro n call answer hget hphase hnew m other hother hsame
  have hfree := okFree_step s event n call answer hget hphase hnew
  exact (h.step event).not_cancelInFlight hother (hsame ▸ hfree)

end Answers

/-! ### Files -/

/-- The files of a flow are those that its launch left, with the control pid. -/
def FlowExec.Intact (flow : FlowExec) : Prop :=
  flow.directory.Within (flowFiles flow.kind) ∧ ∃ control pid,
    flow.directory.read controlFile = some control ∧ validatedFlowControlPid control = .ok pid

section Files

variable {flow : FlowExec} {fate : Fate} {point : ExecPoint} {script : Script}
  {directory : Directory}

lemma log_ne_controlFile (kind : LoginKind) : kind.log ≠ controlFile := by
  cases kind with
  | device => decide
  | setupToken => decide

lemma FlowExec.Intact.write {name content : String} (h : flow.Intact)
    (hname : name ∈ flowFiles flow.kind) (hcontrol : controlFile ≠ name) :
    { flow with directory := flow.directory.write name content }.Intact := by
  obtain ⟨hwithin, control, pid, hread, hpid⟩ := h
  exact ⟨Directory.Within.write hwithin hname, control, pid,
    (Directory.read_write_of_ne hcontrol).trans hread, hpid⟩

/-- **The deletion** of the files of a flow exits with 0 and leaves nothing. -/
lemma FlowExec.Intact.delete (h : flow.Intact) :
    secureDeleteFlowArtifactsCommand flow.kind.log flow.directory = ⟨0, "", none⟩ := by
  obtain ⟨⟨files, hfiles, hnames⟩, control, pid, hread, -⟩ := h
  rw [hfiles] at hread ⊢
  rw [Directory.read, Option.bind_some] at hread
  obtain ⟨file, hfind, -⟩ := Option.map_eq_some_iff.mp hread
  have hfile : file.1 = controlFile := by
    have hfound := List.find?_some hfind
    exact of_decide_eq_true hfound
  have hmem : file ∈ files := List.mem_of_find?_eq_some hfind
  -- Without the log there are the control file and files that are removed with it.
  have hlog : ∃ files', Script.ifFile flow.kind.log (.rmForce [flow.kind.log]) (some files) =
      ⟨0, "", some files'⟩ ∧ files' ≠ [] ∧
        ∀ file ∈ files', file.1 ∈ [controlFile, temporaryControlFile, stdinFile] := by
    rw [Script.ifFile]
    split_ifs with hsome
    · refine ⟨_, rfl, ?_, fun file' hfile' => ?_⟩
      · refine List.ne_nil_of_mem (List.mem_filter.mpr ⟨hmem, ?_⟩)
        simpa [hfile] using (log_ne_controlFile flow.kind).symm
      · obtain ⟨hold, hne⟩ := List.mem_filter.mp hfile'
        rcases List.mem_cons.mp (hnames file' hold) with heq | hrest
        · simp [heq] at hne
        · exact hrest
    · refine ⟨files, rfl, List.ne_nil_of_mem hmem, fun file' hfile' => ?_⟩
      rcases List.mem_cons.mp (hnames file' hfile') with heq | hrest
      · refine absurd ?_ hsome
        rw [Directory.read, Option.isSome_map]
        exact List.find?_isSome.mpr ⟨file', hfile', decide_eq_true heq⟩
      · exact hrest
  obtain ⟨files', hscript, hne, hleft⟩ := hlog
  rw [secureDeleteFlowArtifactsCommand, secureDeleteCommand, List.cons_append,
    Script.setE_cons_of_zero hscript, List.cons_append, List.nil_append,
    Script.setE_cons_of_zero (Script.rmdir_of_nonempty hne),
    Script.setE_cons_of_zero (Script.rmForce_within hleft)]
  rfl

/-- A request of a script that only reads. -/
lemma execRequest_reads (h : script.Reads) :
    (execRequest script point fate directory).2 = directory := by
  cases point with
  | start =>
      cases fate with
      | answered => exact h directory
      | lost error => exact h directory
      | failed error => rfl
  | list => cases fate <;> rfl
  | create => cases fate <;> rfl
  | inspect exitCode stdout => cases fate <;> rfl

/-- A request carries the script out, or leaves the directory alone. -/
lemma execRequest_directory (script : Script) (point : ExecPoint) (fate : Fate)
    (directory : Directory) : (execRequest script point fate directory).2 = directory ∨
    (execRequest script point fate directory).2 = (script directory).directory := by
  cases point with
  | start =>
      cases fate with
      | answered => exact .inr rfl
      | lost error => exact .inr rfl
      | failed error => exact .inl rfl
  | list => cases fate <;> exact .inl rfl
  | create => cases fate <;> exact .inl rfl
  | inspect exitCode stdout => cases fate <;> exact .inl rfl

end Files

/-! ### Retries -/

/-- A deletion that was carried out is reported: the answer of its start is not lost, and its exit
code is inspected. -/
def reportsDeletion : ExecPoint → Fate → Bool
  | .start, .lost _ => false
  | .inspect _ _, .lost _ => false
  | .inspect _ _, .failed _ => false
  | _, _ => true

def deletionReported (s : LoginRuntime) : LoginEvent → Bool
  | .request n fate =>
      match s.calls.get n with
      | some ⟨_, _, .awaiting _ (.stopping (.delete point)), _⟩ => reportsDeletion point fate
      | _ => true
  | _ => true

/-- The event reports the deletion it carries out, or that was carried out before it. -/
def DeletionReported (s : LoginRuntime) (event : LoginEvent) : Prop :=
  deletionReported s event = true

instance (s : LoginRuntime) (event : LoginEvent) : Decidable (DeletionReported s event) :=
  inferInstanceAs (Decidable (_ = true))

/-- A cancel of a handle that could be used, of a process that was stopped before, all of whose
requests so far were carried out and answered. -/
def LoginCall.Retries (call : LoginCall) : Prop :=
  call.operation.IsCancel ∧ call.history.admitted = true ∧ call.history.stoppedBefore = true ∧
    call.history.answered = true

instance : DecidablePred LoginCall.Retries := fun _ => inferInstanceAs (Decidable (_ ∧ _))

/-- Such a cancel has returned ok, or waits for one of its at most ten requests. -/
def LoginRuntime.RetriesSucceed (s : LoginRuntime) : Prop :=
  ∀ n call, s.calls.get n = some call → call.Retries →
    call.phase = .returned (.ok .cancelled) ∨
      (call.history.requests < 10 ∧ ∃ login await flow,
        call.phase = .awaiting login (.stopping await) ∧ s.execs.get login.exec = some flow)

/-- The requests that are left of an `exec`. -/
def ExecPoint.left : ExecPoint → ℕ
  | .list => 4
  | .create => 3
  | .start => 2
  | .inspect _ _ => 1

/-- The requests of an `exec`. -/
def execRequests (named : Bool) : ℕ := (execFirst named).left

/-- A stop of a stopped process, by the number of its requests so far. -/
def CleanStop (named : Bool) (requests : ℕ) : StopAwait → Prop
  | .readPid point => requests + point.left = execRequests named ∧
      ∀ exitCode stdout, point = .inspect exitCode stdout →
        exitCode = 0 ∧ ∃ pid, validatedFlowControlPid stdout = .ok pid
  | .initial _ => requests = execRequests named
  | .kill _ _ => False
  | .inspect _ => requests = execRequests named + 1
  | .delete point => requests + point.left = 2 * execRequests named + 2

def CleanCall (s : LoginRuntime) (call : LoginCall) : Prop :=
  call.phase = .returned (.ok .cancelled) ∨ ∃ login await flow,
    call.phase = .awaiting login (.stopping await) ∧ s.execs.get login.exec = some flow ∧
      flow.running = false ∧ CleanStop s.named call.history.requests await

/-- The deletion of the files of a handle is carried out, and its exit code not yet inspected. -/
def LoginRuntime.Deleting (s : LoginRuntime) (token : ℕ) : Prop :=
  ∃ n call login exitCode stdout, s.calls.get n = some call ∧ call.token = token ∧
    call.phase = .awaiting login (.stopping (.delete (.inspect exitCode stdout)))

/-- What also holds when every deletion is reported: the files of a registered handle are intact
until they are deleted, deletions exit with 0, and retries go on. -/
structure RetryOk (s : LoginRuntime) : Prop where
  intact : ∀ token login flow, s.interactiveLogins.get token = some login →
    s.execs.get token = some flow → flow.Intact ∨ s.Deleting token
  deletes : ∀ n call login exitCode stdout, s.calls.get n = some call →
    call.phase = .awaiting login (.stopping (.delete (.inspect exitCode stdout))) → exitCode = 0
  clean : ∀ n call, s.calls.get n = some call → call.Retries → CleanCall s call

section Retries

variable {s : LoginRuntime} {n token : ℕ} {call : LoginCall} {login : InteractiveLogin}
  {work : LoginWork} {flow : FlowExec} {fate : Fate} {named : Bool} {clock requests : ℕ}

lemma execRequests_le (named : Bool) : execRequests named ≤ 4 := by
  cases named with
  | false => decide
  | true => decide

lemma CleanStop.lt {await : StopAwait} (h : CleanStop named requests await) : requests < 10 := by
  have hle := execRequests_le named
  cases await with
  | readPid point =>
      have heq := h.1
      omega
  | initial pid =>
      rw [CleanStop] at h
      omega
  | kill pid point => exact h.elim
  | inspect deadline =>
      rw [CleanStop] at h
      omega
  | delete point =>
      have hleft : 0 < point.left := by
        cases point with
        | list => decide
        | create => decide
        | start => decide
        | inspect exitCode stdout => exact Nat.one_pos
      rw [CleanStop] at h
      omega

lemma RetryOk.retriesSucceed (h : RetryOk s) : s.RetriesSucceed := by
  intro n call hget hretries
  rcases h.clean n call hget hretries with
    hreturned | ⟨login, await, flow, hphase, hflow, -, hclean⟩
  · exact .inl hreturned
  · exact .inr ⟨hclean.lt, login, await, flow, hphase, hflow⟩

/-- An answered request of such a stop. -/
lemma cleanStop_request (clock : ℕ) {await : StopAwait} (hclean : CleanStop named requests await)
    (hrunning : flow.running = false)
    (hintact : flow.Intact ∨ ∃ exitCode stdout, await = .delete (.inspect exitCode stdout))
    (hdeletes : ∀ exitCode stdout, await = .delete (.inspect exitCode stdout) → exitCode = 0) :
    (∃ next, (stopRequest named clock flow .answered await).1 = .await next ∧
        CleanStop named (requests + 1) next) ∨
      (stopRequest named clock flow .answered await).1 = .stopped := by
  cases await with
  | readPid point =>
      obtain ⟨hleft, hread⟩ := hclean
      cases point with
      | list =>
          refine .inl ⟨_, rfl, ?_, fun _ _ heq => by cases heq⟩
          simp only [ExecPoint.left] at hleft ⊢
          omega
      | create =>
          refine .inl ⟨_, rfl, ?_, fun _ _ heq => by cases heq⟩
          simp only [ExecPoint.left] at hleft ⊢
          omega
      | start =>
          rcases hintact with hintact | ⟨exitCode, stdout, heq⟩
          · obtain ⟨-, control, pid, hcontrol, hpid⟩ := hintact
            refine .inl ⟨.readPid (.inspect 0 control), ?_, ?_, fun _ _ heq => ?_⟩
            · simp only [stopRequest, execRequest, Script.cat_of_read hcontrol, afterExec]
            · simp only [ExecPoint.left] at hleft ⊢
              omega
            · obtain ⟨rfl, rfl⟩ := ExecPoint.inspect.inj heq
              exact ⟨rfl, pid, hpid⟩
          · cases heq
      | inspect exitCode stdout =>
          obtain ⟨rfl, pid, hpid⟩ := hread exitCode stdout rfl
          refine .inl ⟨.initial pid, ?_, ?_⟩
          · simp only [stopRequest, execRequest, afterExec, takeControlPid, hpid]
            rfl
          · exact hleft
  | initial pid =>
      refine .inl ⟨.inspect (clock + deviceCodeStopInspectTimeoutMs), ?_, ?_⟩
      · simp only [stopRequest, afterInspection, hrunning]
        rfl
      · simp only [CleanStop] at hclean ⊢
        omega
  | kill pid point => exact hclean.elim
  | inspect deadline =>
      refine .inl ⟨.delete (execFirst named), ?_, ?_⟩
      · simp only [stopRequest, afterInspection, hrunning]
        rfl
      · simp only [CleanStop] at hclean ⊢
        rw [hclean, execRequests]
        omega
  | delete point =>
      rw [CleanStop] at hclean
      cases point with
      | list =>
          refine .inl ⟨_, rfl, ?_⟩
          simp only [CleanStop, ExecPoint.left] at hclean ⊢
          omega
      | create =>
          refine .inl ⟨_, rfl, ?_⟩
          simp only [CleanStop, ExecPoint.left] at hclean ⊢
          omega
      | start =>
          refine .inl ⟨_, rfl, ?_⟩
          simp only [CleanStop, ExecPoint.left] at hclean ⊢
          omega
      | inspect exitCode stdout =>
          obtain rfl := hdeletes exitCode stdout rfl
          exact .inr rfl

/-- The files of a flow stay intact until a deletion is carried out. -/
lemma workRequest_intact (named : Bool) (clock : ℕ) (fate : Fate) (work : LoginWork)
    (hintact : flow.Intact) :
    { flow with directory := (workRequest named clock flow fate work).2 }.Intact ∨
      (work = .stopping (.delete .start) ∧ ∀ error, fate ≠ .failed error) := by
  have hkeeps : ∀ directory, directory = flow.directory →
      { flow with directory := directory }.Intact := by
    rintro directory rfl
    exact hintact
  cases work with
  | polling point =>
      exact .inl (hkeeps _ (execRequest_reads (Script.orTrue_reads (Script.cat_reads _))))
  | submitting code point =>
      rcases execRequest_directory (writeCodeCommand code) point fate flow.directory with heq | heq
      · exact .inl (hkeeps _ heq)
      · have hwritten : (workRequest named clock flow fate (.submitting code point)).2 =
            flow.directory.write stdinFile code := heq
        rw [hwritten]
        exact .inl (hintact.write (by simp [flowFiles]) (by decide))
  | sleeping deadline => exact .inl hintact
  | stopping await =>
      cases await with
      | readPid point => exact .inl (hkeeps _ (execRequest_reads (Script.cat_reads _)))
      | initial pid => exact .inl hintact
      | kill pid point => exact .inl (hkeeps _ (execRequest_reads fun _ => rfl))
      | inspect deadline => exact .inl hintact
      | delete point =>
          cases point with
          | start =>
              cases fate with
              | answered => exact .inr ⟨rfl, fun _ heq => by cases heq⟩
              | lost error => exact .inr ⟨rfl, fun _ heq => by cases heq⟩
              | failed error => exact .inl hintact
          | list => cases fate <;> exact .inl hintact
          | create => cases fate <;> exact .inl hintact
          | inspect exitCode stdout => cases fate <;> exact .inl hintact

/-- The exit code of a deletion is the one of its script. -/
lemma workRequest_deleting {exitCode : ℕ} {stdout : String}
    (h : (workRequest named clock flow fate work).1 =
      .await (.stopping (.delete (.inspect exitCode stdout)))) :
    work = .stopping (.delete .start) ∧
      exitCode = (secureDeleteFlowArtifactsCommand flow.kind.log flow.directory).exitCode := by
  cases work with
  | polling point =>
      unfold workRequest at h
      dsimp only at h
      split at h
      · cases h
      · cases h
      · cases h
  | submitting code point =>
      unfold workRequest at h
      dsimp only at h
      split at h
      · cases h
      · cases h
      · cases h
      · cases h
  | sleeping deadline => cases h
  | stopping await =>
      cases await with
      | readPid point =>
          cases point with
          | inspect code out =>
              cases fate with
              | answered =>
                  simp only [workRequest, stopRequest, execRequest, afterExec, takeControlPid] at h
                  split_ifs at h
                  · cases h
                  · split at h
                    · cases h
                    · cases h
              | lost error => cases h
              | failed error => cases h
          | list => cases fate <;> cases h
          | create => cases fate <;> cases h
          | start => cases fate <;> cases h
      | initial pid =>
          cases fate with
          | answered =>
              simp only [workRequest, stopRequest, afterInspection] at h
              split_ifs at h
              · cases h
              · cases h
          | lost error => cases h
          | failed error => cases h
      | kill pid point =>
          cases point with
          | inspect code out =>
              cases fate with
              | answered =>
                  simp only [workRequest, stopRequest, execRequest, afterExec] at h
                  split_ifs at h
                  · cases h
                  · cases h
              | lost error => cases h
              | failed error => cases h
          | list => cases fate <;> cases h
          | create => cases fate <;> cases h
          | start => cases fate <;> cases h
      | inspect deadline =>
          cases fate with
          | answered =>
              simp only [workRequest, stopRequest, afterInspection] at h
              split_ifs at h
              · cases h
              · cases named <;> cases h
          | lost error => cases h
          | failed error => cases h
      | delete point =>
          cases point with
          | start =>
              cases fate with
              | answered =>
                  cases h
                  exact ⟨rfl, rfl⟩
              | lost error => cases h
              | failed error => cases h
          | inspect code out =>
              cases fate with
              | answered =>
                  simp only [workRequest, stopRequest, execRequest, afterExec] at h
                  split_ifs at h
                  · cases h
                  · cases h
              | lost error => cases h
              | failed error => cases h
          | list => cases fate <;> cases h
          | create => cases fate <;> cases h

lemma resume_logins {next : WorkNext} {kind : LoginKind} {token' : ℕ} {login' : InteractiveLogin}
    (h : (s.resume n token kind login next).interactiveLogins.get token' = some login') :
    s.interactiveLogins.get token' = some login' := by
  cases next with
  | await work => exact h
  | logRead log => exact h
  | written result => exact h
  | threw error =>
      rw [LoginRuntime.resume] at h
      split_ifs at h
      · exact h
      · exact h
  | stopped =>
      rw [LoginRuntime.resume] at h
      split_ifs at h
      · have hdeleted : (s.interactiveLogins.delete token).get token' = some login' := h
        rw [OrderedMap.get_delete] at hdeleted
        split_ifs at hdeleted
        exact hdeleted
      · exact h

/-- A login whose stop is done is registered no more. -/
lemma resume_stopped {kind : LoginKind} (hlogin : s.interactiveLogins.get token = some login) :
    (s.resume n token kind login .stopped).interactiveLogins.get token = none := by
  rw [LoginRuntime.resume, if_pos hlogin]
  exact OrderedMap.get_delete_self _ token

lemma resume_execs (s : LoginRuntime) (n token : ℕ) (kind : LoginKind) (login : InteractiveLogin)
    (next : WorkNext) : (s.resume n token kind login next).execs = s.execs ∧
      (s.resume n token kind login next).named = s.named := by
  cases next with
  | await work => exact ⟨rfl, rfl⟩
  | logRead log => exact ⟨rfl, rfl⟩
  | written result => exact ⟨rfl, rfl⟩
  | stopped =>
      rw [LoginRuntime.resume]
      split_ifs
      · exact ⟨rfl, rfl⟩
      · exact ⟨rfl, rfl⟩
  | threw error =>
      rw [LoginRuntime.resume]
      split_ifs
      · exact ⟨rfl, rfl⟩
      · exact ⟨rfl, rfl⟩

/-- A call whose flow stays stopped goes on. -/
lemma CleanCall.mono {s' : LoginRuntime} (h : CleanCall s call) (hnamed : s'.named = s.named)
    (hexecs : ∀ exec flow, s.execs.get exec = some flow → flow.running = false →
      ∃ flow', s'.execs.get exec = some flow' ∧ flow'.running = false) : CleanCall s' call := by
  rcases h with hreturned | ⟨login, await, flow, hphase, hflow, hrunning, hclean⟩
  · exact .inl hreturned
  · obtain ⟨flow', hflow', hrunning'⟩ := hexecs login.exec flow hflow hrunning
    exact .inr ⟨login, await, flow', hphase, hflow', hrunning', hnamed ▸ hclean⟩

/-- A change of the execs that keeps the files intact and the stopped processes stopped. -/
lemma RetryOk.modifyExec {exec : ℕ} {f : FlowExec → FlowExec} (h : RetryOk s)
    (hintact : ∀ flow, flow.Intact → (f flow).Intact)
    (hrunning : ∀ flow, flow.running = false → (f flow).running = false) :
    RetryOk { s with execs := s.execs.modify exec f } where
  intact token login flow hlogin hflow := by
    obtain ⟨old, hold, rfl⟩ := Objects.get_modify_eq_some hflow
    rcases h.intact token login old hlogin hold with hflow | hdeleting
    · left
      split_ifs
      · exact hintact old hflow
      · exact hflow
    · exact .inr hdeleting
  deletes := h.deletes
  clean n call hget hretries := by
    refine (h.clean n call hget hretries).mono rfl fun exec' flow hflow hstopped => ?_
    by_cases hexec : exec' = exec
    · subst hexec
      exact ⟨f flow, Objects.get_modify_of_some hflow, hrunning flow hstopped⟩
    · exact ⟨flow, (Objects.get_modify_of_ne hexec).trans hflow, hstopped⟩

lemma RetryOk.output (h : RetryOk s) (exec : ℕ) (text : String) : RetryOk (s.output exec text) := by
  refine h.modifyExec (fun flow hflow => ?_) fun flow hflow => ?_
  · split
    · exact hflow.write (by simp [flowFiles]) (log_ne_controlFile _).symm
    · exact hflow
  · split
    · exact hflow
    · exact hflow

lemma RetryOk.exits (h : RetryOk s) (exec : ℕ) : RetryOk (s.exits exec) :=
  h.modifyExec (fun _ hflow => hflow) fun _ _ => rfl

/-- A login is begun, with its files. -/
lemma RetryOk.begin (h : RetryOk s) (kind : LoginKind) (running : Bool) (control : String) :
    RetryOk (s.begin kind running control) := by
  unfold LoginRuntime.begin
  split
  · exact h
  · next pid hpid =>
      refine ⟨?_, h.deletes, ?_⟩
      · intro token login flow hlogin hflow
        rcases Objects.get_add_eq_some hflow with ⟨-, rfl⟩ | hold
        · left
          have hread : Directory.read (some ([(kind.log, ""), (controlFile, control)] ++
              if kind = .setupToken then [(stdinFile, "")] else [])) controlFile =
              some control := by
            cases kind with
            | device => rfl
            | setupToken => rfl
          refine ⟨⟨_, rfl, fun file hfile => ?_⟩, control, pid, hread, hpid⟩
          rcases List.mem_append.mp hfile with hfirst | hlast
          · rcases List.mem_pair.mp hfirst with rfl | rfl
            · simp [flowFiles]
            · simp [flowFiles]
          · split_ifs at hlast
            · rw [List.mem_singleton.mp hlast]
              simp [flowFiles]
            · cases hlast
        · have hne := (Objects.lt_next hold).ne
          have hlogin' : s.interactiveLogins.get token = some login :=
            (OrderedMap.get_set_of_ne _ _ hne).symm.trans hlogin
          exact h.intact token login flow hlogin' hold
      · intro n call hget hretries
        exact (h.clean n call hget hretries).mono rfl fun exec flow hflow hstopped =>
          ⟨flow, Objects.get_add_of_some hflow, hstopped⟩

lemma isCancel_work {operation : LoginOperation} (h : operation.IsCancel) (named : Bool) :
    operation.work named = .stopping (.readPid (execFirst named)) := by
  rcases h with rfl | rfl
  · rfl
  · rfl

/-- Another call is made. -/
lemma RetryOk.made (h : RetryOk s) (hok : LoginsOk s) (operation : LoginOperation) :
    RetryOk (s.call operation token) := by
  have hdeleting : ∀ call' token', s.Deleting token' →
      ({ s with calls := s.calls.add call' } : LoginRuntime).Deleting token' := by
    rintro call' token' ⟨m, old, login, exitCode, stdout, hget, hrest⟩
    exact ⟨m, old, login, exitCode, stdout, Objects.get_add_of_some hget, hrest⟩
  unfold LoginRuntime.call
  dsimp only
  split
  · refine ⟨fun token' login flow hlogin hflow => ?_, ?_, ?_⟩
    · exact (h.intact token' login flow hlogin hflow).imp_right (hdeleting _ token')
    · intro m call' login' exitCode stdout hget hphase
      rcases Objects.get_add_eq_some hget with ⟨-, rfl⟩ | hold
      · cases hphase
      · exact h.deletes m call' login' exitCode stdout hold hphase
    · intro m call' hget hretries
      rcases Objects.get_add_eq_some hget with ⟨-, rfl⟩ | hold
      · exact absurd hretries.2.1 Bool.false_ne_true
      · exact h.clean m call' hold hretries
  · next login husable =>
      obtain ⟨hlogin, -⟩ := Option.filter_eq_some_iff.mp husable
      refine ⟨fun token' login flow hlogin hflow => ?_, ?_, ?_⟩
      · exact (h.intact token' login flow hlogin hflow).imp_right (hdeleting _ token')
      · intro m call' login' exitCode stdout hget hphase
        rcases Objects.get_add_eq_some hget with ⟨-, rfl⟩ | hold
        · obtain ⟨-, hwork⟩ := LoginPhase.awaiting.inj hphase
          cases operation with
          | pollDeviceLogin => cases hwork
          | cancelDeviceLogin => cases hwork
          | pollSetupTokenLogin => cases hwork
          | submitSetupTokenCode code => cases hwork
          | cancelSetupTokenLogin => cases hwork
        · exact h.deletes m call' login' exitCode stdout hold hphase
      · intro m call' hget hretries
        rcases Objects.get_add_eq_some hget with ⟨-, rfl⟩ | hold
        · obtain ⟨hcancel, -, hstopped, -⟩ := hretries
          obtain ⟨flow, hflow, hrunning⟩ := (Option.any_eq_true _ _).mp hstopped
          refine .inr ⟨login, .readPid (execFirst s.named), flow, ?_, ?_, ?_, ?_, ?_⟩
          · exact congrArg (LoginPhase.awaiting login) (isCancel_work hcancel s.named)
          · rw [(hok.logins token login hlogin).1]
            exact hflow
          · simpa using hrunning
          · exact Nat.zero_add _
          · intro exitCode stdout heq
            cases hnamed : s.named <;> rw [hnamed] at heq <;> cases heq
        · exact h.clean m call' hold hretries

/-- The calls after an await of one of them. -/
lemma resume_get {next : WorkNext} {kind : LoginKind} {m : ℕ} {call' : LoginCall}
    (h : (s.resume n token kind login next).calls.get m = some call')
    (hget : s.calls.get n = some call) : (m ≠ n ∧ s.calls.get m = some call') ∨
      (m = n ∧ call' = { call with phase := s.phaseAfter token kind login next }) := by
  rw [resume_calls] at h
  by_cases hm : m = n
  · subst hm
    rw [Objects.get_modify_of_some hget] at h
    exact .inr ⟨rfl, (Option.some.inj h).symm⟩
  · rw [Objects.get_modify_of_ne hm] at h
    exact .inl ⟨hm, h⟩

lemma resume_get_of_ne {next : WorkNext} {kind : LoginKind} {m : ℕ} (hm : m ≠ n) :
    (s.resume n token kind login next).calls.get m = s.calls.get m := by
  rw [resume_calls]
  exact Objects.get_modify_of_ne hm

/-- A sleeping stop wakes up. -/
lemma RetryOk.wake (h : RetryOk s) : RetryOk (s.wake n) := by
  rcases wake_cases s n with heq | ⟨call, login, deadline, hget, hphase, heq⟩
  · rw [heq]
    exact h
  · rw [heq]
    obtain ⟨hexecs, hnamed⟩ := resume_execs s n call.token call.operation.kind login
      (wakeStop s.clock deadline).work
    -- The stop has not deleted anything, and is none of a stopped process.
    have hdeletes : ∀ exitCode stdout login', s.phaseAfter call.token call.operation.kind login
        (wakeStop s.clock deadline).work ≠
          .awaiting login' (.stopping (.delete (.inspect exitCode stdout))) := by
      intro exitCode stdout login' hafter
      unfold wakeStop at hafter
      split_ifs at hafter
      · cases hafter
      · cases hafter
    refine ⟨fun token login' flow hlogin hflow => ?_, ?_, ?_⟩
    · rw [hexecs] at hflow
      refine (h.intact token login' flow (resume_logins hlogin) hflow).imp_right ?_
      rintro ⟨m, call', login'', exitCode, stdout, hget', hsame, hphase'⟩
      have hm : m ≠ n := by
        rintro rfl
        obtain rfl := Option.some.inj (hget'.symm.trans hget)
        rw [hphase] at hphase'
        cases hphase'
      exact ⟨m, call', login'', exitCode, stdout, (resume_get_of_ne hm).trans hget', hsame, hphase'⟩
    · intro m call' login' exitCode stdout hget' hphase'
      rcases resume_get hget' hget with ⟨-, hold⟩ | ⟨-, rfl⟩
      · exact h.deletes m call' login' exitCode stdout hold hphase'
      · exact absurd hphase' (hdeletes exitCode stdout login')
    · intro m call' hget' hretries
      rcases resume_get hget' hget with ⟨-, hold⟩ | ⟨-, rfl⟩
      · exact (h.clean m call' hold hretries).mono hnamed fun exec flow hflow hstopped =>
          ⟨flow, hexecs ▸ hflow, hstopped⟩
      · rcases h.clean n call hget hretries with hreturned | ⟨login', await, flow, hwaits, -⟩
        · rw [hphase] at hreturned
          cases hreturned
        · rw [hphase] at hwaits
          cases hwaits

/-- A call that waits for a request of a deletion meets the condition. -/
lemma DeletionReported.reports {point : ExecPoint} (h : DeletionReported s (.request n fate))
    (hget : s.calls.get n = some call)
    (hphase : call.phase = .awaiting login (.stopping (.delete point))) :
    reportsDeletion point fate = true := by
  obtain ⟨operation, token, phase, history⟩ := call
  cases hphase
  simp only [DeletionReported, deletionReported, hget] at h
  exact h

/-- The deletion that is under way for the handle of a cancel is its own. -/
lemma LoginsOk.deleting_self (hok : LoginsOk s) (hget : s.calls.get n = some call)
    (hphase : call.phase = .awaiting login work) (hcancel : call.operation.IsCancel)
    (h : s.Deleting call.token) :
    ∃ exitCode stdout, work = .stopping (.delete (.inspect exitCode stdout)) := by
  obtain ⟨m, call', login', exitCode, stdout, hget', hsame, hphase'⟩ := h
  obtain ⟨-, hwork⟩ := hok.calls m call' login' _ hget' hphase'
  obtain rfl := hok.oneStop m n call' call hget' hget ⟨hwork.isCancel, login', _, hphase'⟩
    ⟨hcancel, login, work, hphase⟩ hsame
  obtain rfl := Option.some.inj (hget'.symm.trans hget)
  rw [hphase] at hphase'
  exact ⟨exitCode, stdout, (LoginPhase.awaiting.inj hphase').2⟩

/-- The step of a request that is made. -/
structure Requested (s s' : LoginRuntime) (n : ℕ) (fate : Fate) (call : LoginCall)
    (login : InteractiveLogin) (work : LoginWork) (flow : FlowExec) (next : WorkNext) : Prop where
  get : s.calls.get n = some call
  phase : call.phase = .awaiting login work
  exec : login.exec = call.token
  found : s.execs.get call.token = some flow
  taken : (workRequest s.named s.clock flow fate work).1 = next
  self : ∃ t : LoginRuntime, s'.calls.get n = some { call with
    history := call.history.request flow fate work
    phase := t.phaseAfter call.token call.operation.kind login next }
  other : ∀ m, m ≠ n → s'.calls.get m = s.calls.get m
  execs : s'.execs = s.execs.modify call.token fun flow' =>
    { flow' with directory := (workRequest s.named s.clock flow fate work).2 }
  named : s'.named = s.named
  logins : ∀ token login', s'.interactiveLogins.get token = some login' →
    s.interactiveLogins.get token = some login'
  stopped : next = .stopped → s.interactiveLogins.get call.token = some login →
    s'.interactiveLogins.get call.token = none

lemma LoginsOk.requested (hok : LoginsOk s) (n : ℕ) (fate : Fate) : s.request n fate = s ∨
    ∃ call login work flow next,
      Requested s (s.request n fate) n fate call login work flow next := by
  rcases request_cases s n fate with heq | ⟨call, login, work, flow, hget, hphase, -, hflow, heq⟩
  · exact .inl heq
  · obtain ⟨hexec, -⟩ := hok.calls n call login work hget hphase
    refine .inr ⟨call, login, work, flow, (workRequest s.named s.clock flow fate work).1, ?_⟩
    rw [heq]
    have hcarried : (s.carry n login.exec flow fate work
        (workRequest s.named s.clock flow fate work).2).calls.get n =
        some { call with history := call.history.request flow fate work } :=
      Objects.get_modify_of_some hget
    obtain ⟨hexecs, hnamed⟩ := resume_execs (s.carry n login.exec flow fate work
      (workRequest s.named s.clock flow fate work).2) n call.token call.operation.kind login
      (workRequest s.named s.clock flow fate work).1
    exact {
      get := hget
      phase := hphase
      exec := hexec
      found := hexec ▸ hflow
      taken := rfl
      self := ⟨_, by
        rw [resume_calls]
        exact Objects.get_modify_of_some hcarried⟩
      other := fun m hm => (resume_get_of_ne hm).trans (Objects.get_modify_of_ne hm)
      execs := by
        rw [hexecs, ← hexec]
        rfl
      named := hnamed
      logins := fun token login' hlogin => by
        have hbefore := resume_logins hlogin
        exact hbefore
      stopped := fun hstopped hlogin => by
        rw [hstopped]
        exact resume_stopped hlogin }

namespace Requested

variable {s' : LoginRuntime} {next : WorkNext}

/-- The calls of other handles go on deleting, and those of this one but itself. -/
lemma deleting (r : Requested s s' n fate call login work flow next)
    (hwork : ∀ exitCode stdout, work ≠ .stopping (.delete (.inspect exitCode stdout)))
    (h : s.Deleting token) : s'.Deleting token := by
  obtain ⟨m, call', login', exitCode, stdout, hget, hsame, hphase⟩ := h
  have hm : m ≠ n := by
    rintro rfl
    obtain rfl := Option.some.inj (hget.symm.trans r.get)
    rw [r.phase] at hphase
    exact hwork exitCode stdout (LoginPhase.awaiting.inj hphase).2
  exact ⟨m, call', login', exitCode, stdout, (r.other m hm).trans hget, hsame, hphase⟩

/-- The deletion of another handle goes on. -/
lemma deleting_of_ne (r : Requested s s' n fate call login work flow next)
    (htoken : token ≠ call.token) (h : s.Deleting token) : s'.Deleting token := by
  obtain ⟨m, call', login', exitCode, stdout, hget, hsame, hphase⟩ := h
  have hm : m ≠ n := by
    rintro rfl
    obtain rfl := Option.some.inj (hget.symm.trans r.get)
    exact htoken hsame.symm
  exact ⟨m, call', login', exitCode, stdout, (r.other m hm).trans hget, hsame, hphase⟩

/-- An answered inspection of a deletion ends the stop. -/
lemma next_of_inspect (r : Requested s s' n fate call login work flow next) {stdout : String}
    (hwork : work = .stopping (.delete (.inspect 0 stdout))) (hfate : fate = .answered) :
    next = .stopped := by
  rw [← r.taken, hwork, hfate]
  rfl

lemma intact (r : Requested s s' n fate call login work flow next) (h : RetryOk s)
    (hok : LoginsOk s) (hreported : DeletionReported s (.request n fate))
    {login' : InteractiveLogin} {flow' : FlowExec} (hlogin : s'.interactiveLogins.get token = some login')
    (hflow : s'.execs.get token = some flow') : flow'.Intact ∨ s'.Deleting token := by
  rw [r.execs] at hflow
  obtain ⟨old, hold, rfl⟩ := Objects.get_modify_eq_some hflow
  have hlogin₀ := r.logins token login' hlogin
  split_ifs with htoken
  · subst htoken
    obtain rfl := Option.some.inj (hold.symm.trans r.found)
    by_cases hinspect : ∃ exitCode stdout, work = .stopping (.delete (.inspect exitCode stdout))
    · -- The deletion is reported: the handle is registered no more.
      obtain ⟨exitCode, stdout, rfl⟩ := hinspect
      obtain rfl := h.deletes n call login exitCode stdout r.get r.phase
      have hfate : fate = .answered := by
        have hseen := hreported.reports r.get r.phase
        cases fate with
        | answered => rfl
        | lost error => cases hseen
        | failed error => cases hseen
      obtain ⟨-, hwork⟩ := hok.calls n call login _ r.get r.phase
      obtain ⟨hregistered, -⟩ := hok.cancels n call login _ r.get r.phase hwork.isCancel
      rw [r.stopped (r.next_of_inspect rfl hfate) hregistered] at hlogin
      cases hlogin
    · have hnot : ∀ exitCode stdout, work ≠ .stopping (.delete (.inspect exitCode stdout)) :=
        fun exitCode stdout heq => hinspect ⟨exitCode, stdout, heq⟩
      rcases h.intact call.token login' old hlogin₀ hold with hintact | hdeleting
      · rcases workRequest_intact s.named s.clock fate work hintact with hkept | ⟨rfl, hfailed⟩
        · exact .inl hkept
        · right
          have hseen := hreported.reports r.get r.phase
          cases fate with
          | answered =>
              obtain ⟨t, hself⟩ := r.self
              let deleted := secureDeleteFlowArtifactsCommand old.kind.log old.directory
              have hnext : next =
                  .await (.stopping (.delete (.inspect deleted.exitCode deleted.stdout))) :=
                r.taken.symm
              rw [hnext] at hself
              exact ⟨n, _, login, deleted.exitCode, deleted.stdout, hself, rfl, rfl⟩
          | lost error => cases hseen
          | failed error => exact absurd rfl (hfailed error)
      · exact .inr (r.deleting hnot hdeleting)
  · exact (h.intact token login' old hlogin₀ hold).imp_right (r.deleting_of_ne htoken)

lemma deletes (r : Requested s s' n fate call login work flow next) (h : RetryOk s)
    (hok : LoginsOk s) {m : ℕ} {call' : LoginCall} {login' : InteractiveLogin} {exitCode : ℕ}
    {stdout : String} (hget : s'.calls.get m = some call')
    (hphase : call'.phase = .awaiting login' (.stopping (.delete (.inspect exitCode stdout)))) :
    exitCode = 0 := by
  by_cases hm : m = n
  · subst hm
    obtain ⟨t, hself⟩ := r.self
    obtain rfl := Option.some.inj (hget.symm.trans hself)
    have hnext : next = .await (.stopping (.delete (.inspect exitCode stdout))) := by
      cases next with
      | await work' => rw [(LoginPhase.awaiting.inj hphase).2]
      | logRead log => cases hphase
      | written result => cases hphase
      | stopped => cases hphase
      | threw error => cases hphase
    obtain ⟨rfl, hexit⟩ := workRequest_deleting (r.taken.trans hnext)
    obtain ⟨-, hwork⟩ := hok.calls m call login _ r.get r.phase
    obtain ⟨hregistered, -⟩ := hok.cancels m call login _ r.get r.phase hwork.isCancel
    rcases h.intact call.token login flow hregistered r.found with hintact | hdeleting
    · rw [hexit, hintact.delete]
    · obtain ⟨exitCode', stdout', heq⟩ := hok.deleting_self r.get r.phase hwork.isCancel hdeleting
      cases heq
  · rw [r.other m hm] at hget
    exact h.deletes m call' login' exitCode stdout hget hphase

/-- The processes that are stopped stay so. -/
lemma stays_stopped (r : Requested s s' n fate call login work flow next) (exec : ℕ)
    (flow' : FlowExec) (hflow : s.execs.get exec = some flow') (hstopped : flow'.running = false) :
    ∃ flow'', s'.execs.get exec = some flow'' ∧ flow''.running = false := by
  rw [r.execs]
  by_cases hexec : exec = call.token
  · subst hexec
    exact ⟨_, Objects.get_modify_of_some hflow, hstopped⟩
  · exact ⟨flow', (Objects.get_modify_of_ne hexec).trans hflow, hstopped⟩

lemma clean (r : Requested s s' n fate call login work flow next) (h : RetryOk s) (hok : LoginsOk s)
    {m : ℕ} {call' : LoginCall} (hget : s'.calls.get m = some call') (hretries : call'.Retries) :
    CleanCall s' call' := by
  by_cases hm : m = n
  · subst hm
    obtain ⟨t, hself⟩ := r.self
    obtain rfl := Option.some.inj (hget.symm.trans hself)
    obtain ⟨hcancel, hadmitted, hbefore, hanswered⟩ := hretries
    obtain ⟨hsofar, hfate⟩ := Bool.and_eq_true_iff.mp hanswered
    obtain rfl := of_decide_eq_true hfate
    rcases h.clean m call r.get ⟨hcancel, hadmitted, hbefore, hsofar⟩ with
      hreturned | ⟨login', await, flow', hwaits, hflow, hrunning, hclean⟩
    · rw [r.phase] at hreturned
      cases hreturned
    · rw [r.phase] at hwaits
      obtain ⟨rfl, rfl⟩ := LoginPhase.awaiting.inj hwaits
      rw [r.exec] at hflow
      obtain rfl := Option.some.inj (hflow.symm.trans r.found)
      obtain ⟨hregistered, -⟩ := hok.cancels m call login _ r.get r.phase hcancel
      have hintact : flow'.Intact ∨
          ∃ exitCode stdout, await = .delete (.inspect exitCode stdout) := by
        refine (h.intact call.token login flow' hregistered r.found).imp_right fun hdeleting => ?_
        obtain ⟨exitCode, stdout, heq⟩ := hok.deleting_self r.get r.phase hcancel hdeleting
        exact ⟨exitCode, stdout, LoginWork.stopping.inj heq⟩
      have hdeletes : ∀ exitCode stdout, await = .delete (.inspect exitCode stdout) →
          exitCode = 0 := by
        rintro exitCode stdout rfl
        exact h.deletes m call login exitCode stdout r.get r.phase
      have hnext : (stopRequest s.named s.clock flow' .answered await).1.work = next := r.taken
      rcases cleanStop_request s.clock hclean hrunning hintact hdeletes with
        ⟨await', heq, hclean'⟩ | heq
      · rw [heq] at hnext
        obtain ⟨flow'', hflow'', hrunning'⟩ := r.stays_stopped call.token flow' r.found hrunning
        refine .inr ⟨login, await', flow'', ?_, r.exec ▸ hflow'', hrunning', r.named ▸ hclean'⟩
        rw [← hnext]
        rfl
      · rw [heq] at hnext
        left
        rw [← hnext]
        rfl
  · rw [r.other m hm] at hget
    exact (h.clean m call' hget hretries).mono r.named r.stays_stopped

end Requested

/-- A request of a call. -/
lemma RetryOk.request (h : RetryOk s) (hok : LoginsOk s)
    (hreported : DeletionReported s (.request n fate)) : RetryOk (s.request n fate) := by
  rcases hok.requested n fate with heq | ⟨call, login, work, flow, next, r⟩
  · rw [heq]
    exact h
  · exact ⟨fun _ _ _ hlogin hflow => r.intact h hok hreported hlogin hflow,
      fun _ _ _ _ _ hget hphase => r.deletes h hok hget hphase,
      fun _ _ hget hretries => r.clean h hok hget hretries⟩

lemma retryOk_empty (named : Bool) : RetryOk (.empty named) where
  intact _ _ _ h := by cases h
  deletes _ _ _ _ _ h := by cases h
  clean _ _ h := by cases h

/-- An event that reports its deletion keeps the retries going. -/
lemma RetryOk.step (h : RetryOk s) (hok : LoginsOk s) {event : LoginEvent}
    (hreported : DeletionReported s event) : RetryOk (s.step event) := by
  cases event with
  | begin kind running control => exact h.begin kind running control
  | call operation token => exact h.made hok operation
  | request n fate => exact h.request hok hreported
  | wake n => exact h.wake
  | output exec text => exact h.output exec text
  | exits exec => exact h.exits exec
  | tick ms => exact ⟨h.intact, h.deletes, h.clean⟩

end Retries

/-! ### The laws of the runs -/

/-- **The verified stop**: in every run a handle leaves only with a cancel that Docker has
confirmed, at most one stop of it is in flight, and no call on it answers ok meanwhile; and in every
run that reports its deletions, a cancel of a stopped process whose requests are answered returns
ok. -/
theorem verified_stop (named : Bool) (events : List LoginEvent) :
    loginMachine.Always (fun s => s.LeftCancelled ∧ s.OneStop) (.empty named) events ∧
      loginMachine.EachStep AnswersAlone (.empty named) events ∧
      (loginMachine.EachStep DeletionReported (.empty named) events →
        loginMachine.Always LoginRuntime.RetriesSucceed (.empty named) events) := by
  have hstep : ∀ s event, LoginsOk s → LoginsOk (loginMachine.step s event) :=
    fun _ event hok => hok.step event
  have hempty := loginsOk_empty named
  refine ⟨?_, ?_, fun hreported => ?_⟩
  · exact (EventMachine.always_of_invariant hstep hempty).mono fun s hok => ⟨hok.left, hok.oneStop⟩
  · exact EventMachine.eachStep_of_invariant hstep (fun _ event hok => hok.answersAlone event)
      hempty
  · have hboth := EventMachine.always_of_eachStep
      (fun s event (h : LoginsOk s ∧ RetryOk s) hC => ⟨h.1.step event, h.2.step h.1 hC⟩)
      ⟨hempty, retryOk_empty named⟩ hreported
    exact hboth.mono fun s h => h.2.retriesSucceed

namespace LoginSample

def failure : DomainError := ⟨"provisioning.docker.requestFailed", "Docker API request failed."⟩

/-- A login whose process has exited, and a cancel that gets to the inspection of its deletion. -/
def deleted : List LoginEvent :=
  [.begin .device false "7\n", .call .cancelDeviceLogin 0, .request 0 .answered,
    .request 0 .answered, .request 0 .answered, .request 0 .answered, .request 0 .answered,
    .request 0 .answered, .request 0 .answered]

/-- A login whose first cancel fails, and whose second one is answered. -/
def retried : List LoginEvent :=
  [.begin .device false "7\n", .call .cancelDeviceLogin 0, .request 0 (.failed failure),
    .call .cancelDeviceLogin 0, .request 1 .answered, .request 1 .answered, .request 1 .answered,
    .request 1 .answered, .request 1 .answered, .request 1 .answered, .request 1 .answered,
    .request 1 .answered]

/-- The answer of the inspection is lost, and the cancel made again. -/
def lost : List LoginEvent :=
  deleted ++ [.request 0 (.lost failure), .call .cancelDeviceLogin 0, .request 1 .answered,
    .request 1 .answered, .request 1 .answered]

/-- Whether a call has returned, and how. -/
def outcomeOf (call : LoginCall) : Option Bool :=
  match call.phase with
  | .awaiting _ _ => none
  | .returned (.ok _) => some true
  | .returned (.error _) => some false

end LoginSample

open LoginSample

/-- A cancel that failed before the deletion is made again, and returns ok. -/
theorem verified_stop_retried :
    loginMachine.EachStep DeletionReported (.empty true) retried ∧
      loginMachine.Always LoginRuntime.RetriesSucceed (.empty true) retried ∧
      ((loginMachine.outcome (.empty true) retried).calls.get 1).map outcomeOf =
        some (some true) := by
  have hreported : loginMachine.EachStep DeletionReported (.empty true) retried := by
    decide
  exact ⟨hreported, (verified_stop true retried).2.2 hreported, by decide⟩

/-- A cancel whose deletion was carried out and not reported: the files are gone, so that the next
cancel cannot read the control pid. -/
theorem retry_blocked : ¬ ∀ (named : Bool) (events : List LoginEvent),
    loginMachine.Always LoginRuntime.RetriesSucceed (.empty named) events := by
  intro h
  have hlast : (loginMachine.outcome (.empty true) lost).RetriesSucceed := (h true lost).outcome
  have hcall : ((loginMachine.outcome (.empty true) lost).calls.get 1).any (fun call =>
      decide (call.Retries ∧ outcomeOf call = some false)) = true := by
    decide
  obtain ⟨call, hget, hboth⟩ := (Option.any_eq_true _ _).mp hcall
  obtain ⟨hretries, hfailed⟩ := of_decide_eq_true hboth
  rcases hlast 1 call hget hretries with hreturned | ⟨-, login, await, flow, hphase, -⟩
  · rw [outcomeOf, hreturned] at hfailed
    cases hfailed
  · rw [outcomeOf, hphase] at hfailed
    cases hfailed

end Opzava.Provisioning
