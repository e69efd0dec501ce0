import Opzava.Provisioning.ProviderWrites

/-!
What holds of the provisioning port in every run: the reservations, the tail, and what links them.

* `ReservationsOk`: the counters are those of the open sections.
* `TailOk`: the jobs of the tail are those that have not settled, and only the first has begun.
* `LinksOk`: the section that waits for a job is open until the job has settled.
* `portOk_step`: they hold in every run.
* `provider_write_reservation`: the reservations over whole runs.
-/

namespace Opzava.Provisioning

open Opzava.Library
open DevBoard (DomainError)

/-- The job has settled. -/
def JobPoint.isSettled : JobPoint → Bool
  | .settled => true
  | _ => false

/-- The counter of a key is the number of open sections that hold it, of which at most one took it
when it was free. -/
structure ReservationsOk (counters : OrderedMap String ℕ) (sections : Objects ProviderSection) :
    Prop where
  counted : ∀ key, (counters.get key).getD 0 = sections.count (·.holds key)
  exclusive : ∀ key, sections.count (·.holdsExclusively key) ≤ 1

/-- The jobs of the tail are those that have not settled; all but the first wait for their turn. -/
structure TailOk (jobs : Objects OrchestratorJob) (tail : List ℕ) : Prop where
  unsettled : ∀ j, j ∈ tail ↔ ∃ job, jobs.get j = some job ∧ job.point.isSettled = false
  nodup : tail.Nodup
  waiting : ∀ j ∈ tail.tail, ∀ job, jobs.get j = some job → job.point = .waiting

/-- The section is one that can wait for the work. -/
def HolderOf (entry : ProviderSection) : OrchestratorWork → Prop
  | .reconcile .. => entry.kind ≠ .election
  | .election _ job =>
      entry.kind = .election ∧ entry.key = configWriteKey job.input.principal.orgId

/-- The section that waits for a job is open until the job has settled. -/
def LinksOk (jobs : Objects OrchestratorJob) (sections : Objects ProviderSection) : Prop :=
  ∀ j job n, jobs.get j = some job → job.point.isSettled = false → job.work.holder = some n →
    ∃ entry, sections.get n = some entry ∧ entry.await = some (.settlement j) ∧
      HolderOf entry job.work

/-- Only the sections of delegations rebuild the orchestrator themselves. -/
def RebuildsOk (sections : Objects ProviderSection) : Prop :=
  ∀ n entry point, sections.get n = some entry → entry.await = some (.rebuild point) →
    entry.kind = .delegation

structure PortOk (port : ConnectionsPort) : Prop where
  reservations : ReservationsOk port.providerCredentialWrites port.sections
  tail : TailOk port.jobs port.tail
  links : LinksOk port.jobs port.sections
  rebuilds : RebuildsOk port.sections

lemma portOk_new : PortOk .new where
  reservations := ⟨fun _ => rfl, fun _ => Nat.zero_le 1⟩
  tail := by
    constructor
    · intro j
      constructor
      · intro h
        cases h
      · rintro ⟨job, hget, -⟩
        cases hget
    · exact List.nodup_nil
    · intro j h
      cases h
  links := fun j job n h => by cases h
  rebuilds := fun n entry point h => by cases h

namespace ConnectionsPort

variable {port : ConnectionsPort} {key : String} {kind : ProviderSectionKind}
  {await old : SectionAwait} {n j : ℕ} {job : OrchestratorJob} {work : OrchestratorWork}

/-! ### The counters -/

lemma writes_acquireProviderWrite (key' : String) :
    (port.acquireProviderWrite key).writes key' =
      port.writes key' + if key' = key then 1 else 0 := by
  by_cases hkey : key' = key
  · subst hkey
    rw [if_pos rfl, acquireProviderWrite, writes, OrderedMap.get_set_self, Option.getD_some]
  · rw [if_neg hkey, acquireProviderWrite, writes, OrderedMap.get_set_of_ne _ _ hkey, writes]
    rfl

lemma writes_releaseProviderWrite (key' : String) :
    (port.releaseProviderWrite key).writes key' =
      port.writes key' - if key' = key then 1 else 0 := by
  unfold releaseProviderWrite
  split_ifs with hcount hkey hkey
  · subst hkey
    rw [writes, OrderedMap.get_delete_self, Option.getD_none]
    omega
  · rw [writes, OrderedMap.get_delete_of_ne _ hkey, writes]
    rfl
  · subst hkey
    rw [writes, OrderedMap.get_set_self, Option.getD_some]
  · rw [writes, OrderedMap.get_set_of_ne _ _ hkey, writes]
    rfl

variable (port key) in
lemma releaseProviderWrite_frame :
    (port.releaseProviderWrite key).sections = port.sections ∧
      (port.releaseProviderWrite key).jobs = port.jobs ∧
      (port.releaseProviderWrite key).tail = port.tail := by
  unfold releaseProviderWrite
  split_ifs
  · exact ⟨rfl, rfl, rfl⟩
  · exact ⟨rfl, rfl, rfl⟩

/-! ### Reservations -/

lemma reservationsOk_openSection (h : PortOk port)
    (hfree : kind.isExclusive = true → port.writes key = 0) :
    ReservationsOk (port.openSection kind key await).providerCredentialWrites
      (port.openSection kind key await).sections := by
  constructor
  · intro key'
    change (port.acquireProviderWrite key).writes key' = (port.sections.add _).count _
    rw [writes_acquireProviderWrite, Objects.count_add, ← h.reservations.counted key']
    simp [ProviderSection.holds, eq_comm, writes]
  · intro key'
    change (port.sections.add _).count _ ≤ 1
    rw [Objects.count_add]
    split_ifs with hholds
    · -- Nobody holds the key that an exclusive section takes.
      simp only [ProviderSection.holdsExclusively, ProviderSection.holds, Option.isSome_some,
        Bool.true_and, Bool.and_eq_true, decide_eq_true_eq] at hholds
      obtain ⟨rfl, hkind⟩ := hholds
      have hnone : port.sections.count (·.holds key) = 0 := by
        rw [← h.reservations.counted]
        exact hfree hkind
      have hle : port.sections.count (·.holdsExclusively key) ≤
          port.sections.count (·.holds key) :=
        Objects.count_mono fun entry hentry => (Bool.and_eq_true_iff.mp hentry).1
      omega
    · exact h.reservations.exclusive key'

lemma reservationsOk_awaitNext (h : PortOk port)
    (hget : port.sections.get n = some ⟨kind, key, some old⟩) :
    ReservationsOk (port.awaitNext n await).providerCredentialWrites
      (port.awaitNext n await).sections := by
  have hsame : ∀ p : ProviderSection → Bool, (∀ entry : ProviderSection,
      entry.await.isSome = true → p { entry with await := some await } = p entry) →
      (port.awaitNext n await).sections.count p = port.sections.count p := by
    intro p hp
    refine Objects.count_modify_of_eq fun entry hentry => hp entry ?_
    rw [hget, Option.some_inj] at hentry
    rw [← hentry, Option.isSome_some]
  have hholds : ∀ key' (entry : ProviderSection), entry.await.isSome = true →
      ProviderSection.holds key' { entry with await := some await } = entry.holds key' := by
    intro key' entry hopen
    simp [ProviderSection.holds, hopen]
  constructor
  · intro key'
    rw [hsame _ (hholds key')]
    exact h.reservations.counted key'
  · intro key'
    rw [hsame _ fun entry hopen => by
      rw [ProviderSection.holdsExclusively, hholds key' entry hopen,
        ProviderSection.holdsExclusively]]
    exact h.reservations.exclusive key'

lemma sections_closeSection : (port.closeSection n key).sections =
    port.sections.modify n fun entry => { entry with await := none } := rfl

lemma reservationsOk_closeSection (h : ReservationsOk port.providerCredentialWrites port.sections)
    (hget : port.sections.get n = some ⟨kind, key, some await⟩) :
    ReservationsOk (port.closeSection n key).providerCredentialWrites
      (port.closeSection n key).sections := by
  rw [sections_closeSection]
  constructor
  · intro key'
    have hcount := Objects.count_modify (f := fun entry => { entry with await := none })
      (p := (·.holds key')) hget
    change (port.releaseProviderWrite key).writes key' = _
    rw [writes_releaseProviderWrite, writes, h.counted key']
    simp only [ProviderSection.holds, Option.isSome_some, Option.isSome_none, Bool.false_and,
      Bool.true_and, Bool.false_eq_true, if_false, decide_eq_true_eq, add_zero,
      eq_comm (a := key)] at hcount ⊢
    omega
  · intro key'
    have hcount := Objects.count_modify (f := fun entry => { entry with await := none })
      (p := (·.holdsExclusively key')) hget
    have hold := h.exclusive key'
    simp only [ProviderSection.holdsExclusively, ProviderSection.holds, Option.isSome_none,
      Bool.false_and, Bool.false_eq_true, if_false, add_zero] at hcount hold ⊢
    omega

/-! ### The tail -/

lemma head_eq_some : port.head = some (j, job) ↔
    port.tail.head? = some j ∧ port.jobs.get j = some job := by
  unfold head
  constructor
  · intro h
    obtain ⟨j', hj, hmap⟩ := Option.bind_eq_some_iff.mp h
    obtain ⟨job', hjob, heq⟩ := Option.map_eq_some_iff.mp hmap
    obtain ⟨rfl, rfl⟩ := Prod.mk.inj heq
    exact ⟨hj, hjob⟩
  · rintro ⟨hj, hjob⟩
    rw [hj, Option.bind_some, hjob, Option.map_some]

end ConnectionsPort

section Tail

variable {jobs : Objects OrchestratorJob} {tail : List ℕ} {sections : Objects ProviderSection}
  {j n : ℕ} {job : OrchestratorJob} {work : OrchestratorWork}
  {f : OrchestratorJob → OrchestratorJob} {g : ProviderSection → ProviderSection}

lemma tailOk_add (h : TailOk jobs tail) :
    TailOk (jobs.add ⟨work, .waiting, []⟩) (tail ++ [jobs.next]) := by
  have hlt : ∀ j ∈ tail, j < jobs.next := by
    intro j hj
    obtain ⟨job, hget, -⟩ := (h.unsettled j).mp hj
    exact Objects.lt_next hget
  constructor
  · intro j
    rw [List.mem_append, List.mem_singleton, h.unsettled j]
    constructor
    · rintro (⟨job, hget, hjob⟩ | rfl)
      · exact ⟨job, Objects.get_add_of_some hget, hjob⟩
      · exact ⟨_, Objects.get_add_next, rfl⟩
    · rintro ⟨job, hget, hjob⟩
      rcases Objects.get_add_eq_some hget with ⟨rfl, -⟩ | hold
      · exact .inr rfl
      · exact .inl ⟨job, hold, hjob⟩
  · refine List.nodup_append.mpr ⟨h.nodup, List.nodup_singleton _, fun j hj m hm heq => ?_⟩
    rw [List.mem_singleton] at hm
    exact absurd (hlt j hj) (by omega)
  · intro j hj job hget
    rcases Objects.get_add_eq_some hget with ⟨-, rfl⟩ | hold
    · rfl
    · refine h.waiting j ?_ job hold
      cases tail with
      | nil => cases hj
      | cons first rest =>
          rcases List.mem_append.mp hj with hrest | hnew
          · exact hrest
          · rw [List.mem_singleton] at hnew
            exact absurd (Objects.lt_next hold) (by omega)

lemma ne_head_of_mem_tail (h : TailOk jobs tail) (hhead : tail.head? = some j) {j' : ℕ}
    (hj' : j' ∈ tail.tail) : j' ≠ j := by
  cases tail with
  | nil => cases hhead
  | cons first rest =>
      obtain rfl := Option.some.inj hhead
      exact fun heq => (List.nodup_cons.mp h.nodup).1 (heq ▸ hj')

lemma mem_of_head (hhead : tail.head? = some j) : j ∈ tail :=
  List.mem_of_mem_head? hhead

/-- The first job goes on. -/
lemma tailOk_modify (h : TailOk jobs tail) (hhead : tail.head? = some j)
    (hf : ∀ job, (f job).point.isSettled = false) : TailOk (jobs.modify j f) tail := by
  constructor
  · intro j'
    rw [h.unsettled j']
    by_cases hj : j' = j
    · subst hj
      obtain ⟨job, hget, hjob⟩ := (h.unsettled j').mp (mem_of_head hhead)
      exact ⟨fun _ => ⟨f job, Objects.get_modify_of_some hget, hf job⟩, fun _ => ⟨job, hget, hjob⟩⟩
    · rw [Objects.get_modify_of_ne hj]
  · exact h.nodup
  · intro j' hj' job hget
    rw [Objects.get_modify_of_ne (ne_head_of_mem_tail h hhead hj')] at hget
    exact h.waiting j' hj' job hget

/-- The first job settles. -/
lemma tailOk_retire (h : TailOk jobs tail) (hhead : tail.head? = some j) :
    TailOk (jobs.modify j fun job => { job with point := .settled }) tail.tail := by
  constructor
  · intro j'
    by_cases hj : j' = j
    · subst hj
      constructor
      · exact fun hmem => absurd rfl (ne_head_of_mem_tail h hhead hmem)
      · rintro ⟨job, hget, hjob⟩
        obtain ⟨old, -, rfl⟩ := Objects.get_modify_eq_some hget
        rw [if_pos rfl] at hjob
        cases hjob
    · rw [Objects.get_modify_of_ne hj, ← h.unsettled j']
      cases tail with
      | nil => exact Iff.rfl
      | cons first rest =>
          obtain rfl := Option.some.inj hhead
          simp [hj]
  · exact h.nodup.sublist (List.tail_sublist _)
  · intro j' hj' job hget
    have hmem : j' ∈ tail.tail := List.mem_of_mem_tail hj'
    rw [Objects.get_modify_of_ne (ne_head_of_mem_tail h hhead hmem)] at hget
    exact h.waiting j' hmem job hget

/-! ### Links -/

lemma linksOk_addSection {entry : ProviderSection} (h : LinksOk jobs sections) :
    LinksOk jobs (sections.add entry) := by
  intro j job n hget hjob hholder
  obtain ⟨holder, hsection, hrest⟩ := h j job n hget hjob hholder
  exact ⟨holder, Objects.get_add_of_some hsection, hrest⟩

/-- A section changes that waits for no job, or for one that has settled. -/
lemma linksOk_modifySection (h : LinksOk jobs sections)
    (hnot : ∀ entry j job, sections.get n = some entry → entry.await = some (.settlement j) →
      jobs.get j = some job → job.point.isSettled = true) :
    LinksOk jobs (sections.modify n g) := by
  intro j job m hget hjob hholder
  obtain ⟨holder, hsection, hawait, hrest⟩ := h j job m hget hjob hholder
  have hne : m ≠ n := by
    rintro rfl
    rw [hnot holder j job hsection hawait hget] at hjob
    cases hjob
  exact ⟨holder, (Objects.get_modify_of_ne hne).trans hsection, hawait, hrest⟩

/-- A job is added for which a section waits, if it is for any. -/
lemma linksOk_addJob (h : LinksOk jobs sections)
    (hholder : ∀ n, work.holder = some n → ∃ entry, sections.get n = some entry ∧
      entry.await = some (.settlement jobs.next) ∧ HolderOf entry work) :
    LinksOk (jobs.add ⟨work, .waiting, []⟩) sections := by
  intro j job n hget hjob hjobholder
  rcases Objects.get_add_eq_some hget with ⟨rfl, rfl⟩ | hold
  · exact hholder n hjobholder
  · exact h j job n hold hjob hjobholder

/-- A job goes on, or settles. -/
lemma linksOk_modifyJob (h : LinksOk jobs sections) (hwork : ∀ job, (f job).work = job.work)
    (hunsettled : ∀ job, jobs.get j = some job → job.point.isSettled = false) :
    LinksOk (jobs.modify j f) sections := by
  intro j' job n hget hjob hholder
  obtain ⟨old, hold, rfl⟩ := Objects.get_modify_eq_some hget
  by_cases hj : j' = j
  · subst hj
    rw [if_pos rfl, hwork] at hholder ⊢
    exact h j' old n hold (hunsettled old hold) hholder
  · rw [if_neg hj] at hjob hholder ⊢
    exact h j' old n hold hjob hholder

lemma rebuildsOk_add {entry : ProviderSection} (h : RebuildsOk sections)
    (hentry : ∀ point, entry.await = some (.rebuild point) → entry.kind = .delegation) :
    RebuildsOk (sections.add entry) := by
  intro n entry' point hget hawait
  rcases Objects.get_add_eq_some hget with ⟨-, rfl⟩ | hold
  · exact hentry point hawait
  · exact h n entry' point hold hawait

lemma rebuildsOk_modify {await : Option SectionAwait} (h : RebuildsOk sections)
    (hkind : ∀ entry point, sections.get n = some entry → await = some (.rebuild point) →
      entry.kind = .delegation) :
    RebuildsOk (sections.modify n fun entry => { entry with await := await }) := by
  intro m entry point hget hawait
  obtain ⟨old, hold, rfl⟩ := Objects.get_modify_eq_some hget
  split_ifs at hawait ⊢ with hm
  · subst hm
    exact hkind old point hold hawait
  · exact h m old point hold hawait

end Tail

/-! ### Steps -/

namespace ConnectionsPort

variable {port : ConnectionsPort} {key : String} {kind : ProviderSectionKind}
  {await old : SectionAwait} {n j : ℕ} {job : OrchestratorJob} {work : OrchestratorWork}

lemma portOk_openSection (h : PortOk port) (hfree : kind.isExclusive = true → port.writes key = 0)
    (hrebuild : ∀ point, await = .rebuild point → kind = .delegation) :
    PortOk (port.openSection kind key await) where
  reservations := reservationsOk_openSection h hfree
  tail := h.tail
  links := linksOk_addSection h.links
  rebuilds := rebuildsOk_add h.rebuilds fun point heq => hrebuild point (Option.some.inj heq)

lemma portOk_awaitNext (h : PortOk port)
    (hget : port.sections.get n = some ⟨kind, key, some old⟩)
    (hsettled : ∀ j job, old = .settlement j → port.jobs.get j = some job →
      job.point.isSettled = true)
    (hrebuild : ∀ point, await = .rebuild point → kind = .delegation) :
    PortOk (port.awaitNext n await) where
  reservations := reservationsOk_awaitNext h hget
  tail := h.tail
  links := by
    refine linksOk_modifySection h.links fun entry j job hentry hawait => ?_
    rw [hget, Option.some_inj] at hentry
    subst hentry
    exact hsettled j job (Option.some.inj hawait)
  rebuilds := by
    refine rebuildsOk_modify h.rebuilds fun entry point hentry heq => ?_
    rw [hget, Option.some_inj] at hentry
    subst hentry
    exact hrebuild point (Option.some.inj heq)

lemma portOk_closeSection (h : PortOk port)
    (hget : port.sections.get n = some ⟨kind, key, some old⟩)
    (hsettled : ∀ j job, old = .settlement j → port.jobs.get j = some job →
      job.point.isSettled = true) :
    PortOk (port.closeSection n key) := by
  obtain ⟨-, hjobs, htail⟩ := releaseProviderWrite_frame port key
  constructor
  · exact reservationsOk_closeSection h.reservations hget
  · change TailOk (port.releaseProviderWrite key).jobs (port.releaseProviderWrite key).tail
    rw [hjobs, htail]
    exact h.tail
  · change LinksOk (port.releaseProviderWrite key).jobs _
    rw [hjobs, sections_closeSection]
    refine linksOk_modifySection h.links fun entry j job hentry hawait => ?_
    rw [hget, Option.some_inj] at hentry
    subst hentry
    exact hsettled j job (Option.some.inj hawait)
  · rw [sections_closeSection]
    exact rebuildsOk_modify h.rebuilds fun entry point hentry heq => by cases heq

lemma portOk_enqueue (h : PortOk port)
    (hholder : ∀ n, work.holder = some n → ∃ entry, port.sections.get n = some entry ∧
      entry.await = some (.settlement port.jobs.next) ∧ HolderOf entry work) :
    PortOk (port.enqueueOrchestratorWork work) where
  reservations := h.reservations
  tail := tailOk_add h.tail
  links := linksOk_addJob h.links hholder
  rebuilds := h.rebuilds

lemma unsettled_of_head (h : PortOk port) (hhead : port.head = some (j, job)) :
    job.point.isSettled = false := by
  obtain ⟨hj, hget⟩ := head_eq_some.mp hhead
  obtain ⟨job', hget', hjob'⟩ := (h.tail.unsettled j).mp (mem_of_head hj)
  rw [hget, Option.some_inj] at hget'
  rwa [hget']

/-- The first job of the tail goes on. -/
lemma portOk_modifyHead {f : OrchestratorJob → OrchestratorJob} (h : PortOk port)
    (hhead : port.head = some (j, job)) (hwork : ∀ job, (f job).work = job.work)
    (hf : ∀ job, (f job).point.isSettled = false) :
    PortOk { port with jobs := port.jobs.modify j f } where
  reservations := h.reservations
  tail := tailOk_modify h.tail (head_eq_some.mp hhead).1 hf
  links := by
    refine linksOk_modifyJob h.links hwork fun job' hget => ?_
    rw [(head_eq_some.mp hhead).2, Option.some_inj] at hget
    exact hget ▸ unsettled_of_head h hhead
  rebuilds := h.rebuilds

lemma portOk_setPoint (point : JobPoint) (h : PortOk port) (hhead : port.head = some (j, job))
    (hpoint : point.isSettled = false) : PortOk (port.setPoint j point) :=
  portOk_modifyHead h hhead (fun _ => rfl) fun _ => hpoint

lemma portOk_retireJob (h : PortOk port) (hhead : port.head = some (j, job)) :
    PortOk (port.retireJob j) where
  reservations := h.reservations
  tail := tailOk_retire h.tail (head_eq_some.mp hhead).1
  links := by
    refine linksOk_modifyJob h.links (fun _ => rfl) fun job' hget => ?_
    rw [(head_eq_some.mp hhead).2, Option.some_inj] at hget
    exact hget ▸ unsettled_of_head h hhead
  rebuilds := h.rebuilds

/-! ### Sections -/

lemma portOk_startExclusive {orgId : String} {busy : Bool} (h : PortOk port)
    (hrebuild : ∀ point, await = .rebuild point → kind = .delegation) :
    PortOk (port.startExclusive kind orgId busy await) := by
  unfold startExclusive
  split_ifs with hbusy
  · exact h
  · refine portOk_openSection h (fun _ => ?_) hrebuild
    simp only [providerWriteReserved, Bool.or_eq_true, decide_eq_true_eq, not_or, not_lt] at hbusy
    omega

lemma portOk_finalizeModelProviderFlow {orgId providerId : String} {now : Date} (h : PortOk port) :
    PortOk (port.finalizeModelProviderFlow orgId providerId now) := by
  refine portOk_enqueue (portOk_openSection h (fun hkind => by cases hkind)
    fun point hpoint => by cases hpoint) fun n hholder => ?_
  obtain rfl := Option.some.inj hholder
  exact ⟨_, Objects.get_add_next, rfl, fun hkind => by cases hkind⟩

lemma portOk_stopDeviceFlow {orgId : String} (h : PortOk port) :
    PortOk (port.stopDeviceFlow orgId) :=
  portOk_openSection h (fun hkind => by cases hkind) fun point hpoint => by cases hpoint

lemma settlement_of_follows {next : SectionAwait} (h : old.follows next = true) :
    ∀ j, old ≠ .settlement j := by
  rintro j rfl
  cases h

lemma rebuild_of_follows {point : RebuildAwait} (h : old.follows (.rebuild point) = true) :
    ∃ point', old = .rebuild point' := by
  cases old with
  | rebuild point' => exact ⟨point', rfl⟩
  | _ => cases h

lemma portOk_proceedSection {next : SectionAwait} (h : PortOk port) :
    PortOk (port.proceedSection n next) := by
  unfold proceedSection
  split
  · next kind key await hget =>
      split_ifs with hfollows
      · refine portOk_awaitNext h hget
          (fun j job heq => absurd heq (settlement_of_follows hfollows j)) ?_
        rintro point rfl
        obtain ⟨point', rfl⟩ := rebuild_of_follows hfollows
        exact h.rebuilds n _ point' hget rfl
      · exact h
  · exact h

lemma settlement_of_endsWith {result : SectionResult} (h : old.endsWith result = true) :
    ∀ j, old ≠ .settlement j := by
  rintro j rfl
  cases h

lemma portOk_endSection {result : SectionResult} {now : Date} (h : PortOk port)
    (hget : port.sections.get n = some ⟨kind, key, some old⟩)
    (hends : old.endsWith result = true) :
    PortOk (port.endSection n kind key old result now) := by
  have hnot : ∀ j job, old = .settlement j → port.jobs.get j = some job →
      job.point.isSettled = true :=
    fun j job heq => absurd heq (settlement_of_endsWith hends j)
  have hclose : PortOk (port.closeSection n key) := portOk_closeSection h hget hnot
  -- A rebuild that nobody waits for is queued, and the section closes.
  have hqueued : ∀ providerId, PortOk ((port.enqueueOrchestratorWork
      (.reconcile none .disconnect providerId now)).closeSection n key) := by
    intro providerId
    refine portOk_closeSection (portOk_enqueue h fun m hm => by cases hm) hget ?_
    exact fun j job heq => absurd heq (settlement_of_endsWith hends j)
  unfold endSection
  split
  · next providerId =>
      refine portOk_enqueue (portOk_awaitNext h hget hnot fun point hpoint => by cases hpoint)
        fun m hm => ?_
      obtain rfl := Option.some.inj hm
      exact ⟨_, Objects.get_modify_of_some hget, rfl, fun hkind => by cases hkind⟩
  · exact hqueued _
  · exact hqueued _
  · exact ⟨hclose.reservations, hclose.tail, hclose.links, hclose.rebuilds⟩
  · exact hclose

lemma portOk_answerSection {result : SectionResult} {now : Date} (h : PortOk port) :
    PortOk (port.answerSection n result now) := by
  unfold answerSection
  split
  · next kind key await hget =>
      split_ifs with hends
      · exact portOk_endSection h hget hends
      · exact h
  · exact h

lemma isSettled_eq_true (h : port.isSettled j = true) (hget : port.jobs.get j = some job) :
    job.point.isSettled = true := by
  obtain ⟨work, point, payloads⟩ := job
  rw [isSettled, hget] at h
  cases point with
  | settled => rfl
  | _ => cases h

lemma portOk_takeSettlement (h : PortOk port) : PortOk (port.takeSettlement n) := by
  unfold takeSettlement
  split
  · next kind key j hget =>
      split_ifs with hsettled
      · have hjob : ∀ j' job, SectionAwait.settlement j = .settlement j' →
            port.jobs.get j' = some job → job.point.isSettled = true := by
          intro j' job heq hjob
          obtain rfl := SectionAwait.settlement.inj heq
          exact isSettled_eq_true hsettled hjob
        split
        · exact portOk_awaitNext h hget hjob fun point hpoint => by cases hpoint
        · exact portOk_closeSection h hget hjob
      · exact h
  · exact h

/-! ### Elections -/

variable {input : SetMainOrchestratorInput} {c : ℕ}
  {result : Except DomainError OrchestratorDelegationState}

lemma portOk_answerCall (h : PortOk port) : PortOk (port.answerCall c input result) := by
  cases result with
  | ok state => exact ⟨h.reservations, h.tail, h.links, h.rebuilds⟩
  | error error => exact ⟨h.reservations, h.tail, h.links, h.rebuilds⟩

lemma portOk_answerNewCall (h : PortOk port) : PortOk (port.answerNewCall input result) := by
  cases result with
  | ok state => exact ⟨h.reservations, h.tail, h.links, h.rebuilds⟩
  | error error => exact ⟨h.reservations, h.tail, h.links, h.rebuilds⟩

lemma portOk_setCallPoint {point : SetMainPoint} (h : PortOk port) :
    PortOk (port.setCallPoint c point) :=
  ⟨h.reservations, h.tail, h.links, h.rebuilds⟩

lemma portOk_setMainOrchestrator (h : PortOk port) : PortOk (port.setMainOrchestrator input) := by
  unfold setMainOrchestrator
  split
  · split
    · exact portOk_answerNewCall h
    · split
      · exact portOk_answerNewCall h
      · exact ⟨h.reservations, h.tail, h.links, h.rebuilds⟩
  · exact portOk_answerNewCall h

lemma portOk_takePreflightConfig {answer : Answer Json} (h : PortOk port) :
    PortOk (port.takePreflightConfig c answer) := by
  unfold takePreflightConfig
  split
  · split
    · exact portOk_setCallPoint h
    · exact portOk_answerCall h
    · exact portOk_setCallPoint h
  · exact h

lemma portOk_acceptElection {prepared : PreparedMainOrchestratorElection} {now : Date}
    (h : PortOk port) (hfree : port.writes (configWriteKey input.principal.orgId) = 0) :
    PortOk (port.acceptElection c input prepared now) := by
  have hopen : PortOk (port.openSection .election (configWriteKey input.principal.orgId)
      (.settlement port.jobs.next)) :=
    portOk_openSection h (fun _ => hfree) fun point hpoint => by cases hpoint
  refine portOk_answerCall (portOk_enqueue
    ⟨hopen.reservations, hopen.tail, hopen.links, hopen.rebuilds⟩ fun n hholder => ?_)
  obtain rfl := Option.some.inj hholder
  exact ⟨_, Objects.get_add_next, rfl, rfl, rfl⟩

lemma portOk_takePreflightReadings {reads : ProviderReads} {readings : Option ElectionReadings}
    {now : Date} (h : PortOk port) :
    PortOk (port.takePreflightReadings reads c readings now) := by
  unfold takePreflightReadings
  split
  · split
    · unfold takeCallPrepared
      split
      · exact portOk_answerCall h
      · split
        · exact portOk_answerCall h
        · split_ifs with hreserved
          · exact portOk_answerCall h
          · refine portOk_acceptElection h ?_
            simp only [providerWriteReserved, decide_eq_true_eq, not_lt] at hreserved
            omega
    · exact portOk_setCallPoint h
  · exact h

/-! ### Jobs -/

lemma portOk_beginJob (h : PortOk port) : PortOk port.beginJob := by
  unfold beginJob
  split
  · next j work payloads hhead =>
      have hnext := portOk_setPoint (firstPoint work) h hhead (by cases work <;> rfl)
      exact ⟨hnext.reservations, hnext.tail, hnext.links, hnext.rebuilds⟩
  · exact h

lemma portOk_proceedRebuild {next : RebuildAwait} (h : PortOk port) :
    PortOk (port.proceedRebuild next) := by
  unfold proceedRebuild
  split
  · next hhead =>
      split_ifs
      · exact portOk_setPoint _ h hhead rfl
      · exact h
  · exact h

lemma portOk_answerRebuild {reads : ProviderReads} {answer : Answer Unit} (h : PortOk port) :
    PortOk (port.answerRebuild reads answer) := by
  unfold answerRebuild
  split
  · next hhead =>
      split_ifs
      · have hnext := portOk_setPoint (.finished (isThrow answer)) h hhead rfl
        exact ⟨hnext.reservations, hnext.tail, hnext.links, hnext.rebuilds⟩
      · exact h
  · exact h

lemma portOk_answerElection {reads : ProviderReads} {answer : ElectionAnswer} (h : PortOk port) :
    PortOk (port.answerElection reads answer) := by
  unfold answerElection
  split
  · next holder job point payloads hhead =>
      have hnext := portOk_modifyHead h hhead (f := fun entry =>
        { entry with
          point := .electing (electionStep reads job
            ⟨point, payloads, port.orchestratorReconcileState⟩ answer).point
          reads := (electionStep reads job
            ⟨point, payloads, port.orchestratorReconcileState⟩ answer).reads })
        (fun _ => rfl) fun _ => rfl
      exact ⟨hnext.reservations, hnext.tail, hnext.links, hnext.rebuilds⟩
  · exact h

lemma portOk_deliver {reads : ProviderReads} (h : PortOk port) : PortOk (port.deliver reads) := by
  unfold deliver
  split
  · next hhead =>
      split
      · have hnext := portOk_setPoint (.finished false) h hhead rfl
        exact ⟨hnext.reservations, hnext.tail, hnext.links, hnext.rebuilds⟩
      · have hnext := portOk_setPoint (.finished false) h hhead rfl
        exact ⟨hnext.reservations, hnext.tail, hnext.links, hnext.rebuilds⟩
      · exact portOk_setPoint _ h hhead rfl
  · exact h

lemma closeSection_retireJob (m : ℕ) :
    (port.closeSection m key).retireJob j = (port.retireJob j).closeSection m key := by
  unfold retireJob setPoint closeSection releaseProviderWrite writes
  simp only
  split_ifs <;> rfl

/-- The section of an election closes with its job. -/
lemma portOk_onSettled (h : PortOk port) (hhead : port.head = some (j, job)) :
    PortOk ((port.onSettled job.work).retireJob j) := by
  have hretired := portOk_retireJob h hhead
  obtain ⟨-, hget⟩ := head_eq_some.mp hhead
  have hopen := unsettled_of_head h hhead
  obtain ⟨work, point, payloads⟩ := job
  cases work with
  | reconcile => exact hretired
  | election holder job =>
      obtain ⟨entry, hentry, hawait, -, hkey⟩ := h.links j _ holder hget hopen rfl
      obtain ⟨kind, key, await⟩ := entry
      obtain rfl : await = some (.settlement j) := hawait
      obtain rfl : key = _ := hkey
      -- The job is settled when its section closes.
      have hclosed : PortOk ((port.retireJob j).closeSection holder
          (configWriteKey job.input.principal.orgId)) := by
        refine portOk_closeSection hretired hentry fun j' job' heq hjob => ?_
        obtain rfl := SectionAwait.settlement.inj heq
        obtain ⟨old, -, rfl⟩ := Objects.get_modify_eq_some hjob
        rw [if_pos rfl]
        rfl
      rw [← closeSection_retireJob] at hclosed
      exact ⟨hclosed.reservations, hclosed.tail, hclosed.links, hclosed.rebuilds⟩

lemma portOk_settleJob (h : PortOk port) : PortOk port.settleJob := by
  unfold settleJob
  split
  · next j work threw payloads hhead =>
      have hbefore : PortOk (if threw then port.onUnexpected j work else port).countSettled ∧
          (if threw then port.onUnexpected j work else port).countSettled.head = port.head := by
        split_ifs
        · cases work with
          | reconcile => exact ⟨⟨h.reservations, h.tail, h.links, h.rebuilds⟩, rfl⟩
          | election => exact ⟨⟨h.reservations, h.tail, h.links, h.rebuilds⟩, rfl⟩
        · exact ⟨⟨h.reservations, h.tail, h.links, h.rebuilds⟩, rfl⟩
      exact portOk_onSettled hbefore.1 (hbefore.2.trans hhead)
  · exact h

end ConnectionsPort

/-! ### Runs -/

open ConnectionsPort in
lemma portOk_step {reads : ProviderReads} (port : ConnectionsPort) (event : ConnectionsEvent)
    (h : PortOk port) : PortOk ((connectionsMachine reads).step port event) := by
  change PortOk (connectionsStep reads port event)
  cases event with
  | setModelProviderModelEnabled principal busy =>
      exact portOk_startExclusive h fun point heq => by cases heq
  | completeModelProviderApiKeyConnect principal providerId =>
      exact portOk_startExclusive h fun point heq => by cases heq
  | startModelProviderDeviceFlow principal busy =>
      exact portOk_startExclusive h fun point heq => by cases heq
  | startModelProviderDisconnect principal providerId busy =>
      exact portOk_startExclusive h fun point heq => by cases heq
  | applyOrchestratorDelegation principal => exact portOk_startExclusive h fun _ _ => rfl
  | finalizeModelProviderFlow orgId providerId now => exact portOk_finalizeModelProviderFlow h
  | stopDeviceFlow orgId => exact portOk_stopDeviceFlow h
  | proceedSection n next => exact portOk_proceedSection h
  | answerSection n result now => exact portOk_answerSection h
  | takeSettlement n => exact portOk_takeSettlement h
  | setMainOrchestrator input => exact portOk_setMainOrchestrator h
  | takePreflightConfig c answer => exact portOk_takePreflightConfig h
  | takePreflightReadings c readings now => exact portOk_takePreflightReadings h
  | beginJob => exact portOk_beginJob h
  | proceedRebuild next => exact portOk_proceedRebuild h
  | answerRebuild answer => exact portOk_answerRebuild h
  | answerElection answer => exact portOk_answerElection h
  | deliver => exact portOk_deliver h
  | settleJob => exact portOk_settleJob h

lemma portOk_run (reads : ProviderReads) (events : List ConnectionsEvent) :
    (connectionsMachine reads).Always PortOk .new events :=
  EventMachine.always_of_invariant portOk_step portOk_new

/-- The counters are those of the open sections; a key that no open section holds is free, and at
most one open section took it when it was free. -/
def ReservationsHold (port : ConnectionsPort) : Prop :=
  (∀ key, port.writes key = port.sections.count (·.holds key)) ∧
    (∀ key, (∀ n entry, port.sections.get n = some entry → entry.key = key →
      entry.await = none) → port.providerWriteReserved key = false) ∧
    ∀ key n m entry other, port.sections.get n = some entry → port.sections.get m = some other →
      entry.holdsExclusively key = true → other.holdsExclusively key = true → n = m

lemma reservationsHold_of_portOk {port : ConnectionsPort} (h : PortOk port) :
    ReservationsHold port := by
  refine ⟨h.reservations.counted, fun key hended => ?_, ?_⟩
  · have hnone : port.sections.count (·.holds key) = 0 := by
      refine Objects.count_eq_zero.mpr fun n entry hget => ?_
      by_cases hkey : entry.key = key
      · rw [ProviderSection.holds, hended n entry hget hkey]
        rfl
      · rw [ProviderSection.holds, decide_eq_false hkey, Bool.and_false]
    have hwrites : port.writes key = 0 := (h.reservations.counted key).trans hnone
    rw [ConnectionsPort.providerWriteReserved, hwrites]
    rfl
  · intro key n m entry other hget hother hentry hholds
    exact Objects.eq_of_count_le_one (h.reservations.exclusive key) hget hentry hother hholds

/-- **The reservations of the organizations.** In every run the counter of an organization is the
number of its open sections, so that it is free once they have all ended; and at most one of its
toggles, credential writes, starts of device flows, disconnects, delegations and elections is
open. -/
theorem provider_write_reservation (reads : ProviderReads) (events : List ConnectionsEvent) :
    (connectionsMachine reads).Always ReservationsHold .new events :=
  (portOk_run reads events).mono fun _ => reservationsHold_of_portOk

end Opzava.Provisioning
