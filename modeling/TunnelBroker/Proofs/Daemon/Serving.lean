import TunnelBroker.Proofs.Daemon.Service

/-!
Requests that a daemon serves side by side, action by action and in any order. One request at
a time has hold of the registry. Main statement: whatever the order, no peer that the daemon
began with is registered again or left out of a save, and a tunnel is established only with
such a peer or with one that was registered.
-/

set_option autoImplicit false

namespace TunnelBroker

open Daemon (Action Course)
open Peers (IsOwn Holds Reliable)

/-- A daemon, and requests that it serves, each with what is left to do. -/
structure Serving (ι : Type) where
  service : Service
  holder : Option ι
  rest : ι → Course (Except Failure Tunnel)

namespace Serving

variable {ι : Type}

def opened (directory : Path) (region : String) (requests : ι → Request) (peers : Peers)
    (files : FileSystem) : Serving ι where
  service := .opened peers files
  holder := none
  rest := fun i => .ofTask directory ((requests i).task region)

variable (answers : Nat → Daemon.Answers) (mishaps : Nat → Option Mishap)

section

variable [DecidableEq ι]

def proceed (state : Serving ι) (i : ι) (action : Action)
    (next : action.Answer → Course (Except Failure Tunnel)) : Serving ι :=
  let (answer, service) := Service.react answers mishaps action state.service
  { state with service, rest := Function.update state.rest i (next answer) }

/--
Request `i` goes on by one action. It stays where it is if it waits for the registry while
somebody has hold of it, or if nothing is left to do.
-/
def step (state : Serving ι) (i : ι) : Serving ι :=
  match state.rest i with
  | .done _ => state
  | .ask (.put .takeRegistry) next =>
    match state.holder with
    | some _ => state
    | none =>
      { state with holder := some i }.proceed answers mishaps i (.put .takeRegistry) next
  | .ask (.put (.returnRegistry registry)) next =>
    { state with holder := none }.proceed answers mishaps i (.put (.returnRegistry registry)) next
  | .ask action next => state.proceed answers mishaps i action next

def run (state : Serving ι) (schedule : List ι) : Serving ι :=
  schedule.foldl (step answers mishaps) state

end

/-! ### What the requests have to do -/

theorem ofTask_task (directory : Path) (region : String) (request : Request) :
    Course.ofTask directory (request.task region) =
      .ask (.put .takeRegistry) fun registry =>
        (Course.ofTask directory (request.work region registry)).bind fun outcome =>
          Course.ofTask directory (Daemon.giveBack outcome) := by
  rw [Request.task_eq]
  exact congrArg (Interaction.ask _) (funext fun _ => Course.ofTask_bind ..)

variable (directory : Path) (region : String) (kept base : Peers)

/-- What is left to a request that has not begun, or that is through. -/
inductive Waiting (service : Service) (request : Request) :
    Course (Except Failure Tunnel) → Prop where
  | before : Waiting service request (Course.ofTask directory (request.task region))
  | through {result : Except Failure Tunnel}
    (knows : ∀ tunnel, result = .ok tunnel → service.Knows kept request.slug) :
    Waiting service request (.done result)

/-- What is left to a request that has hold of the registry. -/
structure Working (service : Service) (request : Request)
    (work : Course (Except Failure Tunnel × Registry)) : Prop where
  outward : work.Puts Action.IsOutward
  steps : work.Steps (Service.react answers mishaps) (Service.Serves directory kept base)
    (fun outcome now => Service.Sound directory kept base outcome.2 now ∧
      ∀ tunnel, outcome.1 = .ok tunnel → now.Knows kept request.slug) service

-- A registry that nobody holds is in order. Whoever holds it has a work to do at the end of
-- which it is in order again.
structure Sound (requests : ι → Request) (state : Serving ι) : Prop where
  registry : ∃ registry, Service.Sound directory kept base registry state.service
  free : state.holder = none →
    Service.Sound directory kept base state.service.registry state.service
  waiting : ∀ i, state.holder ≠ some i →
    Waiting directory region kept state.service (requests i) (state.rest i)
  working : ∀ i, state.holder = some i → ∃ work,
    Working answers mishaps directory kept base state.service (requests i) work ∧
    state.rest i = work.bind fun outcome => Course.ofTask directory (Daemon.giveBack outcome)

variable {answers mishaps directory region kept base} {requests : ι → Request}
  {state : Serving ι} {i : ι}

theorem Waiting.mono {service now : Service} {request : Request}
    {rest : Course (Except Failure Tunnel)}
    (grown : ∀ slug ∈ service.registered, slug ∈ now.registered)
    (waiting : Waiting directory region kept service request rest) :
    Waiting directory region kept now request rest := by
  cases waiting with
  | before => exact .before
  | through knows => exact .through fun tunnel ok => (knows tunnel ok).mono grown

/-! ### One action -/

section

variable [DecidableEq ι]

theorem step_done {result : Except Failure Tunnel} (rest : state.rest i = .done result) :
    state.step answers mishaps i = state := by
  simp only [step, rest]

theorem step_outward {action : Action} {next : action.Answer → Course (Except Failure Tunnel)}
    (rest : state.rest i = .ask action next) (outward : action.IsOutward) :
    state.step answers mishaps i = state.proceed answers mishaps i action next := by
  unfold step
  rw [rest]
  cases action with
  | put call =>
    cases call with
    | takeRegistry => exact outward.elim
    | returnRegistry registry => exact outward.elim
    | _ => rfl
  | _ => rfl

-- The requests that are left alone wait as they did.
theorem Sound.waiting_proceed
    (sound : Sound answers mishaps directory region kept base requests state) {holder : Option ι}
    {action : Action} {next : action.Answer → Course (Except Failure Tunnel)} {other : ι}
    (differ : other ≠ i) (idle : state.holder ≠ some other) :
    let later := { state with holder }.proceed answers mishaps i action next
    Waiting directory region kept later.service (requests other) (later.rest other) := by
  intro later
  have same : later.rest other = state.rest other := Function.update_of_ne differ _ _
  rw [same]
  exact (sound.waiting other idle).mono (Service.registered_react action state.service)

-- A request gives the registry back.
theorem Sound.step_giveBack
    (sound : Sound answers mishaps directory region kept base requests state)
    (holds : state.holder = some i) {outcome : Except Failure Tunnel × Registry}
    (rest : state.rest i = Course.ofTask directory (Daemon.giveBack outcome))
    (given : Service.Sound directory kept base outcome.2 state.service)
    (knows : ∀ tunnel, outcome.1 = .ok tunnel → state.service.Knows kept (requests i).slug) :
    Sound answers mishaps directory region kept base requests (state.step answers mishaps i) ∧
      Reliable directory state.service.files (state.step answers mishaps i).service.files := by
  have stepped : state.step answers mishaps i =
      { state with holder := none }.proceed answers mishaps i (.put (.returnRegistry outcome.2))
        fun _ => .done outcome.1 := by
    unfold step
    rw [rest]
    rfl
  rw [stepped]
  have free : Service.Sound directory kept base outcome.2
      (Service.react answers mishaps (.put (.returnRegistry outcome.2)) state.service).2 :=
    given.congr rfl rfl rfl
  refine ⟨?_, rfl, id, given.holds⟩
  constructor
  case registry => exact ⟨_, free⟩
  case free => exact fun _ => free
  case waiting =>
    intro other _
    by_cases same : other = i
    · subst same
      have through : ({ state with holder := none }.proceed answers mishaps other
          (.put (.returnRegistry outcome.2)) fun _ => .done outcome.1).rest other =
            .done outcome.1 := Function.update_self ..
      rw [through]
      exact .through knows
    · apply sound.waiting_proceed same
      intro held
      exact same (Option.some.inj (held.symm.trans holds))
  case working => exact fun other held => nomatch held

-- A request works on while it has hold of the registry.
theorem Sound.step_working
    (sound : Sound answers mishaps directory region kept base requests state)
    (holds : state.holder = some i) :
    Sound answers mishaps directory region kept base requests (state.step answers mishaps i) ∧
      Reliable directory state.service.files (state.step answers mishaps i).service.files := by
  obtain ⟨work, working, rest⟩ := sound.working i holds
  cases work with
  | done outcome => exact sound.step_giveBack holds rest working.steps.1 working.steps.2
  | ask action next =>
    obtain ⟨outward, others⟩ := working.outward
    obtain ⟨serves, later⟩ := working.steps
    rw [step_outward rest outward]
    refine ⟨?_, serves.reliable⟩
    constructor
    case registry => exact serves.sound
    case free =>
      intro free
      cases free.symm.trans holds
    case waiting =>
      intro other idle
      have differ : other ≠ i := by
        rintro rfl
        exact idle holds
      exact sound.waiting_proceed differ idle
    case working =>
      intro other held
      cases Option.some.inj (holds.symm.trans held)
      exact ⟨_, ⟨others _, later⟩, Function.update_self ..⟩

-- A request that waits takes hold of the registry, if nobody has.
theorem Sound.step_waiting
    (sound : Sound answers mishaps directory region kept base requests state)
    (idle : state.holder ≠ some i) :
    Sound answers mishaps directory region kept base requests (state.step answers mishaps i) ∧
      Reliable directory state.service.files (state.step answers mishaps i).service.files := by
  have stays : Reliable directory state.service.files state.service.files := by
    obtain ⟨registry, inOrder⟩ := sound.registry
    exact ⟨rfl, id, inOrder.holds⟩
  have waiting := sound.waiting i idle
  generalize rest : state.rest i = course at waiting
  cases waiting with
  | through knows =>
    rw [step_done rest]
    exact ⟨sound, stays⟩
  | before =>
    rw [ofTask_task] at rest
    cases holder : state.holder with
    | some other =>
      have stepped : state.step answers mishaps i = state := by simp only [step, rest, holder]
      rw [stepped]
      exact ⟨sound, stays⟩
    | none =>
      have stepped : state.step answers mishaps i =
          { state with holder := some i }.proceed answers mishaps i (.put .takeRegistry)
            fun registry => (Course.ofTask directory
              ((requests i).work region registry)).bind fun outcome =>
                Course.ofTask directory (Daemon.giveBack outcome) := by
        simp only [step, rest, holder]
      rw [stepped]
      have taken : Service.Sound directory kept base state.service.registry
          (Service.react answers mishaps (.put .takeRegistry) state.service).2 :=
        (sound.free holder).congr rfl rfl rfl
      refine ⟨?_, stays⟩
      constructor
      case registry => exact ⟨_, taken⟩
      case free => exact nofun
      case waiting =>
        intro other idle
        have differ : other ≠ i := by
          rintro rfl
          exact idle rfl
        apply sound.waiting_proceed differ
        rw [holder]
        exact nofun
      case working =>
        intro other held
        cases held
        refine ⟨_, ⟨?_, Service.steps_work taken region (requests i)⟩, Function.update_self ..⟩
        exact Course.ofTask_outward directory (Request.work_outward ..)

theorem Sound.step (sound : Sound answers mishaps directory region kept base requests state)
    (i : ι) :
    Sound answers mishaps directory region kept base requests (state.step answers mishaps i) ∧
      Reliable directory state.service.files (state.step answers mishaps i).service.files := by
  by_cases holds : state.holder = some i
  · exact sound.step_working holds
  · exact sound.step_waiting holds

/-! ### Any number of actions -/

theorem Sound.run (sound : Sound answers mishaps directory region kept base requests state)
    (schedule : List ι) :
    Sound answers mishaps directory region kept base requests
      (state.run answers mishaps schedule) := by
  induction schedule generalizing state with
  | nil => exact sound
  | cons i schedule ih => exact ih (sound.step i).1

end

theorem sound_opened {files : FileSystem} (own : IsOwn files directory)
    (holds : Holds files directory base) :
    Sound answers mishaps directory region kept base requests
      (opened directory region requests kept files) := by
  have start : Service.Sound directory kept base (.initial kept) (.opened kept files) := by
    constructor
    case own => exact own
    case stores => exact ⟨base, holds, nofun, .inr ⟨rfl, nofun⟩⟩
    case memory => exact ⟨fun _ _ => id, fun _ _ => .inl⟩
    case saves => exact nofun
    case fresh => exact nofun
    case tunnels =>
      intro slug tunnel found
      cases (Table.get?_empty slug).symm.trans found
  exact ⟨⟨_, start⟩, fun _ => start, fun _ _ => .before, nofun⟩

/-! ### What comes of the peers -/

def result? (state : Serving ι) (i : ι) : Option (Except Failure Tunnel) :=
  match state.rest i with
  | .done result => some result
  | .ask .. => none

theorem Sound.knows (sound : Sound answers mishaps directory region kept base requests state)
    {tunnel : Tunnel} (through : state.result? i = some (.ok tunnel)) :
    state.service.Knows kept (requests i).slug := by
  unfold result? at through
  by_cases holds : state.holder = some i
  · -- Who has hold of the registry has at least to give it back.
    obtain ⟨work, working, rest⟩ := sound.working i holds
    rw [rest] at through
    cases work <;> cases through
  · have waiting := sound.waiting i holds
    generalize state.rest i = rest at waiting through
    cases waiting with
    | before => cases through
    | through knows => exact knows tunnel (Option.some.inj through)

/-- A daemon keeps the peer of an organization: it registers no other, and every save has it. -/
structure Reuses (directory : Path) (state : Serving ι) (slug : String) (peer : Peer) : Prop where
  registered : slug ∉ state.service.registered
  saved : ∀ save ∈ state.service.saves, save.1.get? slug = some peer
  stored : (∃ save ∈ state.service.saves, save.2 = .ok ()) →
    ∃ stored, (state.service.files.run (Peers.load directory)).1 = .ok stored ∧
      stored.get? slug = some peer

/--
A daemon does without what was known of an organization: there is no tunnel before another
peer was registered, and no peer in the file either once a save went well.
-/
structure Forgets (directory : Path) (requests : ι → Request) (state : Serving ι)
    (slug : String) : Prop where
  registered : ∀ i tunnel, (requests i).slug = slug → state.result? i = some (.ok tunnel) →
    slug ∈ state.service.registered
  stored : (∃ save ∈ state.service.saves, save.2 = .ok ()) →
    ∃ stored, (state.service.files.run (Peers.load directory)).1 = .ok stored ∧
      ((stored.get? slug).isSome → slug ∈ state.service.registered)

theorem Sound.stored (sound : Sound answers mishaps directory region kept base requests state)
    (succeeded : ∃ save ∈ state.service.saves, save.2 = .ok ()) :
    ∃ stored, (state.service.files.run (Peers.load directory)).1 = .ok stored ∧
      state.service.Extends kept stored := by
  obtain ⟨registry, inOrder⟩ := sound.registry
  obtain ⟨stored, holds, stores⟩ := inOrder.stores
  obtain ⟨save, member, ok⟩ := succeeded
  refine ⟨stored, by rw [holds.run_load], ?_⟩
  rcases stores.whole with whole | ⟨-, failed⟩
  · exact whole
  · exact absurd ok (failed save member)

theorem Sound.reuses (sound : Sound answers mishaps directory region kept base requests state)
    {slug : String} {peer : Peer} (known : kept.get? slug = some peer) :
    state.Reuses directory slug peer := by
  obtain ⟨registry, inOrder⟩ := sound.registry
  constructor
  case registered =>
    intro member
    cases known.symm.trans (inOrder.fresh slug member)
  case saved =>
    intro save member
    exact (inOrder.saves save member).1.within slug peer known
  case stored =>
    intro succeeded
    obtain ⟨stored, loads, whole⟩ := sound.stored succeeded
    exact ⟨stored, loads, whole.within slug peer known⟩

theorem Sound.forgets (sound : Sound answers mishaps directory region kept base requests state)
    {slug : String} (unknown : kept.get? slug = none) :
    state.Forgets directory requests slug := by
  have notKept : ¬ (kept.get? slug).isSome = true := by simp [unknown]
  constructor
  case registered =>
    intro i tunnel same through
    subst same
    exact (sound.knows through).resolve_left notKept
  case stored =>
    intro succeeded
    obtain ⟨stored, loads, whole⟩ := sound.stored succeeded
    refine ⟨stored, loads, fun isThere => ?_⟩
    obtain ⟨peer, found⟩ := Option.isSome_iff_exists.1 isThere
    apply (whole.known slug peer found).resolve_left
    intro wrong
    cases unknown.symm.trans wrong

/-- A daemon keeps the peers that it began with, and no others. -/
theorem keeps_peers [DecidableEq ι] (answers : Nat → Daemon.Answers)
    (mishaps : Nat → Option Mishap) (directory : Path) (region : String) (requests : ι → Request)
    (kept : Peers) {files : FileSystem} (own : IsOwn files directory)
    (holds : Holds files directory base) (schedule : List ι) :
    let now := (opened directory region requests kept files).run answers mishaps schedule
    (∀ slug peer, kept.get? slug = some peer → now.Reuses directory slug peer) ∧
      ∀ slug, kept.get? slug = none → now.Forgets directory requests slug := by
  have start : Sound answers mishaps directory region kept base requests _ :=
    sound_opened own holds
  have sound := start.run schedule
  exact ⟨fun slug peer => sound.reuses, fun slug => sound.forgets⟩

end Serving

end TunnelBroker
