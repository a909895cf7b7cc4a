import TunnelBroker.Daemon.Start
import TunnelBroker.Proofs.Daemon.Serving
import Mathlib.Data.List.Induction

/-!
A daemon that starts while another one serves. Both work on the same files; the new daemon
loads its peers before it has the old one stop. Main statement: the new daemon keeps exactly
the peers that were in the peer file when it read the file. What the old daemon has saved by
then is used again; what it saves later is forgotten.
-/

set_option autoImplicit false

namespace TunnelBroker

open Peers (IsOwn Holds Reliable)

abbrev Host.Answers : Type := (call : Host.Call) → call.Answer

/-- An old daemon, and a new one that starts. -/
structure Takeover (ι : Type) where
  old : Serving ι
  start : Host.Task (Except Failure StartedDaemon)
  calls : Nat

namespace Takeover

/-- Who takes the next step. -/
inductive Turn (ι : Type) where
  | old (i : ι)
  | new
  deriving DecidableEq

variable {ι : Type}

/--
The old daemon serves `requests`, and began with the peers `kept`. The new daemon has the same
configuration.
-/
def initial (process : UInt32) (config : Config) (requests : ι → Request) (kept : Peers)
    (files : FileSystem) : Takeover ι where
  old := .opened config.settings.stateDirectory config.settings.region requests kept files
  start := Daemon.start process config
  calls := 0

/-- The new daemon puts a call. Files are shared, and the world answers everything else. -/
def proceed (world : Nat → Host.Answers) (state : Takeover ι) : Takeover ι :=
  match state.start with
  | .done _ => state
  | .ask (.file call) next =>
    let (answer, files) := FileSystem.react call state.old.service.files
    { old := { state.old with service := { state.old.service with files := files } }
      start := next answer
      calls := state.calls + 1 }
  | .ask call next =>
    { state with start := next (world state.calls call), calls := state.calls + 1 }

section

variable [DecidableEq ι] (answers : Nat → Daemon.Answers) (mishaps : Nat → Option Mishap)
  (world : Nat → Host.Answers)

def step (state : Takeover ι) : Turn ι → Takeover ι
  | .old i => { state with old := state.old.step answers mishaps i }
  | .new => state.proceed world

def run (state : Takeover ι) (schedule : List (Turn ι)) : Takeover ι :=
  schedule.foldl (step answers mishaps world) state

end

end Takeover

/-! ### What a start comes to -/

namespace Daemon

def settleIn (daemon : Daemon) (directory path : Path) :
    Except Failure Peers → Host.Task (Except Failure StartedDaemon)
  | .error failure => .done (.error failure)
  | .ok peers =>
    (ControlSocket.bind path).bind fun bound =>
      .done (bound.map fun socket => ⟨daemon, some directory, .initial peers, socket⟩)

theorem startAt_eq (daemon : Daemon) (directory path : Path) :
    daemon.startAt (some directory) path =
      (Host.ofFiles (Peers.load directory)).bind (daemon.settleIn directory path) := by
  refine congrArg (Interaction.bind _) (funext fun loaded => ?_)
  cases loaded <;> rfl

/-- The daemon starts with the given peers, if it starts. -/
def StartsWith (process : UInt32) (config : Config) (peers : Peers)
    (result : Except Failure StartedDaemon) : Prop :=
  ∀ started, result = .ok started → ∃ socket, started =
    ⟨.ofConfig process config, some config.settings.stateDirectory, .initial peers, socket⟩

theorem settleIn_returns (process : UInt32) (config : Config) (peers : Peers) :
    ((ofConfig process config).settleIn config.settings.stateDirectory config.settings.socket
      (.ok peers)).Returns (StartsWith process config peers) := by
  apply Interaction.returns_bind
  intro bound started same
  cases bound with
  | error failure => cases same
  | ok socket => exact ⟨socket, (Except.ok.inj same).symm⟩

end Daemon

namespace Takeover

variable {ι : Type}

/-- The new daemon has still to do `rest` before its peers are loaded. -/
structure Loading (process : UInt32) (config : Config) (rest : FileTask (Except Failure Peers))
    (state : Takeover ι) : Prop where
  start : state.start = (Host.ofFiles rest).bind
    ((Daemon.ofConfig process config).settleIn config.settings.stateDirectory
      config.settings.socket)
  withstands : ∃ files,
    rest.Withstands FileSystem.react (Reliable config.settings.stateDirectory)
      (fun result now => ∃ peers,
        result = .ok peers ∧ Holds now config.settings.stateDirectory peers) files ∧
    Reliable config.settings.stateDirectory files state.old.service.files

/-- The new daemon has loaded the peers that were in the peer file of `read`. -/
structure Loaded (process : UInt32) (config : Config) (kept base peers : Peers) (read : Service)
    (state : Takeover ι) : Prop where
  holds : Holds read.files config.settings.stateDirectory peers
  sound : ∃ registry, Service.Sound config.settings.stateDirectory kept base registry read
  returns : state.start.Returns (Daemon.StartsWith process config peers)

variable {answers : Nat → Daemon.Answers} {mishaps : Nat → Option Mishap}
  {world : Nat → Host.Answers} {process : UInt32} {config : Config} {kept base : Peers}
  {requests : ι → Request} {state : Takeover ι}

-- One call of loading. Loading ends when the file was read, with what was in the file.
theorem Loading.proceed (world : Nat → Host.Answers) {call : FileCall}
    {next : call.Answer → FileTask (Except Failure Peers)}
    (loading : Loading process config (Interaction.ask call next) state)
    (sound : Serving.Sound answers mishaps config.settings.stateDirectory config.settings.region
      kept base requests state.old) :
    (state.proceed world).old = state.old ∧
      ((∃ call next, Loading process config (Interaction.ask call next) (state.proceed world)) ∨
        ∃ peers, Loaded process config kept base peers state.old.service
          (state.proceed world)) := by
  obtain ⟨start, files, withstands, reliable⟩ := loading
  -- The call changes nothing, and the old daemon has done nothing that loading can't stand.
  obtain ⟨quiet, later⟩ := withstands _ reliable
  obtain ⟨registry, inOrder⟩ := sound.registry
  have proceeded : state.proceed world =
      { old := state.old
        start := (Host.ofFiles (next (FileSystem.react call state.old.service.files).1)).bind
          ((Daemon.ofConfig process config).settleIn config.settings.stateDirectory
            config.settings.socket)
        calls := state.calls + 1 } := by
    unfold Takeover.proceed
    rw [start]
    simp only [Host.ofFiles, Interaction.ask_bind, quiet]
  rw [proceeded]
  refine ⟨rfl, ?_⟩
  generalize next (FileSystem.react call state.old.service.files).1 = rest at later
  cases rest with
  | ask call next => exact .inl ⟨call, next, rfl, _, later, rfl, id, inOrder.holds⟩
  | done result =>
    obtain ⟨peers, rfl, holds⟩ := later
    exact .inr ⟨peers, holds, ⟨registry, inOrder⟩, Daemon.settleIn_returns process config peers⟩

theorem Loading.step_old [DecidableEq ι] {rest : FileTask (Except Failure Peers)}
    (loading : Loading process config rest state)
    (sound : Serving.Sound answers mishaps config.settings.stateDirectory config.settings.region
      kept base requests state.old) (i : ι) :
    Loading process config rest (state.step answers mishaps world (.old i)) := by
  obtain ⟨start, files, withstands, reliable⟩ := loading
  exact ⟨start, files, withstands, reliable.trans (sound.step i).2⟩

theorem Loaded.proceed {peers : Peers} {read : Service}
    (loaded : Loaded process config kept base peers read state) :
    Loaded process config kept base peers read (state.proceed world) := by
  obtain ⟨holds, sound, returns⟩ := loaded
  refine ⟨holds, sound, ?_⟩
  unfold Takeover.proceed
  split
  · exact returns
  · next rest =>
    rw [rest] at returns
    exact returns _
  · next rest =>
    rw [rest] at returns
    exact returns _

-- What was in the peer file when it was read.
theorem Loaded.read_peers {peers : Peers} {read : Service}
    (loaded : Loaded process config kept base peers read state) :
    read.files.run (Peers.load config.settings.stateDirectory) = (.ok peers, read.files) ∧
      (∀ save ∈ read.saves, save.2 = .ok () → save.1.Within peers) ∧
      ∀ slug peer, peers.get? slug = some peer →
        base.get? slug = some peer ∨ kept.get? slug = some peer ∨ slug ∈ read.registered := by
  obtain ⟨registry, inOrder⟩ := loaded.sound
  obtain ⟨stored, holds, stores⟩ := inOrder.stores
  -- The file keeps one table of peers only: the old daemon's is the one that was read.
  have loads := loaded.holds.run_load
  have same : stored = peers := by
    rw [holds.run_load] at loads
    cases loads
    rfl
  subst same
  refine ⟨loads, stores.saved, fun slug peer found => ?_⟩
  rcases stores.whole with whole | ⟨rfl, -⟩
  · exact .inr (whole.known slug peer found)
  · exact .inl found

/-! ### All steps -/

section

variable [DecidableEq ι]

theorem run_concat (schedule : List (Turn ι)) (turn : Turn ι) :
    state.run answers mishaps world (schedule ++ [turn]) =
      (state.run answers mishaps world schedule).step answers mishaps world turn := by
  rw [run, List.foldl_append]
  rfl

variable (answers mishaps world process config kept base requests) in
/-- How far the new daemon has come after the steps of a schedule, which begin with `first`. -/
inductive Progress (first : Takeover ι) (schedule : List (Turn ι)) (state : Takeover ι) : Prop where
  | loading {call : FileCall} {next : call.Answer → FileTask (Except Failure Peers)}
    (sound : Serving.Sound answers mishaps config.settings.stateDirectory config.settings.region
      kept base requests state.old)
    (loading : Loading process config (Interaction.ask call next) state)
  | loaded (earlier : List (Turn ι)) (peers : Peers) (before : earlier ++ [.new] <+: schedule)
    (loaded : Loaded process config kept base peers
      (first.run answers mishaps world earlier).old.service state)

theorem progress_initial {files : FileSystem} (own : IsOwn files config.settings.stateDirectory)
    (holds : Holds files config.settings.stateDirectory base) (first : Takeover ι) :
    Progress answers mishaps world process config kept base requests first []
      (initial process config requests kept files) := by
  have begins : ∃ call next,
      Peers.load config.settings.stateDirectory = Interaction.ask call next := ⟨_, _, rfl⟩
  obtain ⟨call, next, begins⟩ := begins
  apply Progress.loading (Serving.sound_opened own holds)
  constructor
  · exact begins ▸ Daemon.startAt_eq ..
  · exact ⟨files, begins ▸ Peers.withstands_load files, rfl, id, base, holds⟩

theorem progress_run {files : FileSystem} (own : IsOwn files config.settings.stateDirectory)
    (holds : Holds files config.settings.stateDirectory base) (schedule : List (Turn ι)) :
    let first := initial process config requests kept files
    Progress answers mishaps world process config kept base requests first schedule
      (first.run answers mishaps world schedule) := by
  intro first
  -- By induction on the schedule from its end: `earlier` is where loading came to an end.
  induction schedule using List.reverseRecOn with
  | nil => exact progress_initial own holds first
  | append_singleton schedule turn ih =>
    rw [run_concat]
    cases ih with
    | loading sound loading =>
      cases turn with
      | old i => exact .loading (sound.step i).1 (loading.step_old sound i)
      | new =>
        obtain ⟨same, ⟨call, next, loading⟩ | ⟨peers, loaded⟩⟩ :=
          loading.proceed world sound
        · exact .loading (same ▸ sound) loading
        · exact .loaded schedule peers (List.prefix_refl _) loaded
    | loaded earlier peers before loaded =>
      have before : earlier ++ [.new] <+: schedule ++ [turn] :=
        before.trans (List.prefix_append ..)
      cases turn with
      | old i => exact .loaded earlier peers before ⟨loaded.holds, loaded.sound, loaded.returns⟩
      | new => exact .loaded earlier peers before loaded.proceed

/--
A daemon starts while another one serves, which began with the peers `kept` and with `base` in
its peer file. The new daemon starts with the peers that were in the peer file when it read
the file. They include whatever the old daemon had saved by then, and the new daemon keeps
them from then on, whatever it is asked for and whatever goes wrong. What the old daemon
registers later, and every other peer, the new daemon forgets.
-/
theorem keeps_what_was_read {files : FileSystem}
    (own : IsOwn files config.settings.stateDirectory)
    (loads : files.run (Peers.load config.settings.stateDirectory) = (.ok base, files))
    (answers : Nat → Daemon.Answers) (mishaps : Nat → Option Mishap)
    (world : Nat → Host.Answers) (schedule : List (Turn ι)) {started : StartedDaemon}
    (done : ((initial process config requests kept files).run answers mishaps world
      schedule).start = .done (.ok started)) :
    ∃ earlier peers socket, earlier ++ [.new] <+: schedule ∧
      started = ⟨.ofConfig process config, some config.settings.stateDirectory, .initial peers,
        socket⟩ ∧
      let read :=
        ((initial process config requests kept files).run answers mishaps world earlier).old.service
      read.files.run (Peers.load config.settings.stateDirectory) = (.ok peers, read.files) ∧
      (∀ save ∈ read.saves, save.2 = .ok () → save.1.Within peers) ∧
      (∀ slug peer, peers.get? slug = some peer →
        base.get? slug = some peer ∨ kept.get? slug = some peer ∨ slug ∈ read.registered) ∧
      ∀ (κ : Type) [DecidableEq κ] (requests : κ → Request) (answers : Nat → Daemon.Answers)
        (mishaps : Nat → Option Mishap) (schedule : List κ) (files : FileSystem) (base : Peers),
        IsOwn files config.settings.stateDirectory →
        files.run (Peers.load config.settings.stateDirectory) = (.ok base, files) →
        let now := (Serving.opened config.settings.stateDirectory config.settings.region requests
          peers files).run answers mishaps schedule
        (∀ slug peer, peers.get? slug = some peer →
          now.Reuses config.settings.stateDirectory slug peer) ∧
        ∀ slug, peers.get? slug = none →
          now.Forgets config.settings.stateDirectory requests slug := by
  have holds : Holds files config.settings.stateDirectory base :=
    Peers.holds_of_run_load loads
  have progress : Progress answers mishaps world process config kept base requests
      (initial process config requests kept files) schedule _ := progress_run own holds schedule
  cases progress with
  | loading sound loading =>
    -- A daemon that still loads has not started.
    have unfinished := loading.start
    rw [done] at unfinished
    cases unfinished
  | loaded earlier peers before loaded =>
    have returns := loaded.returns
    rw [done] at returns
    obtain ⟨socket, same⟩ := returns started rfl
    obtain ⟨read, saved, known⟩ := loaded.read_peers
    refine ⟨earlier, peers, socket, before, same, read, saved, known, ?_⟩
    intro κ _ requests answers mishaps schedule files base own loads
    exact Serving.keeps_peers answers mishaps config.settings.stateDirectory
      config.settings.region requests peers own (Peers.holds_of_run_load loads) schedule

end

/-- A configuration with the state directory `/state`. -/
def inState : Config where
  settings := ⟨.ofText "/state/control", .ofText "/state", "eu", .ofMilliseconds 5000, none⟩
  memberships := ∅
  source := none

def deaf : Host.Answers
  | .file call => (FileSystem.react call Peers.emptyState).1
  | .contact .. => .refused .notFound
  | .now => 0
  | .sleep _ => ()
  | .start .. => .ok ()

/-- An organization is registered, saved and answered after the new daemon has read the file. -/
def late : Takeover Unit :=
  (initial 1 inState (fun _ => .establish "acme") ∅ Peers.emptyState).run
    (fun _ => Daemon.obliging) (fun _ => none) (fun _ => deaf)
    (List.replicate 4 .new ++ List.replicate 13 (.old ()) ++ List.replicate 8 .new)

def peers? (state : Takeover ι) : Option Peers :=
  match state.start with
  | .done (.ok started) => some started.registry.peers
  | _ => none

theorem exists_of_peers? {peers : Peers} (found : state.peers? = some peers) :
    ∃ started, state.start = .done (.ok started) ∧ started.registry.peers = peers := by
  unfold peers? at found
  split at found
  · next started same => exact ⟨started, same, Option.some.inj found⟩
  · cases found

/-- What the old daemon saved, and answered that it did, is forgotten by the new one. -/
theorem forgets_late_registration :
    (late.old.result? ()).map (·.isOk) = some true ∧
      late.old.service.saves.map (fun save => ((save.1.get? "acme").isSome, save.2.isOk)) =
        [(true, true)] ∧
      ∃ peers socket,
        late.start = .done (.ok ⟨.ofConfig 1 inState, some (.ofText "/state"), .initial peers,
          socket⟩) ∧
        ∀ (requests : Nat → Request) (schedule : List Nat) (files : FileSystem) (base : Peers),
          IsOwn files (.ofText "/state") →
          files.run (Peers.load (.ofText "/state")) = (.ok base, files) →
          ((Serving.opened (.ofText "/state") "eu" requests peers files).run
            (fun _ => Daemon.obliging) (fun _ => none) schedule).Forgets (.ofText "/state")
              requests "acme" := by
  have unknown : late.peers?.map (fun peers => (peers.get? "acme").isNone) = some true := by
    decide +kernel
  obtain ⟨peers, found, unknown⟩ := Option.map_eq_some_iff.1 unknown
  obtain ⟨started, done, same⟩ := exists_of_peers? found
  have loads : Peers.emptyState.run (Peers.load inState.settings.stateDirectory) =
      (.ok ∅, Peers.emptyState) := by rfl
  obtain ⟨-, peers', socket, -, rfl, -, -, -, later⟩ :=
    keeps_what_was_read Peers.isOwn_emptyState loads (fun _ => Daemon.obliging) (fun _ => none)
      (fun _ => deaf) _ done
  subst same
  refine ⟨by decide +kernel, by decide +kernel, _, socket, done, ?_⟩
  intro requests schedule files base own loads
  exact (later Nat requests (fun _ => Daemon.obliging) (fun _ => none) schedule files base own
    loads).2 "acme" (Option.isNone_iff_eq_none.1 unknown)

end Takeover

end TunnelBroker
