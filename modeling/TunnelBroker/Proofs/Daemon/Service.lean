import TunnelBroker.Proofs.Peer.Loading
import TunnelBroker.Proofs.Registry.Turns

/-!
A daemon that serves requests for tunnels, with its saves told file call by file call. Main
statement: whatever is asked for, the daemon keeps the peers that it began with, registers
none of them again, and every other peer that it keeps was registered while it ran.
-/

set_option autoImplicit false

namespace TunnelBroker

open Peers (IsOwn Holds Reliable)

namespace Daemon

/-- Calls of a daemon, where saves are told by the calls to the files and by their outcomes. -/
inductive Action where
  | put (call : Call)
  | file (call : FileCall)
  | saved (peers : Peers) (result : Except Failure Unit)

abbrev Action.Answer : Action → Type
  | put call => call.Answer
  | file call => call.Answer
  | saved .. => Unit

/-- Actions that leave the registry where it is. -/
def Action.IsOutward : Action → Prop
  | put call => call.IsOutward
  | _ => True

/-- What a daemon does, action by action. -/
abbrev Course (α : Type) : Type := Interaction Action Action.Answer α

namespace Course

variable {α β : Type}

def ofFiles : FileTask α → Course α
  | Interaction.done value => .done value
  | Interaction.ask call next => .ask (.file call) fun answer => ofFiles (next answer)

/-- A task of a daemon that keeps its peers in a state directory. -/
def ofTask (directory : Path) : Task α → Course α
  | .done value => .done value
  | .ask (.savePeers peers) next =>
    (ofFiles (Peers.save directory peers)).bind fun result =>
      .ask (.saved peers result) fun _ => ofTask directory (next result)
  | .ask call next => .ask (.put call) fun answer => ofTask directory (next answer)

theorem ofTask_bind (directory : Path) (first : Task α) (then' : α → Task β) :
    ofTask directory (first.bind then') =
      (ofTask directory first).bind fun value => ofTask directory (then' value) := by
  induction first with
  | done value => rfl
  | ask call next ih =>
    cases call with
    | savePeers peers =>
      refine Eq.trans ?_ (Interaction.bind_assoc ..).symm
      refine congrArg (Interaction.bind _) (funext fun result => ?_)
      exact congrArg (Interaction.ask _) (funext fun _ => ih result)
    | _ => exact congrArg (Interaction.ask _) (funext fun answer => ih answer)

theorem ofFiles_outward (task : FileTask α) : (ofFiles task).Puts Action.IsOutward := by
  induction task with
  | done value => trivial
  | ask call next ih => exact ⟨trivial, ih⟩

theorem ofTask_outward (directory : Path) {task : Task α} (outward : task.Puts Call.IsOutward) :
    (ofTask directory task).Puts Action.IsOutward := by
  induction task with
  | done value => trivial
  | ask call next ih =>
    cases call with
    | savePeers peers =>
      apply (ofFiles_outward _).bind
      intro result
      exact ⟨trivial, fun _ => ih result (outward.2 result)⟩
    | _ => exact ⟨outward.1, fun answer => ih answer (outward.2 answer)⟩

end Course

end Daemon

open Daemon (Action Course)

/-- A daemon's registry and files, and what it has done. -/
structure Service where
  registry : Registry
  files : FileSystem
  steps : Nat
  registered : List String
  saves : List (Peers × Except Failure Unit)

namespace Service

def opened (peers : Peers) (files : FileSystem) : Service :=
  ⟨.initial peers, files, 0, [], []⟩

variable (answers : Nat → Daemon.Answers) (mishaps : Nat → Option Mishap)

def react : Interaction.Handler Action Action.Answer Service
  | .put .takeRegistry, service => (service.registry, { service with steps := service.steps + 1 })
  | .put (.returnRegistry registry), service =>
    ((), { service with registry := registry, steps := service.steps + 1 })
  | .put (.register organization region name key), service =>
    (answers service.steps (.register organization region name key),
      { service with
        registered := organization.slug :: service.registered
        steps := service.steps + 1 })
  | .put call, service =>
    (answers service.steps call, { service with steps := service.steps + 1 })
  | .file call, service =>
    let (answer, files, steps) := FileSystem.falter mishaps call (service.files, service.steps)
    (answer, { service with files := files, steps := steps })
  | .saved peers result, service =>
    ((), { service with saves := (peers, result) :: service.saves, steps := service.steps + 1 })

end Service

/-! ### What a daemon keeps -/

namespace Service

/-- A peer for the organization was kept from the start, or was to be registered. -/
def Knows (kept : Peers) (service : Service) (slug : String) : Prop :=
  (kept.get? slug).isSome = true ∨ slug ∈ service.registered

/-- All that was kept from the start, and what was registered. -/
structure Extends (kept : Peers) (service : Service) (peers : Peers) : Prop where
  within : kept.Within peers
  known : ∀ slug peer, peers.get? slug = some peer →
    kept.get? slug = some peer ∨ slug ∈ service.registered

/-- The peer file keeps what was saved, or what it kept from the start. -/
structure Stores (kept base : Peers) (service : Service) (stored : Peers) : Prop where
  saved : ∀ save ∈ service.saves, save.2 = .ok () → save.1.Within stored
  whole : service.Extends kept stored ∨
    stored = base ∧ ∀ save ∈ service.saves, save.2 ≠ .ok ()

/--
A daemon began with the peers `kept` in memory, when its peer file kept `base`. It works on
`registry`.
-/
structure Sound (directory : Path) (kept base : Peers) (registry : Registry)
    (service : Service) : Prop where
  own : IsOwn service.files directory
  stores : ∃ stored, Holds service.files directory stored ∧ service.Stores kept base stored
  memory : service.Extends kept registry.peers
  saves : ∀ save ∈ service.saves, service.Extends kept save.1 ∧ save.1.Within registry.peers
  fresh : ∀ slug ∈ service.registered, kept.get? slug = none
  tunnels : ∀ slug tunnel, registry.tunnels.get? slug = some tunnel → service.Knows kept slug

/-- One action of a daemon. -/
structure Serves (directory : Path) (kept base : Peers) (before now : Service) : Prop where
  reliable : Reliable directory before.files now.files
  sound : ∃ registry, Sound directory kept base registry now

variable {directory : Path} {kept base peers : Peers} {registry : Registry} {service now : Service}
  {slug : String}

theorem Knows.mono (grown : ∀ slug ∈ service.registered, slug ∈ now.registered)
    (knows : service.Knows kept slug) : now.Knows kept slug :=
  knows.imp_right (grown slug)

theorem Extends.mono (grown : ∀ slug ∈ service.registered, slug ∈ now.registered)
    (whole : service.Extends kept peers) : now.Extends kept peers :=
  ⟨whole.within, fun slug peer found => (whole.known slug peer found).imp_right (grown slug)⟩

theorem Extends.insert (whole : service.Extends kept peers) (unknown : peers.get? slug = none)
    (registered : slug ∈ service.registered) (peer : Peer) :
    service.Extends kept (peers.insert slug peer) := by
  refine ⟨whole.within.trans (Peers.within_insert unknown peer), ?_⟩
  intro other found isThere
  rw [Table.get?_insert] at isThere
  split at isThere
  · next same => exact .inr (same ▸ registered)
  · exact whole.known other found isThere

-- Only what was done matters, and not the count of the actions.
theorem Sound.congr (sound : Sound directory kept base registry service)
    (files : now.files = service.files) (registered : now.registered = service.registered)
    (saves : now.saves = service.saves) : Sound directory kept base registry now := by
  have same : ∀ slug ∈ service.registered, slug ∈ now.registered := fun _ => registered ▸ id
  obtain ⟨stored, holds, saved, whole⟩ := sound.stores
  constructor
  case own => exact files ▸ sound.own
  case stores =>
    refine ⟨stored, files ▸ holds, saves ▸ saved, ?_⟩
    exact whole.imp (.mono same) fun ⟨untouched, failed⟩ => ⟨untouched, saves ▸ failed⟩
  case memory => exact sound.memory.mono same
  case saves =>
    intro save member
    rw [saves] at member
    exact (sound.saves save member).imp_left (.mono same)
  case fresh => exact registered ▸ sound.fresh
  case tunnels => exact fun slug tunnel found => (sound.tunnels slug tunnel found).mono same

theorem Sound.holds (sound : Sound directory kept base registry service) :
    ∃ stored, Holds service.files directory stored := by
  obtain ⟨stored, holds, -⟩ := sound.stores
  exact ⟨stored, holds⟩

-- An action that leaves the files alone.
theorem Sound.serves (sound : Sound directory kept base registry now)
    (files : now.files = service.files) : Serves directory kept base service now where
  reliable := files ▸ ⟨rfl, id, files ▸ sound.holds⟩
  sound := ⟨registry, sound⟩

theorem Sound.register (sound : Sound directory kept base registry service)
    (unknown : registry.peers.get? slug = none) (steps : Nat) :
    Sound directory kept base registry
      { service with registered := slug :: service.registered, steps := steps } := by
  have grown : ∀ other ∈ service.registered, other ∈ slug :: service.registered :=
    fun _ => List.mem_cons_of_mem slug
  obtain ⟨stored, holds, saved, whole⟩ := sound.stores
  constructor
  case own => exact sound.own
  case stores => exact ⟨stored, holds, saved, whole.imp_left (.mono grown)⟩
  case memory => exact sound.memory.mono grown
  case saves => exact fun save member => (sound.saves save member).imp_left (.mono grown)
  case fresh =>
    intro other member
    rcases List.mem_cons.1 member with rfl | member
    · -- Memory has all that was kept, and it has no peer for this organization.
      cases found : kept.get? other with
      | none => rfl
      | some peer => cases unknown.symm.trans (sound.memory.within other peer found)
    · exact sound.fresh other member
  case tunnels => exact fun other tunnel found => (sound.tunnels other tunnel found).mono grown

/-! ### Saving -/

section Saving

variable {answers : Nat → Daemon.Answers} {mishaps : Nat → Option Mishap}

theorem steps_ofFiles {α : Type} {task : FileTask α}
    {stepFiles : FileSystem × Nat → FileSystem × Nat → Prop}
    {postFiles : α → FileSystem × Nat → Prop} {step : Service → Service → Prop}
    {post : α → Service → Prop} {files : FileSystem} {steps : Nat}
    (done : task.Steps (FileSystem.falter mishaps) stepFiles postFiles (files, steps))
    (each : ∀ files steps files' steps', stepFiles (files, steps) (files', steps') →
      step { service with files := files, steps := steps }
        { service with files := files', steps := steps' })
    (last : ∀ value files steps, postFiles value (files, steps) →
      post value { service with files := files, steps := steps }) :
    (Course.ofFiles task).Steps (react answers mishaps) step post
      { service with files := files, steps := steps } := by
  induction task generalizing files steps with
  | done value => exact last value files steps done
  | ask call next ih =>
    obtain ⟨first, later⟩ := done
    exact ⟨each _ _ _ _ first, ih _ later⟩

-- The registry with a new peer, while the peer file may keep it or not.
theorem Sound.insert (sound : Sound directory kept base registry service)
    (unknown : registry.peers.get? slug = none) (registered : slug ∈ service.registered)
    (peer : Peer) {files : FileSystem} {stored : Peers} (steps : Nat)
    (own : IsOwn files directory) (holds : Holds files directory stored)
    (stores : service.Stores kept base stored) :
    Sound directory kept base { registry with peers := registry.peers.insert slug peer }
      { service with files := files, steps := steps } := by
  have grown := Peers.within_insert unknown peer
  have same : ∀ other ∈ service.registered, other ∈ service.registered := fun _ => id
  constructor
  case own => exact own
  case stores => exact ⟨stored, holds, stores.saved, stores.whole.imp_left (.mono same)⟩
  case memory => exact (sound.memory.insert unknown registered peer).mono same
  case saves =>
    intro save member
    obtain ⟨whole, within⟩ := sound.saves save member
    exact ⟨whole.mono same, within.trans grown⟩
  case fresh => exact sound.fresh
  case tunnels => exact sound.tunnels

theorem Stores.after_save {stored : Peers} (stores : service.Stores kept base stored)
    (whole : service.Extends kept peers)
    (older : ∀ save ∈ service.saves, save.1.Within peers) (result : Except Failure Unit)
    (registered : now.registered = service.registered)
    (saves : now.saves = (peers, result) :: service.saves) :
    now.Stores kept base (Peers.settled stored peers result) := by
  have same : ∀ slug ∈ service.registered, slug ∈ now.registered := fun _ => registered ▸ id
  cases result with
  | ok _ =>
    constructor
    case whole => exact .inl (whole.mono same)
    case saved =>
      intro save member _
      rw [saves] at member
      rcases List.mem_cons.1 member with rfl | member
      · exact fun _ _ => id
      · exact older save member
  | error failure =>
    -- The file is as it was, and of the saves that went well there are no more than before.
    constructor
    case saved =>
      intro save member succeeds
      rw [saves] at member
      rcases List.mem_cons.1 member with rfl | member
      · cases succeeds
      · exact stores.saved save member succeeds
    case whole =>
      refine stores.whole.imp (.mono same) fun ⟨untouched, allFailed⟩ => ⟨untouched, ?_⟩
      rw [saves]
      refine List.forall_mem_cons.2 ⟨fun succeeds => ?_, allFailed⟩
      cases succeeds

-- The registry with a new peer after it was saved, or was not.
theorem Sound.after_save (sound : Sound directory kept base registry service)
    (unknown : registry.peers.get? slug = none) (registered : slug ∈ service.registered)
    (peer : Peer) (result : Except Failure Unit) {stored : Peers}
    (stores : service.Stores kept base stored) (own : IsOwn now.files directory)
    (holds : Holds now.files directory
      (Peers.settled stored (registry.peers.insert slug peer) result))
    (sameRegistered : now.registered = service.registered)
    (saves : now.saves = (registry.peers.insert slug peer, result) :: service.saves) :
    Sound directory kept base { registry with peers := registry.peers.insert slug peer } now := by
  have grown := Peers.within_insert unknown peer
  have whole := sound.memory.insert unknown registered peer
  have same : ∀ other ∈ service.registered, other ∈ now.registered :=
    fun _ => sameRegistered ▸ id
  have older : ∀ save ∈ service.saves, save.1.Within (registry.peers.insert slug peer) :=
    fun save member => (sound.saves save member).2.trans grown
  constructor
  case own => exact own
  case stores => exact ⟨_, holds, stores.after_save whole older result sameRegistered saves⟩
  case memory => exact whole.mono same
  case saves =>
    rw [saves]
    refine List.forall_mem_cons.2 ⟨⟨whole.mono same, fun _ _ => id⟩, fun save member => ?_⟩
    exact ⟨(sound.saves save member).1.mono same, older save member⟩
  case fresh => exact sameRegistered ▸ sound.fresh
  case tunnels => exact fun other tunnel found => (sound.tunnels other tunnel found).mono same

theorem steps_savePeers {α : Type} {next : Except Failure Unit → Course α}
    {post : α → Service → Prop} (sound : Sound directory kept base registry service)
    (unknown : registry.peers.get? slug = none) (registered : slug ∈ service.registered)
    (peer : Peer)
    (later : ∀ result now,
      Sound directory kept base { registry with peers := registry.peers.insert slug peer } now →
      now.registered = service.registered →
      (next result).Steps (react answers mishaps) (Serves directory kept base) post now) :
    ((Course.ofFiles (Peers.save directory (registry.peers.insert slug peer))).bind fun result =>
        .ask (.saved (registry.peers.insert slug peer) result) fun _ => next result).Steps
      (react answers mishaps) (Serves directory kept base) post service := by
  obtain ⟨stored, holds, stores⟩ := sound.stores
  have grown := Peers.within_insert unknown peer
  have whole := sound.memory.insert unknown registered peer
  have storesNew : service.Stores kept base (registry.peers.insert slug peer) :=
    ⟨fun save member _ => (sound.saves save member).2.trans grown, .inl whole⟩
  have saving : (Course.ofFiles (Peers.save directory (registry.peers.insert slug peer))).Steps
      (react answers mishaps) (Serves directory kept base)
      (fun result now => IsOwn now.files directory ∧
        Holds now.files directory
          (Peers.settled stored (registry.peers.insert slug peer) result) ∧
        now.registered = service.registered ∧ now.saves = service.saves) service := by
    apply steps_ofFiles (Peers.steps_save mishaps service.steps holds sound.own
      (registry.peers.insert slug peer))
    · intro files steps files' steps' advances
      -- Memory has the new peer from the start of the save, the file from some step on.
      refine ⟨⟨advances.user, advances.kept, ?_⟩,
        { registry with peers := registry.peers.insert slug peer }, ?_⟩
      · exact advances.holds.elim (⟨_, ·⟩) (⟨_, ·⟩)
      · rcases advances.holds with holds | holds
        · exact sound.insert unknown registered peer steps' advances.own holds stores
        · exact sound.insert unknown registered peer steps' advances.own holds storesNew
    · rintro result files steps ⟨own, holds⟩
      exact ⟨own, holds, rfl, rfl⟩
  refine saving.bind fun result last ⟨own, holds, sameRegistered, sameSaves⟩ => ?_
  have done : Sound directory kept base
      { registry with peers := registry.peers.insert slug peer }
      (react answers mishaps (.saved (registry.peers.insert slug peer) result) last).2 :=
    sound.after_save unknown registered peer result stores own holds sameRegistered
      (congrArg ((_, result) :: ·) sameSaves)
  exact ⟨done.serves rfl, later result _ done sameRegistered⟩

/-! ### Finding a peer and establishing a tunnel -/

theorem steps_chooseName (sound : Sound directory kept base registry service) (name : String) :
    (Course.ofTask directory (Peers.chooseName name)).Steps (react answers mishaps)
      (Serves directory kept base) (fun _ now => Sound directory kept base registry now)
      service := by
  unfold Peers.chooseName
  split
  · have next : Sound directory kept base registry { service with steps := service.steps + 1 } :=
      sound.congr rfl rfl rfl
    exact ⟨next.serves rfl, next⟩
  · exact sound

theorem steps_enroll (sound : Sound directory kept base registry service)
    (organization : Organization) (unknown : registry.peers.get? organization.slug = none)
    (region name : String) :
    (Course.ofTask directory (registry.peers.enroll organization region name)).Steps
      (react answers mishaps) (Serves directory kept base)
      (fun found now => Sound directory kept base { registry with peers := found.2 } now ∧
        ∀ peer, found.1 = .ok peer → now.Knows kept organization.slug) service := by
  have keyed : Sound directory kept base registry { service with steps := service.steps + 1 } :=
    sound.congr rfl rfl rfl
  refine ⟨keyed.serves rfl, ?_⟩
  -- From the question to the directory on the organization counts as registered.
  have enrolled := keyed.register unknown (service.steps + 1 + 1)
  refine ⟨enrolled.serves rfl, ?_⟩
  dsimp only [react]
  generalize answers (service.steps + 1) (.register organization region name _) = answer
  cases answer with
  | error failure => exact ⟨enrolled, fun peer wrong => nomatch wrong⟩
  | ok registration =>
    refine steps_savePeers enrolled unknown List.mem_cons_self _ fun result now sound same => ?_
    refine ⟨sound, fun _ _ => .inr ?_⟩
    rw [same]
    exact List.mem_cons_self

theorem steps_acquire (sound : Sound directory kept base registry service)
    (organization : Organization) (region name defaultRegion : String) :
    (Course.ofTask directory
        (registry.peers.acquire organization region name defaultRegion)).Steps
      (react answers mishaps) (Serves directory kept base)
      (fun found now => Sound directory kept base { registry with peers := found.2 } now ∧
        ∀ peer, found.1 = .ok peer → now.Knows kept organization.slug) service := by
  cases known : registry.peers.get? organization.slug with
  | some peer =>
    rw [Peers.acquire_of_some known]
    refine ⟨sound, fun _ _ => ?_⟩
    refine (sound.memory.known _ _ known).imp_left fun isThere => ?_
    rw [isThere]
    rfl
  | none =>
    rw [Peers.acquire_of_none known, Course.ofTask_bind]
    exact (steps_chooseName sound name).bind fun name now sound =>
      steps_enroll sound organization known _ name

theorem steps_connect (organization : Organization) {found : Except Failure Peer × Peers}
    (acquired : Sound directory kept base { registry with peers := found.2 } service)
    (knows : ∀ peer, found.1 = .ok peer → service.Knows kept slug) :
    (Course.ofTask directory (registry.connect slug organization found)).Steps
      (react answers mishaps) (Serves directory kept base)
      (fun outcome now => Sound directory kept base outcome.2 now ∧
        ∀ tunnel, outcome.1 = .ok tunnel → now.Knows kept slug) service := by
  obtain ⟨peer, peers⟩ := found
  cases peer with
  | error failure => exact ⟨acquired, fun tunnel wrong => nomatch wrong⟩
  | ok peer =>
    have next : Sound directory kept base { registry with peers := peers }
        { service with steps := service.steps + 1 } := acquired.congr rfl rfl rfl
    have knows : Knows kept { service with steps := service.steps + 1 } slug := knows peer rfl
    refine ⟨next.serves rfl, ?_⟩
    dsimp only [react]
    generalize answers service.steps (.openTunnel _) = answer
    cases answer with
    | error failure => exact ⟨next, fun tunnel wrong => nomatch wrong⟩
    | ok session =>
      refine ⟨⟨next.own, next.stores, next.memory, next.saves, next.fresh, ?_⟩, fun _ _ => knows⟩
      intro other tunnel isThere
      -- A tunnel in the registry is the new one, or it was there before.
      dsimp only [Registry.settle] at isThere
      rw [Table.get?_insert] at isThere
      split at isThere
      · next same => exact same ▸ knows
      · exact next.tunnels other tunnel isThere

theorem steps_establish (sound : Sound directory kept base registry service)
    (region slug : String) :
    (Course.ofTask directory (registry.establish region slug)).Steps (react answers mishaps)
      (Serves directory kept base)
      (fun outcome now => Sound directory kept base outcome.2 now ∧
        ∀ tunnel, outcome.1 = .ok tunnel → now.Knows kept slug) service := by
  cases known : registry.tunnels.get? slug with
  | some tunnel =>
    rw [Registry.establish_of_some known]
    exact ⟨sound, fun _ _ => sound.tunnels slug tunnel known⟩
  | none =>
    rw [Registry.establish_of_none known]
    have listed : Sound directory kept base registry { service with steps := service.steps + 1 } :=
      sound.congr rfl rfl rfl
    refine ⟨listed.serves rfl, ?_⟩
    dsimp only [react]
    generalize answers service.steps .organizations = listing
    cases found : Organization.find listing slug with
    | error failure => exact ⟨listed, fun tunnel wrong => nomatch wrong⟩
    | ok organization =>
      dsimp only [Registry.enter]
      rw [Course.ofTask_bind]
      apply (steps_acquire listed organization "" "" region).bind
      rintro result now ⟨sound, knows⟩
      rw [Organization.slug_of_find found] at knows
      exact steps_connect organization sound knows

theorem steps_work (sound : Sound directory kept base registry service) (region : String)
    (request : Request) :
    (Course.ofTask directory (request.work region registry)).Steps (react answers mishaps)
      (Serves directory kept base)
      (fun outcome now => Sound directory kept base outcome.2 now ∧
        ∀ tunnel, outcome.1 = .ok tunnel → now.Knows kept request.slug) service := by
  cases request with
  | establish slug => exact steps_establish sound region slug
  | tunnelFor slug =>
    refine ⟨sound, fun tunnel established => ?_⟩
    dsimp only [Registry.tunnelFor] at established
    split at established
    · next found => exact sound.tunnels slug _ found
    · cases established

-- What was to be registered stays so.
theorem registered_react (action : Action) (service : Service) :
    ∀ slug ∈ service.registered, slug ∈ (react answers mishaps action service).2.registered := by
  intro slug member
  cases action with
  | put call =>
    cases call with
    | register => exact List.mem_cons_of_mem _ member
    | _ => exact member
  | _ => exact member

end Saving

end Service

end TunnelBroker
