import TunnelBroker.Proofs.ControlSocket
import TunnelBroker.Proofs.Daemon.Takeover

/-!
A daemon that stops while another one takes its path. The leaving daemon closes its listener,
looks whether the path still leads to its socket, and removes what is there then; the entering
daemon does all of its work in between, as the steps fall. Main statement: the socket of the
entering daemon is removed exactly if that daemon began to listen after the leaving one had
closed its listener, and before the leaving one removed what it took for its own.
-/

set_option autoImplicit false

namespace TunnelBroker

open ControlSocket (Fails)

deriving instance DecidableEq for FileCall

inductive Succession.Party where
  | leaving
  | entering
  deriving DecidableEq

/-- A daemon that leaves, and another one that takes over its path. -/
structure Succession where
  files : FileSystem
  leaving : FileTask Unit
  entering : Host.Task (Except Failure ControlSocket)
  calls : List (Succession.Party × FileCall)
  asked : Nat

/-- A path leads to the socket that a daemon has bound, and the daemon listens there. -/
def ControlSocket.IsInPlace (socket : ControlSocket) (files : FileSystem) : Prop :=
  files.listener socket.path = .ok socket.listener ∧
    ∃ node, files.find socket.path false = .ok node ∧ node.inode = socket.tracked

namespace Succession

/-- The leaving daemon is about to release its socket. -/
def initial (socket : ControlSocket) (files : FileSystem) : Succession where
  files := files
  leaving := socket.release
  entering := ControlSocket.bind socket.path
  calls := []
  asked := 0

/-- One daemon puts a call. Files are shared, and the world answers everything else. -/
def step (world : Nat → Host.Answers) (state : Succession) : Party → Succession
  | .leaving =>
    match state.leaving with
    | .done _ => state
    | Interaction.ask call next =>
      let (answer, files) := FileSystem.react call state.files
      { state with files, leaving := next answer, calls := state.calls ++ [(.leaving, call)] }
  | .entering =>
    match state.entering with
    | .done _ => state
    | Interaction.ask (.file call) next =>
      let (answer, files) := FileSystem.react call state.files
      { state with files, entering := next answer, calls := state.calls ++ [(.entering, call)] }
    | Interaction.ask call next =>
      { state with entering := next (world state.asked call), asked := state.asked + 1 }

def run (world : Nat → Host.Answers) (state : Succession) (schedule : List Party) : Succession :=
  schedule.foldl (step world) state

variable {world : Nat → Host.Answers} {socket : ControlSocket} {state : Succession}
  {entry : Location} {node : FileNode}

theorem run_concat (schedule : List Party) (party : Party) :
    state.run world (schedule ++ [party]) = (state.run world schedule).step world party := by
  rw [run, List.foldl_append]
  rfl

theorem step_of_left {value : Unit} (left : state.leaving = .done value) :
    state.step world .leaving = state := by
  simp only [step, left]

theorem step_of_entered {result : Except Failure ControlSocket}
    (entered : state.entering = .done result) : state.step world .entering = state := by
  simp only [step, entered]

theorem step_leaving {call : FileCall} {next : call.Answer → FileTask Unit}
    (leaving : state.leaving = Interaction.ask call next) :
    state.step world .leaving = { state with
      files := (state.files.react call).2
      leaving := next (state.files.react call).1
      calls := state.calls ++ [(.leaving, call)] } := by
  simp only [step, leaving]

theorem entering_step_leaving :
    (state.step world .leaving).entering = state.entering := by
  simp only [step]
  split <;> rfl

theorem step_entering {call : FileCall}
    {next : call.Answer → Host.Task (Except Failure ControlSocket)}
    (entering : state.entering = Interaction.ask (.file call) next) :
    state.step world .entering = { state with
      files := (state.files.react call).2
      entering := next (state.files.react call).1
      calls := state.calls ++ [(.entering, call)] } := by
  simp only [step, entering]

theorem step_elsewhere {call : Host.Call} (elsewhere : ∀ file, call ≠ .file file)
    {next : call.Answer → Host.Task (Except Failure ControlSocket)}
    (entering : state.entering = Interaction.ask call next) :
    state.step world .entering = { state with
      entering := next (world state.asked call)
      asked := state.asked + 1 } := by
  cases call with
  | file call => exact absurd rfl (elsewhere call)
  | _ => simp only [step, entering]

/-! ### Collisions -/

def closing (socket : ControlSocket) : Party × FileCall := (.leaving, .close socket.listener)

def listening (socket : ControlSocket) : Party × FileCall := (.entering, .listen socket.path)

def removing (socket : ControlSocket) : Party × FileCall := (.leaving, .unlink socket.path)

/--
The entering daemon began to listen after the leaving one had closed its listener, and before
the leaving one removed a socket from the path.
-/
def Collides (socket : ControlSocket) (state : Succession) : Prop :=
  [closing socket, listening socket, removing socket].Sublist state.calls

instance (socket : ControlSocket) (state : Succession) : Decidable (state.Collides socket) :=
  inferInstanceAs (Decidable ([closing socket, listening socket, removing socket].Sublist _))

/-- The leaving daemon removed nothing after the entering one had begun to listen. -/
def Spared (socket : ControlSocket) (calls : List (Party × FileCall)) : Prop :=
  ¬ [listening socket, removing socket].Sublist calls

-- The last of all calls is the second one of a pair, or does not count.
theorem pair_sublist_concat {α : Type} {first second last : α} {calls : List α} :
    [first, second].Sublist (calls ++ [last]) ↔
      [first, second].Sublist calls ∨ second = last ∧ first ∈ calls := by
  have reversed (calls : List α) :
      [first, second].Sublist calls ↔ [second, first].Sublist calls.reverse :=
    List.reverse_sublist.symm
  rw [reversed, reversed, List.reverse_concat, List.cons_sublist_cons', List.singleton_sublist,
    List.mem_reverse]

variable {calls : List (Party × FileCall)} {call : Party × FileCall}

theorem entering_ne_removing (call : FileCall) : (.entering, call) ≠ removing socket := by
  intro same
  cases same

theorem close_ne_removing (number : Nat) : (.leaving, .close number) ≠ removing socket := by
  intro same
  cases same

theorem status_ne_removing (path : Path) (follows : Bool) :
    (.leaving, .status path follows) ≠ removing socket := by
  intro same
  cases same

theorem Spared.concat (spared : Spared socket calls) (differ : call ≠ removing socket) :
    Spared socket (calls ++ [call]) := by
  intro removed
  rcases pair_sublist_concat.1 removed with earlier | ⟨same, -⟩
  · exact spared earlier
  · exact differ same.symm

theorem spared_of_not_mem (notYet : listening socket ∉ calls) :
    Spared socket (calls ++ [listening socket]) := by
  intro removed
  rcases pair_sublist_concat.1 removed with earlier | ⟨same, -⟩
  · exact notYet (earlier.subset List.mem_cons_self)
  · cases same

theorem Spared.not_collides (spared : Spared socket state.calls) : ¬ state.Collides socket :=
  fun collides => spared ((List.sublist_cons_self ..).trans collides)

/-! ### Stages -/

/-- What the leaving daemon may have left to do when it has closed its listener. -/
inductive Remains (socket : ControlSocket) : FileTask Unit → Prop where
  | check : Remains socket (ControlSocket.removeOwn socket.path socket.tracked)
  | remove : Remains socket (Interaction.ask (.unlink socket.path) fun _ => .done ())
  | done : Remains socket (.done ())

/-- What the entering daemon may have left to do when it listens with the given number. -/
inductive Finishes (path : Path) (number : Nat) :
    Host.Task (Except Failure ControlSocket) → Prop where
  | secure : Finishes path number (Host.ofFiles (ControlSocket.secure path number))
  | confine : Finishes path number (Host.ofFiles (ControlSocket.confine path number number))
  | done : Finishes path number (.done (.ok ⟨path, number, number⟩))

/-- The leaving daemon still listens, or it has closed its listener. -/
inductive Leaves (socket : ControlSocket) (state : Succession) : Prop where
  | listens (leaving : state.leaving = socket.release)
    (held : socket.listener ∈ state.files.held)
  | closed (logged : closing socket ∈ state.calls) (remains : Remains socket state.leaving)

/-- The entering daemon does not listen yet. -/
structure Preparing (socket : ControlSocket) (rest : Host.Task (Except Failure Unit))
    (state : Succession) : Prop where
  entering : state.entering = rest.bind (ControlSocket.settle socket.path)
  prepares : rest.Puts Host.Call.Prepares
  notYet : listening socket ∉ state.calls
  leaves : state.Leaves socket

/-- Whether the leaving daemon may take the new socket for its own. -/
inductive Threatens (socket : ControlSocket) (number : Nat) (state : Succession) : Prop where
  /-- The numbers differ, as the old socket was open when the new one was made. -/
  | never (differ : number ≠ socket.listener)
    (leaving : state.leaving = socket.release ∨
      state.leaving = ControlSocket.removeOwn socket.path socket.tracked ∨
      state.leaving = .done ())
  | maybe (closed : [closing socket, listening socket].Sublist state.calls)
    (remains : Remains socket state.leaving)

/-- The entering daemon listens, and the path leads to its socket. -/
structure Present (socket : ControlSocket) (entry : Location) (node : FileNode)
    (state : Succession) : Prop where
  listens : state.files.Listens socket.path entry node
  finishes : Finishes socket.path node.inode state.entering
  spared : Spared socket state.calls
  threatens : state.Threatens socket node.inode

/-- The leaving daemon has removed the socket of the entering one. -/
structure Removed (socket : ControlSocket) (state : Succession) : Prop where
  missing : ∀ follows, state.files.find socket.path follows = .error .notFound
  collides : state.Collides socket
  left : state.leaving = .done ()
  finishes : ∃ number, Finishes socket.path number state.entering

inductive Stage (socket : ControlSocket) (state : Succession) : Prop where
  | preparing {rest : Host.Task (Except Failure Unit)}
    (preparing : state.Preparing socket rest)
  | present {entry : Location} {node : FileNode} (present : state.Present socket entry node)
  | removed (removed : state.Removed socket)
  | failed (failing : state.entering.Yields Host.Allows Fails)

theorem Finishes.eq_of_bound {path : Path} {number : Nat} {successor : ControlSocket}
    {task : Host.Task (Except Failure ControlSocket)} (finishes : Finishes path number task)
    (bound : task = .done (.ok successor)) : successor = ⟨path, number, number⟩ := by
  cases finishes with
  | secure =>
    rw [ControlSocket.secure_eq] at bound
    cases bound
  | confine =>
    rw [ControlSocket.confine_eq] at bound
    cases bound
  | done =>
    cases bound
    rfl

-- Whoever does not listen yet is not bound.
theorem settle_ne (path : Path) (rest : Host.Task (Except Failure Unit))
    (successor : ControlSocket) :
    rest.bind (ControlSocket.settle path) ≠ .done (.ok successor) := by
  intro bound
  cases rest with
  | ask call next => cases bound
  | done prepared =>
    cases prepared with
    | error failure => cases bound
    | ok _ =>
      rw [Interaction.done_bind, ControlSocket.settle, ControlSocket.claim_eq] at bound
      cases bound

/-! ### One step -/

theorem remains_discard (found : Except FileFault FileNode) :
    Remains socket (ControlSocket.discard socket.path socket.tracked found) := by
  cases found with
  | error fault => exact .done
  | ok node =>
    simp only [ControlSocket.discard]
    split
    · exact .remove
    · exact .done

theorem Leaves.congr {later : Succession} (leaves : state.Leaves socket)
    (same : later.leaving = state.leaving) (held : state.files.held ⊆ later.files.held)
    (calls : state.calls ⊆ later.calls) : later.Leaves socket := by
  cases leaves with
  | listens leaving open' => exact .listens (same.trans leaving) (held open')
  | closed logged remains => exact .closed (calls logged) (same ▸ remains)

theorem Threatens.congr {number : Nat} {later : Succession}
    (threatens : state.Threatens socket number) (same : later.leaving = state.leaving)
    (calls : state.calls.Sublist later.calls) : later.Threatens socket number := by
  cases threatens with
  | never differ leaving => exact .never differ (same ▸ leaving)
  | maybe closed remains => exact .maybe (closed.trans calls) (same ▸ remains)

theorem Preparing.step_leaving {rest : Host.Task (Except Failure Unit)}
    (preparing : state.Preparing socket rest) :
    (state.step world .leaving).Preparing socket rest := by
  obtain ⟨entering, prepares, notYet, leaves⟩ := preparing
  have later (call : FileCall) : listening socket ∉ state.calls ++ [(.leaving, call)] := by
    intro logged
    rcases List.mem_append.1 logged with earlier | now
    · exact notYet earlier
    · cases List.mem_singleton.1 now
  cases leaves with
  | listens leaving held =>
    rw [ControlSocket.release_eq] at leaving
    rw [Succession.step_leaving leaving]
    exact ⟨entering, prepares, later _, .closed List.mem_concat_self .check⟩
  | closed logged remains =>
    generalize leaving : state.leaving = task at remains
    cases remains with
    | check =>
      rw [ControlSocket.removeOwn_eq] at leaving
      rw [Succession.step_leaving leaving]
      exact ⟨entering, prepares, later _,
        .closed (List.mem_append_left _ logged) (remains_discard _)⟩
    | remove =>
      rw [Succession.step_leaving leaving]
      exact ⟨entering, prepares, later _, .closed (List.mem_append_left _ logged) .done⟩
    | done =>
      rw [step_of_left leaving]
      exact ⟨entering, prepares, notYet, .closed logged (leaving ▸ .done)⟩

-- The first step that is not a preparation is to listen.
theorem Preparing.step_entering {rest : Host.Task (Except Failure Unit)}
    (preparing : state.Preparing socket rest) : (state.step world .entering).Stage socket := by
  obtain ⟨entering, prepares, notYet, leaves⟩ := preparing
  cases rest with
  | ask call next =>
    obtain ⟨allowed, others⟩ := prepares
    rw [Interaction.ask_bind] at entering
    by_cases elsewhere : ∀ file, call ≠ .file file
    · rw [step_elsewhere elsewhere entering]
      exact .preparing ⟨rfl, others _, notYet, leaves.congr rfl (.refl _) (.refl _)⟩
    · obtain ⟨call, rfl⟩ := not_forall_not.1 elsewhere
      rw [Succession.step_entering entering]
      refine .preparing ⟨rfl, others _, ?_, leaves.congr rfl (FileSystem.held_react allowed)
        (List.subset_append_left ..)⟩
      rintro logged
      rcases List.mem_append.1 logged with earlier | now
      · exact notYet earlier
      · cases List.mem_singleton.1 now
        exact allowed
  | done prepared =>
    cases prepared with
    | error failure =>
      rw [step_of_entered entering]
      exact .preparing ⟨entering, prepares, notYet, leaves⟩
    | ok _ =>
      have asks : state.entering = Interaction.ask (.file (.listen socket.path)) fun answer =>
          Host.ofFiles (ControlSocket.claimed socket.path answer) :=
        entering.trans (congrArg Host.ofFiles (ControlSocket.claim_eq socket.path))
      rw [Succession.step_entering asks]
      generalize listened : state.files.react (.listen socket.path) = result
      obtain ⟨answer, after⟩ := result
      cases answer with
      | error fault => exact .failed ⟨_, rfl⟩
      | ok number =>
        by_cases nameless : socket.path.bytes = []
        · exact .failed (Host.ofFiles_yields (ControlSocket.secure_fails nameless number))
        · obtain ⟨unused, entry, node, listens, rfl, -, -⟩ :=
            FileSystem.listens_of_listen listened nameless
          refine .present ⟨listens, .secure, spared_of_not_mem notYet, ?_⟩
          cases leaves with
          | listens leaving held =>
            exact .never (fun same => unused (same ▸ held)) (.inl leaving)
          | closed logged remains =>
            have closed : ([closing socket] ++ [listening socket]).Sublist
                (state.calls ++ [listening socket]) :=
              (List.singleton_sublist.2 logged).append (.refl _)
            exact .maybe closed remains

-- As long as the new socket was not removed, it is kept by all steps but one.
theorem Present.step_leaving (own : socket.tracked = socket.listener)
    (present : state.Present socket entry node) : (state.step world .leaving).Stage socket := by
  obtain ⟨listens, finishes, spared, threatens⟩ := present
  cases threatens with
  | never differ leaving =>
    rcases leaving with releases | looks | left
    · rw [ControlSocket.release_eq] at releases
      rw [Succession.step_leaving releases]
      exact .present ⟨listens.close differ.symm, finishes, spared.concat (close_ne_removing _),
        .never differ (.inr (.inl rfl))⟩
    · rw [ControlSocket.removeOwn_eq] at looks
      rw [Succession.step_leaving looks, FileSystem.react, listens.find, ControlSocket.discard,
        if_neg (own ▸ differ)]
      exact .present ⟨listens, finishes, spared.concat (status_ne_removing _ _),
        .never differ (.inr (.inr rfl))⟩
    · rw [step_of_left left]
      exact .present ⟨listens, finishes, spared, .never differ (.inr (.inr left))⟩
  | maybe closed remains =>
    generalize leaving : state.leaving = task at remains
    cases remains with
    | check =>
      rw [ControlSocket.removeOwn_eq] at leaving
      rw [Succession.step_leaving leaving]
      exact .present ⟨listens, finishes, spared.concat (status_ne_removing _ _),
        .maybe (closed.trans (List.sublist_append_left ..)) (remains_discard _)⟩
    | remove =>
      rw [Succession.step_leaving leaving]
      exact .removed ⟨listens.unlink, closed.append (.refl [removing socket]), rfl, _, finishes⟩
    | done =>
      rw [step_of_left leaving]
      exact .present ⟨listens, finishes, spared, .maybe closed (leaving ▸ .done)⟩

theorem Present.step_entering (present : state.Present socket entry node) :
    (state.step world .entering).Stage socket := by
  obtain ⟨listens, finishes, spared, threatens⟩ := present
  have later (call : FileCall) : state.calls.Sublist (state.calls ++ [(.entering, call)]) :=
    List.sublist_append_left ..
  have spared_still (call : FileCall) : Spared socket (state.calls ++ [(.entering, call)]) :=
    spared.concat (entering_ne_removing call)
  generalize entering : state.entering = task at finishes
  cases finishes with
  | secure =>
    rw [ControlSocket.secure_eq] at entering
    rw [Succession.step_entering entering, FileSystem.react, listens.find]
    exact .present ⟨listens, .confine, spared_still _, threatens.congr rfl (later _)⟩
  | confine =>
    rw [ControlSocket.confine_eq] at entering
    have isWritable :
        ({ node with mode := Privacy.socket.limit % 0o10000 }).isWritable = true := by
      simp [FileNode.isWritable, FileNode.ownerBits, Privacy.limit]
    obtain ⟨changed, listens⟩ := listens.setMode isWritable
    rw [Succession.step_entering entering, FileSystem.react, changed]
    exact .present ⟨listens, .done, spared_still _, threatens.congr rfl (later _)⟩
  | done =>
    rw [step_of_entered entering]
    exact .present ⟨listens, entering ▸ .done, spared, threatens⟩

theorem Removed.step_entering (removed : state.Removed socket) :
    (state.step world .entering).Stage socket := by
  obtain ⟨missing, collides, left, number, finishes⟩ := removed
  generalize entering : state.entering = task at finishes
  cases finishes with
  | secure =>
    rw [ControlSocket.secure_eq] at entering
    rw [Succession.step_entering entering, FileSystem.react, missing]
    exact .failed fun _ _ => ⟨_, rfl⟩
  | confine =>
    rw [ControlSocket.confine_eq] at entering
    rw [Succession.step_entering entering, FileSystem.react, FileSystem.setMode, missing]
    have fails : (ControlSocket.confined socket.path number number
        (.error .notFound)).Returns Fails := ControlSocket.retreat_fails _ _ _ _
    exact .failed (Host.ofFiles_yields fails.yields)
  | done =>
    rw [step_of_entered entering]
    exact .removed ⟨missing, collides, left, number, entering ▸ .done⟩

theorem yields_step_entering (failing : state.entering.Yields Host.Allows Fails) :
    (state.step world .entering).entering.Yields Host.Allows Fails := by
  cases entering : state.entering with
  | done result =>
    rw [step_of_entered entering, entering]
    exact entering ▸ failing
  | ask call next =>
    rw [entering] at failing
    by_cases elsewhere : ∀ file, call ≠ .file file
    · rw [step_elsewhere elsewhere entering]
      refine failing _ ?_
      cases call with
      | file call => exact absurd rfl (elsewhere call)
      | _ => trivial
    · obtain ⟨call, rfl⟩ := not_forall_not.1 elsewhere
      rw [Succession.step_entering entering]
      exact failing _ ⟨state.files, rfl⟩

theorem Stage.step (own : socket.tracked = socket.listener) (stage : state.Stage socket)
    (party : Party) : (state.step world party).Stage socket := by
  cases stage with
  | preparing preparing =>
    cases party with
    | leaving => exact .preparing preparing.step_leaving
    | entering => exact preparing.step_entering
  | present present =>
    cases party with
    | leaving => exact present.step_leaving own
    | entering => exact present.step_entering
  | removed removed =>
    cases party with
    | leaving =>
      rw [step_of_left removed.left]
      exact .removed removed
    | entering => exact removed.step_entering
  | failed failing =>
    cases party with
    | leaving =>
      apply Stage.failed
      rwa [entering_step_leaving]
    | entering => exact .failed (yields_step_entering failing)

/-! ### All steps -/

theorem stage_initial {files : FileSystem} (held : socket.listener ∈ files.held) :
    (initial socket files).Stage socket :=
  .preparing ⟨ControlSocket.bind_eq socket.path, ControlSocket.prepare_prepares socket.path,
    List.not_mem_nil, .listens rfl held⟩

theorem Stage.run (own : socket.tracked = socket.listener) (stage : state.Stage socket)
    (schedule : List Party) : (state.run world schedule).Stage socket := by
  -- By induction on the schedule from its end: each step leads from a stage to a stage.
  induction schedule using List.reverseRecOn with
  | nil => exact stage
  | append_singleton schedule party ih =>
    rw [run_concat]
    exact ih.step own party

/--
A daemon that listens on its own socket releases it, while another daemon binds to the path
and succeeds. Whatever the order of their steps, and whatever the other daemon is answered
meanwhile: as soon as it is bound, the path leads to the new socket, and nobody removes it,
unless the new daemon began to listen after the old listener was closed and before the
leaving daemon removed what it took for its own. In that case nothing is left at the path.
-/
theorem keeps_socket_unless_collision {files : FileSystem} {successor : ControlSocket}
    (own : socket.tracked = socket.listener) (held : socket.listener ∈ files.held)
    (world : Nat → Host.Answers) (schedule : List Party)
    (bound : ((initial socket files).run world schedule).entering = .done (.ok successor)) :
    let now := (initial socket files).run world schedule
    successor.path = socket.path ∧
      (¬ now.Collides socket → successor.IsInPlace now.files) ∧
      (now.Collides socket → now.leaving = .done () ∧
        ∀ follows, now.files.find socket.path follows = .error .notFound) := by
  have stage : ((initial socket files).run world schedule).Stage socket :=
    (stage_initial held).run own schedule
  cases stage with
  | preparing preparing => exact absurd (preparing.entering.symm.trans bound) (settle_ne _ _ _)
  | present present =>
    have listens := present.listens
    obtain rfl := present.finishes.eq_of_bound bound
    refine ⟨rfl, fun _ => ⟨listens.listener, _, listens.find false, rfl⟩, fun collides => ?_⟩
    exact absurd collides present.spared.not_collides
  | removed removed =>
    obtain ⟨number, finishes⟩ := removed.finishes
    obtain rfl := finishes.eq_of_bound bound
    exact ⟨rfl, fun spared => absurd removed.collides spared,
      fun _ => ⟨removed.left, removed.missing⟩⟩
  | failed failing =>
    rw [bound] at failing
    obtain ⟨failure, failed⟩ := failing
    cases failed

/-- A machine where a daemon listens on `/run/control`. -/
def occupied : FileSystem where
  nodes := [([], ⟨0, .directory, 0o755, 0⟩),
    ([Text.encode "run"], ⟨1, .directory, 0o700, 1000⟩),
    ([Text.encode "run", Text.encode "control"], ⟨2, .socket, 0o600, 1000⟩)]
  held := [2]
  user := 1000

def incumbent : ControlSocket := ⟨.ofText "/run/control", 2, 2⟩

/-- The leaving daemon sees its own socket, and removes the one that has taken its place. -/
def lookedEarly : Succession :=
  (initial incumbent occupied).run (fun _ => Takeover.deaf)
    ([.leaving, .leaving] ++ List.replicate 9 .entering ++ [.leaving])

/-- The new socket gets the number of the old one, and the leaving daemon takes it for its own. -/
def numberReused : Succession :=
  (initial incumbent occupied).run (fun _ => Takeover.deaf)
    ([.leaving] ++ List.replicate 9 .entering ++ [.leaving, .leaving])

/-- The old socket is still open when the new one is made, and their numbers differ. -/
def numberTaken : Succession :=
  (initial incumbent occupied).run (fun _ => Takeover.deaf)
    (List.replicate 9 .entering ++ [.leaving, .leaving, .leaving])

def successor? (state : Succession) : Option ControlSocket :=
  match state.entering with
  | .done (.ok successor) => some successor
  | _ => none

theorem bound_of_successor? {successor : ControlSocket}
    (found : state.successor? = some successor) : state.entering = .done (.ok successor) := by
  unfold successor? at found
  split at found
  · next same => rw [same, Option.some.inj found]
  · cases found

/-- There are two ways to remove the new socket. It stays when the old one is open for long. -/
theorem removes_new_socket :
    (lookedEarly.entering = .done (.ok ⟨incumbent.path, 2, 2⟩) ∧
      lookedEarly.files.find incumbent.path false = .error .notFound) ∧
    (numberReused.entering = .done (.ok ⟨incumbent.path, 2, 2⟩) ∧
      numberReused.files.find incumbent.path false = .error .notFound) ∧
    numberTaken.entering = .done (.ok ⟨incumbent.path, 3, 3⟩) ∧
      ControlSocket.IsInPlace ⟨incumbent.path, 3, 3⟩ numberTaken.files := by
  have own : incumbent.tracked = incumbent.listener := rfl
  have held : incumbent.listener ∈ occupied.held := by decide
  have early : lookedEarly.entering = .done (.ok ⟨incumbent.path, 2, 2⟩) :=
    bound_of_successor? (by decide +kernel)
  have reused : numberReused.entering = .done (.ok ⟨incumbent.path, 2, 2⟩) :=
    bound_of_successor? (by decide +kernel)
  have taken : numberTaken.entering = .done (.ok ⟨incumbent.path, 3, 3⟩) :=
    bound_of_successor? (by decide +kernel)
  obtain ⟨-, -, removed⟩ := keeps_socket_unless_collision own held (fun _ => Takeover.deaf) _ early
  obtain ⟨-, -, mistaken⟩ :=
    keeps_socket_unless_collision own held (fun _ => Takeover.deaf) _ reused
  obtain ⟨-, kept, -⟩ := keeps_socket_unless_collision own held (fun _ => Takeover.deaf) _ taken
  have early_collides : lookedEarly.Collides incumbent := by decide +kernel
  have reused_collides : numberReused.Collides incumbent := by decide +kernel
  have spared : ¬ numberTaken.Collides incumbent := by decide +kernel
  exact ⟨⟨early, (removed early_collides).2 false⟩, ⟨reused, (mistaken reused_collides).2 false⟩,
    taken, kept spared⟩

end Succession

end TunnelBroker
