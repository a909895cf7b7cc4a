import TunnelBroker.ControlSocket
import TunnelBroker.Proofs.Client.Fidelity
import TunnelBroker.Proofs.FileSystem.Listener
import TunnelBroker.Proofs.Interaction
import TunnelBroker.Proofs.Privacy.Directory

/-!
How a daemon takes over a path: it makes the path free, listens on it, and keeps the new socket
to the user. Main statement: until it listens, it neither listens on a socket nor closes one.
-/

set_option autoImplicit false

namespace TunnelBroker

/-- What a call can be answered, whatever there is in the file system. -/
def FileCall.Allows (call : FileCall) (answer : call.Answer) : Prop :=
  ∃ files, (FileSystem.react call files).1 = answer

namespace Host

variable {α β ε : Type}

theorem ofFiles_bind (first : FileTask α) (then' : α → FileTask β) :
    ofFiles (first.bind then') = (ofFiles first).bind fun value => ofFiles (then' value) := by
  induction first with
  | done value => rfl
  | ask call next ih => exact congrArg (Interaction.ask (Call.file call)) (funext ih)

theorem ofFiles_puts {p : Call → Prop} {task : FileTask α}
    (puts : task.Puts fun call => p (.file call)) : (ofFiles task).Puts p := by
  induction task with
  | done value => trivial
  | ask call next ih => exact ⟨puts.1, fun answer => ih answer (puts.2 answer)⟩

-- Between two attempts, the time is asked for and passed.
theorem persist_puts {p : Call → Prop} {interval : Duration}
    (positive : 0 < interval.nanoseconds) {attempt : Task (Except ε α)} (puts : attempt.Puts p)
    (now : p .now) (sleep : p (.sleep interval)) (deadline known : Nat) :
    (persist interval positive attempt deadline known).Puts p := by
  rw [persist]
  refine Interaction.Puts.bind puts fun result => ?_
  cases result with
  | ok value => trivial
  | error reason =>
    refine Interaction.puts_call now fun time => ?_
    dsimp only
    split
    · trivial
    · exact Interaction.puts_call sleep fun _ =>
        persist_puts positive puts now sleep deadline _
termination_by deadline - known
decreasing_by omega

/-- What a call can be answered: files tell what they hold, and others may tell anything. -/
def Allows : (call : Call) → call.Answer → Prop
  | .file call, answer => call.Allows answer
  | .contact .., _ => True
  | .now, _ => True
  | .sleep _, _ => True
  | .start .., _ => True

theorem ofFiles_yields {post : α → Prop} {task : FileTask α}
    (yields : task.Yields FileCall.Allows post) : (ofFiles task).Yields Allows post := by
  induction task with
  | done value => exact yields
  | ask call next ih => exact fun answer allowed => ih answer (yields answer allowed)

/--
What a call can be answered and what it leaves behind, where nobody else changes files. Those
who are contacted may tell anything.
-/
def Replies : (call : Call) → FileSystem → call.Answer → FileSystem → Prop
  | .file call, files, answer, after => FileSystem.Answers call files answer after
  | .contact .., files, _, after => after = files
  | .now, files, _, after => after = files
  | .sleep _, files, _, after => after = files
  | .start .., files, _, after => after = files

theorem canEnd_of_ofFiles {task : FileTask α} {files after : FileSystem} {result : α}
    (ends : (ofFiles task).CanEnd Replies files result after) :
    task.CanEnd FileSystem.Answers files result after := by
  induction task generalizing files with
  | done value => exact ends
  | ask call next ih =>
    obtain ⟨answer, between, answered, later⟩ := ends
    exact ⟨answer, between, answered, ih answer later⟩

end Host

def Host.Call.IsElsewhere : Host.Call → Prop
  | .file _ => False
  | _ => True

/-- A call that neither takes nor closes a socket. -/
def Host.Call.Prepares : Host.Call → Prop
  | .file call => call.Prepares
  | _ => True

namespace ControlSocket

open FileTask (ask)

def clear (path : Path) : FileTask (Except Failure Unit) := do
  match ← remove path with
  | .error failure => return .error failure
  | .ok _ => ensureParent path

def prepare (path : Path) : Host.Task (Except Failure Unit) := do
  evict path
  Host.ofFiles (clear path)

def claim (path : Path) : FileTask (Except Failure ControlSocket) := do
  match ← ask (.listen path) with
  | .error fault => return .error (bindFailure path fault)
  | .ok listener => secure path listener

def settle (path : Path) : Except Failure Unit → Host.Task (Except Failure ControlSocket)
  | .error failure => .done (.error failure)
  | .ok _ => Host.ofFiles (claim path)

theorem bind_eq (path : Path) : bind path = (prepare path).bind (settle path) := by
  have occupied : occupy path = (clear path).bind fun cleared =>
      match cleared with
      | .error failure => .done (.error failure)
      | .ok _ => claim path := by
    refine (congrArg (Interaction.bind (remove path)) (funext fun removed => ?_)).trans
      (Interaction.bind_assoc ..).symm
    cases removed with
    | error failure => rfl
    | ok _ =>
      refine congrArg (Interaction.bind (ensureParent path)) (funext fun ensured => ?_)
      cases ensured <;> rfl
  refine (congrArg (Interaction.bind (evict path)) (funext fun _ => ?_)).trans
    (Interaction.bind_assoc ..).symm
  rw [occupied, Host.ofFiles_bind]
  refine congrArg (Interaction.bind _) (funext fun cleared => ?_)
  cases cleared <;> rfl

/-! ### Before listening -/

theorem request_elsewhere (client : Client) (command : Command) :
    (client.request command).Puts Host.Call.IsElsewhere := by
  refine (client.request_sends command).imp ?_
  rintro call ⟨socket, limit, rfl⟩
  trivial

theorem ping_elsewhere (client : Client) : client.ping.Puts Host.Call.IsElsewhere := by
  refine (request_elsewhere client .ping).bind fun answer => ?_
  split <;> trivial

theorem evict_elsewhere (path : Path) : (evict path).Puts Host.Call.IsElsewhere := by
  refine (ping_elsewhere _).bind fun answer => ?_
  cases answer with
  | error failure => trivial
  | ok process =>
    have killed : (Client.ofSocket path).kill.Puts Host.Call.IsElsewhere :=
      (request_elsewhere _ .kill).bind fun _ => trivial
    have gone : (isGone (.ofSocket path)).Puts Host.Call.IsElsewhere := by
      refine (ping_elsewhere _).bind fun answer => ?_
      cases answer <;> trivial
    refine killed.bind fun _ => Interaction.puts_call trivial fun time => ?_
    exact (Host.persist_puts _ gone trivial trivial _ _).bind fun _ => trivial

-- Whoever is asked to stop, the files stay as they are.
theorem evict_leaves {path : Path} {files after : FileSystem} {result : Unit}
    (ends : (evict path).CanEnd Host.Replies files result after) : after = files := by
  have same : files = after := by
    refine ends.relates (evict_elsewhere path) (fun _ => rfl) (fun _ _ _ => Eq.trans) ?_
    intro call state answer last elsewhere answered
    cases call with
    | file call => exact elsewhere.elim
    | _ => exact answered.symm
  exact same.symm

theorem prepares_of_elsewhere (call : Host.Call) (elsewhere : call.IsElsewhere) :
    call.Prepares := by
  cases call <;> trivial

theorem remove_prepares (path : Path) : (remove path).Puts FileCall.Prepares := by
  refine Interaction.puts_call trivial fun found => ?_
  split
  · trivial
  · trivial
  · split
    · refine Interaction.puts_call trivial fun removed => ?_
      split <;> trivial
    · trivial

theorem ensureParent_builds (path : Path) : (ensureParent path).Puts FileCall.Builds := by
  unfold ensureParent
  split
  · trivial
  · split
    · trivial
    · exact FileSystem.ensureDirectory_builds _

theorem prepares_of_builds (call : FileCall) (builds : call.Builds) : call.Prepares := by
  cases call <;> trivial

theorem prepare_prepares (path : Path) : (prepare path).Puts Host.Call.Prepares := by
  refine ((evict_elsewhere path).imp prepares_of_elsewhere).bind fun _ => Host.ofFiles_puts ?_
  refine (remove_prepares path).bind fun removed => ?_
  cases removed with
  | error failure => trivial
  | ok _ => exact (ensureParent_builds path).imp prepares_of_builds

/-! ### From listening on -/

def claimed (path : Path) : Except FileFault Nat → FileTask (Except Failure ControlSocket)
  | .error fault => .done (.error (bindFailure path fault))
  | .ok listener => secure path listener

theorem claim_eq (path : Path) :
    claim path = Interaction.ask (.listen path) (claimed path) := by
  refine congrArg (Interaction.ask _) (funext fun listened => ?_)
  cases listened <;> rfl

/-- What becomes of what was found where a daemon had its socket. -/
def discard (path : Path) (tracked : Nat) : Except FileFault FileNode → FileTask Unit
  | .error _ => .done ()
  | .ok node =>
    if node.inode = tracked then Interaction.ask (.unlink path) fun _ => .done () else .done ()

theorem removeOwn_eq (path : Path) (tracked : Nat) :
    removeOwn path tracked = Interaction.ask (.status path false) (discard path tracked) := by
  refine congrArg (Interaction.ask _) (funext fun found => ?_)
  cases found <;> rfl

theorem release_eq (socket : ControlSocket) :
    socket.release = Interaction.ask (.close socket.listener) fun _ =>
      removeOwn socket.path socket.tracked := rfl

def retreat (path : Path) (listener tracked : Nat) (failure : Failure) :
    FileTask (Except Failure ControlSocket) := do
  removeOwn path tracked
  ask (.close listener)
  return .error failure

/-- Keep a socket to the user that was seen at its path. -/
def confine (path : Path) (listener tracked : Nat) : FileTask (Except Failure ControlSocket) := do
  match ← Privacy.socket.restrict path with
  | .ok _ => return .ok ⟨path, listener, tracked⟩
  | .error failure => retreat path listener tracked failure

def seen (path : Path) (listener : Nat) :
    Except FileFault FileNode → FileTask (Except Failure ControlSocket)
  | .error fault => Interaction.ask (.close listener) fun _ => .done (.error fault.failure)
  | .ok node => confine path listener node.inode

theorem secure_eq (path : Path) (listener : Nat) :
    secure path listener = Interaction.ask (.status path false) (seen path listener) := by
  refine congrArg (Interaction.ask _) (funext fun found => ?_)
  cases found <;> rfl

def confined (path : Path) (listener tracked : Nat) :
    Except FileFault Unit → FileTask (Except Failure ControlSocket)
  | .error fault => retreat path listener tracked (.permission
      ("Failed to set permissions on " ++ path.quoted ++ ": " ++ fault.message))
  | .ok _ => .done (.ok ⟨path, listener, tracked⟩)

theorem confine_eq (path : Path) (listener tracked : Nat) :
    confine path listener tracked = Interaction.ask (.setMode path Privacy.socket.limit)
      (confined path listener tracked) := by
  refine congrArg (Interaction.ask _) (funext fun changed => ?_)
  cases changed <;> rfl

def Fails (result : Except Failure ControlSocket) : Prop :=
  ∃ failure, result = .error failure

theorem retreat_fails (path : Path) (listener tracked : Nat) (failure : Failure) :
    (retreat path listener tracked failure).Returns Fails :=
  Interaction.returns_bind fun _ _ => ⟨failure, rfl⟩

-- A socket without an address can't be seen.
theorem find_nameless {files : FileSystem} {path : Path} (nameless : path.bytes = []) :
    files.find path false = .error .notFound := by
  simp [FileSystem.find, FileSystem.locate, FileSystem.locateAs, FileSystem.pathFault?, nameless]

theorem secure_fails {path : Path} (nameless : path.bytes = []) (listener : Nat) :
    (secure path listener).Yields FileCall.Allows Fails := by
  rw [secure_eq]
  rintro answer ⟨files, rfl⟩
  rw [FileSystem.react, find_nameless nameless]
  exact fun _ _ => ⟨_, rfl⟩

end ControlSocket

end TunnelBroker
