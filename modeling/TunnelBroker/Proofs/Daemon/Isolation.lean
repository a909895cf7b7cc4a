import Mathlib.Data.List.Induction
import TunnelBroker.Peer.File
import TunnelBroker.Proofs.Daemon.Effect
import TunnelBroker.Proofs.FileSystem.Mishap

/-!
Connections that a daemon serves side by side, one call at a time and in any order. Main
statement: only an `establish` changes the registry or the files or asks the directory or for a
tunnel, only a `kill` stops the daemon, and leaving out connections that carry no command or a
`ping` changes nothing for anybody else.
-/

set_option autoImplicit false

namespace TunnelBroker

/--
How the world around a daemon answers calls, and what goes wrong with the steps of a save. Both
may depend on all calls so far, and on whose call it is.
-/
structure Outside (ι : Type) where
  directory : Path
  answers : List (ι × Daemon.Answered) → ι → Daemon.Answers
  mishaps : List (ι × Daemon.Answered) → Nat → Option Mishap

/-- A daemon, and connections that it serves, each with what is left to do. -/
structure Reception (ι : Type) where
  registry : Registry
  holder : Option ι
  files : FileSystem
  stopping : Bool
  calls : List (ι × Daemon.Answered)
  rest : ι → Daemon.Task Daemon.Served

namespace Reception

variable {ι : Type}

def opened (daemon : Daemon) (clients : ι → Stream) (peers : Peers) (files : FileSystem) :
    Reception ι where
  registry := .initial peers
  holder := none
  files := files
  stopping := false
  calls := []
  rest := fun i => daemon.serve (clients i)

def record (state : Reception ι) (i : ι) (call : Daemon.Call) (answer : call.Answer) :
    Reception ι :=
  { state with calls := state.calls ++ [(i, ⟨call, answer⟩)] }

section

variable [DecidableEq ι]

def proceed (state : Reception ι) (i : ι) (rest : Daemon.Task Daemon.Served) : Reception ι :=
  { state with rest := Function.update state.rest i rest }

/--
Connection `i` goes on by one call. It stays where it is if it waits for the registry while
somebody has hold of it, or if nothing is left to do.
-/
def step (outside : Outside ι) (state : Reception ι) (i : ι) : Reception ι :=
  match state.rest i with
  | .done _ => state
  | .ask .takeRegistry next =>
    match state.holder with
    | some _ => state
    | none => { state with holder := some i }.proceed i (next state.registry)
  | .ask (.returnRegistry registry) next =>
    { state with holder := none, registry }.proceed i (next ())
  | .ask .stop next => { state with stopping := true }.proceed i (next ())
  | .ask (.savePeers peers) next =>
    let (result, files, _) := (Peers.save outside.directory peers).run
      (FileSystem.falter (outside.mishaps state.calls)) (state.files, 0)
    ({ state with files }.record i (.savePeers peers) result).proceed i (next result)
  | .ask call next =>
    let answer := outside.answers state.calls i call
    (state.record i call answer).proceed i (next answer)

def run (outside : Outside ι) (state : Reception ι) (schedule : List ι) : Reception ι :=
  schedule.foldl (step outside) state

/-- The registry that connection `i` has got, if it has hold of it. -/
def heldBy (state : Reception ι) (i : ι) : Option Registry :=
  if state.holder = some i then some state.registry else none

/--
Each connection does with the registry what its command does, whoever has hold of it, and puts the
calls of its command.
-/
structure Sound (clients : ι → Stream) (state : Reception ι) : Prop where
  uses : ∀ i, Daemon.Uses (clients i).Changes (clients i).MayPut (state.heldBy i) (state.rest i)
  calls : ∀ i answered, (i, answered) ∈ state.calls → (clients i).MayAsk answered.call

/-- What a connection may change when it goes on. -/
structure Affects (client : Stream) (before after : Reception ι) : Prop where
  registry : client.Changes before.registry after.registry
  files : client.Establishes ∨ after.files = before.files
  stopping : client.Kills ∨ after.stopping = before.stopping

variable {outside : Outside ι} {clients : ι → Stream} {state : Reception ι} {i : ι}

theorem Sound.opened (daemon : Daemon) (clients : ι → Stream) (peers : Peers)
    (files : FileSystem) : (opened daemon clients peers files).Sound clients where
  uses := fun i => daemon.serve_uses (clients i)
  calls := nofun

/-! ### One call -/

theorem heldBy_self (holds : state.holder = some i) : state.heldBy i = some state.registry :=
  if_pos holds

theorem heldBy_other (other : state.holder ≠ some i) : state.heldBy i = none :=
  if_neg other

theorem holder_of_heldBy {registry : Registry} (held : state.heldBy i = some registry) :
    state.holder = some i ∧ registry = state.registry := by
  unfold heldBy at held
  split at held
  · next holds => exact ⟨holds, (Option.some.inj held).symm⟩
  · cases held

-- What is left to a connection that has gone on, and to the others.
theorem Sound.proceed (sound : state.Sound clients) {now : Reception ι}
    {rest : Daemon.Task Daemon.Served} (same : now.rest = state.rest)
    (calls : ∀ j answered, (j, answered) ∈ now.calls → (clients j).MayAsk answered.call)
    (mine : Daemon.Uses (clients i).Changes (clients i).MayPut (now.heldBy i) rest)
    (others : ∀ j, j ≠ i → now.heldBy j = state.heldBy j) : (now.proceed i rest).Sound clients where
  calls := calls
  uses := by
    intro j
    show Daemon.Uses _ _ (now.heldBy j) (Function.update now.rest i rest j)
    by_cases differ : j = i
    · subst differ
      rwa [Function.update_self]
    · rw [Function.update_of_ne differ, others j differ, same]
      exact sound.uses j

theorem Sound.calls_record (sound : state.Sound clients) {call : Daemon.Call}
    (asks : (clients i).MayAsk call) (answer : call.Answer) (j : ι) (answered : Daemon.Answered)
    (member : (j, answered) ∈ state.calls ++ [(i, ⟨call, answer⟩)]) :
    (clients j).MayAsk answered.call := by
  rcases List.mem_append.1 member with earlier | new
  · exact sound.calls j answered earlier
  · cases List.mem_singleton.1 new
    exact asks

theorem Sound.step (sound : state.Sound clients) (outside : Outside ι) (i : ι) :
    (state.step outside i).Sound clients ∧ Affects (clients i) state (state.step outside i) := by
  have uses := sound.uses i
  unfold Reception.step
  split
  · exact ⟨sound, .inr rfl, .inr rfl, .inr rfl⟩
  · next next rest =>
    rw [rest] at uses
    obtain ⟨idle, later⟩ := uses
    split
    · exact ⟨sound, .inr rfl, .inr rfl, .inr rfl⟩
    · next free =>
      refine ⟨sound.proceed rfl sound.calls ?_ ?_, .inr rfl, .inr rfl, .inr rfl⟩
      · rw [heldBy_self rfl]
        exact later state.registry
      · intro j differ
        rw [heldBy_other (by simpa using Ne.symm differ), heldBy_other (by simp [free])]
  · next given next rest =>
    rw [rest] at uses
    obtain ⟨⟨taken, held, changed⟩, later⟩ := uses
    obtain ⟨holds, rfl⟩ := holder_of_heldBy held
    refine ⟨sound.proceed rfl sound.calls later ?_, changed, .inr rfl, .inr rfl⟩
    intro j differ
    rw [heldBy_other (by exact nofun), heldBy_other (by simpa [holds] using Ne.symm differ)]
  · next next rest =>
    rw [rest] at uses
    obtain ⟨put, later⟩ := uses
    exact ⟨sound.proceed rfl sound.calls (later ()) fun _ _ => rfl, .inr rfl, .inr rfl,
      .inl put.kills⟩
  · next peers next rest =>
    rw [rest] at uses
    obtain ⟨put, later⟩ := uses
    have asks := put.mayAsk nofun
    split
    next result files steps saved =>
    exact ⟨sound.proceed rfl (sound.calls_record asks _) (later result) fun _ _ => rfl, .inr rfl,
      .inl asks.establishes, .inr rfl⟩
  · next call next notTake notReturn notStop notSave rest =>
    rw [rest] at uses
    have outward : call.IsOutward := by
      cases call with
      | takeRegistry => exact (notTake next rfl HEq.rfl).elim
      | returnRegistry registry => exact (notReturn registry next rfl HEq.rfl).elim
      | _ => trivial
    obtain ⟨put, later⟩ := (Daemon.uses_ask_outward outward).1 uses
    have asks : (clients i).MayAsk call := by
      refine put.mayAsk ?_
      rintro rfl
      exact notStop next rfl HEq.rfl
    exact ⟨sound.proceed rfl (sound.calls_record asks _) (later _) fun _ _ => rfl, .inr rfl,
      .inr rfl, .inr rfl⟩

theorem step_done {served : Daemon.Served} (through : state.rest i = .done served) :
    state.step outside i = state := by
  simp only [step, through]

theorem rest_step_of_ne {j : ι} (differ : j ≠ i) : (state.step outside i).rest j = state.rest j := by
  unfold step
  repeat' split
  all_goals first | rfl | exact Function.update_of_ne differ _ _

/-! ### Any number of calls -/

theorem Sound.run (sound : state.Sound clients) (outside : Outside ι) (schedule : List ι) :
    (state.run outside schedule).Sound clients := by
  induction schedule generalizing state with
  | nil => exact sound
  | cons i schedule ih => exact ih (sound.step outside i).1

theorem Sound.registry_run (sound : state.Sound clients) (outside : Outside ι) {turns : List ι}
    (others : ∀ i ∈ turns, ¬ (clients i).Establishes) :
    (state.run outside turns).registry = state.registry ∧
      (state.run outside turns).files = state.files := by
  induction turns generalizing state with
  | nil => exact ⟨rfl, rfl⟩
  | cons i turns ih =>
    obtain ⟨first, later⟩ := List.forall_mem_cons.1 others
    obtain ⟨stays, affects⟩ := sound.step outside i
    obtain ⟨registry, files⟩ := ih stays later
    exact ⟨registry.trans (affects.registry.resolve_left first),
      files.trans (affects.files.resolve_left first)⟩

theorem Sound.stopping_run (sound : state.Sound clients) (outside : Outside ι) {turns : List ι}
    (others : ∀ i ∈ turns, ¬ (clients i).Kills) :
    (state.run outside turns).stopping = state.stopping := by
  induction turns generalizing state with
  | nil => rfl
  | cons i turns ih =>
    obtain ⟨first, later⟩ := List.forall_mem_cons.1 others
    obtain ⟨stays, affects⟩ := sound.step outside i
    exact (ih stays later).trans (affects.stopping.resolve_left first)

-- Whoever is through may as well not be there.
theorem run_filter {quiet : ι → Bool}
    (through : ∀ i, quiet i = true → ∃ served, state.rest i = .done served) (schedule : List ι) :
    state.run outside (schedule.filter fun i => !quiet i) = state.run outside schedule := by
  induction schedule generalizing state with
  | nil => rfl
  | cons i schedule ih =>
    cases silent : quiet i with
    | true =>
      obtain ⟨served, done⟩ := through i silent
      rw [List.filter_cons_of_neg (by simp [silent]), ih through]
      exact congrArg (fun state : Reception ι => state.run outside schedule) (step_done done).symm
    | false =>
      rw [List.filter_cons_of_pos (by simp [silent])]
      show (state.step outside i).run outside _ = (state.step outside i).run outside schedule
      apply ih
      intro j quiet
      rw [rest_step_of_ne]
      · exact through j quiet
      · rintro rfl
        exact Bool.false_ne_true (silent.symm.trans quiet)

/--
However connections are served side by side, (a) the registry and the files stay as they are while
no connection goes on that carries an `establish`, and (b) the daemon is not told to stop while
none does that carries a `kill`. (c) The directory, the peer file and the tunnels are only asked
for connections with an `establish`, and networks only for those with a `connect`. (d) Nobody is
asked for a connection that is unreadable, carries no command or a `ping`; and leaving such
connections out, wherever they stand in the schedule, changes nothing of the state, and so
nothing of what is left to the others or was answered to them.
-/
theorem connections_are_isolated (outside : Outside ι) (daemon : Daemon) (clients : ι → Stream)
    (peers : Peers) (files : FileSystem) :
    let after (schedule : List ι) := (opened daemon clients peers files).run outside schedule
    (∀ schedule turns, (∀ i ∈ turns, ¬ (clients i).Establishes) →
      (after (schedule ++ turns)).registry = (after schedule).registry ∧
      (after (schedule ++ turns)).files = (after schedule).files) ∧
    (∀ schedule turns, (∀ i ∈ turns, ¬ (clients i).Kills) →
      (after (schedule ++ turns)).stopping = (after schedule).stopping) ∧
    (∀ schedule i answered, (i, answered) ∈ (after schedule).calls →
      (clients i).Establishes ∧ answered.call.IsEstablishing ∨
        (clients i).Connects ∧ answered.call.IsConnecting) ∧
    ∀ quiet : ι → Bool, (∀ i, quiet i = true → (clients i).IsQuiet) → ∀ schedule,
      (∀ i answered, (i, answered) ∈ (after schedule).calls → quiet i = false) ∧
      after (schedule.filter fun i => !quiet i) = after schedule := by
  intro after
  have start := Sound.opened daemon clients peers files
  have sound (schedule : List ι) : (after schedule).Sound clients := start.run outside schedule
  have split (schedule turns : List ι) :
      after (schedule ++ turns) = (after schedule).run outside turns := List.foldl_append
  refine ⟨fun schedule turns others => ?_, fun schedule turns others => ?_,
    fun schedule i answered => (sound schedule).calls i answered, fun quiet silent schedule => ⟨?_, ?_⟩⟩
  · rw [split]
    exact (sound schedule).registry_run outside others
  · rw [split]
    exact (sound schedule).stopping_run outside others
  · intro i answered member
    rw [Bool.eq_false_iff]
    intro isQuiet
    exact Daemon.not_mayAsk_of_isQuiet (silent i isQuiet) _ ((sound schedule).calls i answered member)
  · exact run_filter (fun i isQuiet => daemon.serve_of_isQuiet (silent i isQuiet)) schedule

end

end Reception

end TunnelBroker
