import TunnelBroker.Daemon.AcceptLoop
import TunnelBroker.Proofs.Daemon.Isolation

/-!
What stops a daemon. Main statement: the daemon is told to stop by exactly those connections that
carry a `kill` and whose client takes the whole answer, each of them tells it once, and what was
told is never taken back.
-/

set_option autoImplicit false

namespace TunnelBroker

/-- The connection carries a `kill`, and its client takes the answer. -/
def Stream.Stops (client : Stream) : Prop :=
  client.Kills ∧ client.outgoing.Takes (Daemon.replyBytes .ok).length

/-! ### One connection -/

namespace Daemon

variable {client : Stream}

-- Where the answer is taken, to stop is all that is left.
theorem serve_of_stops (daemon : Daemon) (stops : client.Stops) :
    ∃ served, daemon.serve client = .ask .stop fun _ => .done served := by
  obtain ⟨⟨rest, carries⟩, takes⟩ := stops
  have takes : client.outgoing.Takes ((replyBytes .ok).length + 0) := takes
  obtain ⟨next, written, -⟩ := takes.write
  have finished : finish client.outgoing .ok (.ok ()) = ⟨replyBytes .ok, none, some (.ok ())⟩ := by
    rw [finish, written]
    rfl
  refine ⟨⟨replyBytes .ok, none, some (.ok ())⟩, ?_⟩
  have served : daemon.serve client = daemon.perform rest client.outgoing .kill :=
    serve_of_carries carries
  rw [served]
  simp only [perform, finished]
  rfl

-- Where it is not, the connection ends before the daemon is told anything.
theorem serve_of_untaken (daemon : Daemon) (kills : client.Kills)
    (untaken : ¬ client.outgoing.Takes (replyBytes .ok).length) :
    ∃ served, daemon.serve client = .done served ∧
      served.ended = some (.error writeFailed) := by
  obtain ⟨rest, carries⟩ := kills
  have broken : (client.outgoing.write (replyBytes .ok)).2.1 = false := by
    rw [Bool.eq_false_iff]
    exact fun whole => untaken (Outgoing.takes_of_write (by simp [replyBytes]) whole)
  have served : daemon.serve client = daemon.perform rest client.outgoing .kill :=
    serve_of_carries carries
  have ended : (finish client.outgoing .ok (.ok ())).ended = some (.error writeFailed) := by
    simp only [finish, broken]
    rfl
  refine ⟨finish client.outgoing .ok (.ok ()), ?_, ended⟩
  rw [served]
  simp only [perform, ended]

theorem Uses.puts {α : Type} {change : Registry → Registry → Prop} {allowed p : Call → Prop}
    {held : Option Registry} {task : Task α} (uses : Uses change allowed held task)
    (weaker : ∀ call, ¬ call.IsOutward ∨ allowed call → p call) : task.Puts p := by
  induction task generalizing held with
  | done value => trivial
  | ask call next ih =>
    cases call with
    | takeRegistry => exact ⟨weaker _ (.inl id), fun registry => ih registry (uses.2 registry)⟩
    | returnRegistry registry => exact ⟨weaker _ (.inl id), fun _ => ih () uses.2⟩
    | _ => exact ⟨weaker _ (.inr uses.1), fun answer => ih answer (uses.2 answer)⟩

-- No other connection ever tells the daemon to stop.
theorem serve_puts_no_stop (daemon : Daemon) (other : ¬ client.Stops) :
    (daemon.serve client).Puts (· ≠ .stop) := by
  by_cases kills : client.Kills
  · obtain ⟨served, ends, -⟩ :=
      daemon.serve_of_untaken kills fun takes => other ⟨kills, takes⟩
    rw [ends]
    trivial
  · refine (daemon.serve_uses client).puts fun call allowed => ?_
    rintro rfl
    rcases allowed with inward | put
    · exact inward trivial
    · exact kills put.kills

end Daemon

/-! ### One call -/

namespace Reception

variable {ι : Type}

def stops (state : Reception ι) (i : ι) : Bool :=
  match state.rest i with
  | .ask .stop _ => true
  | _ => false

theorem stops_of_puts {state : Reception ι} {i : ι} (puts : (state.rest i).Puts (· ≠ .stop)) :
    state.stops i = false := by
  unfold stops
  split
  · next rest =>
    rw [rest] at puts
    exact absurd rfl puts.1
  · rfl

variable [DecidableEq ι] {outside : Outside ι} {state : Reception ι} {i : ι}

theorem rest_proceed (state : Reception ι) (i : ι) (rest : Daemon.Task Daemon.Served) :
    (state.proceed i rest).rest i = rest :=
  Function.update_self ..

theorem step_of_stop {next : Unit → Daemon.Task Daemon.Served}
    (rest : state.rest i = .ask .stop next) :
    state.step outside i = { state with stopping := true }.proceed i (next ()) := by
  simp only [step, rest]

-- A connection that never tells the daemon to stop goes on that way.
theorem step_of_puts (outside : Outside ι) (puts : (state.rest i).Puts (· ≠ .stop)) :
    (state.step outside i).stopping = state.stopping ∧
      ((state.step outside i).rest i).Puts (· ≠ .stop) := by
  unfold step
  split
  · exact ⟨rfl, puts⟩
  · next next rest =>
    rw [rest] at puts
    split
    · exact ⟨rfl, rest ▸ puts⟩
    · refine ⟨rfl, ?_⟩
      rw [rest_proceed]
      exact puts.2 state.registry
  · next given next rest =>
    rw [rest] at puts
    refine ⟨rfl, ?_⟩
    rw [rest_proceed]
    exact puts.2 ()
  · next next rest =>
    rw [rest] at puts
    exact absurd rfl puts.1
  · next peers next rest =>
    rw [rest] at puts
    split
    next result files steps saved =>
    refine ⟨rfl, ?_⟩
    rw [rest_proceed]
    exact puts.2 result
  · next call next _ _ _ _ rest =>
    rw [rest] at puts
    refine ⟨rfl, ?_⟩
    rw [rest_proceed]
    exact puts.2 _

end Reception

/-! ### Any number of calls -/

/-- A daemon that serves connections, and the signal that those follow who wait for its stop. -/
structure Watch (ι : Type) where
  reception : Reception ι
  signal : StopSignal

namespace Watch

variable {ι : Type}

def opened (daemon : Daemon) (clients : ι → Stream) (peers : Peers) (files : FileSystem) :
    Watch ι :=
  ⟨.opened daemon clients peers files, .initial⟩

/-- A connection that stops the daemon and has not gone on yet. -/
def Pending (clients : ι → Stream) (before : List ι) (i : ι) : Prop :=
  (clients i).Stops ∧ i ∉ before

/--
After these turns the daemon was told to stop by the connections that stop it, and by no others,
and it will be told by those that have not gone on yet.
-/
structure Heeds (clients : ι → Stream) (before : List ι) (watch : Watch ι) : Prop where
  told : watch.reception.stopping = true ↔ ∃ i ∈ before, (clients i).Stops
  given : watch.signal.given = watch.reception.stopping
  pending : ∀ i, Pending clients before i →
    ∃ served, watch.reception.rest i = .ask .stop fun _ => .done served
  others : ∀ i, ¬ Pending clients before i → (watch.reception.rest i).Puts (· ≠ .stop)

variable {clients : ι → Stream} {before : List ι} {watch : Watch ι} {i : ι}

theorem pending_append {j : ι} :
    Pending clients (before ++ [i]) j ↔ Pending clients before j ∧ j ≠ i := by
  simp [Pending, and_assoc]

theorem Heeds.opened (daemon : Daemon) (clients : ι → Stream) (peers : Peers)
    (files : FileSystem) : (opened daemon clients peers files).Heeds clients [] where
  told := by simp [Watch.opened, Reception.opened]
  given := rfl
  pending := fun _ waits => daemon.serve_of_stops waits.1
  others := fun _ other => daemon.serve_puts_no_stop fun stops => other ⟨stops, nofun⟩

theorem Heeds.stops_iff (heeds : watch.Heeds clients before) :
    watch.reception.stops i = true ↔ Pending clients before i := by
  constructor
  · intro stops
    by_contra other
    exact Bool.false_ne_true ((Reception.stops_of_puts (heeds.others i other)).symm.trans stops)
  · intro waits
    obtain ⟨served, rest⟩ := heeds.pending i waits
    rw [Reception.stops, rest]

section

variable [DecidableEq ι]

/-- Connection `i` goes on by one call, and if it tells the daemon to stop, the signal is given. -/
def step (outside : Outside ι) (watch : Watch ι) (i : ι) : Watch ι where
  reception := watch.reception.step outside i
  signal := if watch.reception.stops i then watch.signal.give else watch.signal

def run (outside : Outside ι) (watch : Watch ι) (schedule : List ι) : Watch ι :=
  schedule.foldl (step outside) watch

-- Whatever connection `i` has done, it does not tell the daemon to stop again.
theorem Heeds.proceed (heeds : watch.Heeds clients before) {outside : Outside ι}
    (told : (watch.step outside i).reception.stopping = true ↔
      ∃ j ∈ before ++ [i], (clients j).Stops)
    (given : (watch.step outside i).signal.given = (watch.step outside i).reception.stopping)
    (mine : ((watch.step outside i).reception.rest i).Puts (· ≠ .stop)) :
    (watch.step outside i).Heeds clients (before ++ [i]) where
  told := told
  given := given
  pending := by
    intro j waits
    obtain ⟨waits, differ⟩ := pending_append.1 waits
    obtain ⟨served, rest⟩ := heeds.pending j waits
    exact ⟨served, (Reception.rest_step_of_ne differ).trans rest⟩
  others := by
    intro j other
    by_cases differ : j = i
    · exact differ ▸ mine
    · have stays : (watch.step outside i).reception.rest j = watch.reception.rest j :=
        Reception.rest_step_of_ne differ
      rw [stays]
      exact heeds.others j fun waits => other (pending_append.2 ⟨waits, differ⟩)

theorem Heeds.step (heeds : watch.Heeds clients before) (outside : Outside ι) (i : ι) :
    (watch.step outside i).Heeds clients (before ++ [i]) := by
  by_cases waits : Pending clients before i
  · obtain ⟨served, rest⟩ := heeds.pending i waits
    have stepped : (watch.step outside i).reception =
        { watch.reception with stopping := true }.proceed i (.done served) :=
      Reception.step_of_stop rest
    have signal : (watch.step outside i).signal = watch.signal.give :=
      if_pos (heeds.stops_iff.2 waits)
    refine heeds.proceed ?_ (by rw [signal, stepped]; rfl) ?_
    · rw [stepped]
      exact iff_of_true rfl ⟨i, by simp, waits.1⟩
    · rw [stepped, Reception.rest_proceed]
      trivial
  · obtain ⟨stopping, mine⟩ := Reception.step_of_puts outside (heeds.others i waits)
    have signal : (watch.step outside i).signal = watch.signal :=
      if_neg fun stops => waits (heeds.stops_iff.1 stops)
    have stopping : (watch.step outside i).reception.stopping = watch.reception.stopping := stopping
    refine heeds.proceed ?_ (by rw [signal, stopping, heeds.given]) mine
    rw [stopping, heeds.told]
    constructor
    · rintro ⟨j, member, stops⟩
      exact ⟨j, List.mem_append_left _ member, stops⟩
    · rintro ⟨j, member, stops⟩
      -- If this connection stops the daemon at all, it has done so before.
      rcases List.mem_append.1 member with earlier | now
      · exact ⟨j, earlier, stops⟩
      · cases List.mem_singleton.1 now
        exact ⟨i, by_contra fun fresh => waits ⟨stops, fresh⟩, stops⟩

theorem Heeds.run (heeds : watch.Heeds clients before) (outside : Outside ι) (turns : List ι) :
    (watch.run outside turns).Heeds clients (before ++ turns) := by
  induction turns generalizing watch before with
  | nil => rwa [List.append_nil]
  | cons i turns ih =>
    have later := ih (heeds.step outside i)
    rwa [List.append_assoc, List.singleton_append] at later

-- The signal is given anew exactly if a connection goes on that has not told the daemon to stop yet.
theorem Heeds.version_run (heeds : watch.Heeds clients before) (outside : Outside ι)
    (turns : List ι) :
    watch.signal.version ≤ (watch.run outside turns).signal.version ∧
      (watch.signal.version < (watch.run outside turns).signal.version ↔
        ∃ i ∈ turns, Pending clients before i) := by
  induction turns generalizing watch before with
  | nil => simp [Watch.run]
  | cons i turns ih =>
    obtain ⟨grows, fresh⟩ := ih (heeds.step outside i)
    rw [show watch.run outside (i :: turns) = (watch.step outside i).run outside turns from rfl]
    by_cases waits : Pending clients before i
    · have version : (watch.step outside i).signal.version = watch.signal.version + 1 :=
        congrArg StopSignal.version (if_pos (heeds.stops_iff.2 waits))
      refine ⟨by omega, iff_of_true (by omega) ⟨i, List.mem_cons_self, waits⟩⟩
    · have version : (watch.step outside i).signal.version = watch.signal.version :=
        congrArg StopSignal.version (if_neg fun stops => waits (heeds.stops_iff.1 stops))
      rw [version] at grows fresh
      refine ⟨grows, fresh.trans ⟨?_, ?_⟩⟩
      · rintro ⟨j, member, later⟩
        exact ⟨j, List.mem_cons_of_mem i member, (pending_append.1 later).1⟩
      · rintro ⟨j, member, pends⟩
        rcases List.mem_cons.1 member with rfl | member
        · exact absurd pends waits
        · refine ⟨j, member, pending_append.2 ⟨pends, ?_⟩⟩
          rintro rfl
          exact waits pends

/--
However connections are served side by side, (a) the daemon has been told to stop if and only if
one of those that went on carries a `kill` and has a client that takes the answer, and (b) what was
told stays told. (c) All who follow the signal read what the daemon itself does, and (d) those who
have seen it at some time have missed something exactly if another such connection has gone on
since. (e) A `kill` whose client does not take the answer ends as a failed write.
-/
theorem told_to_stop_exactly (outside : Outside ι) (daemon : Daemon) (clients : ι → Stream)
    (peers : Peers) (files : FileSystem) :
    let after (schedule : List ι) := (opened daemon clients peers files).run outside schedule
    (∀ schedule, (after schedule).reception.stopping = true ↔
      ∃ i ∈ schedule, (clients i).Kills ∧
        (clients i).outgoing.Takes (Daemon.replyBytes .ok).length) ∧
    (∀ schedule turns, (after schedule).reception.stopping = true →
      (after (schedule ++ turns)).reception.stopping = true) ∧
    (∀ schedule, (after schedule).signal.given = (after schedule).reception.stopping) ∧
    (∀ schedule turns,
      (after schedule).signal.version < (after (schedule ++ turns)).signal.version ↔
        ∃ i ∈ turns, (clients i).Stops ∧ i ∉ schedule) ∧
    ∀ i, (clients i).Kills → ¬ (clients i).outgoing.Takes (Daemon.replyBytes .ok).length →
      ∃ served, daemon.serve (clients i) = .done served ∧
        served.ended = some (.error Daemon.writeFailed) := by
  intro after
  have heeds (schedule : List ι) : (after schedule).Heeds clients schedule :=
    (Heeds.opened daemon clients peers files).run outside schedule
  have split (schedule turns : List ι) :
      after (schedule ++ turns) = (after schedule).run outside turns := List.foldl_append
  refine ⟨fun schedule => (heeds schedule).told, fun schedule turns told => ?_,
    fun schedule => (heeds schedule).given, fun schedule turns => ?_,
    fun i kills untaken => daemon.serve_of_untaken kills untaken⟩
  · obtain ⟨i, member, stops⟩ := (heeds schedule).told.1 told
    exact (heeds _).told.2 ⟨i, List.mem_append_left turns member, stops⟩
  · rw [split]
    exact ((heeds schedule).version_run outside turns).2

/-- A client that sends a `kill` and is gone before the answer. -/
def hasty : Stream := ⟨⟨[Text.encode "kill\n"], .closed⟩, ⟨none, some 0⟩⟩

/-- However often it is served, the daemon goes on. -/
theorem hasty_kill_is_lost :
    hasty.Kills ∧ ∀ (outside : Outside Unit) (files : FileSystem) (schedule : List Unit),
      ((opened ⟨1, "iad", none⟩ (fun _ => hasty) ∅ files).run outside schedule).reception.stopping =
        false := by
  have sent : hasty.incoming.bytes = Text.encode "kill" ++ Framing.lineFeed :: [] := by
    decide +kernel
  have kills : hasty.Kills :=
    hasty.incoming.carries_of_text sent (by decide +kernel) (by decide +kernel) rfl
  refine ⟨kills, fun outside files schedule => ?_⟩
  have exactly := told_to_stop_exactly outside ⟨1, "iad", none⟩ (fun _ : Unit => hasty) ∅ files
  rw [Bool.eq_false_iff, ne_eq, exactly.1]
  rintro ⟨_, -, -, takes⟩
  exact absurd (takes.room 0 rfl) (by decide)

end

end Watch

end TunnelBroker
