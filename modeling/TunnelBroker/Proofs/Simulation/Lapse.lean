import TunnelBroker.Proofs.Daemon.Sessions
import TunnelBroker.Simulation.Session
import Mathlib.Data.List.TakeDrop

/-!
The time that a task takes when nothing else is going on. Main statements: the task goes on
whenever its answer has come, so it ends when the delays of all its answers have passed; and
until then, or forever if an answer never comes, it is not over.
-/

set_option autoImplicit false

namespace TunnelBroker.Simulation

namespace Reaction

variable {α : Type} {reaction : Reaction α}

/-- What is answered, and how long that takes. -/
def arrival? : Reaction α → Option (α × Nat)
  | now answer => some (answer, 0)
  | later delay answer => some (answer, delay)
  | never => none

theorem arrival?_after (delay : Nat) (answer : α) :
    (after delay answer).arrival? = some (answer, delay) := by
  unfold after
  split
  · next soon => rw [soon, arrival?]
  · rfl

theorem arrival?_eq_none_iff : reaction.arrival? = none ↔ reaction = .never := by
  cases reaction <;> simp [arrival?]

theorem arrival?_eq_some_iff {answer : α} {delay : Nat} :
    reaction.arrival? = some (answer, delay) ↔
      reaction = .now answer ∧ delay = 0 ∨ reaction = .later delay answer := by
  cases reaction <;> simp [arrival?, eq_comm, and_comm]

end Reaction

/-- Events were seen, in this order. -/
def World.see (seen : List Event) (world : World) : World :=
  { world with events := seen.reverse ++ world.events }

theorem World.see_see (first second : List Event) (world : World) :
    (world.see first).see second = world.see (first ++ second) := by
  simp [see]

/-- Wait for the answer to a call. The state is the time and the world. -/
def clocked (script : Script) :
    (call : Daemon.Call) → Nat × World → Option call.Answer × Nat × World
  | call, (time, world) =>
    match (world.react script call).1.arrival? with
    | some (answer, delay) => (some answer, time + delay, (world.react script call).2)
    | none => (none, time, (world.react script call).2)

/-- An outcome with which a task is over at once. -/
def Outcome.IsPlain (outcome : Outcome) : Prop :=
  ∀ served, outcome ≠ .served served

variable {script : Script} {α : Type}

theorem clocked_answered {call : Daemon.Call} {world : World} {answer : call.Answer} {delay : Nat}
    (arrives : (world.react script call).1.arrival? = some (answer, delay)) (time : Nat) :
    clocked script call (time, world) =
      (some answer, time + delay, (world.react script call).2) := by
  rw [clocked, arrives]

theorem clocked_unanswered {call : Daemon.Call} {world : World}
    (silent : (world.react script call).1.arrival? = none) (time : Nat) :
    clocked script call (time, world) = (none, time, (world.react script call).2) := by
  rw [clocked, silent]

-- Time does not go backwards.
theorem le_of_attend_clocked {body : Daemon.Task α} {start last : Nat} {world after : World}
    {result : Option α}
    (attended : body.attend (clocked script) (start, world) = (result, last, after)) :
    start ≤ last := by
  induction body generalizing start world with
  | done value =>
    cases attended
    exact Nat.le_refl _
  | ask call next ih =>
    cases arrives : (world.react script call).1.arrival? with
    | none =>
      rw [Interaction.attend_ask_unanswered (clocked_unanswered arrives start)] at attended
      cases attended
      exact Nat.le_refl _
    | some arrival =>
      rw [Interaction.attend_ask (clocked_answered arrives start)] at attended
      exact Nat.le_of_add_right_le (ih _ attended)

namespace Schedule

variable {schedule : Schedule} {task : Nat}

/-- The task is all that is going on, and it is not over yet. -/
structure IsAlone (schedule : Schedule) (task : Nat) : Prop where
  ready : schedule.ready = []
  sleeping : schedule.sleeping = []
  unfinished : schedule.finished.lookup task = none

/-- The call of a task is put to the world. -/
def asked (script : Script) (task : Nat) (call : Daemon.Call) (schedule : Schedule) : Schedule :=
  { schedule with
    world := (schedule.world.react script call).2
    dialed := match call with
      | .dial _ address _ => (task, address) :: schedule.dialed
      | _ => schedule.dialed }

theorem advance_outward {call : Daemon.Call} (outward : call.IsOutward)
    (next : call.Answer → Daemon.Task Outcome) :
    schedule.advance script task (.ask call next) =
      match (schedule.world.react script call).1 with
      | .now answer => (schedule.asked script task call).advance script task (next answer)
      | .later delay answer =>
        (schedule.asked script task call).sleep delay (.resume task (next answer))
      | .never => schedule.asked script task call := by
  cases call
  case takeRegistry => exact outward.elim
  case returnRegistry => exact outward.elim
  all_goals
    rw [advance]
    · rfl
    all_goals nofun

theorem clock_complete (schedule : Schedule) (task : Nat) (outcome : Outcome) :
    (schedule.complete task outcome).clock = schedule.clock := by
  unfold complete
  repeat' split
  all_goals rfl

-- Time passes only when nobody can go on.
theorem clock_advance (body : Daemon.Task Outcome) (schedule : Schedule) :
    (schedule.advance script task body).clock = schedule.clock := by
  induction body generalizing schedule with
  | done outcome => exact clock_complete schedule task outcome
  | ask call next ih =>
    by_cases outward : call.IsOutward
    · rw [advance_outward outward]
      split
      · exact ih _ _
      · rfl
      · rfl
    · cases call
      case takeRegistry =>
        rw [advance]
        split
        · rfl
        · exact ih _ _
      case returnRegistry registry =>
        rw [advance]
        dsimp only
        split
        · exact ih _ _
        · exact ih _ _
      all_goals exact absurd trivial outward

variable {limit steps count : Nat} {outcome : Outcome} {body : Daemon.Task Outcome}

theorem advance_done (plain : outcome.IsPlain) :
    schedule.advance script task (.done outcome) = schedule.finishNow task outcome := by
  cases outcome
  case served served => exact absurd rfl (plain served)
  all_goals rfl

theorem runFor_finishNow (limit steps : Nat) :
    (schedule.finishNow task outcome).runFor script [task] limit steps =
      schedule.finishNow task outcome := by
  cases steps with
  | zero => rfl
  | succ steps =>
    rw [runFor, if_pos]
    simp [isFinished, finishNow]

namespace IsAlone

variable {delay : Nat}

theorem isFinished (alone : schedule.IsAlone task) : schedule.isFinished [task] = false := by
  have unfinished := List.lookup_eq_none_iff.1 alone.unfinished
  simp only [Schedule.isFinished, List.all_cons, List.all_nil, Bool.and_true, List.any_eq_false]
  intro finished isThere same
  exact absurd (eq_of_beq same).symm (by simpa using unfinished finished isThere)

theorem asked (alone : schedule.IsAlone task) (call : Daemon.Call) :
    (schedule.asked script task call).IsAlone task :=
  ⟨alone.ready, alone.sleeping, alone.unfinished⟩

theorem wait (alone : schedule.IsAlone task) (time : Nat) :
    { schedule with clock := time }.IsAlone task :=
  ⟨alone.ready, alone.sleeping, alone.unfinished⟩

-- Where nothing is ready and nobody sleeps, a run stays.
theorem runFor (alone : schedule.IsAlone task) (limit steps : Nat) :
    schedule.runFor script [task] limit steps = schedule := by
  cases steps with
  | zero => rfl
  | succ steps =>
    rw [Schedule.runFor, alone.isFinished, alone.ready, wake?, alone.sleeping]
    rfl

theorem wake?_sleep (alone : schedule.IsAlone task) (delay : Nat) (job : Job) (limit : Nat) :
    (schedule.sleep delay job).wake? limit =
      if limit < schedule.clock + delay then none
      else some { schedule with clock := schedule.clock + delay, ready := [job] } := by
  have sleeping : (schedule.sleep delay job).sleeping = [(schedule.clock + delay, job)] := by
    rw [sleep, alone.sleeping, insertSleeper]
  have awake : [(schedule.clock + delay, job)].span (·.1 == schedule.clock + delay) =
      ([(schedule.clock + delay, job)], []) := by
    simp [List.span_eq_takeWhile_dropWhile]
  have ready : (schedule.sleep delay job).ready = [] := alone.ready
  rw [wake?, sleeping]
  simp only [awake, ready, List.nil_append, List.map]
  rw [← alone.sleeping]
  rfl

theorem isFinished_sleep (alone : schedule.IsAlone task) (delay : Nat) (job : Job) :
    (schedule.sleep delay job).isFinished [task] = false := alone.isFinished

theorem runFor_sleep_late (alone : schedule.IsAlone task) (job : Job)
    (late : limit < schedule.clock + delay) (steps : Nat) :
    (schedule.sleep delay job).runFor script [task] limit steps = schedule.sleep delay job := by
  cases steps with
  | zero => rfl
  | succ steps =>
    have ready : (schedule.sleep delay job).ready = [] := alone.ready
    rw [Schedule.runFor, alone.isFinished_sleep, ready, alone.wake?_sleep, if_pos late]
    rfl

-- To wake up takes one step, and to go on another one.
theorem runFor_sleep (alone : schedule.IsAlone task) (soon : schedule.clock + delay ≤ limit) :
    (schedule.sleep delay (.resume task body)).runFor script [task] limit (steps + 2) =
      ({ schedule with clock := schedule.clock + delay }.advance script task body).runFor script
        [task] limit steps := by
  have ready : (schedule.sleep delay (.resume task body)).ready = [] := alone.ready
  let awake : Schedule :=
    { schedule with clock := schedule.clock + delay, ready := [.resume task body] }
  have unfinished : awake.isFinished [task] = false := alone.isFinished
  rw [Schedule.runFor, alone.isFinished_sleep, ready, alone.wake?_sleep,
    if_neg (Nat.not_lt.2 soon)]
  calc awake.runFor script [task] limit (steps + 1)
      = ({ schedule with clock := schedule.clock + delay, ready := [] }.advance script task
          body).runFor script [task] limit steps := by rw [Schedule.runFor, unfinished]; rfl
    _ = _ := by rw [← alone.ready]

variable {call : Daemon.Call} (next : call.Answer → Daemon.Task Outcome)

-- An answer that comes at once takes no steps, and any other takes two.
theorem runFor_ask (alone : schedule.IsAlone task) (outward : call.IsOutward)
    {answer : call.Answer}
    (arrives : (schedule.world.react script call).1.arrival? = some (answer, delay))
    (soon : schedule.clock + delay ≤ limit) (steps : Nat) :
    ∃ rest, steps ≤ rest ∧
      (schedule.advance script task (.ask call next)).runFor script [task] limit (steps + 2) =
        ({ schedule.asked script task call with clock := schedule.clock + delay }.advance script
          task (next answer)).runFor script [task] limit rest := by
  rw [advance_outward outward]
  obtain ⟨reacts, rfl⟩ | reacts := Reaction.arrival?_eq_some_iff.1 arrives
  · rw [reacts]
    exact ⟨steps + 2, Nat.le_add_right _ _, rfl⟩
  · rw [reacts]
    exact ⟨steps, Nat.le_refl _, (alone.asked call).runFor_sleep soon⟩

theorem runFor_ask_late (alone : schedule.IsAlone task) (outward : call.IsOutward)
    {answer : call.Answer} (ahead : schedule.clock ≤ limit)
    (arrives : (schedule.world.react script call).1.arrival? = some (answer, delay))
    (late : limit < schedule.clock + delay) (steps : Nat) :
    ((schedule.advance script task (.ask call next)).runFor script [task] limit steps).finished =
      schedule.finished := by
  rw [advance_outward outward]
  obtain ⟨reacts, rfl⟩ | reacts := Reaction.arrival?_eq_some_iff.1 arrives
  · exact absurd ahead (Nat.not_le.2 late)
  · rw [reacts]
    dsimp only
    rw [(alone.asked call).runFor_sleep_late _ late]
    rfl

theorem runFor_ask_unanswered (alone : schedule.IsAlone task) (outward : call.IsOutward)
    (silent : (schedule.world.react script call).1.arrival? = none) (limit steps : Nat) :
    ((schedule.advance script task (.ask call next)).runFor script [task] limit steps).finished =
      schedule.finished := by
  rw [advance_outward outward, Reaction.arrival?_eq_none_iff.1 silent]
  dsimp only
  rw [(alone.asked call).runFor]
  rfl

/-- A task whose last answer comes by the limit has then ended, and nothing else has happened. -/
theorem runFor_of_ends (alone : schedule.IsAlone task) (outward : body.Puts Daemon.Call.IsOutward)
    (plain : body.Returns Outcome.IsPlain) (few : body.AsksAtMost count)
    (enough : 2 * count ≤ steps) {time : Nat} {world : World}
    (ends : body.attend (clocked script) (schedule.clock, schedule.world) =
      (some outcome, time, world))
    (soon : time ≤ limit) :
    ∃ dialed, (schedule.advance script task body).runFor script [task] limit steps =
      { schedule with
        clock := time
        world := world
        dialed := dialed
        finished := schedule.finished ++ [(task, outcome)] } := by
  induction body generalizing schedule count steps with
  | done value =>
    cases ends
    rw [advance_done plain, runFor_finishNow]
    exact ⟨schedule.dialed, rfl⟩
  | ask call next ih =>
    cases count with
    | zero => exact few.elim
    | succ count =>
      cases arrives : (schedule.world.react script call).1.arrival? with
      | none =>
        rw [Interaction.attend_ask_unanswered (clocked_unanswered arrives _)] at ends
        cases ends
      | some arrival =>
        rw [Interaction.attend_ask (clocked_answered arrives _)] at ends
        obtain ⟨steps, rfl⟩ : ∃ before, steps = before + 2 := ⟨steps - 2, by omega⟩
        obtain ⟨rest, left, goesOn⟩ := alone.runFor_ask next outward.1 arrives
          (Nat.le_trans (le_of_attend_clocked ends) soon) steps
        rw [goesOn]
        exact ih arrival.1 ((alone.asked call).wait _) (outward.2 _) (plain _) (few _)
          (by omega) ends

/-- A task is not over as long as its last answer has not come. -/
theorem runFor_of_lasts (alone : schedule.IsAlone task)
    (outward : body.Puts Daemon.Call.IsOutward) (few : body.AsksAtMost count)
    (enough : 2 * count ≤ steps) (ahead : schedule.clock ≤ limit)
    (lasts : ∀ outcome time world, body.attend (clocked script) (schedule.clock, schedule.world) =
      (some outcome, time, world) → limit < time) :
    ((schedule.advance script task body).runFor script [task] limit steps).finished =
      schedule.finished := by
  induction body generalizing schedule count steps with
  | done value => exact absurd ahead (Nat.not_le.2 (lasts value _ _ rfl))
  | ask call next ih =>
    cases count with
    | zero => exact few.elim
    | succ count =>
      cases arrives : (schedule.world.react script call).1.arrival? with
      | none => exact alone.runFor_ask_unanswered next outward.1 arrives limit steps
      | some arrival =>
        rcases Nat.lt_or_ge limit (schedule.clock + arrival.2) with late | soon
        · exact alone.runFor_ask_late next outward.1 ahead arrives late steps
        · rw [Interaction.attend_ask (clocked_answered arrives _)] at lasts
          obtain ⟨steps, rfl⟩ : ∃ before, steps = before + 2 := ⟨steps - 2, by omega⟩
          obtain ⟨rest, left, goesOn⟩ := alone.runFor_ask next outward.1 arrives soon steps
          rw [goesOn]
          exact ih arrival.1 ((alone.asked call).wait _) (outward.2 _) (few _) (by omega) soon
            lasts

end IsAlone

variable (script schedule task)

/-- The task ends so after so many milliseconds, and this is what is seen of it. -/
def EndsAfter (body : Daemon.Task Outcome) (outcome : Outcome) (delay : Nat)
    (seen : List Event) : Prop :=
  ∀ limit steps, schedule.clock ≤ limit → stepsPerTask ≤ steps →
    let last := (schedule.advance script task body).runFor script [task] limit steps
    if schedule.clock + delay ≤ limit then
      last.finished = schedule.finished ++ [(task, outcome)] ∧
        last.clock = schedule.clock + delay ∧ last.world = schedule.world.see seen
    else last.finished = schedule.finished

/-- However long one waits for it, the task is not over. -/
def NeverEnds (body : Daemon.Task Outcome) : Prop :=
  ∀ limit steps, schedule.clock ≤ limit → stepsPerTask ≤ steps →
    ((schedule.advance script task body).runFor script [task] limit steps).finished =
      schedule.finished

variable {script schedule task}

theorem IsAlone.endsAfter (alone : schedule.IsAlone task)
    (outward : body.Puts Daemon.Call.IsOutward) (plain : body.Returns Outcome.IsPlain)
    (few : body.AsksAtMost count) (enough : 2 * count ≤ stepsPerTask) {delay : Nat}
    {seen : List Event}
    (ends : body.attend (clocked script) (schedule.clock, schedule.world) =
      (some outcome, schedule.clock + delay, schedule.world.see seen)) :
    schedule.EndsAfter script task body outcome delay seen := by
  intro limit steps ahead many last
  split
  · next soon =>
    obtain ⟨dialed, same⟩ :=
      alone.runFor_of_ends outward plain few (Nat.le_trans enough many) ends soon
    exact ⟨congrArg finished same, congrArg clock same, congrArg Schedule.world same⟩
  · next late =>
    refine alone.runFor_of_lasts outward few (Nat.le_trans enough many) ahead fun _ _ _ again => ?_
    cases ends.symm.trans again
    exact Nat.not_le.1 late

theorem IsAlone.neverEnds (alone : schedule.IsAlone task)
    (outward : body.Puts Daemon.Call.IsOutward) (few : body.AsksAtMost count)
    (enough : 2 * count ≤ stepsPerTask)
    (stays : (body.attend (clocked script) (schedule.clock, schedule.world)).1 = none) :
    schedule.NeverEnds script task body := by
  intro limit steps ahead many
  refine alone.runFor_of_lasts outward few (Nat.le_trans enough many) ahead fun _ _ _ ends => ?_
  rw [ends] at stays
  cases stays

/-- A task that ends within the patience of a call is what the call comes to. -/
theorem EndsAfter.call {delay : Nat} {seen : List Event}
    (ends : schedule.fresh.EndsAfter script 0 body outcome delay seen) (soon : delay ≤ patience) :
    let after := schedule.call script body
    after.1 = some outcome ∧ after.2.clock = schedule.clock + delay ∧ after.2.events = seen := by
  let started := schedule.fresh.advance script 0 body
  have same : started.clock = schedule.clock := clock_advance body schedule.fresh
  have many : stepsPerTask ≤ stepsPerTask * ([0].length + started.ready.length +
      started.sleeping.length + started.waiting.length + 1) :=
    Nat.le_mul_of_pos_right _ (Nat.succ_pos _)
  have waited : schedule.fresh.clock + delay ≤ started.clock + patience :=
    Nat.add_le_add (Nat.le_of_eq same.symm) soon
  have last := ends _ _ (Nat.le_trans (Nat.le_add_right _ _) waited) many
  rw [if_pos waited] at last
  obtain ⟨finished, clock, world⟩ := last
  have isOver : (started.run script [0]).isFinished [0] = true := by
    rw [isFinished, run, finished]
    rfl
  have called : schedule.call script body =
      ((started.run script [0]).finished.lookup 0, started.run script [0]) := by
    have settled : started.settle script schedule.clock [0] = started.run script [0] := if_pos isOver
    exact congrArg (fun last : Schedule => (last.finished.lookup 0, last)) settled
  rw [called]
  refine ⟨?_, clock, ?_⟩
  · rw [run, finished]
    rfl
  · rw [events, run, world]
    simp [World.see, fresh]

end Schedule

end TunnelBroker.Simulation
