import TunnelBroker.Proofs.Registry.Turns

/-!
What a task can leave on record. A statement about the value of a task and its calls with
their answers is shown along the text of the task, and then holds of every run.
-/

set_option autoImplicit false

namespace TunnelBroker.Daemon

variable {α β : Type}

/--
However the calls of a task are answered, its value and its calls with their answers are as
`post` says.
-/
def Records : (α → List Answered → Prop) → Task α → Prop
  | post, .done value => post value []
  | post, .ask call next =>
    ∀ answer, Records (fun value calls => post value (⟨call, answer⟩ :: calls)) (next answer)

theorem Records.imp {post weaker : α → List Answered → Prop} {task : Task α}
    (records : Records post task) (implies : ∀ value calls, post value calls → weaker value calls) :
    Records weaker task := by
  induction task generalizing post weaker with
  | done value => exact implies value [] records
  | ask call next ih =>
    intro answer
    exact ih answer (records answer) fun value calls => implies value (⟨call, answer⟩ :: calls)

theorem Records.and {first second : α → List Answered → Prop} {task : Task α}
    (left : Records first task) (right : Records second task) :
    Records (fun value calls => first value calls ∧ second value calls) task := by
  induction task generalizing first second with
  | done value => exact ⟨left, right⟩
  | ask call next ih =>
    intro answer
    exact ih answer (left answer) (right answer)

-- What comes second is recorded behind what came first.
theorem Records.bind {between : α → List Answered → Prop} {post : β → List Answered → Prop}
    {first : Task α} {then' : α → Task β} (before : Records between first)
    (after : ∀ value calls, between value calls →
      Records (fun result more => post result (calls ++ more)) (then' value)) :
    Records post (first.bind then') := by
  induction first generalizing between post with
  | done value => exact after value [] before
  | ask call next ih =>
    intro answer
    apply ih answer (before answer)
    intro value calls reached
    exact after value (⟨call, answer⟩ :: calls) reached

-- What holds of all questions of a task holds of its calls.
theorem records_of_puts {p : Call → Prop} {task : Task α} (puts : task.Puts p) :
    Records (fun _ calls => ∀ answered ∈ calls, p answered.call) task := by
  induction task with
  | done value => exact List.forall_mem_nil _
  | ask call next ih =>
    intro answer
    apply (ih answer (puts.2 answer)).imp
    intro value calls all
    exact List.forall_mem_cons.2 ⟨puts.1, all⟩

-- What holds of the value in any case holds whatever was recorded.
theorem records_of_returns {post : α → Prop} {task : Task α} (returns : task.Returns post) :
    Records (fun value _ => post value) task := by
  induction task with
  | done value => exact returns
  | ask call next ih => exact fun answer => ih answer (returns answer)

variable {ι : Type}

-- A task that keeps its hands off the registry leaves its calls on the floor, and nothing else.
theorem Records.run {post : α → List Answered → Prop} {task : Task α}
    (records : Records post task) (outward : task.Puts Call.IsOutward)
    (answers : ι → Nat → Answers) (i : ι) (floor : Floor ι) (steps : Nat) :
    ∃ value calls after,
      task.run (Floor.react answers i) (floor, steps) = (value, floor.extend i calls, after) ∧
      post value calls := by
  induction task generalizing post floor steps with
  | done value => exact ⟨value, [], steps, by simp, records⟩
  | ask call next ih =>
    obtain ⟨allowed, others⟩ := outward
    obtain ⟨value, calls, after, result, reached⟩ :=
      ih (answers i steps call) (records _) (others _)
        (floor.record i call (answers i steps call)) (steps + 1)
    refine ⟨value, ⟨call, answers i steps call⟩ :: calls, after, ?_, reached⟩
    rw [Interaction.run, Floor.react_outward allowed]
    simpa [Floor.record_eq] using result

end TunnelBroker.Daemon
