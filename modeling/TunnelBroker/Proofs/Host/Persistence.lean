import TunnelBroker.Host
import TunnelBroker.Proofs.Interaction
import Mathlib.Algebra.Order.Floor.Div

/-!
Repeating an attempt until a deadline, where time passes as it may. Main statements: whoever
persists makes one attempt after another until one succeeds or has failed at or after the
deadline, and makes no more attempts than there are intervals until then, and one.
-/

set_option autoImplicit false

namespace TunnelBroker.Host

variable {σ α ε : Type}

/--
Time, as it passes for those who answer. It never goes back, is told as it is, and sleeping takes
at least as long as it is meant to. All else may take any time.
-/
structure KeepsTime (handler : Interaction.Handler Call Call.Answer σ) (time : σ → Nat) :
    Prop where
  forward : ∀ call state, time state ≤ time (handler call state).2
  told : ∀ state, (handler .now state).1 = time state
  slept : ∀ span state, time state + span.nanoseconds ≤ time (handler (.sleep span) state).2

variable {handler : Interaction.Handler Call Call.Answer σ} {time : σ → Nat}
  {attempt : Task (Except ε α)} {interval : Duration} {deadline : Nat}

theorem KeepsTime.run (keeps : KeepsTime handler time) (task : Task α) (state : σ) :
    time state ≤ time (task.run handler state).2 := by
  induction task generalizing state with
  | done value => exact Nat.le_refl _
  | ask call next ih => exact (keeps.forward call state).trans (ih _ _)

/-- Look at the time, and let some of it pass. -/
def rest (handler : Interaction.Handler Call Call.Answer σ) (interval : Duration) (state : σ) : σ :=
  (handler (.sleep interval) (handler .now state).2).2

theorem KeepsTime.rest (keeps : KeepsTime handler time) (interval : Duration) (state : σ) :
    time state + interval.nanoseconds ≤ time (rest handler interval state) :=
  (Nat.add_le_add_right (keeps.forward .now state) _).trans (keeps.slept interval _)

variable (handler time attempt interval deadline) in
/--
Attempts one after another, the first one now: the states in which they begin, all that is asked,
and what comes of the last one.
-/
inductive Attempts : σ → List σ → List (Call × σ) → Except ε α × σ → Prop where
  | succeeded {state after : σ} {value : α}
    (run : attempt.run handler state = (.ok value, after)) :
    Attempts state [state] (attempt.asked handler state) (.ok value, after)
  | lapsed {state after : σ} {reason : ε}
    (run : attempt.run handler state = (.error reason, after)) (late : deadline ≤ time after) :
    Attempts state [state] (attempt.asked handler state ++ [(.now, after)])
      (.error reason, (handler .now after).2)
  | again {state after : σ} {reason : ε} {begun : List σ} {asked : List (Call × σ)}
    {result : Except ε α × σ}
    (run : attempt.run handler state = (.error reason, after)) (early : time after < deadline)
    (later : Attempts (rest handler interval after) begun asked result) :
    Attempts state (state :: begun) (attempt.asked handler state ++
      (.now, after) :: (.sleep interval, (handler .now after).2) :: asked) result

/-- What follows an attempt. -/
def proceed (interval : Duration) (positive : 0 < interval.nanoseconds)
    (attempt : Task (Except ε α)) (deadline known : Nat) : Except ε α → Task (Except ε α)
  | .ok value => .done (.ok value)
  | .error reason => .ask .now fun time =>
    if deadline ≤ max known time then .done (.error reason)
    else .ask (.sleep interval) fun _ =>
      persist interval positive attempt deadline (max known time + interval.nanoseconds)

theorem persist_eq (positive : 0 < interval.nanoseconds) (known : Nat) :
    persist interval positive attempt deadline known =
      attempt.bind (proceed interval positive attempt deadline known) := by
  rw [persist]
  refine congrArg (Interaction.bind attempt) (funext fun result => ?_)
  cases result <;> rfl

/--
Whoever persists makes attempts until one succeeds or the deadline has passed. The lower bound of
the time that is kept beside the clock is never more than the clock tells.
-/
theorem attempts_persist (keeps : KeepsTime handler time) (positive : 0 < interval.nanoseconds)
    {known : Nat} {state : σ} (sound : known ≤ time state) :
    ∃ begun, Attempts handler time attempt interval deadline state begun
      ((persist interval positive attempt deadline known).asked handler state)
      ((persist interval positive attempt deadline known).run handler state) := by
  rw [persist_eq, Interaction.asked_bind, Interaction.run_bind]
  have passed := keeps.run attempt state
  rcases run : attempt.run handler state with ⟨reason | value, after⟩
  · rw [run] at passed
    -- The clock tells at least what is known, so it alone decides.
    have reading : max known (handler .now after).1 = time after := by
      rw [keeps.told, Nat.max_eq_right (sound.trans passed)]
    rw [proceed, Interaction.asked_ask, Interaction.run_ask, reading]
    split
    · next late => exact ⟨[state], .lapsed run late⟩
    · next early =>
      obtain ⟨begun, attempts⟩ := attempts_persist keeps positive (keeps.rest interval after)
      exact ⟨state :: begun, .again run (Nat.not_le.1 early) attempts⟩
  · exact ⟨[state], by simpa [proceed] using .succeeded run⟩
termination_by deadline - known
decreasing_by omega

variable {state : σ} {begun : List σ} {asked : List (Call × σ)} {result : Except ε α × σ}

/-- The attempts that begin in these states have failed before the deadline. -/
def Fail (handler : Interaction.Handler Call Call.Answer σ) (time : σ → Nat)
    (attempt : Task (Except ε α)) (deadline : Nat) (begun : List σ) : Prop :=
  ∀ state ∈ begun, ∃ reason after,
    attempt.run handler state = (.error reason, after) ∧ time after < deadline

variable (handler time attempt deadline) in
/-- What comes of an attempt that is the last one, and in which state. -/
inductive Ends (last : σ) : Except ε α × σ → Prop where
  | succeeded {value : α} {after : σ} (run : attempt.run handler last = (.ok value, after)) :
    Ends last (.ok value, after)
  | lapsed {reason : ε} {after : σ} (run : attempt.run handler last = (.error reason, after))
    (late : deadline ≤ time after) : Ends last (.error reason, (handler .now after).2)

-- All attempts but the last one have failed early.
theorem Attempts.ends (attempts : Attempts handler time attempt interval deadline state begun asked
    result) : ∃ earlier last, begun = earlier ++ [last] ∧
      Fail handler time attempt deadline earlier ∧
      Ends handler time attempt deadline last result := by
  induction attempts with
  | succeeded run => exact ⟨[], _, rfl, List.forall_mem_nil _, .succeeded run⟩
  | lapsed run late => exact ⟨[], _, rfl, List.forall_mem_nil _, .lapsed run late⟩
  | again run early _ ih =>
    obtain ⟨earlier, last, rfl, failed, ends⟩ := ih
    exact ⟨_ :: earlier, last, rfl, List.forall_mem_cons.2 ⟨⟨_, _, run, early⟩, failed⟩, ends⟩

theorem ceilDiv_lt {left later interval : Nat} (positive : 0 < interval) (early : 0 < left)
    (nearer : later ≤ left - interval) : later ⌈/⌉ interval < left ⌈/⌉ interval := by
  have enough : left ≤ interval * (left ⌈/⌉ interval) := le_smul_ceilDiv positive
  cases whole : left ⌈/⌉ interval with
  | zero =>
    rw [whole] at enough
    omega
  | succ count =>
    rw [whole, Nat.mul_succ] at enough
    exact Nat.lt_succ_of_le ((ceilDiv_le_iff_le_mul positive).2 (by omega))

-- Every interval between two attempts brings the deadline nearer.
theorem Attempts.length_le (attempts : Attempts handler time attempt interval deadline state begun
    asked result) (keeps : KeepsTime handler time) (positive : 0 < interval.nanoseconds) :
    begun.length ≤ (deadline - time state) ⌈/⌉ interval.nanoseconds + 1 := by
  induction attempts with
  | succeeded => exact Nat.le_add_left _ _
  | lapsed => exact Nat.le_add_left _ _
  | @again state after reason begun asked result run early _ ih =>
    have passed := keeps.run attempt state
    rw [run] at passed
    have rested := keeps.rest interval after
    have nearer : deadline - time (rest handler interval after) ≤
        deadline - time state - interval.nanoseconds := by
      dsimp only at passed
      omega
    have fewer := ceilDiv_lt positive (Nat.sub_pos_of_lt (Nat.lt_of_le_of_lt passed early)) nearer
    rw [List.length_cons]
    omega

-- Of what is asked in an attempt and between two of them, only the attempts count.
theorem Attempts.filter_asked {p : Call → Bool} {call : Call}
    (attempts : Attempts handler time attempt interval deadline state begun asked result)
    (single : ∀ state, attempt.asked handler state = [(call, state)]) (counts : p call = true)
    (now : p .now = false) (sleep : p (.sleep interval) = false) :
    asked.filter (fun entry => p entry.1) = begun.map fun state => (call, state) := by
  induction attempts with
  | succeeded => simp [single, counts]
  | lapsed => simp [single, counts, now]
  | again _ _ _ ih => simp [single, counts, now, sleep, ih]

end TunnelBroker.Host
