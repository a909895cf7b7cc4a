import TunnelBroker.Interaction

/-!
Laws of computations that put questions. What is said of all questions of a computation
holds of its parts, and composing computations is associative.
-/

set_option autoImplicit false

namespace TunnelBroker.Interaction

variable {Question : Type} {Answer : Question → Type} {α β γ σ : Type}

@[simp]
theorem done_bind (value : α) (then' : α → Interaction Question Answer β) :
    (done value : Interaction Question Answer α).bind then' = then' value := rfl

@[simp]
theorem ask_bind (question : Question) (next : Answer question → Interaction Question Answer α)
    (then' : α → Interaction Question Answer β) :
    (ask question next).bind then' = ask question fun answer => (next answer).bind then' := rfl

theorem bind_assoc (first : Interaction Question Answer α)
    (second : α → Interaction Question Answer β) (third : β → Interaction Question Answer γ) :
    (first.bind second).bind third = first.bind fun value => (second value).bind third := by
  induction first with
  | done value => rfl
  | ask question next ih => exact congrArg (ask question) (funext ih)

/-- Every question that may be put satisfies `p`, whatever the answers before it are. -/
def Puts (p : Question → Prop) : Interaction Question Answer α → Prop
  | done _ => True
  | ask question next => p question ∧ ∀ answer, (next answer).Puts p

theorem Puts.bind {p : Question → Prop} {first : Interaction Question Answer α}
    {then' : α → Interaction Question Answer β} (before : first.Puts p)
    (after : ∀ value, (then' value).Puts p) : (first.bind then').Puts p := by
  induction first with
  | done value => exact after value
  | ask question next ih =>
    obtain ⟨allowed, others⟩ := before
    exact ⟨allowed, fun answer => ih answer (others answer)⟩

theorem puts_call {p : Question → Prop} {question : Question}
    {next : Answer question → Interaction Question Answer α} (allowed : p question)
    (others : ∀ answer, (next answer).Puts p) : (call question >>= next).Puts p :=
  ⟨allowed, others⟩

theorem puts_of_forall {p : Question → Prop} (all : ∀ question, p question)
    (task : Interaction Question Answer α) : task.Puts p := by
  induction task with
  | done value => trivial
  | ask question next ih => exact ⟨all question, ih⟩

theorem Puts.imp {p q : Question → Prop} (weaker : ∀ question, p question → q question)
    {task : Interaction Question Answer α} (puts : task.Puts p) : task.Puts q := by
  induction task with
  | done value => trivial
  | ask question next ih => exact ⟨weaker _ puts.1, fun answer => ih answer (puts.2 answer)⟩

/-- No more than `count` questions are put, whatever the answers are. -/
def AsksAtMost : (count : Nat) → Interaction Question Answer α → Prop
  | _, done _ => True
  | 0, ask _ _ => False
  | count + 1, ask _ next => ∀ answer, (next answer).AsksAtMost count

theorem asksAtMost_done (count : Nat) (value : α) :
    (done value : Interaction Question Answer α).AsksAtMost count := by
  rw [AsksAtMost]
  trivial

theorem AsksAtMost.add {count : Nat} {task : Interaction Question Answer α}
    (few : task.AsksAtMost count) (more : Nat) : task.AsksAtMost (count + more) := by
  induction task generalizing count with
  | done value => exact asksAtMost_done _ value
  | ask question next ih =>
    cases count with
    | zero => exact few.elim
    | succ count =>
      rw [Nat.add_right_comm]
      exact fun answer => ih answer (few answer)

theorem AsksAtMost.bind {count others : Nat} {first : Interaction Question Answer α}
    {then' : α → Interaction Question Answer β} (before : first.AsksAtMost count)
    (after : ∀ value, (then' value).AsksAtMost others) :
    (first.bind then').AsksAtMost (count + others) := by
  induction first generalizing count with
  | done value =>
    rw [Nat.add_comm]
    exact (after value).add count
  | ask question next ih =>
    cases count with
    | zero => exact before.elim
    | succ count =>
      rw [Nat.add_right_comm]
      exact fun answer => ih answer (before answer)

/-- Every value that may come of a computation satisfies `post`. -/
def Returns (post : α → Prop) : Interaction Question Answer α → Prop
  | done value => post value
  | ask _ next => ∀ answer, (next answer).Returns post

theorem returns_of_forall {post : α → Prop} (all : ∀ value, post value)
    (task : Interaction Question Answer α) : task.Returns post := by
  induction task with
  | done value => exact all value
  | ask question next ih => exact ih

theorem Returns.bind {between : α → Prop} {post : β → Prop} {first : Interaction Question Answer α}
    {then' : α → Interaction Question Answer β} (before : first.Returns between)
    (after : ∀ value, between value → (then' value).Returns post) :
    (first.bind then').Returns post := by
  induction first with
  | done value => exact after value before
  | ask question next ih => exact fun answer => ih answer (before answer)

theorem returns_bind {post : β → Prop} {first : Interaction Question Answer α}
    {then' : α → Interaction Question Answer β} (after : ∀ value, (then' value).Returns post) :
    (first.bind then').Returns post := by
  induction first with
  | done value => exact after value
  | ask question next ih => exact ih

/--
Every value that may come of a computation satisfies `post`, if each question is answered with
one of its `allowed` answers.
-/
def Yields (allowed : (question : Question) → Answer question → Prop) (post : α → Prop) :
    Interaction Question Answer α → Prop
  | done value => post value
  | ask question next => ∀ answer, allowed question answer → (next answer).Yields allowed post

theorem Returns.yields {allowed : (question : Question) → Answer question → Prop}
    {post : α → Prop} {task : Interaction Question Answer α} (returns : task.Returns post) :
    task.Yields allowed post := by
  induction task with
  | done value => exact returns
  | ask question next ih => exact fun answer _ => ih answer (returns answer)

theorem Yields.bind {allowed : (question : Question) → Answer question → Prop}
    {between : α → Prop} {post : β → Prop} {first : Interaction Question Answer α}
    {then' : α → Interaction Question Answer β} (before : first.Yields allowed between)
    (after : ∀ value, between value → (then' value).Yields allowed post) :
    (first.bind then').Yields allowed post := by
  induction first with
  | done value => exact after value before
  | ask question next ih => exact fun answer given => ih answer (before answer given)

theorem Yields.run {allowed : (question : Question) → Answer question → Prop} {post : α → Prop}
    {handler : Handler Question Answer σ}
    (allows : ∀ question state, allowed question (handler question state).1)
    {task : Interaction Question Answer α} (yields : task.Yields allowed post) (state : σ) :
    post (Interaction.run handler state task).1 := by
  induction task generalizing state with
  | done value => exact yields
  | ask question next ih => exact ih _ (yields _ (allows question state)) _

theorem run_ask (handler : Handler Question Answer σ) (state : σ) (question : Question)
    (next : Answer question → Interaction Question Answer α) :
    (ask question next).run handler state =
      (next (handler question state).1).run handler (handler question state).2 := rfl

-- Questions that change nothing and are answered alike in two states make for one result.
theorem run_congr {handler : Handler Question Answer σ} {state other : σ} {p : Question → Prop}
    (quiet : ∀ question, p question → (handler question state).2 = state)
    (alike : ∀ question, p question →
      handler question other = ((handler question state).1, other))
    {task : Interaction Question Answer α} (puts : task.Puts p) :
    task.run handler other = ((task.run handler state).1, other) := by
  induction task with
  | done value => rfl
  | ask question next ih =>
    obtain ⟨allowed, others⟩ := puts
    rw [run_ask, run_ask, alike question allowed, quiet question allowed]
    exact ih _ (others _)

/-- Each step of a run is as `step` says, and the value and the last state are as `post` says. -/
def Steps (handler : Handler Question Answer σ) (step : σ → σ → Prop) (post : α → σ → Prop) :
    Interaction Question Answer α → σ → Prop
  | done value, state => post value state
  | ask question next, state =>
    step state (handler question state).2 ∧
      (next (handler question state).1).Steps handler step post (handler question state).2

theorem Steps.run {handler : Handler Question Answer σ} {step : σ → σ → Prop}
    {post : α → σ → Prop} {task : Interaction Question Answer α} {state : σ}
    (steps : task.Steps handler step post state) :
    post (task.run handler state).1 (task.run handler state).2 := by
  induction task generalizing state with
  | done value => exact steps
  | ask question next ih => exact ih _ steps.2

theorem Steps.bind {handler : Handler Question Answer σ} {step : σ → σ → Prop}
    {between : α → σ → Prop} {post : β → σ → Prop} {first : Interaction Question Answer α}
    {then' : α → Interaction Question Answer β} {state : σ}
    (before : first.Steps handler step between state)
    (after : ∀ value state, between value state → (then' value).Steps handler step post state) :
    (first.bind then').Steps handler step post state := by
  induction first generalizing state with
  | done value => exact after value state before
  | ask question next ih =>
    obtain ⟨now, later⟩ := before
    exact ⟨now, ih _ later⟩

theorem Steps.imp {handler : Handler Question Answer σ} {step wider : σ → σ → Prop}
    {post weaker : α → σ → Prop} {task : Interaction Question Answer α} {state : σ}
    (steps : task.Steps handler step post state)
    (now : ∀ before after, step before after → wider before after)
    (last : ∀ value state, post value state → weaker value state) :
    task.Steps handler wider weaker state := by
  induction task generalizing state with
  | done value => exact last value state steps
  | ask question next ih => exact ⟨now _ _ steps.1, ih _ steps.2⟩

/-- Run until a number of questions were answered, or to the end if that comes first. -/
def runUpTo (handler : Handler Question Answer σ) :
    Nat → σ → Interaction Question Answer α → Option α × σ
  | _, state, done value => (some value, state)
  | 0, state, ask _ _ => (none, state)
  | stop + 1, state, ask question next =>
    let (answer, state) := handler question state
    (next answer).runUpTo handler stop state

/-- Wherever a run is cut off, it has come to what its steps lead to. -/
theorem Steps.runUpTo {handler : Handler Question Answer σ} {inv : σ → Prop}
    {post : α → σ → Prop} {task : Interaction Question Answer α} {state last : σ}
    {result : Option α} {stop : Nat}
    (steps : task.Steps handler (fun _ now => inv now) post state) (start : inv state)
    (cut : task.runUpTo handler stop state = (result, last)) :
    result.elim (inv last) (post · last) := by
  induction task generalizing state stop with
  | done value =>
    rw [Interaction.runUpTo] at cut
    cases cut
    exact steps
  | ask question next ih =>
    cases stop with
    | zero =>
      cases cut
      exact start
    | succ stop => exact ih _ steps.2 steps.1 cut

/--
Questions change nothing, and the value and the last state are as `post` says, although
others may go on from each state as `rely` says before a question is put.
-/
def Withstands (handler : Handler Question Answer σ) (rely : σ → σ → Prop)
    (post : α → σ → Prop) : Interaction Question Answer α → σ → Prop
  | done value, state => post value state
  | ask question next, state => ∀ now, rely state now →
      (handler question now).2 = now ∧
        (next (handler question now).1).Withstands handler rely post now

theorem withstands_call {handler : Handler Question Answer σ} {rely : σ → σ → Prop}
    {post : α → σ → Prop} {question : Question}
    {next : Answer question → Interaction Question Answer α} {state : σ}
    (later : ∀ now, rely state now → (handler question now).2 = now ∧
      (next (handler question now).1).Withstands handler rely post now) :
    (call question >>= next).Withstands handler rely post state := later

theorem Withstands.bind {handler : Handler Question Answer σ} {rely : σ → σ → Prop}
    {between : α → σ → Prop} {post : β → σ → Prop} {first : Interaction Question Answer α}
    {then' : α → Interaction Question Answer β} {state : σ}
    (before : first.Withstands handler rely between state)
    (after : ∀ value state, between value state →
      (then' value).Withstands handler rely post state) :
    (first.bind then').Withstands handler rely post state := by
  induction first generalizing state with
  | done value => exact after value state before
  | ask question next ih =>
    intro now allowed
    obtain ⟨quiet, later⟩ := before now allowed
    exact ⟨quiet, ih _ later⟩

/--
What a computation can come to, and in which state, where `answers` says what a question may be
answered and which state is left behind.
-/
def CanEnd (answers : (question : Question) → σ → Answer question → σ → Prop) :
    Interaction Question Answer α → σ → α → σ → Prop
  | done value, state, result, last => result = value ∧ last = state
  | ask question next, state, result, last => ∃ answer between,
      answers question state answer between ∧ (next answer).CanEnd answers between result last

variable {answers : (question : Question) → σ → Answer question → σ → Prop} {state last : σ}

theorem CanEnd.of_bind {first : Interaction Question Answer α}
    {then' : α → Interaction Question Answer β} {result : β}
    (ends : (first.bind then').CanEnd answers state result last) :
    ∃ value between, first.CanEnd answers state value between ∧
      (then' value).CanEnd answers between result last := by
  induction first generalizing state with
  | done value => exact ⟨value, state, ⟨rfl, rfl⟩, ends⟩
  | ask question next ih =>
    obtain ⟨answer, now, answered, later⟩ := ends
    obtain ⟨value, between, before, after⟩ := ih answer later
    exact ⟨value, between, ⟨answer, now, answered, before⟩, after⟩

theorem CanEnd.of_call {question : Question} {next : Answer question → Interaction Question Answer α}
    {result : α} (ends : (call question >>= next).CanEnd answers state result last) :
    ∃ answer between, answers question state answer between ∧
      (next answer).CanEnd answers between result last := ends

-- Whoever answers as is allowed comes to what is possible.
theorem canEnd_run {handler : Handler Question Answer σ}
    (allowed : ∀ question state,
      answers question state (handler question state).1 (handler question state).2)
    (task : Interaction Question Answer α) (state : σ) :
    task.CanEnd answers state (task.run handler state).1 (task.run handler state).2 := by
  induction task generalizing state with
  | done value => exact ⟨rfl, rfl⟩
  | ask question next ih => exact ⟨_, _, allowed question state, ih _ _⟩

/-- What each answer does to the state, a whole run does. -/
theorem CanEnd.relates {p : Question → Prop} {relation : σ → σ → Prop} {result : α}
    {task : Interaction Question Answer α} (ends : task.CanEnd answers state result last)
    (puts : task.Puts p) (refl : ∀ state, relation state state)
    (trans : ∀ first second third, relation first second → relation second third →
      relation first third)
    (each : ∀ question state answer after, p question → answers question state answer after →
      relation state after) : relation state last := by
  induction task generalizing state with
  | done value =>
    obtain ⟨-, rfl⟩ := ends
    exact refl last
  | ask question next ih =>
    obtain ⟨answer, between, answered, later⟩ := ends
    exact trans _ _ _ (each _ _ _ _ puts.1 answered) (ih answer later (puts.2 answer))

/-- The questions that are put in a run, in order, each with the state in which it is put. -/
def asked (handler : Handler Question Answer σ) :
    σ → Interaction Question Answer α → List (Question × σ)
  | _, done _ => []
  | state, ask question next =>
    (question, state) ::
      (next (handler question state).1).asked handler (handler question state).2

@[simp]
theorem asked_done (handler : Handler Question Answer σ) (state : σ) (value : α) :
    (done value : Interaction Question Answer α).asked handler state = [] := rfl

theorem asked_ask (handler : Handler Question Answer σ) (state : σ) (question : Question)
    (next : Answer question → Interaction Question Answer α) :
    (ask question next).asked handler state = (question, state) ::
      (next (handler question state).1).asked handler (handler question state).2 := rfl

theorem asked_bind (handler : Handler Question Answer σ) (state : σ)
    (first : Interaction Question Answer α) (then' : α → Interaction Question Answer β) :
    (first.bind then').asked handler state = first.asked handler state ++
      (then' (first.run handler state).1).asked handler (first.run handler state).2 := by
  induction first generalizing state with
  | done value => rfl
  | ask question next ih => exact congrArg ((question, state) :: ·) (ih _ _)

-- What asks nothing more only says what it makes of the answers.
theorem asked_bind_of_done {first : Interaction Question Answer α}
    {then' : α → Interaction Question Answer β}
    (ends : ∀ value, ∃ result, then' value = done result) (handler : Handler Question Answer σ)
    (state : σ) : (first.bind then').asked handler state = first.asked handler state := by
  obtain ⟨result, same⟩ := ends (first.run handler state).1
  rw [asked_bind, same, asked_done, List.append_nil]

theorem Puts.of_mem_asked {p : Question → Prop} {task : Interaction Question Answer α}
    (puts : task.Puts p) {handler : Handler Question Answer σ} {state : σ}
    {entry : Question × σ} (member : entry ∈ task.asked handler state) : p entry.1 := by
  induction task generalizing state with
  | done value => cases member
  | ask question next ih =>
    rcases List.mem_cons.1 member with rfl | later
    · exact puts.1
    · exact ih _ (puts.2 _) later

/-- Run for as long as questions are answered. At one that never is, the run stays. -/
def attend (handler : (question : Question) → σ → Option (Answer question) × σ) (state : σ) :
    Interaction Question Answer α → Option α × σ
  | done value => (some value, state)
  | ask question next =>
    match handler question state with
    | (none, state) => (none, state)
    | (some answer, state) => (next answer).attend handler state

variable {waiting : (question : Question) → σ → Option (Answer question) × σ}

theorem attend_ask {question : Question} {state after : σ} {answer : Answer question}
    (answered : waiting question state = (some answer, after))
    (next : Answer question → Interaction Question Answer α) :
    (ask question next).attend waiting state = (next answer).attend waiting after := by
  rw [attend, answered]

theorem attend_ask_unanswered {question : Question} {state after : σ}
    (unanswered : waiting question state = (none, after))
    (next : Answer question → Interaction Question Answer α) :
    (ask question next).attend waiting state = (none, after) := by
  rw [attend, unanswered]

theorem attend_bind (first : Interaction Question Answer α)
    (then' : α → Interaction Question Answer β) (state : σ) :
    (first.bind then').attend waiting state =
      match first.attend waiting state with
      | (none, after) => (none, after)
      | (some value, after) => (then' value).attend waiting after := by
  induction first generalizing state with
  | done value => rfl
  | ask question next ih =>
    rcases answered : waiting question state with ⟨_ | answer, after⟩
    · rw [ask_bind, attend_ask_unanswered answered, attend_ask_unanswered answered]
    · rw [ask_bind, attend_ask answered, attend_ask answered]
      exact ih answer after

/-- Which questions are alike, each pair with what is to hold of the two answers. -/
abbrev Likeness (Question : Type) (Answer : Question → Type) : Type :=
  (first second : Question) → (Answer first → Answer second → Prop) → Prop

/--
Two computations go the same way: they put questions that are alike, and go on so if the answers
agree as they should. In the end their values are as `post` says.
-/
inductive Parallel (alike : Likeness Question Answer) (post : α → β → Prop) :
    Interaction Question Answer α → Interaction Question Answer β → Prop where
  | done {first : α} {second : β} (ends : post first second) :
    Parallel alike post (done first) (done second)
  | ask {question other : Question} {agree : Answer question → Answer other → Prop}
    {next : Answer question → Interaction Question Answer α}
    {after : Answer other → Interaction Question Answer β} (asked : alike question other agree)
    (later : ∀ answer reply, agree answer reply →
      Parallel alike post (next answer) (after reply)) :
    Parallel alike post (ask question next) (ask other after)

theorem Parallel.bind {alike : Likeness Question Answer} {δ : Type} {between : α → β → Prop}
    {post : γ → δ → Prop} {first : Interaction Question Answer α}
    {second : Interaction Question Answer β} {then' : α → Interaction Question Answer γ}
    {thence : β → Interaction Question Answer δ} (before : first.Parallel alike between second)
    (after : ∀ value other, between value other →
      (then' value).Parallel alike post (thence other)) :
    (first.bind then').Parallel alike post (second.bind thence) := by
  induction before with
  | done ends => exact after _ _ ends
  | ask asked _ ih => exact .ask asked ih

-- Where the questions are alike only if they are the same, there is one way.
theorem parallel_self {alike : Likeness Question Answer} {p : Question → Prop}
    (same : ∀ question, p question → alike question question (· = ·))
    {task : Interaction Question Answer α} (puts : task.Puts p) :
    task.Parallel alike (· = ·) task := by
  induction task with
  | done value => exact .done rfl
  | ask question next ih =>
    refine .ask (same question puts.1) ?_
    rintro answer _ rfl
    exact ih answer (puts.2 answer)

end TunnelBroker.Interaction
