/-!
Computations that put questions to the world around them. A computation is a tree: each
question branches over its answers. What answers the questions is chosen when the
computation is run, one question at a time.
-/

set_option autoImplicit false

namespace TunnelBroker

inductive Interaction (Question : Type) (Answer : Question → Type) (α : Type) : Type where
  | done (value : α)
  | ask (question : Question) (next : Answer question → Interaction Question Answer α)

namespace Interaction

variable {Question : Type} {Answer : Question → Type} {α β γ σ : Type}

def bind (first : Interaction Question Answer α) (then' : α → Interaction Question Answer β) :
    Interaction Question Answer β :=
  match first with
  | done value => then' value
  | ask question next => ask question fun answer => (next answer).bind then'

instance : Monad (Interaction Question Answer) where
  pure := done
  bind := bind

def call (question : Question) : Interaction Question Answer (Answer question) :=
  ask question done

/-- Who answers questions, and how answering changes their state. -/
abbrev Handler (Question : Type) (Answer : Question → Type) (σ : Type) : Type :=
  (question : Question) → σ → Answer question × σ

def run (handler : Handler Question Answer σ) (state : σ) : Interaction Question Answer α → α × σ
  | done value => (value, state)
  | ask question next =>
    let (answer, state) := handler question state
    run handler state (next answer)

@[simp]
theorem run_done (handler : Handler Question Answer σ) (state : σ) (value : α) :
    run handler state (done value : Interaction Question Answer α) = (value, state) := rfl

theorem run_bind (handler : Handler Question Answer σ) (state : σ)
    (first : Interaction Question Answer α) (then' : α → Interaction Question Answer β) :
    run handler state (first.bind then') =
      run handler (run handler state first).2 (then' (run handler state first).1) := by
  induction first generalizing state with
  | done value => rfl
  | ask question next ih => exact ih _ _

end Interaction

end TunnelBroker
