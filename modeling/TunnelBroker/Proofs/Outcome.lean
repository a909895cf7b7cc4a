/-! Results that may be failures. What is put together goes well only if all of its parts do. -/

set_option autoImplicit false

namespace TunnelBroker

theorem bind_eq_ok {ε α β : Type} {first : Except ε α} {then' : α → Except ε β} {result : β}
    (ok : first.bind then' = .ok result) :
    ∃ value, first = .ok value ∧ then' value = .ok result := by
  cases first with
  | error failure => cases ok
  | ok value => exact ⟨value, rfl, ok⟩

theorem bind_eq_error {ε α β : Type} {first : Except ε α} {then' : α → Except ε β} {failure : ε}
    (failed : first.bind then' = .error failure) :
    first = .error failure ∨ ∃ value, first = .ok value ∧ then' value = .error failure := by
  cases first with
  | error other => exact .inl (congrArg Except.error (Except.error.inj failed))
  | ok value => exact .inr ⟨value, rfl, failed⟩

theorem map_eq_ok {ε α β : Type} {first : Except ε α} {change : α → β} {result : β}
    (ok : first.map change = .ok result) : ∃ value, first = .ok value ∧ change value = result := by
  cases first with
  | error failure => cases ok
  | ok value => exact ⟨value, rfl, Except.ok.inj ok⟩

theorem map_eq_error {ε α β : Type} {first : Except ε α} {change : α → β} {failure : ε}
    (failed : first.map change = .error failure) : first = .error failure := by
  cases first with
  | error other => exact congrArg Except.error (Except.error.inj failed)
  | ok value => cases failed

theorem eq_ok_of_isOk {ε α : Type} {result : Except ε α} (ok : result.isOk = true) :
    ∃ value, result = .ok value := by
  cases result with
  | error failure => cases ok
  | ok value => exact ⟨value, rfl⟩

end TunnelBroker
