import TunnelBroker.Proofs.Text.Words
import TunnelBroker.Slug

/-! Slugs are words of a command line, and never addresses. -/

set_option autoImplicit false

namespace TunnelBroker.Slug

theorem isBlank_of_isSlugChar {c : Char} (slug : isSlugChar c = true) :
    Text.isBlank c = false := by
  have range : 48 ≤ c.toNat ∧ c.toNat ≤ 57 ∨ 97 ≤ c.toNat ∧ c.toNat ≤ 122 ∨ c.toNat = 45 ∨
      c.toNat = 95 := by
    simp [isSlugChar, isLowerOrDigit, Char.le_def, UInt32.le_iff_toNat_le] at slug
    rcases slug with (letterOrDigit | rfl) | rfl
    · omega
    · decide
    · decide
  simp [Text.isBlank]
  omega

theorem check_iff {text : String} : check text = .ok () ↔ fault? text = none := by
  unfold check
  cases fault? text <;> simp

theorem isSlugChar_of_check {text : String} (checked : check text = .ok ()) :
    ∀ c ∈ text.toList, isSlugChar c = true := by
  have faultless := check_iff.1 checked
  unfold fault? at faultless
  repeat' split at faultless
  all_goals simp_all

theorem solid_of_check {text : String} (checked : check text = .ok ()) : Text.IsSolid text :=
  fun c found => isBlank_of_isSlugChar (isSlugChar_of_check checked c found)

theorem nonempty_of_check {text : String} (checked : check text = .ok ()) :
    text.isEmpty = false := by
  have faultless := check_iff.1 checked
  unfold fault? at faultless
  split at faultless
  · cases faultless
  · next nonempty => exact Bool.eq_false_iff.2 nonempty

theorem colon_not_mem_of_check {text : String} (checked : check text = .ok ()) :
    ':' ∉ text.toList := fun found =>
  absurd (isSlugChar_of_check checked ':' found) (by decide)

end TunnelBroker.Slug
