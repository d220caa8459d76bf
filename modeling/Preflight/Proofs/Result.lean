/-!
What lies behind a result that may have failed to come about and has not.
-/

namespace Preflight

/-- What has come of two steps in a row has come of both of them. -/
theorem exists_of_bind_eq_ok {ε α β : Type} {first : Except ε α} {next : α → Except ε β}
    {result : β} (h : first >>= next = .ok result) :
    ∃ value, first = .ok value ∧ next value = .ok result := by
  cases first with
  | error fault => cases h
  | ok value => exact ⟨value, rfl, h⟩

theorem exists_of_map_eq_ok {ε α β : Type} {first : Except ε α} {f : α → β} {result : β}
    (h : first.map f = .ok result) : ∃ value, first = .ok value ∧ f value = result := by
  cases first with
  | error fault => cases h
  | ok value => exact ⟨value, rfl, Except.ok.inj h⟩

end Preflight
