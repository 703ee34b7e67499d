/-!
# Outcomes

Small facts about computations that end in a value or an error.
-/

namespace ColorLiteral.Outcome

variable {ε α β : Type}

/-- A mapped outcome is a value only when the outcome itself is one. -/
theorem exists_of_map_eq_ok {f : α → β} {x : Except ε α} {b : β} (h : x.map f = .ok b) :
    ∃ a, x = .ok a ∧ f a = b := by
  cases x with
  | error => cases h
  | ok a => cases h; exact ⟨a, rfl, rfl⟩

/-- A mapped outcome is an error only when the outcome itself is that error. -/
theorem of_map_eq_error {f : α → β} {x : Except ε α} {e : ε} (h : x.map f = .error e) :
    x = .error e := by
  cases x with
  | error => cases h; rfl
  | ok => cases h

end ColorLiteral.Outcome
