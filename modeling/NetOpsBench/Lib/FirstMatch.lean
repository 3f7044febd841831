import Mathlib.Data.List.Basic

/-!
# Policies of ordered terms

The first term that matches a route decides about it, and a route that no term matches is denied.
-/

namespace FirstMatch

variable {τ ρ : Type}

/-- The route as a policy lets it through. A term that matches a route may change it. -/
def verdict (judge : τ → ρ → Option ρ) (permits : τ → Bool) : List τ → ρ → Option ρ
  | [], _ => none
  | term :: terms, route =>
      match judge term route with
      | none => verdict judge permits terms route
      | some changed => if permits term = true then some changed else none

variable {judge judge' : τ → ρ → Option ρ} {permits : τ → Bool} {term : τ} {terms : List τ}
  {route changed : ρ}

theorem verdict_cons_none (passes : judge term route = none) :
    verdict judge permits (term :: terms) route = verdict judge permits terms route := by
  rw [verdict, passes]

theorem verdict_cons_some (hits : judge term route = some changed) :
    verdict judge permits (term :: terms) route = if permits term = true then some changed else none := by
  rw [verdict, hits]

/-- Terms that are judged alike make the same policy. -/
theorem verdict_congr (alike : ∀ term ∈ terms, judge term route = judge' term route) :
    verdict judge permits terms route = verdict judge' permits terms route := by
  induction terms with
  | nil => rfl
  | cons term terms ih =>
      have later := ih fun other mem => alike other (List.mem_cons_of_mem term mem)
      rw [verdict, verdict, alike term (List.mem_cons_self ..), later]

end FirstMatch
