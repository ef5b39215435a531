import Mathlib.Data.List.Forall2

/-!
Computations that can fail. One that ends well has steps that end well, and a list of them fails
as soon as one of its members does.
-/
namespace StagedMocks

variable {ε α β : Type}

theorem bind_eq_ok {step : Except ε α} {next : α → Except ε β} {b : β}
    (h : (step >>= next) = .ok b) : ∃ a, step = .ok a ∧ next a = .ok b := by
  cases step with
  | error e => cases h
  | ok a => exact ⟨a, rfl, h⟩

theorem mapM_of_forall₂ {f : α → Except ε β} {l : List α} {l' : List β}
    (h : List.Forall₂ (fun a b => f a = .ok b) l l') : l.mapM f = .ok l' := by
  induction h with
  | nil => rfl
  | cons hfirst _ ih =>
      rw [List.mapM_cons, hfirst, ih]
      rfl

theorem forall₂_of_mapM {f : α → Except ε β} {l : List α} {l' : List β}
    (h : l.mapM f = .ok l') : List.Forall₂ (fun a b => f a = .ok b) l l' := by
  induction l generalizing l' with
  | nil =>
      cases h
      exact .nil
  | cons a l ih =>
      rw [List.mapM_cons] at h
      obtain ⟨b, hfirst, h⟩ := bind_eq_ok h
      obtain ⟨rest, hrest, h⟩ := bind_eq_ok h
      cases h
      exact .cons hfirst (ih hrest)

theorem mapM_of_error {f : α → Except ε β} {l : List α} {a : α} (hmem : a ∈ l) {e : ε}
    (h : f a = .error e) : ∃ first, l.mapM f = .error first := by
  induction l with
  | nil => cases hmem
  | cons other rest ih =>
      rw [List.mapM_cons]
      cases hother : f other with
      | error first => exact ⟨first, rfl⟩
      | ok b =>
          obtain rfl | hmem := List.mem_cons.mp hmem
          · rw [h] at hother
            cases hother
          · obtain ⟨first, hfirst⟩ := ih hmem
            exact ⟨first, by rw [hfirst]; rfl⟩

end StagedMocks
