import Mathlib

/-!
Outcomes of steps that may fail: when a sequence of steps succeeds, and when steps for a whole list do. Nothing here
depends on what a failure is, so that it serves schemas, which fail with a diagnostic, as well as records.
-/
namespace TableWire

theorem bind_ok_iff {ε α β : Type} {step : Except ε α} {next : α → Except ε β} {b : β} :
    (step >>= next) = .ok b ↔ ∃ a, step = .ok a ∧ next a = .ok b := by
  cases step with
  | error failure => simp [bind, Except.bind]
  | ok a => simp [bind, Except.bind]

theorem pure_ok_iff {ε α : Type} {a b : α} : (pure a : Except ε α) = .ok b ↔ a = b := Except.ok.injEq a b ▸ Iff.rfl

theorem map_ok_iff {ε α β : Type} {step : Except ε α} {f : α → β} {b : β} :
    step.map f = .ok b ↔ ∃ a, step = .ok a ∧ f a = b := by
  cases step with
  | error failure => simp [Except.map]
  | ok a => simp [Except.map]

theorem map_error_iff {ε α β : Type} {step : Except ε α} {f : α → β} {failure : ε} :
    step.map f = .error failure ↔ step = .error failure := by
  cases step with
  | error failure => simp [Except.map]
  | ok a => simp [Except.map]

/-- Only the results of the first step matter to what comes after it. -/
theorem bind_congr_ok {ε α β : Type} {step : Except ε α} {next other : α → Except ε β}
    (same : ∀ a, step = .ok a → next a = other a) : (step >>= next) = (step >>= other) := by
  cases step with
  | error failure => rfl
  | ok a => exact same a rfl

theorem exists_ok {ε α : Type} {step : Except ε α} (succeeds : step.toOption.isSome) : ∃ a, step = .ok a := by
  cases step with
  | error failure => simp [Except.toOption] at succeeds
  | ok a => exact ⟨a, rfl⟩

theorem bind_pure_eq_map {ε α β : Type} (step : Except ε α) (f : α → β) :
    (step >>= fun a => pure (f a)) = step.map f := by
  cases step <;> rfl

/-- A list of steps succeeds when each of them does. -/
theorem mapM_ok_iff {ε α β : Type} {f : α → Except ε β} {list : List α} {results : List β} :
    list.mapM f = .ok results ↔ List.Forall₂ (fun a b => f a = .ok b) list results := by
  induction list generalizing results with
  | nil =>
    rw [List.mapM_nil, List.forall₂_nil_left_iff]
    exact ⟨fun same => (Except.ok.inj same).symm, fun same => same ▸ rfl⟩
  | cons first list ih =>
    rw [List.mapM_cons, bind_ok_iff, List.forall₂_cons_left_iff]
    refine exists_congr fun result => ?_
    simp only [bind_ok_iff, ih, exists_and_left]
    refine and_congr_right fun _ => exists_congr fun more => and_congr_right fun _ => ?_
    exact ⟨fun same => (Except.ok.inj same).symm, fun same => same ▸ rfl⟩

/-- A list of steps fails with the first step that fails. -/
theorem mapM_error_iff {ε α β : Type} {f : α → Except ε β} {list : List α} {failure : ε} :
    list.mapM f = .error failure ↔
      ∃ front a back, list = front ++ a :: back ∧ (∀ x ∈ front, ∃ b, f x = .ok b) ∧ f a = .error failure := by
  constructor
  · intro failed
    induction list with
    | nil => simp [pure, Except.pure] at failed
    | cons first list ih =>
      rw [List.mapM_cons] at failed
      cases head : f first with
      | error other =>
        obtain rfl : other = failure := by simpa [head, bind, Except.bind] using failed
        exact ⟨[], first, list, rfl, by simp, head⟩
      | ok b =>
        have later : list.mapM f = .error failure := by
          cases tail : list.mapM f with
          | error other => simpa [head, tail, bind, Except.bind] using failed
          | ok more => simp [head, tail, bind, Except.bind, pure, Except.pure] at failed
        obtain ⟨front, a, back, rfl, passed, stopped⟩ := ih later
        refine ⟨first :: front, a, back, rfl, ?_, stopped⟩
        intro x member
        rcases List.mem_cons.mp member with rfl | inside
        · exact ⟨b, head⟩
        · exact passed x inside
  · rintro ⟨front, a, back, rfl, passed, stopped⟩
    induction front with
    | nil => simp [stopped, bind, Except.bind]
    | cons first front ih =>
      obtain ⟨b, head⟩ := passed first (by simp)
      have later := ih fun x member => passed x (by simp [member])
      rw [List.cons_append, List.mapM_cons, head, later]
      rfl

end TableWire
