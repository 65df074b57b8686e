import Mathlib.Data.List.Forall2

/-!
This file shows how the results of steps that may fail come about: what a sequence of two steps gives, and what a step
gives that is taken for each element of a list until one fails.
-/

namespace HalfPrecision

variable {Failure Source Result : Type}

theorem bind_eq_ok_iff {action : Except Failure Source} {next : Source → Except Failure Result} {result : Result} :
    (action >>= next) = .ok result ↔ ∃ value, action = .ok value ∧ next value = .ok result := by
  cases action with
  | ok value =>
      constructor
      · intro known
        exact ⟨value, rfl, known⟩
      · rintro ⟨_, same, known⟩
        exact Except.ok.inj same ▸ known
  | error failure =>
      constructor
      · intro impossible
        cases impossible
      · rintro ⟨_, impossible, -⟩
        cases impossible

theorem bind_eq_error_iff {action : Except Failure Source} {next : Source → Except Failure Result} {failure : Failure} :
    (action >>= next) = .error failure ↔
      action = .error failure ∨ ∃ value, action = .ok value ∧ next value = .error failure := by
  cases action with
  | ok value =>
      constructor
      · intro known
        exact Or.inr ⟨value, rfl, known⟩
      · rintro (impossible | ⟨_, same, known⟩)
        · cases impossible
        · exact Except.ok.inj same ▸ known
  | error first =>
      constructor
      · intro known
        exact Or.inl (congrArg Except.error (Except.error.inj known))
      · rintro (same | ⟨_, impossible, _⟩)
        · exact congrArg Except.error (Except.error.inj same)
        · cases impossible

theorem map_eq_error_iff {function : Source → Result} {action : Except Failure Source} {failure : Failure} :
    action.map function = .error failure ↔ action = .error failure := by
  cases action with
  | ok value =>
      constructor <;> intro impossible <;> cases impossible
  | error first =>
      constructor <;> intro same <;> exact congrArg Except.error (Except.error.inj same)

/-- A step that is followed by no other fails alone. -/
theorem bind_pure_eq_error_iff {action : Except Failure Source} {function : Source → Result} {failure : Failure} :
    (action >>= fun value => pure (function value)) = .error failure ↔ action = .error failure := by
  rw [bind_eq_error_iff]
  constructor
  · rintro (fails | ⟨_, -, impossible⟩)
    · exact fails
    · cases impossible
  · intro fails
    exact Or.inl fails

theorem mapError_eq_ok_iff {Other : Type} {function : Failure → Other} {action : Except Failure Result}
    {result : Result} :
    action.mapError function = .ok result ↔ action = .ok result := by
  cases action with
  | ok value =>
      constructor <;> intro same <;> exact congrArg Except.ok (Except.ok.inj same)
  | error failure =>
      constructor <;> intro impossible <;> cases impossible

theorem mapError_eq_error_iff {Other : Type} {function : Failure → Other} {action : Except Failure Result}
    {other : Other} :
    action.mapError function = .error other ↔ ∃ failure, action = .error failure ∧ function failure = other := by
  cases action with
  | ok value =>
      constructor
      · intro impossible
        cases impossible
      · rintro ⟨_, impossible, -⟩
        cases impossible
  | error failure =>
      constructor
      · intro same
        exact ⟨failure, rfl, Except.error.inj same⟩
      · rintro ⟨_, same, rfl⟩
        exact congrArg (fun failure => Except.error (function failure)) (Except.error.inj same)

variable {step : Source → Except Failure Result}

/-- A step taken for all elements succeeds if each one does. -/
theorem mapM_eq_ok_iff {sources : List Source} {results : List Result} :
    sources.mapM step = .ok results ↔ List.Forall₂ (fun source result => step source = .ok result) sources results := by
  induction sources generalizing results with
  | nil =>
      rw [List.mapM_nil, List.forall₂_nil_left_iff]
      exact ⟨fun known => (Except.ok.inj known).symm, fun known => congrArg Except.ok known.symm⟩
  | cons source rest ih =>
      rw [List.mapM_cons, bind_eq_ok_iff, List.forall₂_cons_left_iff]
      constructor
      · rintro ⟨first, taken, known⟩
        obtain ⟨others, later, same⟩ := bind_eq_ok_iff.mp known
        exact ⟨first, others, taken, ih.mp later, (Except.ok.inj same).symm⟩
      · rintro ⟨first, others, taken, later, rfl⟩
        exact ⟨first, taken, bind_eq_ok_iff.mpr ⟨others, ih.mpr later, rfl⟩⟩

theorem exists_mapM_eq_ok_iff {sources : List Source} :
    (∃ results, sources.mapM step = .ok results) ↔ ∀ source ∈ sources, ∃ result, step source = .ok result := by
  simp only [mapM_eq_ok_iff]
  constructor
  · rintro ⟨results, taken⟩
    induction taken with
    | nil => simp
    | cons first rest ih => exact List.forall_mem_cons.mpr ⟨⟨_, first⟩, ih⟩
  · intro taken
    induction sources with
    | nil => exact ⟨[], .nil⟩
    | cons source rest ih =>
        obtain ⟨⟨first, known⟩, others⟩ := List.forall_mem_cons.mp taken
        obtain ⟨results, later⟩ := ih others
        exact ⟨first :: results, .cons known later⟩

/-- A step taken for all elements fails as it does for the first element for which it fails. -/
theorem mapM_eq_error_iff {sources : List Source} {failure : Failure} :
    sources.mapM step = .error failure ↔
      ∃ before source after, sources = before ++ source :: after ∧
        (∀ earlier ∈ before, ∃ result, step earlier = .ok result) ∧
        step source = .error failure := by
  induction sources with
  | nil =>
      constructor
      · intro known
        cases known
      · rintro ⟨before, source, after, split, -⟩
        simp at split
  | cons first rest ih =>
      rw [List.mapM_cons, bind_eq_error_iff]
      constructor
      · rintro (fails | ⟨result, taken, known⟩)
        · exact ⟨[], first, rest, rfl, by simp, fails⟩
        · rcases bind_eq_error_iff.mp known with fails | ⟨_, -, impossible⟩
          · obtain ⟨before, source, after, split, earlier, fails⟩ := ih.mp fails
            exact ⟨first :: before, source, after, congrArg (first :: ·) split,
              List.forall_mem_cons.mpr ⟨⟨result, taken⟩, earlier⟩, fails⟩
          · cases impossible
      · rintro ⟨before, source, after, split, earlier, fails⟩
        cases before with
        | nil =>
            obtain ⟨rfl, rfl⟩ := List.cons.inj split
            exact Or.inl fails
        | cons known before =>
            obtain ⟨rfl, rfl⟩ := List.cons.inj split
            obtain ⟨⟨result, taken⟩, others⟩ := List.forall_mem_cons.mp earlier
            exact Or.inr ⟨result, taken, bind_eq_error_iff.mpr
              (Or.inl (ih.mpr ⟨before, source, after, rfl, others, fails⟩))⟩

end HalfPrecision
