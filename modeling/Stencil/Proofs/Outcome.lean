import Stencil.Template.Token.Stream

/-!
# Outcomes of reading

Reading something has two outcomes: either the budget suffices, and the parser stands behind what it
has read, or it does not, and the expression is refused as too deep. `Resumes` states both at once.
-/

namespace Stencil

/-- A computation succeeds when its first part does and what follows succeeds with its value. -/
theorem bind_eq_ok_iff {error α β : Type} {first : Except error α} {next : α → Except error β}
    {value : β} : (first >>= next) = .ok value ↔ ∃ middle, first = .ok middle ∧
      next middle = .ok value := by
  cases first with
  | error failure =>
    constructor
    · rintro ⟨⟩
    · rintro ⟨middle, ⟨⟩, reads⟩
  | ok middle =>
    constructor
    · exact fun reads => ⟨middle, rfl, reads⟩
    · rintro ⟨_, ⟨⟩, reads⟩
      exact reads

/-- A computation fails when its first part does or when what follows fails with its value. -/
theorem bind_eq_error_iff {error α β : Type} {first : Except error α} {next : α → Except error β}
    {failure : error} : (first >>= next) = .error failure ↔ first = .error failure ∨
      ∃ middle, first = .ok middle ∧ next middle = .error failure := by
  cases first with
  | error refusal =>
    constructor
    · exact fun fails => Or.inl (congrArg Except.error (Except.error.inj fails))
    · rintro (fails | ⟨middle, ⟨⟩, -⟩)
      exact congrArg Except.error (Except.error.inj fails)
  | ok middle =>
    constructor
    · exact fun fails => Or.inr ⟨middle, rfl, fails⟩
    · rintro (fails | ⟨_, same, fails⟩)
      · cases fails
      · cases same
        exact fails

/-- A computation succeeds with some value when it is no failure. -/
theorem exists_eq_ok_iff {error α : Type} {result : Except error α} :
    (∃ value, result = .ok value) ↔ result.isOk = true := by
  cases result with
  | error failure =>
    constructor
    · rintro ⟨value, ⟨⟩⟩
    · rintro ⟨⟩
  | ok value => exact ⟨fun _ => rfl, fun _ => ⟨value, rfl⟩⟩

/-- Whether a computation fails with some failure depends on no value. -/
theorem eq_error_iff {error α : Type} {result : Except error α} {failure : error} :
    result = .error failure ↔ (match result with
      | .ok _ => none
      | .error found => some found) = some failure := by
  cases result with
  | error found => simp
  | ok value => simp

/-- Computations in a row fail when one of them does. -/
theorem mapM_eq_error {error α β : Type} {computation : α → Except error β} {items : List α}
    {failure : error} (fails : items.mapM computation = .error failure) :
    ∃ item ∈ items, computation item = .error failure := by
  induction items with
  | nil => cases fails
  | cons first rest ih =>
    rw [List.mapM_cons] at fails
    rcases bind_eq_error_iff.mp fails with here | ⟨value, computed, fails⟩
    · exact ⟨first, List.mem_cons_self, here⟩
    · rcases bind_eq_error_iff.mp fails with later | ⟨values, others, done⟩
      · obtain ⟨item, member, fails⟩ := ih later
        exact ⟨item, List.mem_cons_of_mem first member, fails⟩
      · cases done

/-- Computations in a row that can only fail in one way fail when one of them does. -/
theorem mapM_eq_error_iff {error α β : Type} {computation : α → Except error β} {failure : error}
    (only : ∀ item other, computation item = .error other → other = failure) {items : List α} :
    items.mapM computation = .error failure ↔
      ∃ item ∈ items, computation item = .error failure := by
  refine ⟨mapM_eq_error, ?_⟩
  induction items with
  | nil => rintro ⟨_, ⟨⟩, _⟩
  | cons first rest ih =>
    rintro ⟨item, member, fails⟩
    rw [List.mapM_cons, bind_eq_error_iff]
    cases here : computation first with
    | error other => exact Or.inl (congrArg Except.error (only first other here))
    | ok value =>
      refine Or.inr ⟨value, rfl, bind_eq_error_iff.mpr (Or.inl (ih ?_))⟩
      rcases List.mem_cons.mp member with rfl | later
      · rw [here] at fails
        cases fails
      · exact ⟨item, later, fails⟩

/-- Computations in a row succeed with the same values as others that they agree with on success. -/
theorem mapM_ok_mono {error α β : Type} {first second : α → Except error β} {items : List α}
    (agree : ∀ item ∈ items, ∀ value, first item = .ok value → second item = .ok value)
    {values : List β} (succeeds : items.mapM first = .ok values) :
    items.mapM second = .ok values := by
  induction items generalizing values with
  | nil => exact succeeds
  | cons item rest ih =>
    rw [List.mapM_cons] at succeeds ⊢
    obtain ⟨value, here, others⟩ := bind_eq_ok_iff.mp succeeds
    obtain ⟨later, found, done⟩ := bind_eq_ok_iff.mp others
    have restAgrees := ih (fun item member => agree item (List.mem_cons_of_mem _ member)) found
    exact bind_eq_ok_iff.mpr ⟨value, agree item List.mem_cons_self value here,
      bind_eq_ok_iff.mpr ⟨later, restAgrees, done⟩⟩

/-- What a computation gives has a property, if it gives anything. -/
def Ensures {failure α : Type} (result : Except failure α) (holds : α → Prop) : Prop :=
  ∀ value, result = .ok value → holds value

namespace Ensures

variable {failure α β : Type} {result : Except failure α} {holds : α → Prop} {wanted : β → Prop}

/-- A value that has the property may be given. -/
theorem ok {value : α} (held : holds value) : Ensures (.ok value : Except failure α) holds := by
  rintro _ ⟨⟩
  exact held

/-- A failure gives nothing. -/
theorem error (reason : failure) : Ensures (.error reason) holds := by
  rintro _ ⟨⟩

/-- What follows may rely on the property of the first part. -/
theorem bind {next : α → Except failure β} (first : Ensures result holds)
    (follows : ∀ value, holds value → Ensures (next value) wanted) :
    Ensures (result >>= next) wanted := by
  intro value succeeds
  obtain ⟨middle, given, continues⟩ := bind_eq_ok_iff.mp succeeds
  exact follows middle (first middle given) value continues

/-- What follows need not rely on anything. -/
theorem always {first : Except failure α} {next : α → Except failure β}
    (follows : ∀ value, Ensures (next value) wanted) : Ensures (first >>= next) wanted := by
  intro value succeeds
  obtain ⟨middle, -, continues⟩ := bind_eq_ok_iff.mp succeeds
  exact follows middle value continues

end Ensures

/-- A result that is another one when a condition holds, and the refusal of a too deep expression
when it does not. -/
structure Resumes {α : Type} (result next : Except SyntaxError α) (fits : Prop) : Prop where
  /-- The condition holds. -/
  accepted : fits → result = next
  /-- The condition does not hold. -/
  refused : ¬fits → ∃ position, result = .error ⟨.tooDeep, position⟩

namespace Resumes

variable {α β : Type} {first second third : Except SyntaxError α} {fits further : Prop}

/-- A result is itself. -/
theorem refl (result : Except SyntaxError α) : Resumes result result True :=
  ⟨fun _ => rfl, fun contradiction => absurd trivial contradiction⟩

/-- A refusal is a refusal when the condition fails. -/
theorem refuse (stream : TokenStream) (fails : ¬fits) :
    Resumes (stream.refuse .tooDeep) first fits :=
  ⟨fun holds => absurd holds fails, fun _ => ⟨_, rfl⟩⟩

/-- The condition may be stated in another way. -/
theorem congr (resumes : Resumes first second fits) (same : fits ↔ further) :
    Resumes first second further :=
  ⟨fun holds => resumes.accepted (same.mpr holds),
    fun fails => resumes.refused fun holds => fails (same.mp holds)⟩

/-- Both conditions must hold when one result goes on with another. -/
theorem trans (resumes : Resumes first second fits) (continues : Resumes second third further) :
    Resumes first third (fits ∧ further) := by
  constructor
  · intro holds
    rw [resumes.accepted holds.1, continues.accepted holds.2]
  · intro fails
    by_cases holds : fits
    · rw [resumes.accepted holds]
      exact continues.refused fun also => fails ⟨holds, also⟩
    · exact resumes.refused holds

/-- What follows a successful read goes on from its value. -/
theorem bind {value : α} (resumes : Resumes first (.ok value) fits)
    (next : α → Except SyntaxError β) : Resumes (first >>= next) (next value) fits := by
  constructor
  · intro holds
    rw [resumes.accepted holds]
    rfl
  · intro fails
    obtain ⟨position, refused⟩ := resumes.refused fails
    exact ⟨position, by rw [refused]; rfl⟩

/-- What follows a successful read has the outcome it has for its value. -/
theorem andThen {value : α} {result : Except SyntaxError β}
    (resumes : Resumes first (.ok value) fits) {next : α → Except SyntaxError β}
    (follows : next value = result) : Resumes (first >>= next) result fits := by
  rw [← follows]
  exact resumes.bind next

end Resumes

end Stencil
