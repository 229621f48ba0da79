import Mathlib.Data.List.Forall2

namespace BrokerSession

/-!
# Computations in sequence

A sequence of two computations succeeds exactly if both succeed, the second
one from where the first one stopped.
-/

variable {Failure State First Second : Type}

/-- A sequence succeeds if its first part does and then its second part. -/
theorem except_bind_eq_ok_iff
    {first : Except Failure First} {next : First → Except Failure Second}
    {result : Second} :
    (first >>= next) = .ok result ↔
      ∃ content, first = .ok content ∧ next content = .ok result := by
  cases first with
  | error failure =>
      simp [bind, Except.bind]
  | ok content =>
      simp [bind, Except.bind]

/-- Converting a result changes no failure. -/
theorem except_map_eq_ok_iff {first : Except Failure First}
    {convert : First → Second} {result : Second} :
    convert <$> first = .ok result ↔
      ∃ content, first = .ok content ∧ convert content = result := by
  cases first with
  | error failure =>
      simp [Functor.map, Except.map]
  | ok content =>
      simp [Functor.map, Except.map]

/-- Computing each element succeeds if every single computation does. -/
theorem except_mapM_eq_ok_iff {compute : First → Except Failure Second}
    {inputs : List First} {results : List Second} :
    inputs.mapM compute = .ok results ↔
      List.Forall₂ (fun input result => compute input = .ok result)
        inputs results := by
  induction inputs generalizing results with
  | nil =>
      rw [List.mapM_nil, List.forall₂_nil_left_iff]
      exact ⟨fun returned => (Except.ok.inj returned).symm, fun none => none ▸ rfl⟩
  | cons input rest inductionHypothesis =>
      rw [List.mapM_cons, except_bind_eq_ok_iff, List.forall₂_cons_left_iff]
      constructor
      · rintro ⟨result, computed, others⟩
        obtain ⟨laterResults, computedLater, returned⟩ :=
          except_bind_eq_ok_iff.mp others
        cases returned
        exact ⟨result, laterResults, computed,
          inductionHypothesis.mp computedLater, rfl⟩
      · rintro ⟨result, laterResults, computed, computedLater, rfl⟩
        exact ⟨result, computed, except_bind_eq_ok_iff.mpr
          ⟨laterResults, inductionHypothesis.mpr computedLater, rfl⟩⟩

/-- What holds of each input carries over to the results. -/
theorem forall_mem_of_mapM {compute : First → Except Failure Second}
    {inputs : List First} {results : List Second} {before : First → Prop}
    {after : Second → Prop} (computed : inputs.mapM compute = .ok results)
    (holds : ∀ input ∈ inputs, before input)
    (carriesOver :
      ∀ input result, before input → compute input = .ok result →
        after result) :
    results.length = inputs.length ∧ ∀ result ∈ results, after result := by
  have pairwise := except_mapM_eq_ok_iff.mp computed
  refine ⟨pairwise.length_eq.symm, ?_⟩
  clear computed
  induction pairwise with
  | nil =>
      exact nofun
  | cons first _ inductionHypothesis =>
      obtain ⟨holdsFirst, holdsLater⟩ := List.forall_mem_cons.mp holds
      exact List.forall_mem_cons.mpr
        ⟨carriesOver _ _ holdsFirst first, inductionHypothesis holdsLater⟩

/-! ## Failures -/

/-- Whether a computation fails in some ways only, if it fails. -/
def FailsOnly (expected : Failure → Prop) (outcome : Except Failure First) :
    Prop :=
  ∀ failure, outcome = .error failure → expected failure

section FailsOnly

variable {expected : Failure → Prop}

theorem failsOnly_ok (content : First) :
    FailsOnly expected (.ok content : Except Failure First) :=
  nofun

theorem failsOnly_error {failure : Failure} (holds : expected failure) :
    FailsOnly expected (.error failure : Except Failure First) := by
  rintro _ ⟨⟩
  exact holds

/-- A sequence fails as its first part does or else as its second part. -/
theorem FailsOnly.bind {first : Except Failure First}
    {next : First → Except Failure Second} (fails : FailsOnly expected first)
    (goesOn : ∀ content, FailsOnly expected (next content)) :
    FailsOnly expected (first >>= next) := by
  intro failure failed
  cases first with
  | error early =>
      exact fails failure (congrArg _ (Except.error.inj failed))
  | ok content =>
      exact goesOn content failure failed

theorem FailsOnly.mapM {compute : First → Except Failure Second}
    (fails : ∀ input, FailsOnly expected (compute input))
    (inputs : List First) : FailsOnly expected (inputs.mapM compute) := by
  induction inputs with
  | nil =>
      exact failsOnly_ok []
  | cons input rest inductionHypothesis =>
      rw [List.mapM_cons]
      exact (fails input).bind fun _ =>
        inductionHypothesis.bind fun _ => failsOnly_ok _

theorem failsOnly_mapError {Other : Type} {expected : Other → Prop}
    {convert : Failure → Other} (holds : ∀ failure, expected (convert failure))
    (outcome : Except Failure First) :
    FailsOnly expected (outcome.mapError convert) := by
  cases outcome with
  | error failure =>
      exact failsOnly_error (holds failure)
  | ok content =>
      exact failsOnly_ok content

end FailsOnly

/-- The failure of a computation, if it fails. -/
def failure? : Except Failure First → Option Failure
  | .error failure => some failure
  | .ok _ => none

theorem failure?_eq_some_iff {outcome : Except Failure First}
    {failure : Failure} :
    failure? outcome = some failure ↔ outcome = .error failure := by
  cases outcome <;> simp [failure?]

/-- A sequence fails as its first part does or else as its second part. -/
theorem failure?_bind {first : Except Failure First}
    {next : First → Except Failure Second} {later : Option Failure}
    (goesOn : ∀ content, failure? (next content) = later) :
    failure? (first >>= next) = (failure? first).or later := by
  cases first with
  | error failure =>
      rfl
  | ok content =>
      exact goesOn content

/-- What cannot fail adds no failure to what goes before it. -/
theorem failure?_bind_of_ok {first : Except Failure First}
    {next : First → Except Failure Second}
    (goesOn : ∀ content, failure? (next content) = none) :
    failure? (first >>= next) = failure? first := by
  rw [failure?_bind goesOn, Option.or_none]

/-! ## Successes -/

/-- Whether a computation succeeds with a result that something holds of. -/
def Gives (holds : First → Prop) (outcome : Except Failure First) : Prop :=
  ∃ content, outcome = .ok content ∧ holds content

section Gives

variable {holds : First → Prop}

theorem gives_ok {content : First} (isHeld : holds content) :
    Gives holds (.ok content : Except Failure First) :=
  ⟨content, rfl, isHeld⟩

/-- A sequence succeeds if its second part does after each first result. -/
theorem Gives.bind {first : Except Failure First}
    {next : First → Except Failure Second} {after : Second → Prop}
    (gives : Gives holds first)
    (goesOn : ∀ content, holds content → Gives after (next content)) :
    Gives after (first >>= next) := by
  obtain ⟨content, rfl, isHeld⟩ := gives
  exact goesOn content isHeld

/-- Converting a result changes no success. -/
theorem Gives.map {outcome : Except Failure First} {convert : First → Second}
    {after : Second → Prop} (gives : Gives holds outcome)
    (converts : ∀ content, holds content → after (convert content)) :
    Gives after (convert <$> outcome) := by
  obtain ⟨content, rfl, isHeld⟩ := gives
  exact gives_ok (converts content isHeld)

theorem Gives.mapM {Input : Type} {compute : Input → Except Failure First}
    {inputs : List Input} (gives : ∀ input ∈ inputs, Gives holds (compute input)) :
    Gives (fun results => ∀ result ∈ results, holds result)
      (inputs.mapM compute) := by
  induction inputs with
  | nil =>
      exact gives_ok nofun
  | cons input rest inductionHypothesis =>
      obtain ⟨givesFirst, givesOthers⟩ := List.forall_mem_cons.mp gives
      rw [List.mapM_cons]
      exact givesFirst.bind fun result isHeld =>
        (inductionHypothesis givesOthers).bind fun others areHeld =>
          gives_ok (List.forall_mem_cons.mpr ⟨isHeld, areHeld⟩)

end Gives

/-- Converting failures changes no success. -/
theorem except_mapError_eq_ok_iff {Other Content : Type}
    {outcome : Except Failure Content} {convert : Failure → Other}
    {content : Content} :
    outcome.mapError convert = .ok content ↔ outcome = .ok content := by
  cases outcome <;> simp [Except.mapError]

/-- A sequence with state succeeds if its first part does and then its second. -/
theorem run_bind_eq_ok_iff
    {first : EStateM Failure State First}
    {next : First → EStateM Failure State Second}
    {before after : State} {result : Second} :
    (first >>= next).run before = .ok result after ↔
      ∃ content between,
        first.run before = .ok content between ∧
          (next content).run between = .ok result after := by
  rw [EStateM.run_bind]
  cases first.run before with
  | error failure state =>
      simp
  | ok content between =>
      constructor
      · intro returned
        exact ⟨content, between, rfl, returned⟩
      · rintro ⟨_, _, same, returned⟩
        cases same
        exact returned

/-- A sequence with state fails in its first part or else in its second. -/
theorem run_bind_eq_error_iff
    {first : EStateM Failure State First}
    {next : First → EStateM Failure State Second}
    {before after : State} {failure : Failure} :
    (first >>= next).run before = .error failure after ↔
      first.run before = .error failure after ∨
        ∃ content between,
          first.run before = .ok content between ∧
            (next content).run between = .error failure after := by
  rw [EStateM.run_bind]
  cases first.run before with
  | error early state =>
      simp
  | ok content between =>
      simp

/-- Converting a result neither consumes nor refuses anything. -/
theorem run_convert_eq_ok_iff
    {first : EStateM Failure State First} {convert : First → Second}
    {before after : State} {result : Second} :
    (do return convert (← first) : EStateM Failure State Second).run before =
        .ok result after ↔
      ∃ content,
        first.run before = .ok content after ∧ result = convert content := by
  rw [run_bind_eq_ok_iff]
  constructor
  · rintro ⟨content, between, succeeded, returned⟩
    cases returned
    exact ⟨content, succeeded, rfl⟩
  · rintro ⟨content, succeeded, rfl⟩
    exact ⟨content, after, succeeded, rfl⟩

end BrokerSession
