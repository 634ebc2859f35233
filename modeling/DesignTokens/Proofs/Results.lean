import Mathlib.Data.List.Forall2

/-!
# Results of steps that may be refused

What a result that is there tells about the steps that it came of, one after the other or one
for each item of a list.
-/

namespace DesignTokens

variable {Refusal First Second : Type}

/-- What is there is gone on with. -/
theorem ok_bind (value : First) (next : First -> Except Refusal Second) :
    (.ok value >>= next) = next value := rfl

/-- A step that goes on to a result has yielded the value it goes on with. -/
theorem eq_ok_of_bind {step : Except Refusal First} {next : First -> Except Refusal Second}
    {result : Second} (yielded : step >>= next = .ok result) :
    ∃ value, step = .ok value ∧ next value = .ok result := by
  cases step with
  | error => cases yielded
  | ok value => exact ⟨value, rfl, yielded⟩

/-- Two steps yield a result exactly when the first yields a value and the second the result. -/
theorem bind_eq_ok_iff {step : Except Refusal First} {next : First -> Except Refusal Second}
    {result : Second} :
    step >>= next = .ok result ↔ ∃ value, step = .ok value ∧ next value = .ok result := by
  refine ⟨eq_ok_of_bind, ?_⟩
  rintro ⟨value, rfl, yielded⟩
  exact yielded

/-- A step whose value is changed has yielded the value. -/
theorem eq_ok_of_map {step : Except Refusal First} {next : First -> Second} {result : Second}
    (yielded : step.map next = .ok result) : ∃ value, step = .ok value ∧ next value = result := by
  cases step with
  | error => cases yielded
  | ok value => exact ⟨value, rfl, Except.ok.inj yielded⟩

/-- A step whose value is changed yields a result exactly when the result is made of its value. -/
theorem map_eq_ok_iff {step : Except Refusal First} {next : First -> Second} {result : Second} :
    step.map next = .ok result ↔ ∃ value, step = .ok value ∧ next value = result := by
  refine ⟨eq_ok_of_map, ?_⟩
  rintro ⟨value, rfl, rfl⟩
  rfl

/-- To tell a refusal in other words changes nothing about what is there. -/
theorem mapError_eq_ok_iff {Other : Type} {step : Except Refusal First} {tell : Refusal -> Other}
    {value : First} : step.mapError tell = .ok value ↔ step = .ok value := by
  cases step <;> simp [Except.mapError]

/-- A value is put under a key exactly when it is there. -/
theorem keyed_eq_ok_iff {Key : Type} {step : Except Refusal First} {key : Key}
    {pair : Key × First} :
    (do let value <- step; .ok (key, value)) = .ok pair ↔ pair.1 = key ∧ step = .ok pair.2 := by
  constructor
  · intro keyed
    obtain ⟨value, there, keyed⟩ := eq_ok_of_bind keyed
    obtain rfl := Except.ok.inj keyed
    exact ⟨rfl, there⟩
  · rintro ⟨rfl, there⟩
    rw [there, ok_bind]

/-- A list of steps yields what each of them yields. -/
theorem mapM_eq_ok_iff {items : List First} {step : First -> Except Refusal Second}
    {values : List Second} :
    items.mapM step = .ok values ↔
      List.Forall₂ (fun item value => step item = .ok value) items values := by
  induction items generalizing values with
  | nil =>
      rw [List.forall₂_nil_left_iff]
      exact ⟨fun yielded => (Except.ok.inj yielded).symm, fun none => none ▸ rfl⟩
  | cons item others ih =>
      rw [List.mapM_cons]
      constructor
      · intro yielded
        obtain ⟨value, here, yielded⟩ := eq_ok_of_bind yielded
        obtain ⟨rest, there, yielded⟩ := eq_ok_of_bind yielded
        obtain rfl : value :: rest = values := Except.ok.inj yielded
        exact .cons here (ih.mp there)
      · rintro (_ | ⟨here, there⟩)
        rw [here, ih.mpr there]
        rfl

/-- A list of steps yields values that are related to the items as each step relates them. -/
theorem mapM_eq_ok_iff_forall₂ {step : First -> Except Refusal Second}
    {relation : First -> Second -> Prop}
    (each : ∀ item value, step item = .ok value ↔ relation item value)
    {items : List First} {values : List Second} :
    items.mapM step = .ok values ↔ List.Forall₂ relation items values := by
  simp only [mapM_eq_ok_iff, each]

/-- What holds of all that items may be related to holds of all that they are related to. -/
theorem forall_of_forall₂ {relation : First -> Second -> Prop} {property : Second -> Prop}
    (holds : ∀ first second, relation first second → property second)
    {firsts : List First} {seconds : List Second} (each : List.Forall₂ relation firsts seconds) :
    ∀ second ∈ seconds, property second := by
  induction each with
  | nil => exact nofun
  | cons here _ ih => exact List.forall_mem_cons.mpr ⟨holds _ _ here, ih⟩

end DesignTokens
