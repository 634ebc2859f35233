import DesignTokens.Proofs.Results
import DesignTokens.Session

/-!
# Outcomes of actions

What a run of an action ends in, stated for both of its ends at once: the value and
the session that it returns, or the failure and the session that it leaves. An
action that is made of steps ends as its steps do, one after the other.
-/

namespace DesignTokens.Action

variable {Value Next : Type}

/-- A run from a session returns with the first property or fails with the second. -/
def Ends (action : Action Value) (session : Session) (returns : Value -> Session -> Prop)
    (fails : Failure -> Session -> Prop) : Prop :=
  match action session with
  | .ok value after => returns value after
  | .error failure after => fails failure after

variable {action : Action Value} {session : Session} {returns : Value -> Session -> Prop}
  {fails : Failure -> Session -> Prop}

instance [∀ value after, Decidable (returns value after)]
    [∀ failure after, Decidable (fails failure after)] :
    Decidable (action.Ends session returns fails) :=
  match outcome : action session with
  | .ok value after => decidable_of_iff (returns value after) (by simp [Ends, outcome])
  | .error failure after => decidable_of_iff (fails failure after) (by simp [Ends, outcome])

/-- What holds at the ends of a run may be weakened. -/
theorem Ends.imp {others : Value -> Session -> Prop} {otherFails : Failure -> Session -> Prop}
    (ends : action.Ends session returns fails)
    (returning : ∀ value after, returns value after → others value after)
    (failing : ∀ failure after, fails failure after → otherFails failure after) :
    action.Ends session others otherFails := by
  unfold Ends at ends ⊢
  cases outcome : action session with
  | ok value after =>
      simp only [outcome] at ends
      exact returning value after ends
  | error failure after =>
      simp only [outcome] at ends
      exact failing failure after ends

/-- What holds when a run returns holds of the run that did. -/
theorem Ends.of_returned {value : Value} {after : Session}
    (ends : action.Ends session returns fails) (returned : action session = .ok value after) :
    returns value after := by
  unfold Ends at ends
  simpa only [returned] using ends

/-- What holds when a run fails holds of the run that did. -/
theorem Ends.of_failed {failure : Failure} {after : Session}
    (ends : action.Ends session returns fails) (failed : action session = .error failure after) :
    fails failure after := by
  unfold Ends at ends
  simpa only [failed] using ends

/-- A run that fails ends in its failure. -/
theorem ends_of_failed {failure : Failure} {after : Session}
    (failed : action session = .error failure after) (holds : fails failure after) :
    action.Ends session returns fails := by
  unfold Ends
  simpa only [failed] using holds

/-- What a run ends in may be held together with the outcome itself. -/
theorem Ends.recorded (ends : action.Ends session returns fails) :
    action.Ends session
      (fun value after => action session = .ok value after ∧ returns value after)
      fun failure after => action session = .error failure after ∧ fails failure after := by
  unfold Ends at ends ⊢
  cases outcome : action session with
  | ok value after => exact ⟨rfl, by simpa only [outcome] using ends⟩
  | error failure after => exact ⟨rfl, by simpa only [outcome] using ends⟩

/-- What a run is known to end in twice holds at once. -/
theorem Ends.and {others : Value -> Session -> Prop} {otherFails : Failure -> Session -> Prop}
    (ends : action.Ends session returns fails)
    (again : action.Ends session others otherFails) :
    action.Ends session (fun value after => returns value after ∧ others value after)
      fun failure after => fails failure after ∧ otherFails failure after :=
  ends.recorded.imp (fun _ _ ⟨returned, holds⟩ => ⟨holds, again.of_returned returned⟩)
    fun _ _ ⟨failed, holds⟩ => ⟨holds, again.of_failed failed⟩

/-- A run that does not fail returns. -/
theorem Ends.returned (ends : action.Ends session returns fun _ _ => False) :
    ∃ value after, action session = .ok value after ∧ returns value after := by
  cases outcome : action session with
  | ok value after => exact ⟨value, after, rfl, ends.of_returned outcome⟩
  | error failure after => exact absurd (ends.of_failed outcome) not_false

/-- A step that fails keeps those behind it from being taken. -/
theorem bind_of_failed {failure : Failure} {after : Session} (next : Value -> Action Next)
    (failed : action session = .error failure after) :
    (action >>= next) session = .error failure after := by
  show EStateM.bind action next session = _
  simp only [EStateM.bind, failed]

/-- A step that returns is followed by the one behind it. -/
theorem bind_of_returned {value : Value} {after : Session} (next : Value -> Action Next)
    (returned : action session = .ok value after) :
    (action >>= next) session = next value after := by
  show EStateM.bind action next session = _
  simp only [EStateM.bind, returned]

/-- Two steps end as the second does after the first, or fail as the first does. -/
theorem ends_bind {next : Value -> Action Next} {others : Next -> Session -> Prop} :
    (action >>= next).Ends session others fails ↔
      action.Ends session (fun value middle => (next value).Ends middle others fails) fails := by
  have run : (action >>= next) session =
      match action session with
      | .ok value middle => next value middle
      | .error failure middle => .error failure middle := by
    show EStateM.bind action next session = _
    unfold EStateM.bind
    cases action session <;> rfl
  unfold Ends
  rw [run]
  cases action session <;> rfl

/-- What the first of two steps is known to end in is what the second starts from. -/
theorem Ends.bind {next : Value -> Action Next} {others : Next -> Session -> Prop}
    (first : action.Ends session returns fails)
    (second : ∀ value middle, returns value middle → (next value).Ends middle others fails) :
    (action >>= next).Ends session others fails :=
  ends_bind.mpr (first.imp second fun _ _ failed => failed)

/-- Returning a value changes nothing. -/
theorem ends_pure {value : Value} (holds : returns value session) :
    (pure value : Action Value).Ends session returns fails := holds

/-- Failing changes nothing. -/
theorem ends_throw {failure : Failure} (holds : fails failure session) :
    (throw failure : Action Value).Ends session returns fails := holds

/-- The session that is asked for is the one at hand. -/
theorem ends_get {others : Session -> Session -> Prop} (holds : others session session) :
    (get : Action Session).Ends session others fails := holds

/-- Writing to the log leaves the tree alone. -/
theorem ends_record {event : Event} {others : Unit -> Session -> Prop}
    (holds : others () { session with log := session.log ++ [event] }) :
    (record event).Ends session others fails := holds

/-- Requiring a value changes nothing. -/
theorem ends_require {result : Except Failure Value}
    (returning : ∀ value, result = .ok value → returns value session)
    (failing : ∀ failure, result = .error failure → fails failure session) :
    (require result).Ends session returns fails := by
  cases result with
  | ok value => exact returning value rfl
  | error failure => exact failing failure rfl

/-- Looking at the tree changes nothing. -/
theorem ends_look {access : FileTree -> Except AccessFault Value}
    (returning : ∀ value, access session.tree = .ok value → returns value session)
    (failing : ∀ fault, access session.tree = .error fault → fails (.access fault) session) :
    (look access).Ends session returns fails := by
  unfold Ends look
  cases outcome : access session.tree with
  | ok value => exact returning value outcome
  | error fault => exact failing fault outcome

/-- A change that is refused leaves the session as it is. -/
theorem ends_change {access : FileTree -> Except AccessFault FileTree}
    {others : Unit -> Session -> Prop}
    (returning : ∀ tree, access session.tree = .ok tree →
      others () { session with tree := tree })
    (failing : ∀ fault, access session.tree = .error fault → fails (.access fault) session) :
    (change access).Ends session others fails := by
  unfold Ends change
  cases outcome : access session.tree with
  | ok tree => exact returning tree outcome
  | error fault => exact failing fault outcome

/-- An extension that is refused keeps what it has done. -/
theorem ends_extend {access : FileTree -> FileTree.ChangeResult}
    {others : Unit -> Session -> Prop}
    (returning : ∀ tree, access session.tree = .ok () tree →
      others () { session with tree := tree })
    (failing : ∀ fault tree, access session.tree = .error fault tree →
      fails (.access fault) { session with tree := tree }) :
    (extend access).Ends session others fails := by
  unfold Ends extend
  cases outcome : access session.tree with
  | ok _ tree => exact returning tree outcome
  | error fault tree => exact failing fault tree outcome

/-- What each of several steps keeps is kept by all of them, and what each can fail with is
what all of them can. -/
theorem ends_mapM {Entry : Type} {step : Entry -> Action Value} {entries : List Entry}
    {invariant : Session -> Prop} (holds : invariant session)
    (each : ∀ entry ∈ entries, ∀ before, invariant before →
      (step entry).Ends before (fun _ after => invariant after) fails) :
    (entries.mapM step).Ends session (fun _ after => invariant after) fails := by
  induction entries generalizing session with
  | nil => exact holds
  | cons entry others ih =>
      rw [List.mapM_cons]
      obtain ⟨first, rest⟩ := List.forall_mem_cons.mp each
      refine (first session holds).bind fun value middle between => ?_
      exact (ih between rest).bind fun values after kept => ends_pure kept

section Several

variable {Entry : Type} {step : Entry -> Action Value} {entry : Entry} {entries : List Entry}
  {failure : Failure} {middle after : Session}

/-- Of several steps, those behind one that fails are not taken. -/
theorem mapM_cons_of_failed (failed : step entry session = .error failure after) :
    (entry :: entries).mapM step session = .error failure after := by
  rw [List.mapM_cons]
  exact bind_of_failed _ failed

/-- Of several steps, those behind one that returns go on from where it ends. -/
theorem mapM_cons_of_returned {value : Value} (returned : step entry session = .ok value middle) :
    (entry :: entries).mapM step session =
      match entries.mapM step middle with
      | .ok values after => .ok (value :: values) after
      | .error failure after => .error failure after := by
  rw [List.mapM_cons, bind_of_returned _ returned]
  cases rest : entries.mapM step middle with
  | ok values after => exact bind_of_returned _ rest
  | error failure after => exact bind_of_failed _ rest

/-- Several steps fail exactly when one of them does, from where those before it end. -/
theorem mapM_error_iff :
    entries.mapM step session = .error failure after ↔
      ∃ done next rest values middle, entries = done ++ next :: rest ∧
        done.mapM step session = .ok values middle ∧ step next middle = .error failure after := by
  induction entries generalizing session with
  | nil => exact ⟨nofun, fun ⟨done, next, rest, _, _, split, _⟩ => by simp at split⟩
  | cons entry others ih =>
      constructor
      · intro failed
        cases here : step entry session with
        | error refusal stopped =>
            cases (mapM_cons_of_failed here).symm.trans failed
            exact ⟨[], entry, others, [], session, rfl, rfl, here⟩
        | ok value between =>
            rw [mapM_cons_of_returned here] at failed
            cases later : others.mapM step between with
            | ok values last =>
                rw [later] at failed
                cases failed
            | error refusal stopped =>
                rw [later] at failed
                cases failed
                obtain ⟨done, next, rest, values, middle, rfl, before, stops⟩ := ih.mp later
                refine ⟨entry :: done, next, rest, value :: values, middle, rfl, ?_, stops⟩
                rw [mapM_cons_of_returned here, before]
      · rintro ⟨done, next, rest, values, middle, split, before, stops⟩
        rcases List.cons_eq_append_iff.mp split with ⟨rfl, same⟩ | ⟨earlier, rfl, rfl⟩
        · obtain ⟨rfl, rfl⟩ := List.cons.inj same
          cases before
          exact mapM_cons_of_failed stops
        · cases here : step entry session with
          | error refusal stopped => cases (mapM_cons_of_failed here).symm.trans before
          | ok value between =>
              rw [mapM_cons_of_returned here] at before ⊢
              cases done : earlier.mapM step between with
              | error refusal stopped =>
                  rw [done] at before
                  cases before
              | ok others last =>
                  rw [done] at before
                  cases before
                  rw [ih.mpr ⟨earlier, next, rest, others, middle, rfl, done, stops⟩]

/-- Several steps return exactly when each of them does, from where those before it end. -/
theorem mapM_returns_iff :
    (∃ values after, entries.mapM step session = .ok values after) ↔
      ∀ done next rest values middle, entries = done ++ next :: rest →
        done.mapM step session = .ok values middle →
        ∃ value after, step next middle = .ok value after := by
  constructor
  · rintro ⟨values, after, returned⟩ done next rest before middle split reached
    cases here : step next middle with
    | ok value after => exact ⟨value, after, rfl⟩
    | error failure stopped =>
        have failed := mapM_error_iff.mpr ⟨done, next, rest, before, middle, split, reached, here⟩
        cases returned.symm.trans failed
  · intro each
    cases outcome : entries.mapM step session with
    | ok values after => exact ⟨values, after, rfl⟩
    | error failure stopped =>
        obtain ⟨done, next, rest, before, middle, split, reached, stops⟩ :=
          mapM_error_iff.mp outcome
        obtain ⟨value, after, returned⟩ := each done next rest before middle split reached
        cases returned.symm.trans stops

end Several

/-- A run from a session ends with a property of the tree, whether it returns or fails. -/
def Leaves (action : Action Value) (session : Session) (property : FileTree -> Prop) : Prop :=
  action.Ends session (fun _ after => property after.tree) fun _ after => property after.tree

variable {property : FileTree -> Prop}

instance [DecidablePred property] : Decidable (action.Leaves session property) :=
  inferInstanceAs (Decidable (action.Ends _ _ _))

/-- What a step leaves is left by two, if the second keeps it. -/
theorem Leaves.bind {next : Value -> Action Next} (first : action.Leaves session property)
    (second : ∀ value middle, property middle.tree → (next value).Leaves middle property) :
    (action >>= next).Leaves session property :=
  Ends.bind first second

/-- What holds of the tree is left when a value is returned. -/
theorem leaves_pure {value : Value} (holds : property session.tree) :
    (pure value : Action Value).Leaves session property := holds

/-- What each of several steps keeps is left by all of them, up to one that fails. -/
theorem leaves_mapM {Entry : Type} {step : Entry -> Action Value} {entries : List Entry}
    (holds : property session.tree)
    (kept : ∀ entry ∈ entries, ∀ before, property before.tree →
      (step entry).Leaves before property) :
    (entries.mapM step).Leaves session property :=
  ends_mapM holds kept

end DesignTokens.Action
