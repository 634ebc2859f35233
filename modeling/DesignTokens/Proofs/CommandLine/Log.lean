import DesignTokens.CommandLine
import DesignTokens.Proofs.Outcomes

/-!
# Logs without warnings

Nothing that is done to load a config and to write its artifacts is worth a warning. So a
run that was not asked for its log shows none of it, however far it gets.
-/

namespace DesignTokens

/-- No event of the log is a warning. -/
def Session.Quiet (session : Session) : Prop :=
  ∀ event ∈ session.log, event.level ≠ .warning

namespace Action

variable {Value Next : Type}

/-- An action writes no warning to the log, whether it returns or fails. -/
def Silent (action : Action Value) : Prop :=
  ∀ session : Session, session.Quiet →
    action.Ends session (fun _ after => after.Quiet) fun _ after => after.Quiet

/-- Two actions write no warning if neither does. -/
theorem Silent.bind {action : Action Value} {next : Value -> Action Next}
    (first : action.Silent) (second : ∀ value, (next value).Silent) :
    (action >>= next).Silent :=
  fun session quiet => (first session quiet).bind fun value middle => second value middle

/-- Returning a value writes nothing. -/
theorem silent_pure (value : Value) : (pure value : Action Value).Silent :=
  fun _ quiet => ends_pure quiet

/-- An event that is no warning may be written. -/
theorem silent_record {event : Event} (mild : (event.level == .warning) = false) :
    (record event).Silent := by
  intro session quiet
  refine ends_record fun written member => ?_
  rcases List.mem_append.mp member with before | last
  · exact quiet written before
  · exact List.mem_singleton.mp last ▸ beq_eq_false_iff_ne.mp mild

/-- Asking for the session writes nothing. -/
theorem silent_get : (get : Action Session).Silent :=
  fun _ quiet => ends_get quiet

/-- Requiring a value writes nothing. -/
theorem silent_require (result : Except Failure Value) : (require result).Silent :=
  fun _ quiet => ends_require (fun _ _ => quiet) fun _ _ => quiet

/-- A change of the tree writes nothing. -/
theorem silent_change (access : FileTree -> Except AccessFault FileTree) :
    (change access).Silent :=
  fun _ quiet => ends_change (fun _ _ => quiet) fun _ _ => quiet

/-- An extension of the tree writes nothing. -/
theorem silent_extend (access : FileTree -> FileTree.ChangeResult) : (extend access).Silent :=
  fun _ quiet => ends_extend (fun _ _ => quiet) fun _ _ _ => quiet

/-- Several actions write no warning if none does. -/
theorem silent_mapM {Entry : Type} {step : Entry -> Action Value} {entries : List Entry}
    (each : ∀ entry, (step entry).Silent) : (entries.mapM step).Silent :=
  fun _ quiet => ends_mapM quiet fun entry _ => each entry

end Action

open DesignTokens.Action

/-- Loading a config writes no warning. -/
theorem Config.silent_load (setting : Setting) (path : Option Path) :
    (load setting path).Silent := by
  refine silent_get.bind fun session => (silent_require _).bind fun resolved => ?_
  refine (silent_record rfl).bind fun _ => ?_
  refine (silent_require _).bind fun content => (silent_require _).bind fun config => ?_
  exact (silent_record rfl).bind fun _ => silent_pure config

namespace Artifact

/-- Rendering every artifact writes no warning. -/
theorem silent_renderAll (setting : Setting) (config : Config) :
    (renderAll setting config).Silent := by
  refine (silent_record rfl).bind fun _ => (silent_record rfl).bind fun _ => ?_
  refine (silent_record rfl).bind fun _ => silent_get.bind fun session => ?_
  exact (silent_require _).bind fun snippet => silent_pure _

/-- Writing one artifact writes no warning. -/
theorem silent_deliver (setting : Setting) (base : Path) (relative content : Text) :
    (deliver setting base relative content).Silent := by
  refine (silent_extend _).bind fun _ => (silent_require _).bind fun bytes => ?_
  refine (silent_change _).bind fun _ => (silent_record rfl).bind fun _ => ?_
  exact silent_pure _

/-- Loading a config and writing every artifact writes no warning. -/
theorem silent_generate (setting : Setting) (path base : Option Path) :
    (generate setting path base).Silent := by
  refine (Config.silent_load setting path).bind fun config => ?_
  refine (silent_renderAll setting config).bind fun rendered => ?_
  exact silent_mapM fun entry => silent_deliver setting _ _ _

end Artifact

/-- A log without warnings is shown only when asked for. -/
theorem CommandLine.logText_of_quiet {session : Session} (quiet : session.Quiet)
    (errors : ErrorOutput) : logText errors false session.log = [] := by
  have none : (session.log.filter fun event => false || event.level = .warning) = [] := by
    refine List.filter_eq_nil_iff.mpr fun event member => ?_
    simpa using quiet event member
  rw [logText, none]
  rfl

end DesignTokens
