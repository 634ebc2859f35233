import DesignTokens.CommandLine
import DesignTokens.Proofs.Text.Scalar

/-!
# Lines that are written

A line is written without its control sequences, and a text without lone surrogates can
always be written. The error output escapes surrogates, so that it takes any line, unless it
is strict. A run that stops with a message shows it behind the name of the program, on a line
of its own.
-/

namespace DesignTokens

namespace Text

/-- What follows a control sequence is an end of the text. -/
theorem afterControlSequence?_suffix {content rest : Text}
    (found : afterControlSequence? content = some rest) : rest <:+ content := by
  match content, found with
  | escape :: bracket :: tail, found =>
      simp only [afterControlSequence?] at found
      split at found
      · split at found
        next final others shape =>
          split at found
          · cases found
            have kept : final :: rest <:+ tail :=
              shape ▸ (List.dropWhile_suffix _).trans (List.dropWhile_suffix _)
            exact (List.suffix_cons final rest).trans (kept.trans ⟨[escape, bracket], rfl⟩)
          · cases found
        next => cases found
      · cases found

/-- What is shown of a text are code points of the text. -/
theorem mem_of_mem_stripControlSequences {content : Text} {point : CodePoint}
    (shown : point ∈ stripControlSequences content) : point ∈ content := by
  fun_induction stripControlSequences content with
  | case1 => exact shown
  | case2 first others rest found ih =>
      exact (afterControlSequence?_suffix found).subset (ih shown)
  | case3 first others found ih =>
      rcases List.mem_cons.mp shown with rfl | later
      · exact List.mem_cons_self
      · exact List.mem_cons_of_mem first (ih later)

/-- The rest of a text behind code points that pass two tests, when a last one that
passes neither is put at its end. -/
theorem dropWhile_concat (passes : CodePoint -> Bool) (content : Text) {last : CodePoint}
    (refused : passes last = false) :
    (content ++ [last]).dropWhile passes = content.dropWhile passes ++ [last] := by
  induction content with
  | nil => simp [refused]
  | cons point others ih =>
      cases passing : passes point <;> simp [passing, ih]

/-- A line feed is no part of a control sequence. -/
theorem afterControlSequence?_newline {content : Text} (present : content ≠ []) :
    afterControlSequence? (content ++ text "\n") =
      (afterControlSequence? content).map (· ++ text "\n") := by
  match content, present with
  | [escape], _ =>
      have other : ¬ CodePoint.ofChar '\n' = CodePoint.ofChar '[' := by decide
      simp [afterControlSequence?, text, other]
  | escape :: bracket :: rest, _ =>
      have parameter : isSequenceParameter '\n' = false := by decide
      have intermediate : isSequenceIntermediate '\n' = false := by decide
      have final : isSequenceFinal '\n' = false := by decide
      have behind : ((rest ++ text "\n").dropWhile isSequenceParameter).dropWhile
          isSequenceIntermediate =
          (rest.dropWhile isSequenceParameter).dropWhile isSequenceIntermediate ++ text "\n" := by
        rw [show text "\n" = [CodePoint.ofChar '\n'] from rfl, dropWhile_concat _ _ parameter,
          dropWhile_concat _ _ intermediate]
      simp only [List.cons_append, afterControlSequence?, behind]
      split
      · cases (rest.dropWhile isSequenceParameter).dropWhile isSequenceIntermediate with
        | nil => simp [text, final]
        | cons point others =>
            simp only [List.cons_append]
            split <;> rfl
      · rfl

/-- A control sequence at the start of a text is left out. -/
theorem stripControlSequences_of_some {point : CodePoint} {others rest : Text}
    (found : afterControlSequence? (point :: others) = some rest) :
    stripControlSequences (point :: others) = stripControlSequences rest := by
  rw [stripControlSequences]
  split
  next other again =>
    obtain rfl : rest = other := Option.some.inj (found.symm.trans again)
    rfl
  next nothing => cases found.symm.trans nothing

/-- A code point at the start of a text is shown when it starts no control sequence. -/
theorem stripControlSequences_of_none {point : CodePoint} {others : Text}
    (nothing : afterControlSequence? (point :: others) = none) :
    stripControlSequences (point :: others) = point :: stripControlSequences others := by
  rw [stripControlSequences]
  split
  next rest found => cases nothing.symm.trans found
  next => rfl

/-- The end of a line is always shown. -/
theorem stripControlSequences_newline (content : Text) :
    stripControlSequences (content ++ text "\n") = stripControlSequences content ++ text "\n" := by
  fun_induction stripControlSequences content with
  | case1 =>
      have alone : afterControlSequence? (text "\n") = none := by decide
      show stripControlSequences (text "\n") = text "\n"
      rw [show text "\n" = CodePoint.ofChar '\n' :: [] from rfl] at alone ⊢
      rw [stripControlSequences_of_none alone, stripControlSequences]
  | case2 point others rest found ih =>
      have behind := afterControlSequence?_newline (List.cons_ne_nil point others)
      rw [found] at behind
      exact (stripControlSequences_of_some behind).trans ih
  | case3 point others nothing ih =>
      have behind := afterControlSequence?_newline (List.cons_ne_nil point others)
      rw [nothing] at behind
      exact (stripControlSequences_of_none behind).trans (congrArg (point :: ·) ih)

end Text

/-- The error output takes a text, as it escapes surrogates or as the text has none. -/
def ErrorOutput.Takes (errors : ErrorOutput) (content : Text) : Prop :=
  errors = .strict → content.isScalar = true

/-- An error output that escapes surrogates takes every text. -/
theorem ErrorOutput.takes_escaping (content : Text) : ErrorOutput.escaping.Takes content :=
  nofun

namespace CommandLine

/-- What is written of a line that can be: all of it but its control sequences. -/
def shownLine (line : Text) : Text :=
  Text.stripControlSequences line ++ text "\n"

/-- What is shown of a line without surrogates holds none. -/
theorem isScalar_shownLine {line : Text} (scalar : line.isScalar = true) :
    (shownLine line).isScalar = true := by
  refine Text.isScalar_append.trans (Bool.and_eq_true_iff.mpr ⟨?_, by decide⟩)
  refine List.all_eq_true.mpr fun point member => ?_
  exact List.all_eq_true.mp scalar point (Text.mem_of_mem_stripControlSequences member)

/-- A line without surrogates can be written. -/
theorem echo_of_scalar {line : Text} (scalar : line.isScalar = true) :
    echo line = .ok (shownLine line) := by
  have whole := isScalar_shownLine scalar
  rw [shownLine] at whole
  simp only [echo, Text.stripControlSequences_newline, Utf8.encodeFault?_eq_none_iff.mpr whole,
    shownLine]

/-- Lines without surrogates can all be written. -/
theorem echoAll_of_scalar {lines : List Text} (scalar : ∀ line ∈ lines, line.isScalar = true) :
    echoAll lines = (lines.map fun line => .plain (shownLine line), .exit 0) := by
  induction lines with
  | nil => rfl
  | cons line others ih =>
      obtain ⟨here, later⟩ := List.forall_mem_cons.mp scalar
      rw [echoAll, echo_of_scalar here, ih later]
      rfl

/-- What the error output shows of a message: a line behind the name of the program, with
escape sequences for the surrogates. -/
def complaintLine (message : Text) : Text :=
  (shownLine (programName ++ text ": " ++ message)).escapeSurrogates

/-- A message without surrogates is shown as it is, but for its control sequences. -/
theorem complaintLine_of_isScalar {message : Text} (scalar : message.isScalar = true) :
    complaintLine message = shownLine (programName ++ text ": " ++ message) := by
  have whole : Text.isScalar (programName ++ text ": " ++ message) = true := by
    rw [Text.isScalar_append, scalar]
    decide
  exact Text.escapeSurrogates_of_isScalar (isScalar_shownLine whole)

/-- The line of a message is broken only where the message is. -/
theorem exists_complaintLine (message : Text) :
    ∃ line, complaintLine message = line ++ text "\n" ∧
      (CodePoint.ofChar '\n' ∉ message → CodePoint.ofChar '\n' ∉ line) := by
  refine ⟨(Text.stripControlSequences (programName ++ text ": " ++ message)).escapeSurrogates,
    List.flatMap_append, fun oneLine broken => ?_⟩
  have shown := Text.newline_mem_of_mem_escapeSurrogates broken
  rcases List.mem_append.mp (Text.mem_of_mem_stripControlSequences shown) with name | inside
  · exact absurd name (by decide)
  · exact oneLine inside

/-- A run that stops with a message that the error output takes shows it and exits. -/
theorem complaining_of_takes {errors : ErrorOutput} {message : Text}
    (takes : errors.Takes message) (tree : FileTree) (log : Text) (shown : List Shown) :
    complaining errors tree log message shown =
      ⟨shown, log ++ complaintLine message, .exit 1, tree⟩ := by
  cases errors with
  | escaping =>
      simp only [complaining, echoError, Text.stripControlSequences_newline]
      rfl
  | strict =>
      have scalar := takes rfl
      have whole : Text.isScalar (programName ++ text ": " ++ message) = true := by
        rw [Text.isScalar_append, scalar]
        decide
      simp only [complaining, echoError, echo_of_scalar whole, complaintLine_of_isScalar scalar]

/-- A run of a command that fails shows nothing, does not end well, and leaves the tree that
the failure has left. -/
theorem transcriptOf_settle (errors : ErrorOutput) (verbose : Bool) (told : List Family)
    (failure : Failure) (after : Session) :
    (transcriptOf errors verbose (Command.settle told failure after)).output = [] ∧
      (transcriptOf errors verbose (Command.settle told failure after)).ending ≠ .exit 0 ∧
      (transcriptOf errors verbose (Command.settle told failure after)).tree = after.tree := by
  unfold Command.settle
  split
  · rw [transcriptOf, complaining]
    split
    · exact ⟨rfl, nofun, rfl⟩
    · exact ⟨rfl, nofun, rfl⟩
  · exact ⟨rfl, nofun, rfl⟩

/-- What comes of a command has an encoding on an error output that escapes surrogates. -/
theorem isScalar_errors_transcriptOf (verbose : Bool)
    (result : EStateM.Result Failure Session Verdict) :
    (transcriptOf .escaping verbose result).errors.isScalar = true := by
  have log (session : Session) : (logText .escaping verbose session.log).isScalar = true := by
    rw [logText, Text.isScalar_flatMap, List.all_eq_true]
    exact fun line _ => Text.isScalar_escapeSurrogates line
  cases result with
  | error failure after => exact log after
  | ok verdict after =>
      cases verdict with
      | done lines => exact log after
      | refused message =>
          rw [transcriptOf, complaining_of_takes (ErrorOutput.takes_escaping message),
            Text.isScalar_append, log]
          exact Text.isScalar_escapeSurrogates _

/-- No run fails to write to an error output that escapes surrogates: all that goes there has an
encoding. -/
theorem isScalar_errors_run (surroundings : Surroundings) (words : List Text) (tree : FileTree) :
    (run surroundings words tree .escaping).errors.isScalar = true := by
  have commands (verbose : Bool) (command : Command) (rest : List Text) :
      (runCommand surroundings .escaping verbose command rest tree).errors.isScalar = true := by
    fun_cases runCommand surroundings .escaping verbose command rest tree
    all_goals first | rfl | exact isScalar_errors_transcriptOf verbose _
  have unknown (rest : List Text) :
      (runUnknown .escaping rest tree).errors.isScalar = true := by
    fun_cases runUnknown .escaping rest tree
    · rfl
    · rfl
    · rw [complaining_of_takes (ErrorOutput.takes_escaping _)]
      exact Text.isScalar_escapeSurrogates _
  fun_cases run surroundings words tree .escaping
  all_goals first | rfl | exact commands _ _ _ | exact unknown _

end CommandLine

end DesignTokens
