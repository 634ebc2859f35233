import DesignTokens.Text

/-!
# Terminal control sequences

A control sequence is an escape character and an opening bracket, parameters
(`0` to `?` in ASCII), intermediates (space to `/`), and one final (`@` to `~`).
Text that goes to something other than a terminal is shown without them.
-/

namespace DesignTokens.Text

/-- The code points of the parameters of a control sequence. -/
def isSequenceParameter (point : CodePoint) : Bool :=
  0x30 <= point.val && point.val <= 0x3F

/-- The code points of the intermediates of a control sequence. -/
def isSequenceIntermediate (point : CodePoint) : Bool :=
  0x20 <= point.val && point.val <= 0x2F

/-- The code points that end a control sequence. -/
def isSequenceFinal (point : CodePoint) : Bool :=
  0x40 <= point.val && point.val <= 0x7E

/-- What follows a control sequence at the start of a text, if one stands there. -/
def afterControlSequence? : Text -> Option Text
  | escape :: bracket :: rest =>
      if escape.val = 0x1B && bracket = '[' then
        match (rest.dropWhile isSequenceParameter).dropWhile isSequenceIntermediate with
        | final :: others => if isSequenceFinal final then some others else none
        | [] => none
      else none
  | _ => none

/-- A control sequence is not empty. -/
theorem afterControlSequence?_length {content rest : Text}
    (found : afterControlSequence? content = some rest) : rest.length < content.length := by
  match content, found with
  | escape :: bracket :: tail, found =>
      simp only [afterControlSequence?] at found
      split at found
      · split at found
        next final others shape =>
          split at found
          · cases found
            have kept : (final :: rest).length <= tail.length :=
              shape ▸ Nat.le_trans (List.dropWhile_sublist _).length_le
                (List.dropWhile_sublist _).length_le
            simp only [List.length_cons] at kept ⊢
            omega
          · cases found
        next => cases found
      · cases found

/-- The text without its control sequences. -/
def stripControlSequences (content : Text) : Text :=
  match content with
  | [] => []
  | point :: others =>
      match _found : afterControlSequence? (point :: others) with
      | some rest => stripControlSequences rest
      | none => point :: stripControlSequences others
  termination_by content.length
  decreasing_by
    · exact afterControlSequence?_length _found
    · simp

end DesignTokens.Text
