import DesignTokens.Text
import Mathlib.Data.List.Lex
import Mathlib.Order.Fin.Basic

/-!
# The order of texts

Texts are ordered as lists of code points are: the first place where two differ decides, and
a text comes before those that go on after it. So the order is a linear one.
-/

namespace DesignTokens

section Lists

variable {Entry : Type*} [LinearOrder Entry]

/-- Nothing comes before the list without entries. -/
theorem nil_le_list (entries : List Entry) : [] ≤ entries :=
  not_lt.mp (List.not_lt_nil entries)

/-- A list with entries does not come before the one without. -/
theorem not_cons_le_nil (first : Entry) (rest : List Entry) : ¬ first :: rest ≤ [] :=
  not_le.mpr (List.nil_lt_cons first rest)

/-- The first place where two lists differ decides which one comes first. -/
theorem cons_le_cons_iff {first other : Entry} {rest others : List Entry} :
    first :: rest ≤ other :: others ↔ first < other ∨ first = other ∧ rest ≤ others := by
  rw [← not_lt, List.cons_lt_cons_iff]
  rcases lt_trichotomy first other with before | rfl | behind
  · simp [before, before.ne', before.le]
  · simp
  · simp [behind, behind.ne', behind.not_gt]

end Lists

/-- Texts come no later than others as lists do. -/
theorem Text.noLater_iff {first second : Text} :
    Text.noLater first second = true ↔ first ≤ second := by
  fun_induction Text.noLater first second with
  | case1 second => simp [nil_le_list]
  | case2 point rest => simp [not_cons_le_nil]
  | case3 rest point others ih => simp [ih, cons_le_cons_iff]
  | case4 point rest other others different => simp [different, cons_le_cons_iff]

end DesignTokens
