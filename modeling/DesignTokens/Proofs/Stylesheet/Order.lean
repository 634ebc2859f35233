import DesignTokens.Bundle
import DesignTokens.Proofs.Text.Order
import Mathlib.Data.List.Induction
import Mathlib.Data.Prod.Lex

/-!
# The order of stylesheets

Stylesheets are bundled in the order of their keys, which is a linear one. The key of the tokens
is the least of all, so that they come first. Those with one key stay in the order in which they
were listed, and there alone the listing shows: it makes no difference exactly when no two
stylesheets have one key.
-/

namespace DesignTokens.Stylesheet

variable {paths : List Path} {path later : Path}

/-- Keys are ordered by their ranks, and those of one rank by their names. -/
theorem keyNoLater_iff {first second : Nat × Text} :
    keyNoLater first second = true ↔ toLex first ≤ toLex second := by
  simp [keyNoLater, Prod.Lex.toLex_le_toLex, Text.noLater_iff]

/-- The order of stylesheets by their keys is transitive. -/
theorem orderKey_trans (first second third : Path)
    (before : keyNoLater (orderKey first) (orderKey second) = true)
    (behind : keyNoLater (orderKey second) (orderKey third) = true) :
    keyNoLater (orderKey first) (orderKey third) = true :=
  keyNoLater_iff.mpr ((keyNoLater_iff.mp before).trans (keyNoLater_iff.mp behind))

/-- Of two stylesheets, one comes no later than the other by their keys. -/
theorem orderKey_total (first second : Path) :
    (keyNoLater (orderKey first) (orderKey second) ||
      keyNoLater (orderKey second) (orderKey first)) = true := by
  simpa only [Bool.or_eq_true, keyNoLater_iff] using le_total _ _

/-- What is bundled is what is listed. -/
theorem inOrder_perm (paths : List Path) : (inOrder paths).Perm paths :=
  List.mergeSort_perm paths _

/-- From listings of the same stylesheets the same ones are bundled. -/
theorem inOrder_perm_inOrder {other : List Path} (same : other.Perm paths) :
    (inOrder other).Perm (inOrder paths) :=
  ((inOrder_perm other).trans same).trans (inOrder_perm paths).symm

/-- Stylesheets are bundled in the order of their keys. -/
theorem pairwise_inOrder (paths : List Path) :
    (inOrder paths).Pairwise fun first second =>
      toLex (orderKey first) ≤ toLex (orderKey second) :=
  (List.pairwise_mergeSort orderKey_trans orderKey_total paths).imp keyNoLater_iff.mp

/-- Only tokens come no later than tokens. -/
theorem name_eq_of_orderKey_le {tokens : Path} (named : tokens.name = tokensName)
    (before : toLex (orderKey path) ≤ toLex (orderKey tokens)) : path.name = tokensName := by
  rw [show orderKey tokens = (0, []) from if_pos named, Prod.Lex.toLex_le_toLex] at before
  by_contra other
  have rank : 0 < (orderKey path).1 := by
    unfold orderKey
    rw [if_neg other]
    split <;> simp
  rcases before with less | ⟨same, -⟩
  · exact Nat.not_lt_zero _ less
  · exact absurd same rank.ne'

/-- The tokens are bundled first, if there is one stylesheet with their name. -/
theorem inOrder_eq_cons {tokens : Path} (distinct : paths.Nodup) (member : tokens ∈ paths)
    (named : tokens.name = tokensName)
    (only : ∀ path ∈ paths, path.name = tokensName → path = tokens) :
    ∃ others, inOrder paths = tokens :: others ∧ ∀ path ∈ others, path.name ≠ tokensName := by
  have rearranged := inOrder_perm paths
  have nodup := rearranged.nodup_iff.mpr distinct
  have ordered := pairwise_inOrder paths
  have within : tokens ∈ inOrder paths := rearranged.mem_iff.mpr member
  have known : ∀ path ∈ inOrder paths, path.name = tokensName → path = tokens :=
    fun path among => only path (rearranged.mem_iff.mp among)
  cases order : inOrder paths with
  | nil =>
      rw [order] at within
      cases within
  | cons first others =>
      rw [order] at nodup ordered within known
      have leads : first = tokens := by
        rcases List.mem_cons.mp within with same | later
        · exact same.symm
        · have before := (List.pairwise_cons.mp ordered).1 tokens later
          exact known first List.mem_cons_self (name_eq_of_orderKey_le named before)
      subst leads
      refine ⟨others, rfl, fun path among isTokens => ?_⟩
      have same := known path (List.mem_cons_of_mem _ among) isTokens
      exact (List.nodup_cons.mp nodup).1 (same ▸ among)

/-- What may stand before what in a bundle: tokens before everything, resets before everything but
tokens, and anything else by its name without regard to case. -/
structure MayPrecede (path later : Path) : Prop where
  tokens : later.name = tokensName → path.name = tokensName
  reset : later.name = resetName → path.name = tokensName ∨ path.name = resetName
  others : path.name ≠ tokensName → path.name ≠ resetName → later.name ≠ tokensName →
    later.name ≠ resetName → path.name.foldCase ≤ later.name.foldCase

/-- The order of keys tells what may stand before what. -/
theorem mayPrecede_iff :
    MayPrecede path later ↔ toLex (orderKey path) ≤ toLex (orderKey later) := by
  have apart : tokensName ≠ resetName := by decide
  rw [Prod.Lex.toLex_le_toLex]
  unfold orderKey
  constructor
  · rintro ⟨tokens, reset, others⟩
    split_ifs <;> simp_all
  · intro before
    split_ifs at before <;> constructor <;> simp_all

/-- The stylesheets of a listing that have one key. -/
def withKey (key : Nat × Text) (paths : List Path) : List Path :=
  paths.filter fun path => orderKey path = key

/-- A stylesheet is one of those with a key if it is listed and has the key. -/
theorem mem_withKey_iff {key : Nat × Text} :
    path ∈ withKey key paths ↔ path ∈ paths ∧ orderKey path = key := by
  simp [withKey]

/-- Stylesheets with one key are bundled in the order in which they are listed. -/
theorem withKey_inOrder (key : Nat × Text) (paths : List Path) :
    withKey key (inOrder paths) = withKey key paths := by
  have alike : (withKey key paths).Pairwise fun first second =>
      keyNoLater (orderKey first) (orderKey second) = true := by
    refine List.pairwise_filter.mpr (List.pairwise_of_forall fun first second here there => ?_)
    simp only [decide_eq_true_eq] at here there
    rw [here, there, keyNoLater_iff]
  -- They are in order as they are listed, and sorting keeps what is in order.
  have within : (withKey key paths).Sublist (inOrder paths) :=
    List.sublist_mergeSort orderKey_trans orderKey_total alike List.filter_sublist
  have kept : (withKey key paths).Sublist (withKey key (inOrder paths)) := by
    simpa [withKey] using within.filter fun path => decide (orderKey path = key)
  have rearranged : (withKey key (inOrder paths)).Perm (withKey key paths) :=
    (inOrder_perm paths).filter _
  exact (kept.eq_of_length rearranged.length_eq.symm).symm

/-- Listings of the same stylesheets are bundled with the same keys, place by place. -/
theorem map_orderKey_inOrder {other : List Path} (same : other.Perm paths) :
    (inOrder other).map orderKey = (inOrder paths).map orderKey := by
  have sorted (listing : List Path) : ((inOrder listing).map orderKey).Pairwise
      fun first second => toLex first ≤ toLex second :=
    List.pairwise_map.mpr (pairwise_inOrder listing)
  refine List.Perm.eq_of_pairwise (fun first second _ _ before behind => ?_) (sorted other)
    (sorted paths) ((inOrder_perm_inOrder same).map orderKey)
  exact toLex.injective (le_antisymm before behind)

/-- A list without repetitions that is the same from its end has one entry at most. -/
theorem eq_of_mem_of_reverse_eq {Entry : Type} {entries : List Entry} (distinct : entries.Nodup)
    (same : entries.reverse = entries) {first second : Entry} (member : first ∈ entries)
    (other : second ∈ entries) : first = second := by
  cases entries with
  | nil => cases member
  | cons head rest =>
      cases rest using List.reverseRecOn with
      | nil => exact (List.mem_singleton.mp member).trans (List.mem_singleton.mp other).symm
      | append_singleton middle last =>
          have ends : last = head := by simpa using congrArg List.head? same
          simp [ends] at distinct

/-- Distinct stylesheets are bundled alike however they are listed exactly when no two of them
have one key. -/
theorem inOrder_eq_of_perm_iff (distinct : paths.Nodup) :
    (∀ other : List Path, other.Perm paths → inOrder other = inOrder paths) ↔
      ∀ path ∈ paths, ∀ later ∈ paths, orderKey path = orderKey later → path = later := by
  constructor
  · intro alike path member later among same
    -- The listing from its end has the stylesheets of the key from their end.
    have turned : (withKey (orderKey later) paths).reverse = withKey (orderKey later) paths := by
      calc (withKey (orderKey later) paths).reverse
        _ = withKey (orderKey later) paths.reverse := List.filter_reverse.symm
        _ = withKey (orderKey later) (inOrder paths.reverse) := (withKey_inOrder _ _).symm
        _ = withKey (orderKey later) (inOrder paths) := by rw [alike _ paths.reverse_perm]
        _ = withKey (orderKey later) paths := withKey_inOrder _ _
    exact eq_of_mem_of_reverse_eq (distinct.filter _) turned
      (mem_withKey_iff.mpr ⟨member, same⟩) (mem_withKey_iff.mpr ⟨among, rfl⟩)
  · intro separate other same
    have listed {path : Path} {listing : List Path} : path ∈ inOrder listing ↔ path ∈ listing :=
      (inOrder_perm listing).mem_iff
    refine List.Perm.eq_of_pairwise (fun path later here there before behind => ?_)
      (pairwise_inOrder other) (pairwise_inOrder paths) (inOrder_perm_inOrder same)
    exact separate path (same.mem_iff.mp (listed.mp here)) later (listed.mp there)
      (toLex.injective (le_antisymm before behind))

/-- A bundle takes up the listed stylesheets, each as often as it is listed: tokens first, resets
second, and the others by their names without regard to case, where those with one key stay in the
order of the listing. Two listings of the same stylesheets are bundled with the same keys place by
place, and so differ only where several stylesheets have one key. Distinct stylesheets are bundled
alike however they are listed exactly when no two of them have one key. -/
theorem inOrder_sorts_stably (paths : List Path) :
    (inOrder paths).Perm paths ∧ (inOrder paths).Pairwise MayPrecede ∧
      (∀ key, withKey key (inOrder paths) = withKey key paths) ∧
      (∀ other : List Path, other.Perm paths →
        (inOrder other).map orderKey = (inOrder paths).map orderKey ∧
          ∀ key, (withKey key (inOrder other)).Perm (withKey key (inOrder paths))) ∧
      (paths.Nodup →
        ((∀ other : List Path, other.Perm paths → inOrder other = inOrder paths) ↔
          ∀ path ∈ paths, ∀ later ∈ paths, orderKey path = orderKey later → path = later)) := by
  refine ⟨inOrder_perm paths, (pairwise_inOrder paths).imp mayPrecede_iff.mpr,
    fun key => withKey_inOrder key paths, fun other same => ?_, inOrder_eq_of_perm_iff⟩
  refine ⟨map_orderKey_inOrder same, fun key => ?_⟩
  rw [withKey_inOrder, withKey_inOrder]
  exact same.filter _

/-- Two stylesheets whose names differ in case alone. -/
def caseVariants : List Path :=
  [Path.ofText (text "a/Button.css"), Path.ofText (text "b/button.css")]

/-- The order in which they are listed shows in a bundle, though not in its keys. -/
theorem inOrder_caseVariants :
    caseVariants.Nodup ∧ ∃ other : List Path, other.Perm caseVariants ∧
      inOrder other ≠ inOrder caseVariants ∧
      (inOrder other).map orderKey = (inOrder caseVariants).map orderKey := by
  have distinct : caseVariants.Nodup := by decide +kernel
  obtain ⟨-, -, -, rearranged, decided⟩ := inOrder_sorts_stably caseVariants
  have sameKey : orderKey (Path.ofText (text "a/Button.css")) =
      orderKey (Path.ofText (text "b/button.css")) := by decide +kernel
  have shows := mt (decided distinct).mp fun separate => absurd
    (separate _ List.mem_cons_self _ (List.mem_cons_of_mem _ List.mem_cons_self) sameKey)
    (by decide +kernel)
  push Not at shows
  obtain ⟨other, same, different⟩ := shows
  exact ⟨distinct, other, same, different, (rearranged other same).1⟩

end DesignTokens.Stylesheet
