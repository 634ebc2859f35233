import DesignTokens.Config
import Mathlib.Algebra.BigOperators.Group.Finset.Basic
import Mathlib.Algebra.GroupWithZero.Nat

/-!
# The tokens of a config by category

A config lists its categories in an order of its own, each with its tokens. What is counted over
this list can be counted over the list of all categories as well, as a category that the config
does not mention has no tokens.
-/

namespace DesignTokens.Config

/-- The tokens that a config lists for a category are those of the category. -/
theorem group_of_mem {config : Config} {entry : Category × TokenGroup}
    (member : entry ∈ config.tokens.entries) : config.group entry.1 = entry.2 := by
  rw [group, Dictionary.get?_eq_some_iff.mpr member, Option.getD_some]

/-- A config lists the tokens of a category that has some. -/
theorem listed_of_mem_group {config : Config} {category : Category} {entry : Text × Token}
    (member : entry ∈ (config.group category).entries) :
    (category, config.group category) ∈ config.tokens.entries := by
  unfold group at member ⊢
  cases found : config.tokens.get? category with
  | none =>
      rw [found] at member
      cases member
  | some tokens => exact Dictionary.get?_eq_some_iff.mp found

/-- A category that a config does not list has no tokens. -/
theorem group_of_not_mem {config : Config} {category : Category}
    (absent : category ∉ config.tokens.keys) : config.group category = .empty := by
  rw [group]
  cases found : config.tokens.get? category with
  | none => rfl
  | some tokens => exact absurd (Dictionary.mem_keys_of_get? found) absent

/-- What is summed up over the categories of a config is the sum over all categories, if those
without tokens count for nothing. -/
theorem sum_groups (config : Config) {measure : Category -> TokenGroup -> Nat}
    (nothing : ∀ category, measure category .empty = 0) :
    (config.tokens.entries.map fun entry => measure entry.1 entry.2).sum =
      (Category.all.map fun category => measure category (config.group category)).sum := by
  let share : Category -> Nat := fun category => measure category (config.group category)
  have listed : config.tokens.entries.map (fun entry => measure entry.1 entry.2) =
      config.tokens.keys.map share := by
    rw [Dictionary.keys, List.map_map]
    refine List.map_congr_left fun entry member => ?_
    simp only [Function.comp_apply, share, group_of_mem member]
  have everywhere : config.tokens.keys.toFinset ⊆ Category.all.toFinset := fun category _ =>
    List.mem_toFinset.mpr category.mem_all
  have elsewhere : ∀ category ∈ Category.all.toFinset,
      category ∉ config.tokens.keys.toFinset → share category = 0 := by
    intro category _ absent
    have lacking := group_of_not_mem fun member => absent (List.mem_toFinset.mpr member)
    simp only [share, lacking, nothing]
  calc (config.tokens.entries.map fun entry => measure entry.1 entry.2).sum
    _ = (config.tokens.keys.map share).sum := by rw [listed]
    _ = config.tokens.keys.toFinset.sum share :=
      (List.sum_toFinset share config.tokens.distinct).symm
    _ = Category.all.toFinset.sum share := Finset.sum_subset everywhere elsewhere
    _ = (Category.all.map share).sum := List.sum_toFinset share (by decide)

end DesignTokens.Config
