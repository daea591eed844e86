import AgreementAudit.ValueSet

/-! Inclusion of value sets. A set that lies in another one of no larger size is the same set. So of two ordered sets
the smaller one lies in the larger one, and a comparison that looks at the sizes first, and then tests one inclusion,
still tells exactly whether two sets are ordered. -/
namespace AgreementAudit.ValueSet

theorem subset_refl (set : ValueSet) : set ⊆ set := fun _ member => member

theorem subset_antisymm {left right : ValueSet} (there : left ⊆ right) (back : right ⊆ left) : left = right :=
  ext fun value => ⟨there value, back value⟩

theorem nodup_values (set : ValueSet) : set.values.Nodup :=
  set.ascending.imp UInt32.ne_of_lt

theorem eq_of_subset_of_size_le {small large : ValueSet} (included : small ⊆ large)
    (sizes : large.size ≤ small.size) : small = large := by
  apply subset_antisymm included
  intro value member
  by_cases found : value ∈ small
  · exact found
  have distinct : (value :: small.values).Nodup := List.nodup_cons.2 ⟨found, small.nodup_values⟩
  have inside : value :: small.values ⊆ large.values := List.cons_subset.2 ⟨member, included⟩
  have longer := distinct.length_le_of_subset inside
  change large.values.length ≤ small.values.length at sizes
  rw [List.length_cons] at longer
  omega

def Ordered (left right : ValueSet) : Prop := left ⊆ right ∨ right ⊆ left

theorem Ordered.symm {left right : ValueSet} (ordered : Ordered left right) : Ordered right left :=
  Or.symm ordered

theorem Ordered.subset_of_size_le {left right : ValueSet} (ordered : Ordered left right)
    (sizes : left.size ≤ right.size) : left ⊆ right := by
  rcases ordered with inside | inside
  · exact inside
  · rw [eq_of_subset_of_size_le inside sizes]
    exact subset_refl left

theorem Ordered.eq_of_size_eq {left right : ValueSet} (ordered : Ordered left right)
    (sizes : left.size = right.size) : left = right :=
  subset_antisymm (ordered.subset_of_size_le (Nat.le_of_eq sizes))
    (ordered.symm.subset_of_size_le (Nat.le_of_eq sizes.symm))

/-- The sizes settle which of the two inclusions is left to test. -/
theorem comparable_iff_ordered {left right : ValueSet} : left.comparable right = true ↔ Ordered left right := by
  unfold comparable
  split
  next sizes =>
    rw [decide_eq_true_iff]
    apply Iff.intro
    · intro same
      exact Or.inl (same ▸ subset_refl left)
    · intro ordered
      exact ordered.eq_of_size_eq (Nat.compare_eq_eq.1 sizes)
  next sizes =>
    have smaller : left.size < right.size := Nat.compare_eq_lt.1 sizes
    rw [decide_eq_true_iff]
    apply Iff.intro
    · exact Or.inl
    · intro ordered
      exact ordered.subset_of_size_le (Nat.le_of_lt smaller)
  next sizes =>
    have larger : right.size < left.size := Nat.compare_eq_gt.1 sizes
    rw [decide_eq_true_iff]
    apply Iff.intro
    · exact Or.inr
    · intro ordered
      exact ordered.symm.subset_of_size_le (Nat.le_of_lt larger)

theorem symmetricDifference_comm (left right : ValueSet) :
    left.symmetricDifference right = right.symmetricDifference left := by
  ext value
  rw [mem_symmetricDifference, mem_symmetricDifference]
  exact Or.comm

/-- Comparing two sets tells whether either of them lies in the other. So it does not matter which one is named
first, and two sets of one size pass only if they are the same set. -/
theorem comparable_tells_inclusion (left right : ValueSet) :
    (left.comparable right = true ↔ left ⊆ right ∨ right ⊆ left) ∧
      left.comparable right = right.comparable left ∧
      (left.size = right.size → (left.comparable right = true ↔ left = right)) := by
  refine ⟨comparable_iff_ordered, ?_, ?_⟩
  · rw [Bool.eq_iff_iff, comparable_iff_ordered, comparable_iff_ordered]
    exact ⟨Ordered.symm, Ordered.symm⟩
  · intro sizes
    rw [comparable_iff_ordered]
    apply Iff.intro
    · intro ordered
      exact ordered.eq_of_size_eq sizes
    · intro same
      exact Or.inl (same ▸ subset_refl left)

theorem comparable_tells_inclusion_overlapping :
    (ofList [3, 1, 2]).size = (ofList [2, 4, 3]).size ∧
      ofList [3, 1, 2] ≠ ofList [2, 4, 3] ∧
      (ofList [3, 1, 2]).comparable (ofList [2, 4, 3]) = false := by
  have sizes : (ofList [3, 1, 2]).size = (ofList [2, 4, 3]).size := by decide +kernel
  have different : ofList [3, 1, 2] ≠ ofList [2, 4, 3] := by decide +kernel
  obtain ⟨-, -, onlyEqual⟩ := comparable_tells_inclusion (ofList [3, 1, 2]) (ofList [2, 4, 3])
  refine ⟨sizes, different, Bool.eq_false_iff.2 ?_⟩
  intro passes
  exact different ((onlyEqual sizes).1 passes)

end AgreementAudit.ValueSet
