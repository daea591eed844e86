/-! Finite sets of proposed and decided values. A set is the strictly ascending list of its members, so
two sets with the same members are the same term. Two sets are joined, subtracted and compared in one walk
along both lists. Each operation is followed by its effect on membership. -/
namespace AgreementAudit

abbrev Value := UInt32

structure ValueSet where
  values : List Value
  ascending : values.Pairwise (· < ·)
deriving DecidableEq

namespace ValueSet

instance : Membership Value ValueSet := ⟨fun set value => value ∈ set.values⟩

theorem mem_values {value : Value} {set : ValueSet} : value ∈ set.values ↔ value ∈ set := Iff.rfl

instance (value : Value) (set : ValueSet) : Decidable (value ∈ set) :=
  inferInstanceAs (Decidable (value ∈ set.values))

instance : HasSubset ValueSet := ⟨fun small large => ∀ value ∈ small.values, value ∈ large⟩

theorem subset_iff {small large : ValueSet} : small ⊆ large ↔ ∀ value ∈ small, value ∈ large := Iff.rfl

def size (set : ValueSet) : Nat := set.values.length

def empty : ValueSet := ⟨[], .nil⟩

@[simp] theorem not_mem_empty (value : Value) : value ∉ empty := List.not_mem_nil

def single (value : Value) : ValueSet := ⟨[value], List.pairwise_singleton _ value⟩

@[simp] theorem mem_single {other value : Value} : other ∈ single value ↔ other = value := List.mem_singleton

def mergeAt (head : Value) (mergeRest : List Value → List Value) : List Value → List Value
  | [] => head :: mergeRest []
  | other :: others =>
    if head < other then head :: mergeRest (other :: others)
    else if head = other then head :: mergeRest others
    else other :: mergeAt head mergeRest others

/-- Two ascending lists in one; a value of both stays single. -/
def merge : List Value → List Value → List Value
  | [], right => right
  | head :: rest, right => mergeAt head (merge rest) right

theorem merge_cons_cons (head other : Value) (rest others : List Value) :
    merge (head :: rest) (other :: others) =
      if head < other then head :: merge rest (other :: others)
      else if head = other then head :: merge rest others
      else other :: merge (head :: rest) others := rfl

theorem mem_merge {value : Value} {left right : List Value} :
    value ∈ merge left right ↔ value ∈ left ∨ value ∈ right := by
  induction left generalizing right with
  | nil => simp [merge]
  | cons head rest ihLeft =>
    induction right with
    | nil => simp [merge, mergeAt, ihLeft]
    | cons other others ihRight =>
      rw [merge_cons_cons]
      split
      · simp only [List.mem_cons, ihLeft, or_assoc]
      · split
        · next same => grind
        · grind

theorem ascending_merge {left right : List Value} (leftAscending : left.Pairwise (· < ·))
    (rightAscending : right.Pairwise (· < ·)) : (merge left right).Pairwise (· < ·) := by
  induction left generalizing right with
  | nil => exact rightAscending
  | cons head rest ihLeft =>
    obtain ⟨headLeast, restAscending⟩ := List.pairwise_cons.1 leftAscending
    induction right with
    | nil =>
      refine List.pairwise_cons.2 ⟨fun value member => ?_, ihLeft restAscending .nil⟩
      exact headLeast value (by simpa using mem_merge.1 member)
    | cons other others ihRight =>
      obtain ⟨otherLeast, othersAscending⟩ := List.pairwise_cons.1 rightAscending
      rw [merge_cons_cons]
      split
      · next below =>
        refine List.pairwise_cons.2 ⟨fun value member => ?_, ihLeft restAscending rightAscending⟩
        rcases mem_merge.1 member with inLeft | inRight
        · exact headLeast value inLeft
        · rcases List.mem_cons.1 inRight with same | later
          · exact same ▸ below
          · exact UInt32.lt_trans below (otherLeast value later)
      · next notBelow =>
        split
        · next same =>
          refine List.pairwise_cons.2 ⟨fun value member => ?_, ihLeft restAscending othersAscending⟩
          rcases mem_merge.1 member with inLeft | inRight
          · exact headLeast value inLeft
          · exact same ▸ otherLeast value inRight
        · next different =>
          have above : other < head :=
            UInt32.lt_of_le_of_ne (UInt32.not_lt.1 notBelow) (Ne.symm different)
          refine List.pairwise_cons.2 ⟨fun value member => ?_, ihRight othersAscending⟩
          rcases mem_merge.1 member with inLeft | inRight
          · rcases List.mem_cons.1 inLeft with same | later
            · exact same ▸ above
            · exact UInt32.lt_trans above (headLeast value later)
          · exact otherLeast value inRight

instance : Union ValueSet :=
  ⟨fun left right => ⟨merge left.values right.values, ascending_merge left.ascending right.ascending⟩⟩

@[simp] theorem mem_union {value : Value} {left right : ValueSet} :
    value ∈ left ∪ right ↔ value ∈ left ∨ value ∈ right := mem_merge

def subtractAt (head : Value) (subtractRest : List Value → List Value) : List Value → List Value
  | [] => head :: subtractRest []
  | other :: others =>
    if head < other then head :: subtractRest (other :: others)
    else if head = other then subtractRest others
    else subtractAt head subtractRest others

def subtract : List Value → List Value → List Value
  | [], _ => []
  | head :: rest, right => subtractAt head (subtract rest) right

theorem subtract_cons_cons (head other : Value) (rest others : List Value) :
    subtract (head :: rest) (other :: others) =
      if head < other then head :: subtract rest (other :: others)
      else if head = other then subtract rest others
      else subtract (head :: rest) others := rfl

theorem subtract_sublist (left right : List Value) : (subtract left right).Sublist left := by
  induction left generalizing right with
  | nil => exact .slnil
  | cons head rest ihLeft =>
    induction right with
    | nil => exact (ihLeft []).cons_cons head
    | cons other others ihRight =>
      rw [subtract_cons_cons]
      split
      · exact (ihLeft _).cons_cons head
      · split
        · exact (ihLeft others).cons head
        · exact ihRight

theorem mem_subtract {value : Value} {left right : List Value} (leftAscending : left.Pairwise (· < ·))
    (rightAscending : right.Pairwise (· < ·)) :
    value ∈ subtract left right ↔ value ∈ left ∧ value ∉ right := by
  induction left generalizing right with
  | nil => simp [subtract]
  | cons head rest ihLeft =>
    obtain ⟨headLeast, restAscending⟩ := List.pairwise_cons.1 leftAscending
    induction right with
    | nil => simp [subtract, subtractAt, ihLeft restAscending .nil]
    | cons other others ihRight =>
      obtain ⟨otherLeast, othersAscending⟩ := List.pairwise_cons.1 rightAscending
      rw [subtract_cons_cons]
      split
      · next below =>
        have absent : head ∉ other :: others := fun member => by
          rcases List.mem_cons.1 member with same | later
          · exact UInt32.lt_irrefl head (same ▸ below)
          · exact UInt32.lt_irrefl head (UInt32.lt_trans below (otherLeast head later))
        rw [List.mem_cons, List.mem_cons, ihLeft restAscending rightAscending]
        grind
      · next notBelow =>
        split
        · next same =>
          have single : head ∉ rest := fun member => UInt32.lt_irrefl head (headLeast head member)
          rw [ihLeft restAscending othersAscending]
          grind
        · next different =>
          have above : other < head :=
            UInt32.lt_of_le_of_ne (UInt32.not_lt.1 notBelow) (Ne.symm different)
          have absent : other ∉ head :: rest := fun member => by
            rcases List.mem_cons.1 member with same | later
            · exact different same.symm
            · exact UInt32.lt_irrefl other (UInt32.lt_trans above (headLeast other later))
          rw [ihRight othersAscending]
          grind

instance : SDiff ValueSet :=
  ⟨fun left right =>
    ⟨subtract left.values right.values, left.ascending.sublist (subtract_sublist left.values right.values)⟩⟩

@[simp] theorem mem_sdiff {value : Value} {left right : ValueSet} :
    value ∈ left \ right ↔ value ∈ left ∧ value ∉ right := mem_subtract left.ascending right.ascending

theorem sdiff_values_eq_nil {small large : ValueSet} : (small \ large).values = [] ↔ small ⊆ large := by
  rw [List.eq_nil_iff_forall_not_mem, subset_iff]
  exact forall_congr' fun value => by rw [mem_values, mem_sdiff, not_and, Classical.not_not]

instance (small large : ValueSet) : Decidable (small ⊆ large) := decidable_of_iff _ sdiff_values_eq_nil

def joinNeighbours : List ValueSet → List ValueSet
  | first :: second :: rest => (first ∪ second) :: joinNeighbours rest
  | few => few

/-- Joins neighbours for a number of rounds and then all that are left. -/
def joinRounds : Nat → List ValueSet → ValueSet
  | 0, sets => sets.foldr (· ∪ ·) empty
  | rounds + 1, sets => joinRounds rounds (joinNeighbours sets)

/-- The union of many sets, in as many rounds as it takes to have one set left. -/
def unions (sets : List ValueSet) : ValueSet := joinRounds (sets.length.log2 + 1) sets

theorem mem_joinNeighbours {value : Value} {sets : List ValueSet} :
    (∃ set ∈ joinNeighbours sets, value ∈ set) ↔ ∃ set ∈ sets, value ∈ set := by
  fun_induction joinNeighbours sets with
  | case1 first second rest ih => simp [ih, or_assoc]
  | case2 => rfl

theorem mem_joinRounds {value : Value} {rounds : Nat} {sets : List ValueSet} :
    value ∈ joinRounds rounds sets ↔ ∃ set ∈ sets, value ∈ set := by
  induction rounds generalizing sets with
  | zero =>
    unfold joinRounds
    induction sets with
    | nil => simp
    | cons first rest ih => simp [ih]
  | succ rounds ih => rw [joinRounds, ih, mem_joinNeighbours]

@[simp] theorem mem_unions {value : Value} {sets : List ValueSet} :
    value ∈ unions sets ↔ ∃ set ∈ sets, value ∈ set := mem_joinRounds

def ofList (list : List Value) : ValueSet := unions (list.map single)

@[simp] theorem mem_ofList {value : Value} {list : List Value} : value ∈ ofList list ↔ value ∈ list := by
  rw [ofList, mem_unions]
  constructor
  · rintro ⟨set, member, inside⟩
    obtain ⟨other, listed, rfl⟩ := List.mem_map.1 member
    exact mem_single.1 inside ▸ listed
  · exact fun listed => ⟨single value, List.mem_map_of_mem listed, mem_single.2 rfl⟩

def symmetricDifference (left right : ValueSet) : ValueSet := (left \ right) ∪ (right \ left)

@[simp] theorem mem_symmetricDifference {value : Value} {left right : ValueSet} :
    value ∈ left.symmetricDifference right ↔
      (value ∈ left ∧ value ∉ right) ∨ (value ∈ right ∧ value ∉ left) := by
  simp [symmetricDifference]

theorem eq_of_same_members {left right : List Value} (leftAscending : left.Pairwise (· < ·))
    (rightAscending : right.Pairwise (· < ·)) (same : ∀ value, value ∈ left ↔ value ∈ right) :
    left = right := by
  induction left generalizing right with
  | nil =>
    cases right with
    | nil => rfl
    | cons head rest => exact absurd ((same head).2 (by simp)) (by simp)
  | cons first tail ih =>
    cases right with
    | nil => exact absurd ((same first).1 (by simp)) (by simp)
    | cons head rest =>
      obtain ⟨firstLeast, tailAscending⟩ := List.pairwise_cons.1 leftAscending
      obtain ⟨headLeast, restAscending⟩ := List.pairwise_cons.1 rightAscending
      have heads : first = head := by
        rcases List.mem_cons.1 ((same first).1 (by simp)) with equal | later
        · exact equal
        · rcases List.mem_cons.1 ((same head).2 (by simp)) with equal | earlier
          · exact equal.symm
          · exact absurd (UInt32.lt_trans (headLeast first later) (firstLeast head earlier))
              (UInt32.lt_irrefl head)
      subst heads
      refine congrArg _ (ih tailAscending restAscending fun value => ⟨fun member => ?_, fun member => ?_⟩)
      · rcases List.mem_cons.1 ((same value).1 (by simp [member])) with equal | found
        · exact absurd (firstLeast value member) (equal ▸ UInt32.lt_irrefl value)
        · exact found
      · rcases List.mem_cons.1 ((same value).2 (by simp [member])) with equal | found
        · exact absurd (headLeast value member) (equal ▸ UInt32.lt_irrefl value)
        · exact found

@[ext] theorem ext {left right : ValueSet} (same : ∀ value, value ∈ left ↔ value ∈ right) : left = right := by
  cases left with
  | mk _ leftAscending =>
    cases right with
    | mk _ rightAscending =>
      congr
      exact eq_of_same_members leftAscending rightAscending same

/-- Two sets are compared by size first: sets of one size have to be equal, otherwise the smaller
one has to lie in the larger one. -/
def comparable (left right : ValueSet) : Bool :=
  match compare left.size right.size with
  | .eq => left = right
  | .lt => left ⊆ right
  | .gt => right ⊆ left

def render (set : ValueSet) : String :=
  "\x7b" ++ String.intercalate ", " (set.values.map fun value => value.toNat.repr) ++ "\x7d"

end ValueSet

end AgreementAudit
