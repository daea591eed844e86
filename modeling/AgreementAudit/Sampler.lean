import Std.Data.TreeSet.Lemmas

/-! Random draws as functions of a state. A sampler makes two kinds of draws; what they promise is stated
apart from how they are made, and the mixing sampler at the end keeps the promise. -/
namespace AgreementAudit

/-- Draws a number from one up to a bound, and distinct numbers below a bound. -/
structure Sampler (State : Type) where
  upTo : Nat → State → Nat × State
  distinct : Nat → Nat → State → List Nat × State

/-- A number is in its range; a selection has the size asked for, no number twice and none too large. -/
structure Sampler.Fair {State : Type} (sampler : Sampler State) : Prop where
  upTo_range : ∀ bound state, 0 < bound →
    1 ≤ (sampler.upTo bound state).1 ∧ (sampler.upTo bound state).1 ≤ bound
  distinct_length : ∀ bound count state, count ≤ bound →
    (sampler.distinct bound count state).1.length = count
  distinct_nodup : ∀ bound count state, count ≤ bound → (sampler.distinct bound count state).1.Nodup
  distinct_below : ∀ bound count state, count ≤ bound →
    ∀ number ∈ (sampler.distinct bound count state).1, number < bound

namespace Mixing

/-- Where the numbers of a stream come from: a seed, or something outside the program where no seed is given. -/
inductive Origin
  | seed (seed : UInt64)
  | outside (noise : UInt64)
deriving DecidableEq

structure Stream where
  origin : Origin
  drawn : UInt64
deriving DecidableEq

/-- An odd constant without a pattern in its bits. -/
def spread : UInt64 := 0x9E3779B97F4A7C15

def scatter (word : UInt64) : UInt64 :=
  let once := (word ^^^ (word >>> 30)) * 0xBF58476D1CE4E5B9
  let twice := (once ^^^ (once >>> 27)) * 0x94D049BB133111EB
  twice ^^^ (twice >>> 31)

namespace Stream

def start (noise : UInt64) : Option UInt64 → Stream
  | some seed => ⟨.seed seed, 0⟩
  | none => ⟨.outside noise, 0⟩

/-- The number at the current place. The place is scattered before it meets the seed, and the seed comes in
twice, so that no stream is another one that was entered later. -/
def word (stream : Stream) : UInt64 :=
  let place := scatter (stream.drawn + spread)
  match stream.origin with
  | .seed seed => scatter (scatter (place ^^^ seed) + seed)
  | .outside noise => scatter (scatter (place ^^^ noise) + noise + spread)

def advance (stream : Stream) : Stream := { stream with drawn := stream.drawn + 1 }

end Stream

def below (bound : Nat) (stream : Stream) : Nat × Stream := (stream.word.toNat % bound, stream.advance)

structure Selection where
  numbers : List Nat
  tree : Std.TreeSet Nat
  same : ∀ number, number ∈ tree ↔ number ∈ numbers

namespace Selection

def empty : Selection := ⟨[], ∅, fun _ => by simp⟩

def add (number : Nat) (selection : Selection) : Selection :=
  ⟨number :: selection.numbers, selection.tree.insert number, fun other => by
    rw [Std.TreeSet.mem_insert, selection.same, List.mem_cons, Nat.compare_eq_eq, eq_comm]⟩

end Selection

/-- Adds one more number to a selection: a number up to the last one, or the last one itself if that
number is taken already. -/
def select (chosen : Selection × Stream) (last : Nat) : Selection × Stream :=
  let (number, stream) := below (last + 1) chosen.2
  (chosen.1.add (if number ∈ chosen.1.tree then last else number), stream)

def selection (bound count : Nat) (stream : Stream) : Selection × Stream :=
  (List.range' (bound - count) count).foldl select (.empty, stream)

theorem below_lt {bound : Nat} (positive : 0 < bound) (stream : Stream) : (below bound stream).1 < bound :=
  Nat.mod_lt _ positive

theorem selection_invariant (start count : Nat) (stream : Stream) :
    let numbers := ((List.range' start count).foldl select (.empty, stream)).1.numbers
    numbers.length = count ∧ numbers.Nodup ∧ ∀ number ∈ numbers, number < start + count := by
  induction count with
  | zero => simp [Selection.empty]
  | succ count ih =>
    rw [List.range'_concat, List.foldl_append]
    simp only [Nat.one_mul, List.foldl_cons, List.foldl_nil]
    generalize (List.range' start count).foldl select (.empty, stream) = chosen at ih
    obtain ⟨length, nodup, small⟩ := ih
    have drawn : (below (start + count + 1) chosen.2).1 < start + count + 1 := below_lt (by omega) _
    simp only [select, Selection.add, chosen.1.same]
    split
    · next taken =>
      refine ⟨by simp [length], List.nodup_cons.2 ⟨fun again => ?_, nodup⟩, fun number member => ?_⟩
      · exact absurd (small _ again) (Nat.lt_irrefl _)
      · rcases List.mem_cons.1 member with same | earlier
        · omega
        · have := small number earlier
          omega
    · next free =>
      refine ⟨by simp [length], List.nodup_cons.2 ⟨free, nodup⟩, fun number member => ?_⟩
      rcases List.mem_cons.1 member with same | earlier
      · omega
      · have := small number earlier
        omega

def sampler : Sampler Stream where
  upTo bound stream := ((below bound stream).1 + 1, (below bound stream).2)
  distinct bound count stream :=
    let (chosen, stream) := selection bound count stream
    (chosen.numbers, stream)

theorem fair : sampler.Fair where
  upTo_range bound stream positive := by
    have drawn := below_lt positive stream
    simp only [sampler]
    omega
  distinct_length bound count stream _ := (selection_invariant (bound - count) count stream).1
  distinct_nodup bound count stream _ := (selection_invariant (bound - count) count stream).2.1
  distinct_below bound count stream fits number member := by
    have small := (selection_invariant (bound - count) count stream).2.2 number member
    omega

end Mixing

end AgreementAudit
