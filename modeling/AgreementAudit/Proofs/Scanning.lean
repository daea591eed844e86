import AgreementAudit.CommandLine.Invocation
import AgreementAudit.Proofs.Spelling

/-! What reading the arguments of a command makes of them, against what is written there. A value that is attached to
an option, or follows it, is kept with it, and in this order, whatever other options stand between. -/
namespace AgreementAudit.CommandLine

def plainAhead : List Word → List String
  | .plain text :: rest => text :: plainAhead rest
  | _ => []

def Word.names (word : Word) (name : Name) : Bool :=
  match word with
  | .long spelling _ => spelling ∈ name.spellings
  | _ => false

def gives (words : List Word) (name : Name) : Bool := words.any fun word => word.names name

/-- The values that are written for an option: one that is attached to its name, or those that follow it. -/
def written (name : Name) : List Word → List String
  | [] => []
  | .long spelling attached :: rest =>
    (if spelling ∈ name.spellings then attached.elim (plainAhead rest) fun value => [value] else []) ++
      written name rest
  | _ :: rest => written name rest

def Arity.takesValues : Arity → Bool
  | .help | .flag => false
  | .single _ | .several _ => true

theorem Arity.takesValues_of_ne {arity : Arity} (notHelp : arity ≠ .help) (notFlag : arity ≠ .flag) :
    arity.takesValues = true := by
  cases arity with
  | help => exact absurd rfl notHelp
  | flag => exact absurd rfl notFlag
  | single kind => rfl
  | several kind => rfl

def Unambiguous (options : List Name) : Prop :=
  ∀ name ∈ options, ∀ other ∈ options, ∀ spelling ∈ name.spellings, spelling ∈ other.spellings → name = other

namespace Scan

variable {options : List Name} {scan next settled final : Scan} {word : Word} {words : List Word} {name other : Name}
  {values : List String}

theorem valuesOf_add : (scan.add other values).valuesOf name =
    scan.valuesOf name ++ if other = name then values else [] := by
  simp [add, valuesOf]

theorem has_add : (scan.add other values).has name = (scan.has name || decide (other = name)) := by
  simp [add, has]

/-- All that settling one occurrence of an option can do. -/
theorem record_eq_ok (recorded : scan.record other values = .ok next) :
    next = scan.add other (if other.arity.takesValues then values else []) ∧
      (other.arity.takesValues = true → values ≠ []) ∧
      ∀ kind, other.arity = .single kind → scan.has other = false := by
  unfold record at recorded
  split at recorded
  next => cases recorded
  next flag =>
    split at recorded
    next => cases recorded
    next => simp [flag, Arity.takesValues, ← Except.ok.inj recorded]
  next kind single =>
    split at recorded
    next => cases recorded
    next given =>
      split at recorded
      next => cases recorded
      next fresh =>
        obtain ⟨-, -, made⟩ := bind_eq_ok_iff.1 recorded
        obtain rfl := Except.ok.inj made
        simp [single, Arity.takesValues, given, fresh]
  next kind several =>
    split at recorded
    next => cases recorded
    next given =>
      obtain ⟨-, -, made⟩ := bind_eq_ok_iff.1 recorded
      obtain rfl := Except.ok.inj made
      simp [several, Arity.takesValues, given]

/-- All that reading an argument can do: to collect a value, or to settle what was collected and take up an option. -/
theorem step_eq_ok (stepped : scan.step options word = .ok next) :
    (∃ text other values, word = .plain text ∧ scan.pending = some (other, values) ∧
      takesMore other values = true ∧ next = { scan with pending := some (other, values ++ [text]) }) ∨
    ∃ spelling attached found, word = .long spelling attached ∧ found ∈ options ∧ spelling ∈ found.spellings ∧
      ∃ settled, scan.settle = .ok settled ∧
        ((attached = none ∧ found.arity.takesValues = true ∧ next = { settled with pending := some (found, []) }) ∨
          settled.record found attached.toList = .ok next) := by
  cases word with
  | separator => cases stepped
  | short letter =>
    unfold step at stepped
    dsimp only at stepped
    split at stepped
    next =>
      obtain ⟨settled, -, recorded⟩ := bind_eq_ok_iff.1 stepped
      cases recorded
    next => cases stepped
  | plain text =>
    unfold step at stepped
    dsimp only at stepped
    split at stepped
    next => cases stepped
    next other values waiting =>
      split at stepped
      next takes => exact Or.inl ⟨text, other, values, rfl, waiting, takes, (Except.ok.inj stepped).symm⟩
      next => cases stepped
  | long spelling attached =>
    unfold step at stepped
    dsimp only at stepped
    split at stepped
    next => cases stepped
    next found search =>
      have listed := List.mem_of_find?_eq_some search
      have spelled : spelling ∈ found.spellings := by simpa using List.find?_some search
      refine Or.inr ⟨spelling, attached, found, rfl, listed, spelled, ?_⟩
      split at stepped
      next => cases stepped
      next => cases stepped
      next help =>
        obtain ⟨settled, settles, recorded⟩ := bind_eq_ok_iff.1 stepped
        exact ⟨settled, settles, Or.inr recorded⟩
      next flag =>
        obtain ⟨settled, settles, recorded⟩ := bind_eq_ok_iff.1 stepped
        exact ⟨settled, settles, Or.inr recorded⟩
      next value _ _ =>
        obtain ⟨settled, settles, recorded⟩ := bind_eq_ok_iff.1 stepped
        exact ⟨settled, settles, Or.inr recorded⟩
      next notHelp notFlag =>
        obtain ⟨settled, settles, made⟩ := bind_eq_ok_iff.1 stepped
        exact ⟨settled, settles, Or.inl ⟨rfl, Arity.takesValues_of_ne notHelp notFlag, (Except.ok.inj made).symm⟩⟩

theorem run_cons_eq_ok (ran : scan.run options (word :: words) = .ok final) :
    (word = .separator ∧ words = [] ∧ scan.settle = .ok final) ∨
      ∃ next, scan.step options word = .ok next ∧ next.run options words = .ok final := by
  unfold run at ran
  split at ran
  next none => cases none
  next only =>
    obtain ⟨rfl, rfl⟩ := List.cons.inj only
    exact Or.inl ⟨rfl, rfl, ran⟩
  next => cases ran
  next first rest _ _ cut =>
    obtain ⟨rfl, rfl⟩ := List.cons.inj cut
    exact Or.inr (bind_eq_ok_iff.1 ran)

def awaits (scan : Scan) (name : Name) : Bool := scan.pending.any fun entry => entry.1 = name

def collected (scan : Scan) (name : Name) : List String :=
  scan.valuesOf name ++ scan.pending.elim [] fun entry => if entry.1 = name then entry.2 else []

theorem settle_eq_ok (settles : scan.settle = .ok settled) :
    (scan.pending = none ∧ settled = scan) ∨ ∃ other values, scan.pending = some (other, values) ∧
      ({ scan with pending := none } : Scan).record other values = .ok settled := by
  unfold settle at settles
  split at settles
  next idle => exact Or.inl ⟨idle, (Except.ok.inj settles).symm⟩
  next other values waiting => exact Or.inr ⟨other, values, waiting, settles⟩

section TakesValues

variable (takes : name.arity.takesValues = true)

include takes

theorem valuesOf_record (recorded : scan.record other values = .ok next) :
    next.valuesOf name = scan.valuesOf name ++ if other = name then values else [] := by
  obtain ⟨rfl, -, -⟩ := record_eq_ok recorded
  rw [valuesOf_add]
  split
  next same => rw [same, takes, if_pos rfl]
  next => rfl

theorem valuesOf_settle (settles : scan.settle = .ok settled) : settled.valuesOf name = scan.collected name := by
  rcases settle_eq_ok settles with ⟨idle, rfl⟩ | ⟨other, values, waiting, recorded⟩
  · simp [collected, idle]
  · rw [valuesOf_record takes recorded, collected, waiting]
    rfl

end TakesValues

theorem pending_record (recorded : scan.record other values = .ok next) : next.pending = scan.pending := by
  obtain ⟨rfl, -, -⟩ := record_eq_ok recorded
  rfl

theorem has_record (recorded : scan.record other values = .ok next) :
    next.has name = (scan.has name || decide (other = name)) := by
  obtain ⟨rfl, -, -⟩ := record_eq_ok recorded
  exact has_add

theorem pending_settle (settles : scan.settle = .ok settled) : settled.pending = none := by
  rcases settle_eq_ok settles with ⟨idle, rfl⟩ | ⟨other, values, waiting, recorded⟩
  · exact idle
  · exact pending_record recorded

theorem has_settle (settles : scan.settle = .ok settled) :
    settled.has name = (scan.has name || scan.awaits name) := by
  rcases settle_eq_ok settles with ⟨idle, rfl⟩ | ⟨other, values, waiting, recorded⟩
  · simp [awaits, idle]
  · rw [has_record recorded, awaits, waiting]
    rfl

/-- The values that an option will have when some words have been read that are still ahead. -/
def promised (scan : Scan) (name : Name) (words : List Word) : List String :=
  scan.collected name ++ (if scan.awaits name then plainAhead words else []) ++ written name words

section Run

variable (unambiguous : Unambiguous options) (known : name ∈ options) (takes : name.arity.takesValues = true)

include unambiguous known

theorem mem_spellings_iff {found : Name} {spelling : String} (listed : found ∈ options)
    (spelled : spelling ∈ found.spellings) : spelling ∈ name.spellings ↔ found = name := by
  apply Iff.intro
  · intro spelledToo
    exact unambiguous found listed name known spelling spelled spelledToo
  · intro same
    exact same ▸ spelled

theorem has_step (stepped : scan.step options word = .ok next) :
    (next.has name || next.awaits name) = (scan.has name || scan.awaits name || word.names name) := by
  rcases step_eq_ok stepped with
    ⟨text, other, values, rfl, waiting, -, rfl⟩ | ⟨spelling, attached, found, rfl, listed, spelled, settled, settles, taken⟩
  · simp [awaits, has, waiting, Word.names]
  · have names : (Word.long spelling attached).names name = decide (found = name) := by
      simp [Word.names, mem_spellings_iff unambiguous known listed spelled]
    rw [names, ← has_settle settles]
    rcases taken with ⟨-, -, rfl⟩ | recorded
    · simp [awaits, has]
    · simp [has_record recorded, awaits, pending_record recorded, pending_settle settles]

theorem has_run (ran : scan.run options words = .ok final) :
    final.has name = (scan.has name || scan.awaits name || gives words name) := by
  induction words generalizing scan with
  | nil => simp [has_settle ran, gives]
  | cons word words ih =>
    rcases run_cons_eq_ok ran with ⟨rfl, rfl, settles⟩ | ⟨next, stepped, ran⟩
    · simp [has_settle settles, gives, Word.names]
    · rw [ih ran, has_step unambiguous known stepped, gives, gives, List.any_cons, Bool.or_assoc]

include takes

/-- No step loses a value that was written. -/
theorem promised_step (stepped : scan.step options word = .ok next) :
    next.promised name words = scan.promised name (word :: words) := by
  rcases step_eq_ok stepped with
    ⟨text, other, values, rfl, waiting, -, rfl⟩ | ⟨spelling, attached, found, rfl, listed, spelled, settled, settles, taken⟩
  · by_cases same : other = name
    · simp [promised, collected, awaits, waiting, same, plainAhead, written, valuesOf]
    · simp [promised, collected, awaits, waiting, same, written, valuesOf]
  · have before : scan.promised name (.long spelling attached :: words) =
        settled.valuesOf name ++
          ((if found = name then attached.elim (plainAhead words) fun value => [value] else []) ++ written name words) := by
      simp [promised, plainAhead, written, mem_spellings_iff unambiguous known listed spelled,
        valuesOf_settle takes settles]
    rw [before]
    rcases taken with ⟨rfl, -, rfl⟩ | recorded
    · by_cases same : found = name
      · simp [promised, collected, awaits, same, valuesOf]
      · simp [promised, collected, awaits, same, valuesOf]
    · have idle : next.pending = none := by rw [pending_record recorded, pending_settle settles]
      have nothingAhead : next.promised name words = next.valuesOf name ++ written name words := by
        simp [promised, collected, awaits, idle]
      rw [nothingAhead, valuesOf_record takes recorded, List.append_assoc]
      cases attached with
      | some value => rfl
      | none =>
        -- Only a flag is settled without a value, so the words ahead belong to nothing.
        have flag : found ≠ name := by
          intro same
          exact (record_eq_ok recorded).2.1 (same ▸ takes) rfl
        rw [if_neg flag, if_neg flag]

theorem valuesOf_run (ran : scan.run options words = .ok final) :
    final.valuesOf name = scan.promised name words := by
  induction words generalizing scan with
  | nil =>
    rw [valuesOf_settle takes ran]
    simp [promised, plainAhead, written]
  | cons word words ih =>
    rcases run_cons_eq_ok ran with ⟨rfl, rfl, settles⟩ | ⟨next, stepped, ran⟩
    · rw [valuesOf_settle takes settles]
      simp [promised, plainAhead, written]
    · rw [ih ran, promised_step unambiguous known takes stepped]

end Run

theorem valuesOf_of_not_has (absent : scan.has name = false) : scan.valuesOf name = [] := by
  rw [valuesOf, List.flatMap_eq_nil_iff]
  intro entry member
  have different : entry.1 ≠ name := by simpa using List.any_eq_false.1 absent entry member
  exact if_neg different

/-- An option that was given has a value, and only one if it takes no more. -/
structure Sound (scan : Scan) (name : Name) : Prop where
  filled : scan.has name = true → scan.valuesOf name ≠ []
  single : ∀ kind, name.arity = .single kind → (scan.valuesOf name).length ≤ 1
  pending : ∀ kind values, name.arity = .single kind → scan.pending = some (name, values) → values.length ≤ 1

namespace Sound

theorem empty (name : Name) : Scan.empty.Sound name where
  filled given := nomatch given
  single _ _ := Nat.zero_le 1
  pending _ _ _ waiting := nomatch waiting

variable (sound : scan.Sound name) (takes : name.arity.takesValues = true)

include sound

theorem idle : ({ scan with pending := none } : Scan).Sound name where
  filled := sound.filled
  single := sound.single
  pending _ _ _ waiting := nomatch waiting

include takes

theorem record (recorded : scan.record other values = .ok next)
    (few : ∀ kind, name.arity = .single kind → other = name → values.length ≤ 1) : next.Sound name := by
  obtain ⟨-, nonempty, fresh⟩ := record_eq_ok recorded
  refine ⟨?_, ?_, ?_⟩
  · rw [valuesOf_record takes recorded, has_record recorded]
    intro given
    by_cases same : other = name
    · rw [if_pos same]
      exact List.append_ne_nil_of_right_ne_nil _ (nonempty (same ▸ takes))
    · rw [if_neg same, List.append_nil]
      exact sound.filled (by simpa [same] using given)
  · rw [valuesOf_record takes recorded]
    intro kind single
    by_cases same : other = name
    · rw [if_pos same, valuesOf_of_not_has (same ▸ fresh kind (same ▸ single)), List.nil_append]
      exact few kind single same
    · rw [if_neg same, List.append_nil]
      exact sound.single kind single
  · rw [pending_record recorded]
    exact sound.pending

theorem settle (settles : scan.settle = .ok settled) : settled.Sound name := by
  rcases settle_eq_ok settles with ⟨-, rfl⟩ | ⟨other, values, waiting, recorded⟩
  · exact sound
  · refine sound.idle.record takes recorded fun kind single same => ?_
    exact sound.pending kind values single (same ▸ waiting)

theorem step (stepped : scan.step options word = .ok next) : next.Sound name := by
  rcases step_eq_ok stepped with
    ⟨text, other, values, rfl, waiting, more, rfl⟩ | ⟨spelling, attached, found, rfl, -, -, settled, settles, taken⟩
  · refine ⟨sound.filled, sound.single, fun kind collected single waits => ?_⟩
    -- An option with one value takes another one only while it has none.
    obtain ⟨rfl, rfl⟩ := Prod.mk.inj (Option.some.inj waits)
    have none : values = [] := by simpa [takesMore, single] using more
    rw [none]
    exact Nat.le_refl 1
  · have settledSound := sound.settle takes settles
    rcases taken with ⟨-, -, rfl⟩ | recorded
    · refine ⟨settledSound.filled, settledSound.single, fun kind collected single waits => ?_⟩
      obtain ⟨rfl, rfl⟩ := Prod.mk.inj (Option.some.inj waits)
      exact Nat.zero_le 1
    · refine settledSound.record takes recorded fun _ _ _ => ?_
      cases attached with
      | none => exact Nat.zero_le 1
      | some value => exact Nat.le_refl 1

theorem run (ran : scan.run options words = .ok final) : final.Sound name := by
  induction words generalizing scan with
  | nil => exact sound.settle takes ran
  | cons word words ih =>
    rcases run_cons_eq_ok ran with ⟨-, -, settles⟩ | ⟨next, stepped, ran⟩
    · exact sound.settle takes settles
    · exact ih (sound.step takes stepped) ran

end Sound

end Scan

end AgreementAudit.CommandLine
