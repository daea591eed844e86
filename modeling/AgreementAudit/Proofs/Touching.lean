import AgreementAudit.Proofs.Files

/-! What a change touches. New entries are directories on the way of a path or files that were opened, and a content
changes only if one of the names given leads to its file. All other files read as before, whatever they are called. -/
namespace AgreementAudit.FileSystem

open Text (Bytes)

variable {before middle after fs : FileSystem} {path directory : Path} {name : String} {location : Location}
  {content bytes : Bytes} {number : Nat}

/-- A path comes through the places that its first steps lead to, however many of them are taken. -/
def Passes (fs : FileSystem) (path : Path) (location : Location) : Prop :=
  ∃ steps, steps <+: path.pieceSteps ∧ steps.foldlM fs.advance (fs.start path) = .ok location

theorem Keeps.passes (keeps : Keeps before after) (passes : before.Passes path location) :
    after.Passes path location := by
  obtain ⟨steps, first, walked⟩ := passes
  refine ⟨steps, first, ?_⟩
  rw [keeps.start]
  exact keeps.foldlM_advance walked

/-- Why an entry is new: a directory was made on the way of a path, or a file behind the path was opened. -/
inductive Appears (directory : Path) (names : List String) (after : FileSystem) (location : Location) : Entry → Prop
  | made (onWay : after.Passes directory location) : Appears directory names after location .directory
  | opened {name : String} {number : Nat} (named : name ∈ names)
      (located : after.locate (Path.join directory name) = .ok location) :
      Appears directory names after location (.file number)

/-- A change of nothing but the directories that a path comes through and the files of the names given behind it. The
content of a file changes under all of its names. -/
structure Touches (directory : Path) (names : List String) (before after : FileSystem) : Prop
    extends Keeps before after where
  appears : ∀ location entry, after.entryAt location = some entry → before.entryAt location = none →
    Appears directory names after location entry
  fills : ∀ number, after.contents number ≠ before.contents number →
    ∃ name ∈ names, after.LeadsTo (Path.join directory name) number

theorem Appears.mono {left right : List String} {entry : Entry} (keeps : Keeps before after) (included : left ⊆ right)
    (appears : Appears directory left before location entry) : Appears directory right after location entry := by
  cases appears with
  | made onWay => exact .made (keeps.passes onWay)
  | opened named located => exact .opened (included named) (keeps.locate located)

namespace Touches

variable {names left right : List String}

theorem refl (directory : Path) (names : List String) (fs : FileSystem) : Touches directory names fs fs := by
  refine ⟨.refl fs, ?_, ?_⟩
  · intro location entry there missing
    cases missing.symm.trans there
  · exact fun _ changed => absurd rfl changed

theorem mono (touches : Touches directory left before after) (included : left ⊆ right) :
    Touches directory right before after := by
  refine ⟨touches.toKeeps, ?_, ?_⟩
  · intro location entry there missing
    exact (touches.appears location entry there missing).mono (.refl after) included
  · intro number changed
    obtain ⟨name, named, leads⟩ := touches.fills number changed
    exact ⟨name, included named, leads⟩

theorem trans (first : Touches directory left before middle) (second : Touches directory right middle after) :
    Touches directory (left ++ right) before after := by
  refine ⟨first.toKeeps.trans second.toKeeps, ?_, ?_⟩
  · intro location entry there missing
    cases present : middle.entryAt location with
    | none => exact (second.appears location entry there present).mono (.refl after) (List.subset_append_right _ _)
    | some other =>
      obtain rfl := Option.some.inj ((second.entries location other present).symm.trans there)
      exact (first.appears location other present missing).mono second.toKeeps (List.subset_append_left _ _)
  · intro number changed
    by_cases later : after.contents number = middle.contents number
    · rw [later] at changed
      obtain ⟨name, named, leads⟩ := first.fills number changed
      exact ⟨name, List.mem_append_left _ named, second.leadsTo leads⟩
    · obtain ⟨name, named, leads⟩ := second.fills number later
      exact ⟨name, List.mem_append_right _ named, leads⟩

theorem contentOf (touches : Touches directory names before after) (held : before.contentOf path = .ok content)
    (apart : ∀ name ∈ names, ¬after.SameFile (Path.join directory name) path) : after.contentOf path = .ok content := by
  obtain ⟨number, leads, holds⟩ := contentOf_eq_ok_iff.1 held
  have leadsAfter := touches.leadsTo leads
  refine contentOf_eq_ok_iff.2 ⟨number, leadsAfter, ?_⟩
  by_contra changed
  rw [← holds] at changed
  obtain ⟨name, named, found⟩ := touches.fills number changed
  exact apart name named ⟨number, found, leadsAfter⟩

theorem contentOf_join (touches : Touches directory names before after) (single : before.Single)
    (areNames : ∀ name ∈ names, Path.IsName name) {other : String} (isName : Path.IsName other) (absent : other ∉ names)
    (held : before.contentOf (Path.join directory other) = .ok content) :
    after.contentOf (Path.join directory other) = .ok content := by
  refine touches.contentOf held ?_
  intro name named
  refine (touches.single single).not_sameFile (areNames name named) isName ?_
  rintro rfl
  exact absent named

theorem file_iff (touches : Touches directory names before after) (areNames : ∀ name ∈ names, Path.IsName name)
    {other : String} (isName : Path.IsName other) (absent : other ∉ names)
    (located : after.locate (Path.join directory other) = .ok location)
    (apart : ∀ name ∈ names, ¬after.SameFile (Path.join directory name) (Path.join directory other)) :
    after.nodeAt location = some (.file content) ↔ before.nodeAt location = some (.file content) := by
  have same : ∀ number, after.entryAt location = some (.file number) →
      after.contents number = before.contents number := by
    intro number there
    by_contra changed
    obtain ⟨name, named, leads⟩ := touches.fills number changed
    exact apart name named ⟨number, leads, location, located, there⟩
  rw [nodeAt_eq_file_iff, nodeAt_eq_file_iff]
  apply exists_congr
  intro number
  constructor
  · rintro ⟨there, holds⟩
    refine ⟨?_, same number there ▸ holds⟩
    cases present : before.entryAt location with
    | some entry => rw [← touches.entries location entry present, there]
    | none =>
      cases touches.appears location _ there present with
      | @opened name _ named found =>
        obtain rfl := locate_join_inj (areNames name named) isName found located
        exact absurd named absent
  · rintro ⟨there, holds⟩
    have stays := touches.entries location _ there
    exact ⟨stays, (same number stays).symm ▸ holds⟩

end Touches

theorem Opens.touches (opens : Opens before (Path.join directory name) number after) :
    Touches directory [name] before after := by
  have leads := opens.leadsTo
  obtain ⟨place, located, there, elsewhere⟩ := opens.place
  refine ⟨opens.toKeeps, ?_, ?_⟩
  · intro location entry found missing
    obtain rfl : location = place := by
      by_contra different
      rw [elsewhere location different, missing] at found
      cases found
    obtain rfl := Option.some.inj (there.symm.trans found)
    exact .opened (List.mem_singleton_self name) located
  · intro other changed
    obtain rfl : other = number := by
      by_contra different
      exact changed (opens.others other different)
    exact ⟨name, List.mem_singleton_self name, leads⟩

/-- A change of nothing but the content of one file and of the answers to the writes to come. -/
structure ChangesContent (number : Nat) (before after : FileSystem) : Prop where
  home : after.home = before.home
  entries : after.entries = before.entries
  others : ∀ other, other ≠ number → after.contents other = before.contents other
  answers : after.answers ⊆ before.answers

namespace ChangesContent

theorem refl (number : Nat) (fs : FileSystem) : ChangesContent number fs fs :=
  ⟨rfl, rfl, fun _ _ => rfl, List.Subset.refl _⟩

theorem trans (first : ChangesContent number before middle) (second : ChangesContent number middle after) :
    ChangesContent number before after := by
  refine ⟨second.home.trans first.home, second.entries.trans first.entries, ?_,
    List.Subset.trans second.answers first.answers⟩
  intro other different
  rw [second.others other different, first.others other different]

theorem keeps (change : ChangesContent number before after) : Keeps before after :=
  keeps_of_entries change.home change.entries

theorem touches (change : ChangesContent number before after) (leads : before.LeadsTo (Path.join directory name) number) :
    Touches directory [name] before after := by
  refine ⟨change.keeps, ?_, ?_⟩
  · intro location entry there missing
    rw [entryAt_congr change.entries, missing] at there
    cases there
  · intro other changed
    obtain rfl : other = number := by
      by_contra different
      exact changed (change.others other different)
    exact ⟨name, List.mem_singleton_self name, change.keeps.leadsTo leads⟩

end ChangesContent

/-- What becomes of a write: all of the bytes are behind those of the file, or those that were taken. -/
inductive Appends (number : Nat) (bytes : Bytes) (before after : FileSystem) : Except Shortfall Unit → Prop
  | whole (change : ChangesContent number before after)
      (holds : after.contents number = before.contents number ++ bytes) :
      Appends number bytes before after (.ok ())
  | part {shortfall : Shortfall} (change : ChangesContent number before after)
      (holds : after.contents number = before.contents number ++ bytes.take shortfall.taken)
      (answered : some shortfall ∈ before.answers) : Appends number bytes before after (.error shortfall)

theorem appends_of_append (fs : FileSystem) (number : Nat) (bytes : Bytes) :
    Appends number bytes fs (fs.append number bytes).1 (fs.append number bytes).2 := by
  have change (taken : Bytes) : ChangesContent number fs
      { fs.fill number (fs.contents number ++ taken) with answers := fs.answers.tail } :=
    ⟨rfl, rfl, fun _ different => if_neg different, fun _ => List.mem_of_mem_tail⟩
  unfold append
  dsimp only
  split
  next nothing => exact .whole (.refl number fs) (by rw [nothing, List.append_nil])
  next some =>
    split
    next shortfall first =>
      split
      next short => exact .part (change _) (if_pos rfl) (List.mem_of_mem_head? first)
      next enough => exact .whole (change bytes) (if_pos rfl)
    next => exact .whole (change bytes) (if_pos rfl)

theorem writeFile_eq_ok (written : fs.writeFile path content = .ok after) :
    ∃ number created, Opens fs path number created ∧ ChangesContent number created after ∧
      after.contents number = content := by
  obtain ⟨⟨number, created⟩, opened, filled⟩ := bind_eq_ok_iff.1 written
  have opens := opens_of_create opened
  have appends := created.appends_of_append number content
  dsimp only at filled
  generalize created.append number content = outcome at filled appends
  obtain ⟨final, result⟩ := outcome
  cases appends with
  | part => cases filled
  | whole change holds =>
    obtain rfl := Except.ok.inj filled
    rw [opens.emptied, List.nil_append] at holds
    exact ⟨number, created, opens, change, holds⟩

theorem contentOf_of_writeFile (written : fs.writeFile path content = .ok after) : after.contentOf path = .ok content := by
  obtain ⟨number, created, opens, change, holds⟩ := writeFile_eq_ok written
  exact contentOf_eq_ok_iff.2 ⟨number, change.keeps.leadsTo opens.leadsTo, holds⟩

theorem touches_of_writeFile (written : fs.writeFile (Path.join directory name) content = .ok after) :
    Touches directory [name] fs after := by
  obtain ⟨number, created, opens, change, -⟩ := writeFile_eq_ok written
  exact (opens.touches.trans (change.touches opens.leadsTo)).mono (by simp)

def writeFiles (directory : Path) (entries : List (String × Bytes)) (fs : FileSystem) :
    Except Refusal FileSystem :=
  entries.foldlM (fun fs entry => fs.writeFile (Path.join directory entry.1) entry.2) fs

theorem writeFiles_eq_ok {entries : List (String × Bytes)} (distinct : (entries.map Prod.fst).Nodup)
    (written : writeFiles directory entries fs = .ok after) :
    Touches directory (entries.map Prod.fst) fs after ∧
      (after.Apart directory (entries.map Prod.fst) →
        ∀ entry ∈ entries, after.contentOf (Path.join directory entry.1) = .ok entry.2) := by
  induction entries generalizing fs with
  | nil =>
    obtain rfl := Except.ok.inj written
    exact ⟨.refl directory [] fs, fun _ _ member => absurd member List.not_mem_nil⟩
  | cons entry rest ih =>
    unfold writeFiles at written
    rw [List.foldlM_cons] at written
    obtain ⟨middle, first, later⟩ := bind_eq_ok_iff.1 written
    rw [List.map_cons, List.nodup_cons] at distinct
    obtain ⟨others, held⟩ := ih distinct.2 later
    refine ⟨(touches_of_writeFile first).trans others, ?_⟩
    intro apart other member
    rw [List.map_cons] at apart
    rcases List.mem_cons.1 member with same | behind
    · -- The first file is not among those that the later writes change.
      rw [same]
      refine others.contentOf (contentOf_of_writeFile first) ?_
      intro name named
      refine apart name (List.mem_cons_of_mem _ named) entry.1 List.mem_cons_self ?_
      rintro rfl
      exact distinct.1 named
    · exact held (apart.mono (List.subset_cons_self _ _)) other behind

end AgreementAudit.FileSystem
