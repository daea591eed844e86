import AgreementAudit.Proofs.Touching

/-! Making directories. Every new entry is a directory on the way of the path, where nothing was before, and no content
changes. That holds also if the making is refused halfway. -/
namespace AgreementAudit.FileSystem

variable {before middle after fs : FileSystem} {path directory : Path} {location : Location} {steps : List Path.Step}

/-- A change of nothing but new directories, each of which the first of some steps lead to. -/
structure MakesAlong (location : Location) (steps : List Path.Step) (before after : FileSystem) : Prop
    extends Keeps before after where
  made : ∀ place entry, after.entryAt place = some entry → before.entryAt place = none →
    entry = .directory ∧ ∃ walked, walked <+: steps ∧ walked.foldlM after.advance location = .ok place
  contents : after.contents = before.contents

theorem MakesAlong.refl (location : Location) (steps : List Path.Step) (fs : FileSystem) :
    MakesAlong location steps fs fs := by
  refine ⟨.refl fs, ?_, rfl⟩
  intro place entry there missing
  cases missing.symm.trans there

theorem MakesAlong.cons {step : Path.Step} {next : Location} (walked : before.advance location step = .ok next)
    (keeps : Keeps before middle) (same : ∀ other, other ≠ next → middle.entryAt other = before.entryAt other)
    (contents : middle.contents = before.contents) (entered : middle.entryAt next = some .directory)
    (makes : MakesAlong next steps middle after) : MakesAlong location (step :: steps) before after := by
  have walkedAfter : after.advance location step = .ok next := (keeps.trans makes.toKeeps).advance walked
  refine ⟨keeps.trans makes.toKeeps, ?_, makes.contents.trans contents⟩
  intro place entry there missing
  by_cases here : place = next
  · subst here
    have stays : after.entryAt place = some .directory := makes.entries place .directory entered
    refine ⟨Option.some.inj (there.symm.trans stays), [step], by simp, ?_⟩
    rw [List.foldlM_cons, walkedAfter]
    rfl
  · rw [← same place here] at missing
    obtain ⟨isDirectory, first, isFirst, found⟩ := makes.made place entry there missing
    refine ⟨isDirectory, step :: first, List.cons_prefix_cons.2 ⟨rfl, isFirst⟩, ?_⟩
    rw [List.foldlM_cons, walkedAfter]
    exact found

theorem makesAlong_of_makeAlong {result : Except Refusal Unit} (made : fs.makeAlong location steps = (after, result)) :
    MakesAlong location steps fs after := by
  induction steps generalizing fs location with
  | nil =>
    obtain ⟨rfl, -⟩ := Prod.mk.inj made
    exact .refl location [] _
  | cons step rest ih =>
    unfold makeAlong at made
    split at made
    next refusal refused =>
      obtain ⟨rfl, -⟩ := Prod.mk.inj made
      exact .refl location _ _
    next next walked =>
      split at made
      next nothing =>
        rw [nodeAt_eq_none_iff] at nothing
        exact .cons walked (keeps_put nothing .directory) (fun _ different => entryAt_put_other different .directory) rfl
          (entryAt_put_self nothing .directory) (ih made)
      next there => exact .cons walked (.refl fs) (fun _ _ => rfl) rfl (nodeAt_eq_directory_iff.1 there) (ih made)
      next content there =>
        obtain ⟨rfl, -⟩ := Prod.mk.inj made
        exact .refl location _ _

theorem nodeAt_of_advance {step : Path.Step} {next : Location} (walked : fs.advance location step = .ok next) :
    fs.nodeAt location = some .directory := by
  unfold advance at walked
  split at walked
  next missing => cases walked
  next blocked => cases walked
  next there => exact there

theorem exists_steps_of_filter {walked : List Path.Step} {found : Location}
    (first : walked <+: steps.filter (· ≠ .stay)) (arrived : walked.foldlM fs.advance location = .ok found) :
    ∃ whole, whole <+: steps ∧ whole.foldlM fs.advance location = .ok found := by
  induction steps generalizing walked location with
  | nil => exact ⟨walked, first, arrived⟩
  | cons step rest ih =>
    cases walked with
    | nil => exact ⟨[], List.nil_prefix, arrived⟩
    | cons taken others =>
      by_cases dot : step = .stay
      · rw [List.filter_cons_of_neg (by simpa using dot)] at first
        obtain ⟨whole, isFirst, reached⟩ := ih first arrived
        -- A dot in front of a step that can be taken stays where it is.
        obtain ⟨next, walkedOne, -⟩ := bind_eq_ok_iff.1 ((List.foldlM_cons ..).symm.trans arrived)
        have stays : fs.advance location step = .ok location := by
          rw [dot, advance, nodeAt_of_advance walkedOne]
        refine ⟨step :: whole, List.cons_prefix_cons.2 ⟨rfl, isFirst⟩, ?_⟩
        rw [List.foldlM_cons, stays]
        exact reached
      · rw [List.filter_cons_of_pos (by simpa using dot), List.cons_prefix_cons] at first
        obtain ⟨rfl, firstOthers⟩ := first
        rw [List.foldlM_cons] at arrived
        obtain ⟨next, walkedOne, later⟩ := bind_eq_ok_iff.1 arrived
        obtain ⟨whole, isFirst, reached⟩ := ih firstOthers later
        refine ⟨taken :: whole, List.cons_prefix_cons.2 ⟨rfl, isFirst⟩, ?_⟩
        rw [List.foldlM_cons, walkedOne]
        exact reached

theorem MakesAlong.touches (makes : MakesAlong (fs.start directory) directory.stepsAround fs after) :
    Touches directory [] fs after := by
  refine ⟨makes.toKeeps, ?_, ?_⟩
  · intro location entry there missing
    obtain ⟨rfl, walked, first, found⟩ := makes.made location entry there missing
    rw [← makes.start directory] at found
    exact .made (exists_steps_of_filter (first.trans (List.dropLast_prefix _)) found)
  · intro number changed
    exact absurd (congrFun makes.contents number) changed

theorem makeDirectory_eq_ok (made : fs.makeDirectory path = .ok after) :
    ∃ location, fs.walk path path.pieceSteps = .ok location ∧ fs.entryAt location = none ∧
      after = fs.put location .directory := by
  obtain ⟨location, walked, placed⟩ := bind_eq_ok_iff.1 made
  split at placed
  next node there => cases placed
  next missing => exact ⟨location, walked, nodeAt_eq_none_iff.1 missing, (Except.ok.inj placed).symm⟩

theorem walk_of_walk {found : Location} (walked : before.walk path steps = .ok location) {others : List Path.Step}
    (arrived : others.foldlM after.advance (after.start path) = .ok found) : after.walk path others = .ok found := by
  unfold walk at walked ⊢
  split at walked
  · cases walked
  split at walked
  · cases walked
  split at walked
  · cases walked
  · next named textual short => rw [if_neg named, if_neg textual, if_neg short, arrived]

theorem isDirectory_iff : fs.isDirectory path = true ↔
    ∃ location, fs.locate path = .ok location ∧ fs.nodeAt location = some .directory := by
  rw [← lookup_eq_ok_iff]
  unfold isDirectory
  cases fs.lookup path with
  | error refusal => simp
  | ok node =>
    cases node with
    | directory => simp
    | file content => simp

theorem Keeps.isDirectory (keeps : Keeps before after) (there : before.isDirectory path = true) :
    after.isDirectory path = true := by
  obtain ⟨location, located, node⟩ := isDirectory_iff.1 there
  exact isDirectory_iff.2 ⟨location, keeps.locate located, keeps.directories node⟩

theorem touches_of_makeDirectory (made : fs.makeDirectory directory = .ok after) :
    Touches directory [] fs after ∧ after.isDirectory directory = true := by
  obtain ⟨location, walked, missing, rfl⟩ := makeDirectory_eq_ok made
  have keeps := keeps_put missing Node.directory
  have there : (fs.put location .directory).nodeAt location = some .directory :=
    nodeAt_eq_directory_iff.2 (entryAt_put_self missing .directory)
  have arrived := keeps.foldlM_advance (walk_eq_ok walked)
  rw [← keeps.start directory] at arrived
  refine ⟨⟨keeps, ?_, ?_⟩, isDirectory_iff.2 ⟨location, walk_of_walk walked ?_, there⟩⟩
  · intro other entry found absent
    obtain rfl : other = location := by
      by_contra different
      rw [entryAt_put_other different, absent] at found
      cases found
    obtain rfl := Option.some.inj ((entryAt_put_self missing .directory).symm.trans found)
    exact .made ⟨_, List.prefix_rfl, arrived⟩
  · exact fun _ changed => absurd rfl changed
  · unfold Path.steps
    split
    · rw [List.foldlM_append]
      refine bind_eq_ok_iff.2 ⟨location, arrived, ?_⟩
      rw [List.foldlM_cons, advance, there]
      rfl
    · exact arrived

theorem touches_of_ensureDirectory (ensured : fs.ensureDirectory directory = .ok after) :
    Touches directory [] fs after ∧ after.isDirectory directory = true := by
  unfold ensureDirectory at ensured
  split at ensured
  next made done =>
    obtain rfl := Except.ok.inj ensured
    exact touches_of_makeDirectory done
  next refusal refused =>
    split at ensured
    next there =>
      obtain rfl := Except.ok.inj ensured
      exact ⟨.refl directory [] fs, there⟩
    next absent => cases ensured

theorem touches_of_settle {ensured : Except Refusal FileSystem} {result : Except Refusal Unit}
    (touches : ∀ made, ensured = .ok made → Touches directory [] fs made ∧ made.isDirectory directory = true)
    (settled : fs.settle ensured = (after, result)) :
    Touches directory [] fs after ∧ (result = .ok () → after.isDirectory directory = true) := by
  cases ensured with
  | error refusal =>
    obtain ⟨rfl, rfl⟩ := Prod.mk.inj settled
    exact ⟨.refl directory [] _, nofun⟩
  | ok made =>
    obtain ⟨rfl, rfl⟩ := Prod.mk.inj settled
    exact ⟨(touches _ rfl).1, fun _ => (touches _ rfl).2⟩

theorem pieceSteps_prefix_steps (path : Path) : path.pieceSteps <+: path.steps := by
  unfold Path.steps
  split
  · exact List.prefix_append _ _
  · exact List.prefix_rfl

theorem nodeAt_of_passes (there : fs.isDirectory path = true) (passes : fs.Passes path location) :
    fs.nodeAt location = some .directory := by
  obtain ⟨found, located, node⟩ := isDirectory_iff.1 there
  obtain ⟨first, isFirst, walked⟩ := passes
  obtain ⟨others, whole⟩ := isFirst.trans (pieceSteps_prefix_steps path)
  have arrived := walk_eq_ok located
  rw [← whole, List.foldlM_append, walked] at arrived
  cases others with
  | nil =>
    obtain rfl : location = found := Except.ok.inj arrived
    exact node
  | cons step behind =>
    obtain ⟨next, taken, -⟩ := bind_eq_ok_iff.1 ((List.foldlM_cons ..).symm.trans arrived)
    exact nodeAt_of_advance taken

/-- Making a directory makes directories on its way only, and if it is not refused the directory is there. The empty path
stands for the working directory and has no entry of its own. -/
theorem touches_of_makeDirectories {result : Except Refusal Unit}
    (made : fs.makeDirectories directory = (after, result)) :
    Touches directory [] fs after ∧ (result = .ok () → directory ≠ "" → after.isDirectory directory = true) := by
  unfold makeDirectories at made
  split at made
  next unnamed =>
    obtain ⟨rfl, rfl⟩ := Prod.mk.inj made
    exact ⟨.refl directory [] _, fun _ named => absurd unnamed named⟩
  next named =>
    split at made
    next unreached =>
      split at made
      next around along =>
        have first := (makesAlong_of_makeAlong along).touches
        obtain ⟨second, there⟩ := touches_of_settle (fun _ => touches_of_ensureDirectory) made
        exact ⟨first.trans second, fun succeeded _ => there succeeded⟩
      next refused =>
        refine ⟨(makesAlong_of_makeAlong made).touches, ?_⟩
        rintro rfl
        exact absurd made (refused after)
    next ensured found =>
      obtain ⟨touches, there⟩ := touches_of_settle (fun _ => touches_of_ensureDirectory) made
      exact ⟨touches, fun succeeded _ => there succeeded⟩

end AgreementAudit.FileSystem
