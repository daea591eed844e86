import AgreementAudit.FileSystem
import AgreementAudit.Proofs.Naming
import Mathlib.Data.List.MinMax
import Mathlib.Order.Nat

/-! Entries and files. A path leads to an entry, an entry of a file has a number, and the number has a content, so two
paths lead to one file if their entries have one number. Nothing that is done here removes an entry or gives a file a
further name, so every path leads to the same file afterwards. -/
namespace AgreementAudit

open Text (Bytes)

theorem Location.enter_inj {around : Location} {left right : String}
    (same : around.enter left = around.enter right) : left = right :=
  (List.cons.inj (congrArg Location.names same)).1

namespace FileSystem

variable {before middle after fs : FileSystem} {path directory name : Path} {location : Location} {content : Bytes}
  {number : Nat}

theorem nodeAt_eq_directory_iff :
    fs.nodeAt location = some .directory ↔ fs.entryAt location = some .directory := by
  unfold nodeAt view
  cases fs.entryAt location with
  | none => simp
  | some entry =>
    cases entry with
    | file number => simp
    | directory => simp

theorem nodeAt_eq_file_iff :
    fs.nodeAt location = some (.file content) ↔
      ∃ number, fs.entryAt location = some (.file number) ∧ fs.contents number = content := by
  unfold nodeAt view
  cases fs.entryAt location with
  | none => simp
  | some entry =>
    cases entry with
    | file number => simp
    | directory => simp

theorem nodeAt_eq_none_iff : fs.nodeAt location = none ↔ fs.entryAt location = none := by
  unfold nodeAt
  exact Option.map_eq_none_iff

theorem entryAt_congr (same : after.entries = before.entries) (location : Location) :
    after.entryAt location = before.entryAt location := by
  unfold entryAt
  rw [same]

theorem entryAt_enter_self (notRoot : location ≠ .root) (entry : Entry) :
    (fs.enter location entry).entryAt location = some entry := by
  simp [entryAt, enter, notRoot]

theorem entryAt_enter_other {other : Location} (different : other ≠ location) (entry : Entry) :
    (fs.enter location entry).entryAt other = fs.entryAt other := by
  unfold entryAt enter
  split
  · rfl
  · rw [List.find?_cons_of_neg (by simpa using Ne.symm different), List.find?_filter]
    congr 2
    funext entry
    by_cases here : entry.1 = other
    · simp [here, different]
    · simp [here]

theorem exists_entry (there : fs.entryAt location = some (.file number)) :
    ∃ entry ∈ fs.entries, entry.2 = .file number := by
  unfold entryAt at there
  split at there
  next root => cases there
  next inside =>
    obtain ⟨entry, found, same⟩ := Option.map_eq_some_iff.1 there
    exact ⟨entry, List.mem_of_find?_eq_some found, same⟩

theorem lt_fresh (there : fs.entryAt location = some (.file number)) : number < fs.fresh := by
  obtain ⟨entry, member, same⟩ := exists_entry there
  have past : entry.2.past = number + 1 := by rw [same, Entry.past]
  have listed : number + 1 ∈ fs.entries.map fun entry => entry.2.past := List.mem_map.2 ⟨entry, member, past⟩
  exact List.le_max_of_le listed (Nat.le_refl _)

def newEntry (fs : FileSystem) : Node → Entry
  | .file _ => .file fs.fresh
  | .directory => .directory

theorem entryAt_put_self (missing : fs.entryAt location = none) (node : Node) :
    (fs.put location node).entryAt location = some (fs.newEntry node) := by
  have notRoot : location ≠ .root := by
    rintro rfl
    cases missing
  cases node with
  | file content => exact entryAt_enter_self notRoot (.file fs.fresh)
  | directory => exact entryAt_enter_self notRoot .directory

theorem entryAt_put_other {other : Location} (different : other ≠ location) (node : Node) :
    (fs.put location node).entryAt other = fs.entryAt other := by
  cases node with
  | file content => exact entryAt_enter_other different _
  | directory => exact entryAt_enter_other different _

theorem contents_put_of_ne {node : Node} (other : number ≠ fs.fresh) :
    (fs.put location node).contents number = fs.contents number := by
  cases node with
  | file content => exact if_neg other
  | directory => rfl

/-- A change that removes nothing: the working directory and all entries stay, and a file with two names had both. -/
structure Keeps (before after : FileSystem) : Prop where
  home : after.home = before.home
  entries : ∀ location entry, before.entryAt location = some entry → after.entryAt location = some entry
  shared : ∀ location other number, after.entryAt location = some (.file number) →
    after.entryAt other = some (.file number) → other ≠ location → before.entryAt location = some (.file number)

theorem Keeps.refl (fs : FileSystem) : Keeps fs fs := ⟨rfl, fun _ _ there => there, fun _ _ _ there _ _ => there⟩

theorem Keeps.trans (first : Keeps before middle) (second : Keeps middle after) : Keeps before after := by
  refine ⟨second.home.trans first.home, ?_, ?_⟩
  · intro location entry there
    exact second.entries location entry (first.entries location entry there)
  · intro location other number there again different
    have one := second.shared location other number there again different
    have two := second.shared other location number again there different.symm
    exact first.shared location other number one two different

theorem Keeps.directories (keeps : Keeps before after) (there : before.nodeAt location = some .directory) :
    after.nodeAt location = some .directory :=
  nodeAt_eq_directory_iff.2 (keeps.entries _ _ (nodeAt_eq_directory_iff.1 there))

theorem Keeps.start (keeps : Keeps before after) (path : Path) : after.start path = before.start path := by
  unfold FileSystem.start
  rw [keeps.home]

theorem keeps_of_entries (home : after.home = before.home) (same : after.entries = before.entries) :
    Keeps before after := by
  refine ⟨home, ?_, ?_⟩
  · intro location entry there
    rw [entryAt_congr same, there]
  · intro location _ number there _ _
    rw [← entryAt_congr same, there]

theorem keeps_put (missing : fs.entryAt location = none) (node : Node) : Keeps fs (fs.put location node) := by
  have home : (fs.put location node).home = fs.home := by
    cases node with
    | file content => rfl
    | directory => rfl
  refine ⟨home, ?_, ?_⟩
  · intro other entry there
    have different : other ≠ location := by
      rintro rfl
      cases missing.symm.trans there
    rw [entryAt_put_other different, there]
  · -- The number of a new file is that of no other entry, so a file with two names is not new.
    have isNew : ∀ {place : Location} {number : Nat}, place ≠ location →
        (fs.put location node).entryAt place = some (.file number) → fs.newEntry node ≠ .file number := by
      intro place number different there same
      rw [entryAt_put_other different] at there
      cases node with
      | file content =>
        cases same
        exact absurd (lt_fresh there) (Nat.lt_irrefl _)
      | directory => cases same
    intro place other number there again different
    by_cases here : place = location
    · rw [here, entryAt_put_self missing] at there
      exact absurd (Option.some.inj there) (isNew (fun same => different (same.trans here.symm)) again)
    · rwa [entryAt_put_other here] at there

theorem Keeps.advance (keeps : Keeps before after) {step : Path.Step} {next : Location}
    (walked : before.advance location step = .ok next) : after.advance location step = .ok next := by
  unfold FileSystem.advance at walked ⊢
  split at walked
  next missing => cases walked
  next blocked => cases walked
  next there =>
    rw [keeps.directories there]
    exact walked

theorem Keeps.foldlM_advance (keeps : Keeps before after) {steps : List Path.Step} {found : Location}
    (walked : steps.foldlM before.advance location = .ok found) :
    steps.foldlM after.advance location = .ok found := by
  induction steps generalizing location with
  | nil => exact walked
  | cons step rest ih =>
    rw [List.foldlM_cons] at walked ⊢
    obtain ⟨next, first, later⟩ := bind_eq_ok_iff.1 walked
    exact bind_eq_ok_iff.2 ⟨next, keeps.advance first, ih later⟩

theorem walk_eq_ok {steps : List Path.Step} (walked : fs.walk path steps = .ok location) :
    steps.foldlM fs.advance (fs.start path) = .ok location := by
  unfold walk at walked
  split at walked
  · cases walked
  split at walked
  · cases walked
  split at walked
  · cases walked
  · exact walked

theorem Keeps.locate (keeps : Keeps before after) (located : before.locate path = .ok location) :
    after.locate path = .ok location := by
  have arrived := walk_eq_ok located
  have later := keeps.foldlM_advance arrived
  unfold FileSystem.locate walk at located ⊢
  rw [keeps.start, later]
  rw [arrived] at located
  exact located

def LeadsTo (fs : FileSystem) (path : Path) (number : Nat) : Prop :=
  ∃ location, fs.locate path = .ok location ∧ fs.entryAt location = some (.file number)

theorem Keeps.leadsTo (keeps : Keeps before after) (leads : before.LeadsTo path number) :
    after.LeadsTo path number := by
  obtain ⟨location, located, there⟩ := leads
  exact ⟨location, keeps.locate located, keeps.entries location _ there⟩

theorem lookup_eq_ok_iff {node : Node} :
    fs.lookup path = .ok node ↔ ∃ location, fs.locate path = .ok location ∧ fs.nodeAt location = some node := by
  unfold lookup
  cases fs.locate path with
  | error refusal => simp [bind, Except.bind]
  | ok location =>
    simp only [bind, Except.bind, Except.ok.injEq, exists_eq_left']
    cases fs.nodeAt location with
    | none => simp
    | some node => simp

theorem contentOf_eq_ok_iff :
    fs.contentOf path = .ok content ↔ ∃ number, fs.LeadsTo path number ∧ fs.contents number = content := by
  have found : fs.contentOf path = .ok content ↔ fs.lookup path = .ok (.file content) := by
    unfold contentOf
    cases fs.lookup path with
    | error refusal => simp
    | ok node =>
      cases node with
      | directory => simp
      | file content => simp
  simp only [found, lookup_eq_ok_iff, nodeAt_eq_file_iff, LeadsTo]
  grind

/-- Two paths lead to one file. -/
def SameFile (fs : FileSystem) (left right : Path) : Prop := ∃ number, fs.LeadsTo left number ∧ fs.LeadsTo right number

/-- No file has two names. -/
def Single (fs : FileSystem) : Prop :=
  ∀ location other number, fs.entryAt location = some (.file number) → fs.entryAt other = some (.file number) →
    location = other

theorem single_of_directories (only : ∀ entry ∈ fs.entries, entry.2 = .directory) : fs.Single := by
  intro location other number there
  obtain ⟨entry, member, same⟩ := exists_entry there
  cases (only entry member).symm.trans same

theorem single_rooted (home : List String) : (rooted home).Single := by
  apply single_of_directories
  refine List.foldlRecOn (motive := fun fs : FileSystem => ∀ entry ∈ fs.entries, entry.2 = .directory) home _ ?_ ?_
  · exact fun _ member => absurd member List.not_mem_nil
  · intro fs only name _
    exact List.forall_mem_cons.2 ⟨rfl, only⟩

theorem Keeps.single (keeps : Keeps before after) (single : before.Single) : after.Single := by
  intro location other number there again
  by_contra different
  have one := keeps.shared location other number there again (Ne.symm different)
  have two := keeps.shared other location number again there different
  exact different (single location other number one two)

theorem entryAt_ofNodes {nodes : List (Location × Node)} (notRoot : location ≠ .root)
    (absent : location ∉ nodes.map Prod.fst) : (ofNodes nodes).entryAt location = none := by
  induction nodes with
  | nil => exact if_neg notRoot
  | cons node rest ih =>
    rw [List.map_cons, List.mem_cons, not_or] at absent
    change ((ofNodes rest).put node.1 node.2).entryAt location = none
    rw [entryAt_put_other absent.1, ih absent.2]

theorem single_ofNodes {nodes : List (Location × Node)} (distinct : (Location.root :: nodes.map Prod.fst).Nodup) :
    (ofNodes nodes).Single := by
  rw [List.nodup_cons] at distinct
  obtain ⟨notRoot, distinct⟩ := distinct
  induction nodes with
  | nil => exact single_rooted []
  | cons node rest ih =>
    rw [List.map_cons, List.mem_cons, not_or] at notRoot
    rw [List.map_cons, List.nodup_cons] at distinct
    exact (keeps_put (entryAt_ofNodes (Ne.symm notRoot.1) distinct.1) node.2).single (ih notRoot.2 distinct.2)

/-- A file that is opened for writing: one that was there, now empty, or a new one. -/
structure Opens (before : FileSystem) (path : Path) (number : Nat) (after : FileSystem) : Prop
    extends Keeps before after where
  place : ∃ location, after.locate path = .ok location ∧ after.entryAt location = some (.file number) ∧
    ∀ other, other ≠ location → after.entryAt other = before.entryAt other
  emptied : after.contents number = []
  others : ∀ other, other ≠ number → after.contents other = before.contents other
  answers : after.answers = before.answers

theorem Opens.leadsTo (opens : Opens before path number after) : after.LeadsTo path number := by
  obtain ⟨location, located, there, -⟩ := opens.place
  exact ⟨location, located, there⟩

theorem opens_of_create (created : fs.create path = .ok (number, after)) : Opens fs path number after := by
  obtain ⟨location, located, opened⟩ := bind_eq_ok_iff.1 created
  split at opened
  next there => cases opened
  next found there =>
    obtain ⟨rfl, rfl⟩ := Prod.mk.inj (Except.ok.inj opened)
    have keeps : Keeps fs (fs.fill found []) := keeps_of_entries rfl rfl
    refine ⟨keeps, ⟨location, keeps.locate located, there, fun _ _ => rfl⟩, if_pos rfl, ?_, rfl⟩
    intro other different
    exact if_neg different
  next missing =>
    obtain ⟨rfl, rfl⟩ := Prod.mk.inj (Except.ok.inj opened)
    have keeps := keeps_put missing (.file [])
    refine ⟨keeps, ⟨location, keeps.locate located, entryAt_put_self missing _, ?_⟩, if_pos rfl, ?_, rfl⟩
    · intro other different
      exact entryAt_put_other different _
    · intro other different
      exact contents_put_of_ne different

theorem locate_join (isName : Path.IsName name)
    (located : fs.locate (Path.join directory name) = .ok location) :
    ∃ around, directory.pieceSteps.foldlM fs.advance (fs.start directory) = .ok around ∧
      location = around.enter name := by
  have walked := walk_eq_ok located
  have sameStart : fs.start (Path.join directory name) = fs.start directory := by
    unfold start
    rw [Path.isAbsolute_join isName]
  rw [Path.steps_join isName, sameStart, List.foldlM_append] at walked
  obtain ⟨around, arrived, entered⟩ := bind_eq_ok_iff.1 walked
  obtain ⟨found, stepped, last⟩ := bind_eq_ok_iff.1 entered
  obtain rfl : found = location := Except.ok.inj last
  refine ⟨around, arrived, ?_⟩
  unfold advance at stepped
  split at stepped
  next missing => cases stepped
  next blocked => cases stepped
  next there =>
    simp only at stepped
    split at stepped
    next short => exact (Except.ok.inj stepped).symm
    next long => cases stepped

/-- Different names of one directory never lead to one place. -/
theorem locate_join_inj {left right : Path} (leftIsName : Path.IsName left) (rightIsName : Path.IsName right)
    (leftLocated : fs.locate (Path.join directory left) = .ok location)
    (rightLocated : fs.locate (Path.join directory right) = .ok location) : left = right := by
  obtain ⟨around, arrived, here⟩ := locate_join leftIsName leftLocated
  obtain ⟨otherAround, otherArrived, otherHere⟩ := locate_join rightIsName rightLocated
  obtain rfl : around = otherAround := Except.ok.inj (arrived.symm.trans otherArrived)
  exact Location.enter_inj (here.symm.trans otherHere)

theorem Single.not_sameFile (single : fs.Single) {left right : String} (leftIsName : Path.IsName left)
    (rightIsName : Path.IsName right) (different : left ≠ right) :
    ¬fs.SameFile (Path.join directory left) (Path.join directory right) := by
  rintro ⟨number, ⟨location, located, there⟩, other, otherLocated, again⟩
  obtain rfl := single location other number there again
  exact different (locate_join_inj leftIsName rightIsName located otherLocated)

/-- No two of some names in a directory are names of one file. -/
def Apart (fs : FileSystem) (directory : Path) (names : List String) : Prop :=
  ∀ left ∈ names, ∀ right ∈ names, left ≠ right →
    ¬fs.SameFile (Path.join directory left) (Path.join directory right)

theorem Single.apart (single : fs.Single) {names : List String} (areNames : ∀ name ∈ names, Path.IsName name) :
    fs.Apart directory names :=
  fun left leftNamed right rightNamed => single.not_sameFile (areNames left leftNamed) (areNames right rightNamed)

theorem Apart.mono {left right : List String} (apart : fs.Apart directory right) (included : left ⊆ right) :
    fs.Apart directory left :=
  fun name named other otherNamed => apart name (included named) other (included otherNamed)

theorem Keeps.apart (keeps : Keeps before after) {names : List String} (apart : after.Apart directory names) :
    before.Apart directory names := by
  intro left leftNamed right rightNamed different same
  obtain ⟨number, leads, leadsToo⟩ := same
  exact apart left leftNamed right rightNamed different ⟨number, keeps.leadsTo leads, keeps.leadsTo leadsToo⟩

end FileSystem

/-- A file system in which every file has one name. -/
structure FileTree extends FileSystem where
  single : toFileSystem.Single

def FileTree.rooted (home : List String) : FileTree := ⟨.rooted home, FileSystem.single_rooted home⟩

end AgreementAudit
