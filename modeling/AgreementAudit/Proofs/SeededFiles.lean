import AgreementAudit.Proofs.FirstFault
import AgreementAudit.Proofs.GeneratedFiles

/-! What a generated file depends on. The share of a process in the draws is settled by the state of the sampler, by the
header of the files and by how many files come before it; directories, the number of processes and a longest length that
is capped anyway have no part in it. -/
namespace AgreementAudit

variable {State : Type} {sampler : Sampler State} {parameters : GeneratorParameters} {header : Header}
  {directory : Path} {fs : FileSystem} {state left : State}

/-- The proposals of one file, drawn when those of so many files before it have been drawn. -/
def drawFileBehind (sampler : Sampler State) (header : Header) : Nat → State → Except Failure (List (List Value))
  | 0, state => do
    let (proposals, _) ← drawProposals sampler header.values header.maxLength header.proposals.toNat state
    return proposals
  | before + 1, state => do
    let (_, next) ← drawProposals sampler header.values header.maxLength header.proposals.toNat state
    drawFileBehind sampler header before next

theorem drawFileBehind_of_drawFiles {count : Nat} {drawn : List (List (List Value))}
    (made : drawFiles sampler header count state = .ok (drawn, left)) :
    List.Forall₂ (fun before proposals => drawFileBehind sampler header before state = .ok proposals)
      (List.range count) drawn := by
  induction count generalizing state drawn with
  | zero =>
    obtain ⟨rfl, -⟩ := Prod.mk.inj (Except.ok.inj made)
    exact .nil
  | succ count ih =>
    obtain ⟨⟨proposals, next⟩, first, others⟩ := bind_eq_ok_iff.1 made
    obtain ⟨⟨rest, final⟩, found, whole⟩ := bind_eq_ok_iff.1 others
    obtain ⟨rfl, rfl⟩ := Prod.mk.inj (Except.ok.inj whole)
    rw [List.range_succ_eq_map]
    refine .cons ?_ (List.forall₂_map_left_iff.2 ?_)
    · rw [drawFileBehind, first]
      rfl
    · refine (ih found).imp ?_
      intro before shown same
      rw [drawFileBehind, first]
      exact same

/-- The config file of a process holds the share of the process in the draws from a state. -/
def HoldsShare (sampler : Sampler State) (header : Header) (state : State) (directory : Path) (fs : FileSystem)
    (index : Nat) : Prop :=
  ∃ proposals, drawFileBehind sampler header (index - 1) state = .ok proposals ∧
    fs.contentOf (Path.join directory (configName index)) = .ok (Text.encode (configText header proposals))

theorem HoldsShare.alike {otherDirectory : Path} {otherFiles : FileSystem} {index : Nat}
    (holds : HoldsShare sampler header state directory fs index)
    (otherHolds : HoldsShare sampler header state otherDirectory otherFiles index) :
    ∃ content, fs.contentOf (Path.join directory (configName index)) = .ok content ∧
      otherFiles.contentOf (Path.join otherDirectory (configName index)) = .ok content := by
  obtain ⟨proposals, drawn, held⟩ := holds
  obtain ⟨others, drawnToo, otherHeld⟩ := otherHolds
  obtain rfl : proposals = others := Except.ok.inj (drawn.symm.trans drawnToo)
  exact ⟨_, held, otherHeld⟩

namespace GeneratorParameters

theorem Fills.holdsShare {before after : FileSystem} {count : Nat} {begun behind : List Nat}
    {drawn : List (List (List Value))} {writing : Traced (List Path)}
    (fills : parameters.Fills sampler directory before state (List.range' 1 count) begun behind drawn left after writing) :
    ∀ index ∈ List.range' 1 count, Alone directory begun after index →
      HoldsShare sampler parameters.header state directory after index := by
  have draws := fills.draws
  have holds := fills.holds
  rw [List.length_range'] at draws
  rw [List.range'_eq_map_range, List.forall₂_map_left_iff] at holds
  have both := (drawFileBehind_of_drawFiles draws).mp (fun _ _ => And.intro) holds
  rw [List.range'_eq_map_range, List.forall_mem_map]
  intro before member alone
  obtain ⟨proposals, drawnBehind, held⟩ := exists_forall₂_iff.1 ⟨drawn, both⟩ before member
  have place : 1 + before - 1 = before := by omega
  exact ⟨proposals, place.symm ▸ drawnBehind, held alone⟩

theorem holdsShare_of_succeeded {report : GenerateReport}
    (succeeded : (parameters.writeConfigs sampler directory fs state).2.result = .ok report) :
    let after := (parameters.writeConfigs sampler directory fs state).1
    ∀ index ∈ List.range' 1 parameters.processes.toNat,
      Alone directory (List.range' 1 parameters.processes.toNat) after index →
        HoldsShare sampler parameters.header state directory after index := by
  obtain ⟨made, drawn, left, writing, fills, -, -⟩ := fills_of_succeeded succeeded
  exact fills.holdsShare

end GeneratorParameters

def narrowShape (processes maxLength : UInt64) : GeneratorParameters :=
  { processes, proposals := 2, values := 3, maxLength }

def narrowFiles (processes maxLength : UInt64) (directory : Path) : FileSystem × Traced GenerateReport :=
  (narrowShape processes maxLength).writeConfigs Mixing.sampler directory (FileTree.rooted ["work"]).toFileSystem
    (.start 0 (some 7))

end AgreementAudit
