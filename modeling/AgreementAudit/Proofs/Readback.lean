import AgreementAudit.Proofs.DeclaredCount
import AgreementAudit.Proofs.Writing

/-! Files read back as they were written. A generated config file gives the proposals that were drawn, an output
file gives the sets that were decided, and a process whose files have equally many of both is loaded without a
warning. -/
namespace AgreementAudit

/-- The text of an output file, in which each round has a line of its own. -/
def outputText (rounds : List Nat) (values : Nat → List Value) (trailing : Nat → Bool) : String :=
  Text.endLines (rounds.map fun round => lineOf (values round) (trailing round))

variable {fs : FileSystem} {path : Path}

theorem plain_render (header : Header) : Text.Plain header.render :=
  Text.Plain.spaced [header.proposals.toNat, header.maxLength.toNat, header.values.toNat]

theorem lines_configText (header : Header) (proposals : List (List Value)) :
    Text.lines (Text.encode (configText header proposals)) =
      Text.encode header.render :: proposals.map fun values => Text.encode (lineOf values false) := by
  have plain : ∀ text ∈ header.render :: proposals.map ValueLine.render, Text.Plain text := by
    intro text member
    rcases List.mem_cons.1 member with first | later
    · rw [first]
      exact plain_render header
    · obtain ⟨values, -, same⟩ := List.mem_map.1 later
      rw [← same]
      exact plain_lineOf values false
  rw [configText, Text.lines_encode_endLines plain, List.map_cons, List.map_map]
  rfl

theorem ProposalFile.read_configText {header : Header} {proposals : List (List Value)}
    (held : fs.contentOf path = .ok (Text.encode (configText header proposals)))
    (counted : proposals.length = header.proposals.toNat) (fits : header.proposals.toNat ≤ listRoom) :
    read fs path = ⟨[], .ok ⟨path, header, proposals.map .ofList⟩⟩ := by
  have valued : List.Forall₂ SpellsSet (proposals.map fun values => Text.encode (lineOf values false))
      (proposals.map .ofList) := by
    rw [List.forall₂_map_left_iff, List.forall₂_map_right_iff, List.forall₂_same]
    intro values _
    exact spellsSet_lineOf false fun value => ValueSet.mem_ofList
  have agreed : countEvents ⟨path, header, proposals.map .ofList⟩ = [] := by
    unfold countEvents
    rw [if_pos (by rw [List.length_map, counted])]
  rw [read_of_content held, ofContent_of_spelled (lines_configText header proposals) (spellsHeader_render header)
    valued, if_pos fits, agreed]

theorem DecisionLog.read_outputText {rounds : List Nat} {values : Nat → List Value} {trailing : Nat → Bool}
    {decided : Nat → ValueSet}
    (held : fs.contentOf path = .ok (Text.encode (outputText rounds values trailing)))
    (same : ∀ round ∈ rounds, ∀ value, value ∈ decided round ↔ value ∈ values round) :
    read fs path = .ok ⟨path, rounds.map decided⟩ := by
  have plain : ∀ text ∈ rounds.map fun round => lineOf (values round) (trailing round), Text.Plain text := by
    intro text member
    obtain ⟨round, -, whole⟩ := List.mem_map.1 member
    rw [← whole]
    exact plain_lineOf _ _
  have cut : Text.lines (Text.encode (outputText rounds values trailing)) =
      rounds.map fun round => Text.encode (lineOf (values round) (trailing round)) := by
    rw [outputText, Text.lines_encode_endLines plain, List.map_map]
    rfl
  have valued : List.Forall₂ SpellsSet
      (rounds.map fun round => Text.encode (lineOf (values round) (trailing round))) (rounds.map decided) := by
    rw [List.forall₂_map_left_iff, List.forall₂_map_right_iff, List.forall₂_same]
    intro round member
    exact spellsSet_lineOf _ (same round member)
  have accepted := (readSets_eq_ok_iff path 1).2 valued
  unfold read
  rw [held]
  change (readSets path 1 _ >>= fun _ => _) = _
  rw [cut, accepted]
  rfl

theorem Traced.mapM_of_ok {Item Answer : Type} {step : Item → Traced Answer} {told : Item → List Event}
    {answer : Item → Answer} {items : List Item}
    (succeeds : ∀ item ∈ items, step item = ⟨told item, .ok (answer item)⟩) :
    items.mapM step = ⟨items.flatMap told, .ok (items.map answer)⟩ := by
  induction items with
  | nil => rfl
  | cons item rest ih =>
    have first := succeeds item List.mem_cons_self
    have later := ih fun other member => succeeds other (List.mem_cons_of_mem _ member)
    rw [List.mapM_cons, first, later]
    simp [bind_of_ok, pure_def]

theorem Run.load_of_even {record : Record} {config : ProposalFile} {output : DecisionLog}
    (allowIncomplete : Bool) (readConfig : ProposalFile.read fs record.config = ⟨[], .ok config⟩)
    (readOutput : DecisionLog.read fs record.output = .ok output)
    (even : config.proposals.length = output.decisions.length) :
    load fs allowIncomplete record =
      ⟨[.processLoaded record.index output.decisions.length config.header.values.toNat],
        .ok ⟨record, config, output⟩⟩ := by
  have aligned : align config output allowIncomplete = pure () := if_pos even
  rw [load, readConfig, readOutput]
  simp [Traced.ofExcept, Traced.report, Traced.bind_of_ok, Traced.pure_def, aligned]

end AgreementAudit
