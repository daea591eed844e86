import AgreementAudit.Proofs.OutputModes

/-! The text of a report as a document. What a check prints is a text of one document and of no other, and from that
document the whole report is recovered, so no two reports are printed alike. -/
namespace AgreementAudit

def documentText (ok : Bool) (report : CheckReport) : String :=
  Text.endLines ((printReport true ok report.json report.lines).filterMap Effect.line?)

theorem isText_documentText_iff (ok : Bool) (report : CheckReport) (sent : Json) :
    sent.IsText (documentText ok report) ↔ sent = document ok report.json := Json.isText_endLines_iff

/-- The text printed of a report is one document, from which all of it is read back. -/
theorem report_document_loses_nothing (ok : Bool) (report : CheckReport) :
    (∀ sent : Json, sent.IsText (documentText ok report) ↔ sent = document ok report.json) ∧
      (document ok report.json).report? = some (ok, report) ∧
      (∀ violation ∈ report.violations,
        violation.json.field? "against" = some .null ↔ violation.against = none) ∧
      ∀ (otherOk : Bool) (other : CheckReport),
        documentText ok report = documentText otherOk other → ok = otherOk ∧ report = other := by
  refine ⟨isText_documentText_iff ok report, Json.report?_document ok report, ?_, ?_⟩
  · intro violation _
    exact violation.field?_against_eq_null_iff
  · intro otherOk other same
    have written := (isText_documentText_iff ok report (document ok report.json)).2 rfl
    have documents := (isText_documentText_iff otherOk other _).1 (same ▸ written)
    have reports : some (ok, report) = some (otherOk, other) := by
      rw [← Json.report?_document ok report, documents, Json.report?_document]
    exact Prod.mk.inj (Option.some.inj reports)

def awkward (against : Option Path) : Violation where
  property := .universeContainment
  subject := "logs/\"1\"\\\n\x01.output"
  against
  round := 1
  values := [0, 4294967295]
  message := "null"

def awkwardReport (against : Option Path) : CheckReport :=
  ⟨.failed, 2, 7, [awkward against, awkward (some "\\\"")]⟩

theorem report_document_loses_nothing_null :
    (document false (awkwardReport none).json).report? = some (false, awkwardReport none) ∧
      (awkward none).json.field? "against" = some .null ∧
      documentText false (awkwardReport none) ≠ documentText false (awkwardReport (some "null")) := by
  obtain ⟨-, recovered, absent, apart⟩ := report_document_loses_nothing false (awkwardReport none)
  refine ⟨recovered, (absent (awkward none) List.mem_cons_self).2 rfl, ?_⟩
  intro same
  exact absurd (apart false (awkwardReport (some "null")) same).2 (by decide)

end AgreementAudit
