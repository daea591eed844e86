import AgreementAudit.Audit
import AgreementAudit.Generator
import AgreementAudit.Json

/-! The two forms of a report: lines of text for readers and one JSON document for programs. -/
namespace AgreementAudit

/-- Every document tells at the top whether all is well and holds its data below. -/
def document (ok : Bool) (data : Json) : Json := .object [("ok", .bool ok), ("data", data)]

namespace Violation

def describe (violation : Violation) : String :=
  let broken := violation.property.title ++ " violated by " ++ violation.subject
  match violation.against with
  | some other => broken ++ " against " ++ other ++ ": " ++ violation.message
  | none => broken ++ ": " ++ violation.message

def json (violation : Violation) : Json :=
  .object [
    ("property", .text violation.property.key),
    ("subject", .text violation.subject),
    ("against", match violation.against with
      | some other => .text other
      | none => .null),
    ("round", .number violation.round),
    ("values", .array (violation.values.map fun value => .number value.toNat)),
    ("message", .text violation.message)]

end Violation

namespace CheckReport

def lines (report : CheckReport) : List String :=
  if report.passed then ["Validation passed (" ++ report.comparisons.repr ++ " comparisons)"]
  else report.violations.map Violation.describe ++ ["Validation failed!"]

def json (report : CheckReport) : Json :=
  .object [
    ("verdict", .text report.verdict.key),
    ("processes", .number report.processes),
    ("comparisons", .number report.comparisons),
    ("violations", .array (report.violations.map Violation.json))]

end CheckReport

namespace GenerateReport

def lines (report : GenerateReport) : List String :=
  report.files.map ("wrote " ++ ·) ++
    ["generated " ++ report.files.length.repr ++ " files (" ++ report.proposals.toNat.repr ++
      " proposals, max length " ++ report.maxLength.toNat.repr ++ ", " ++ report.values.toNat.repr ++
      " values)"]

def json (report : GenerateReport) : Json :=
  .object [
    ("directory", .text report.directory),
    ("files", .array (report.files.map .text)),
    ("proposals", .number report.proposals.toNat),
    ("max_length", .number report.maxLength.toNat),
    ("values", .number report.values.toNat)]

end GenerateReport

end AgreementAudit
