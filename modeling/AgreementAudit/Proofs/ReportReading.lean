import AgreementAudit.Report

/-! Reading a report back from its document. Each part of the report stands in the document under its name, and a reader
that goes by these names recovers all of them. -/
namespace AgreementAudit

namespace Json

variable {Item : Type}

def field? (name : String) : Json → Option Json
  | .object fields => fields.lookup name
  | _ => none

def bool? : Json → Option Bool
  | .bool value => some value
  | _ => none

def number? : Json → Option Nat
  | .number value => some value
  | _ => none

def text? : Json → Option String
  | .text value => some value
  | _ => none

def items? (read : Json → Option Item) : Json → Option (List Item)
  | .array items => items.mapM read
  | _ => none

/-- Only what is absent is read from null. -/
def orNull? (read : Json → Option Item) : Json → Option (Option Item)
  | .null => some none
  | document => (read document).map some

def at? (name : String) (read : Json → Option Item) (document : Json) : Option Item :=
  document.field? name >>= read

def value? (document : Json) : Option Value := do
  let number ← document.number?
  if number < UInt32.size then some (UInt32.ofNat number) else none

theorem items?_map {write : Item → Json} {read : Json → Option Item}
    (recovers : ∀ item, read (write item) = some item) (items : List Item) :
    items? read (.array (items.map write)) = some items := by
  change (items.map write).mapM read = some items
  induction items with
  | nil => rfl
  | cons item rest ih =>
    rw [List.map_cons, List.mapM_cons, recovers, ih]
    rfl

theorem value?_number (value : Value) : value? (.number value.toNat) = some value := by
  have fits : value.toNat < UInt32.size := value.toNat_lt
  change (if value.toNat < UInt32.size then some (UInt32.ofNat value.toNat) else none) = some value
  rw [if_pos fits, UInt32.ofNat_toNat]

end Json

open Json (at? bool? field? items? number? orNull? text? value?)

def Property.ofKey? (key : String) : Option Property :=
  [validity, universeContainment, chainConsistency].find? (·.key = key)

theorem Property.ofKey?_key (property : Property) : ofKey? property.key = some property := by
  cases property with
  | validity => rfl
  | universeContainment => rfl
  | chainConsistency => rfl

def Verdict.ofKey? (key : String) : Option Verdict := [passed, failed].find? (·.key = key)

theorem Verdict.ofKey?_key (verdict : Verdict) : ofKey? verdict.key = some verdict := by
  cases verdict with
  | passed => rfl
  | failed => rfl

namespace Violation

def ofJson? (document : Json) : Option Violation := do
  let property ← document.at? "property" (text? · >>= Property.ofKey?)
  let subject ← document.at? "subject" text?
  let against ← document.at? "against" (orNull? text?)
  let round ← document.at? "round" number?
  let values ← document.at? "values" (items? value?)
  let message ← document.at? "message" text?
  return { property, subject, against, round, values, message }

theorem ofJson?_json (violation : Violation) : ofJson? violation.json = some violation := by
  have property : violation.json.at? "property" (text? · >>= Property.ofKey?) = some violation.property :=
    Property.ofKey?_key violation.property
  have subject : violation.json.at? "subject" text? = some violation.subject := rfl
  have against : violation.json.at? "against" (orNull? text?) = some violation.against := by
    unfold json
    cases violation.against with
    | none => rfl
    | some other => rfl
  have round : violation.json.at? "round" number? = some violation.round := rfl
  have values : violation.json.at? "values" (items? value?) = some violation.values :=
    Json.items?_map Json.value?_number violation.values
  have message : violation.json.at? "message" text? = some violation.message := rfl
  simp only [ofJson?, property, subject, against, round, values, message]
  rfl

theorem field?_against_eq_null_iff (violation : Violation) :
    violation.json.field? "against" = some .null ↔ violation.against = none := by
  unfold json
  cases violation.against with
  | none => exact iff_of_true rfl rfl
  | some other => exact iff_of_false (fun null => nomatch null) (Option.some_ne_none other)

end Violation

namespace CheckReport

def ofJson? (document : Json) : Option CheckReport := do
  let verdict ← document.at? "verdict" (text? · >>= Verdict.ofKey?)
  let processes ← document.at? "processes" number?
  let comparisons ← document.at? "comparisons" number?
  let violations ← document.at? "violations" (items? Violation.ofJson?)
  return { verdict, processes, comparisons, violations }

theorem ofJson?_json (report : CheckReport) : ofJson? report.json = some report := by
  have verdict : report.json.at? "verdict" (text? · >>= Verdict.ofKey?) = some report.verdict :=
    Verdict.ofKey?_key report.verdict
  have processes : report.json.at? "processes" number? = some report.processes := rfl
  have comparisons : report.json.at? "comparisons" number? = some report.comparisons := rfl
  have violations : report.json.at? "violations" (items? Violation.ofJson?) = some report.violations :=
    Json.items?_map Violation.ofJson?_json report.violations
  simp only [ofJson?, verdict, processes, comparisons, violations]
  rfl

end CheckReport

/-- Whether all is well, with the report. -/
def Json.report? (document : Json) : Option (Bool × CheckReport) := do
  let ok ← document.at? "ok" bool?
  let report ← document.at? "data" CheckReport.ofJson?
  return (ok, report)

theorem Json.report?_document (ok : Bool) (report : CheckReport) :
    (document ok report.json).report? = some (ok, report) := by
  have well : (document ok report.json).at? "ok" bool? = some ok := rfl
  have data : (document ok report.json).at? "data" CheckReport.ofJson? = some report := report.ofJson?_json
  simp only [report?, well, data]
  rfl

end AgreementAudit
