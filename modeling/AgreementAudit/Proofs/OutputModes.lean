import AgreementAudit.Proofs.CheckedDirectory
import AgreementAudit.Proofs.FailFast
import AgreementAudit.Proofs.JsonRendering
import AgreementAudit.Proofs.LoadingFailures
import AgreementAudit.Proofs.ReportReading

/-! The modes of a check: as text or as one document, up to the first violation or through all of them. All of them
load the same runs and end with the same code, and a document takes the place of the lines of text without a change
to what they say. -/
namespace AgreementAudit

open CommandLine (CheckOptions Invocation)

namespace Effect

def line? : Effect → Option String
  | .print line => some line
  | .report _ => none

def event? : Effect → Option Event
  | .report event => some event
  | .print _ => none

theorem filterMap_event_report (events : List Event) : (events.map report).filterMap event? = events := by
  rw [List.filterMap_map]
  exact List.filterMap_some

end Effect

namespace CommandLine.CheckOptions

variable {options : CheckOptions} {fs : FileSystem} {runs : List Run} {failure : Failure}

/-- The runs that the files of a check hold. -/
def Loads (options : CheckOptions) (fs : FileSystem) (runs : List Run) : Prop :=
  ∃ records, options.records = .ok records ∧ (Run.loadAll fs options.allowIncomplete records).result = .ok runs

theorem load_result (options : CheckOptions) (fs : FileSystem) :
    (options.load fs).result =
      options.records >>= fun records => (Run.loadAll fs options.allowIncomplete records).result := by
  have last (loaded : List Run) :
      (Traced.report (.logsLoaded loaded.length) >>= fun _ => pure loaded : Traced (List Run)).result =
        pure loaded := rfl
  unfold load
  rw [Traced.result_bind, Traced.result_ofExcept]
  congr 1
  funext records
  rw [Traced.result_bind]
  simp only [last, bind_pure]

theorem load_result_eq_ok_iff : (options.load fs).result = .ok runs ↔ options.Loads fs runs := by
  rw [load_result, bind_eq_ok_iff]
  rfl

theorem execute_of_failed (json : Bool) (failed : (options.load fs).result = .error failure) :
    options.execute json fs =
      { effects := (options.load fs).events.map .report, ending := .failed failure, files := fs } := by
  unfold execute
  simp only [failed]

theorem execute_of_loaded (json : Bool) (loaded : (options.load fs).result = .ok runs) :
    let audit := runChecks runs options.keepGoing
    options.execute json fs =
      { effects := (options.load fs).events.map .report ++ audit.signals.map (effectOf json) ++
          printReport json audit.report.passed audit.report.json audit.report.lines
        ending := if audit.report.passed then .succeeded else .violated
        files := fs } := by
  unfold execute
  simp only [loaded]

theorem exitCode_of_loaded (json : Bool) (loaded : (options.load fs).result = .ok runs) :
    ((options.execute json fs).ending.exitCode = 0 ↔ Agreement runs) ∧
      ((options.execute json fs).ending.exitCode = 1 ↔ ¬Agreement runs) := by
  have whole : options.load fs = ⟨(options.load fs).events, .ok runs⟩ := Traced.ext rfl loaded
  exact exitCode_of_load json whole

theorem exitCode_of_failed (json : Bool) (failed : (options.load fs).result = .error failure) :
    (options.execute json fs).ending.exitCode = (Ending.failed failure).exitCode := by
  rw [execute_of_failed json failed]

theorem exitCode_eq_zero_iff (json : Bool) :
    (options.execute json fs).ending.exitCode = 0 ↔
      ∃ runs, options.Loads fs runs ∧ (runChecks runs options.keepGoing).report.verdict = .passed := by
  simp only [← load_result_eq_ok_iff, runChecks_passed_iff_agreement]
  cases found : (options.load fs).result with
  | error failure =>
    rw [exitCode_of_failed json found]
    cases failure with
    | _ => simp [Ending.exitCode]
  | ok runs =>
    rw [(exitCode_of_loaded json found).1]
    simp

end CommandLine.CheckOptions

theorem CheckReport.lines_eq (report : CheckReport) :
    report.lines =
      if report.verdict = .passed then ["Validation passed (" ++ report.comparisons.repr ++ " comparisons)"]
      else report.violations.map Violation.describe ++ ["Validation failed!"] := by
  unfold lines passed
  simp only [decide_eq_true_iff]

end AgreementAudit
