import AgreementAudit.EventFilter.Setting
import AgreementAudit.Proofs.EventLines
import AgreementAudit.Proofs.LoadingOrder
import AgreementAudit.Proofs.LogReading

/-! What a check warns of. Two anomalies are tolerated, and each is told once for the record in which it is found: a
header that declares another number of proposals than there are and, where that is allowed, another number of decisions
than of proposals. -/
namespace AgreementAudit

open CommandLine (CheckOptions Invocation)

def Event.warns (event : Event) : Bool := event.level = .warn

namespace Record

/-- The warning that the header of a record gives cause for, if all its proposals can be read. -/
def headerWarnings (fs : FileSystem) (record : Record) : List Event :=
  match (ProposalFile.read fs record.config).result with
  | .error _ => []
  | .ok file =>
    let declared := file.header.proposals.toNat
    let found := file.proposals.length
    if declared = found then [] else [.countDisagrees record.config declared found]

/-- The warning that the lengths of a record give cause for, if both its files can be read. -/
def lengthWarnings (fs : FileSystem) (allowIncomplete : Bool) (record : Record) : List Event :=
  match (ProposalFile.read fs record.config).result, DecisionLog.read fs record.output with
  | .ok file, .ok log =>
    let proposals := file.proposals.length
    let decisions := log.decisions.length
    if allowIncomplete = true ∧ proposals ≠ decisions then
      [.lengthsTolerated record.config record.output proposals decisions]
    else []
  | _, _ => []

def warnings (fs : FileSystem) (allowIncomplete : Bool) (record : Record) : List Event :=
  record.headerWarnings fs ++ record.lengthWarnings fs allowIncomplete

/-- The records that are looked at: all of them, or those up to the first one that cannot be loaded. -/
def lookedAt (fs : FileSystem) (allowIncomplete : Bool) (records : List Record) : List Record :=
  upToFirst (fun record => (Failure.of? (Run.load fs allowIncomplete record).result).isSome) records

end Record

def Run.CountsRight (run : Run) : Prop := run.config.header.proposals.toNat = run.config.proposals.length

namespace Traced

variable {Answer Next Item : Type} {kept : Event → Bool}

theorem filter_events_bind_of_silent {first : Traced Answer} {next : Answer → Traced Next}
    (silent : ∀ answer, (next answer).events.filter kept = []) :
    (first >>= next).events.filter kept = first.events.filter kept := by
  cases found : first.result with
  | error failure => rw [bind_of_error found]
  | ok answer => rw [bind_of_ok found, List.filter_append, silent, List.append_nil]

theorem filter_events_mapM (step : Item → Traced Answer) (items : List Item) :
    (items.mapM step).events.filter kept =
      (upToFirst (fun item => (Failure.of? (step item).result).isSome) items).flatMap
        fun item => (step item).events.filter kept := by
  induction items with
  | nil => rfl
  | cons item rest ih =>
    have behind (answer : Answer) : (rest.mapM step >>= fun answers => pure (answer :: answers)).events.filter kept =
        (rest.mapM step).events.filter kept := filter_events_bind_of_silent fun _ => rfl
    rw [List.mapM_cons, upToFirst_cons]
    cases found : (step item).result with
    | error failure => simp [bind_of_error found, Failure.of?]
    | ok answer =>
      have going : ¬(Failure.of? (.ok answer : Except Failure Answer)).isSome = true := Bool.false_ne_true
      rw [bind_of_ok found, List.filter_append, behind, ih, if_neg going, List.flatMap_cons]

end Traced

section Reading

variable {fs : FileSystem} {path : Path}

theorem ProposalFile.path_of_read {file : ProposalFile} (reads : (read fs path).result = .ok file) :
    file.path = path := by
  rw [read, Traced.result_bind, Traced.result_ofExcept, bind_eq_ok_iff] at reads
  obtain ⟨content, -, reads⟩ := reads
  rw [result_ofContent, ofLines_eq_ok_iff] at reads
  obtain ⟨-, -, -, same, -⟩ := reads
  exact same

theorem DecisionLog.path_of_read {log : DecisionLog} (reads : read fs path = .ok log) : log.path = path := by
  obtain ⟨content, -, reads⟩ := bind_eq_ok_iff.1 reads
  exact (ofContent_eq_ok_iff.1 reads).1

theorem ProposalFile.events_read (fs : FileSystem) (path : Path) :
    (read fs path).events =
      match (read fs path).result with
      | .error _ => []
      | .ok file => file.countEvents := by
  unfold read
  cases fs.contentOf path with
  | error failure => rfl
  | ok content =>
    rw [Traced.bind_of_ok rfl, ofContent]
    cases ofLines path (Text.lines content) with
    | error failure => rfl
    | ok file => rfl

theorem Record.filter_warns_read (fs : FileSystem) (record : Record) :
    (ProposalFile.read fs record.config).events.filter Event.warns = record.headerWarnings fs := by
  rw [ProposalFile.events_read, Record.headerWarnings]
  cases reads : (ProposalFile.read fs record.config).result with
  | error failure => rfl
  | ok file =>
    dsimp only
    rw [ProposalFile.countEvents, ProposalFile.path_of_read reads]
    by_cases right : file.header.proposals.toNat = file.proposals.length
    · rw [if_pos right, if_pos right.symm]
      rfl
    · rw [if_neg right, if_neg (Ne.symm right)]
      rfl

theorem Record.filter_warns_align {record : Record} {file : ProposalFile} {log : DecisionLog}
    (config : (ProposalFile.read fs record.config).result = .ok file)
    (output : DecisionLog.read fs record.output = .ok log) (allowIncomplete : Bool) :
    (align file log allowIncomplete).events.filter Event.warns = record.lengthWarnings fs allowIncomplete := by
  have ends : record.lengthWarnings fs allowIncomplete =
      if allowIncomplete = true ∧ file.proposals.length ≠ log.decisions.length then
        [.lengthsTolerated record.config record.output file.proposals.length log.decisions.length]
      else [] := by
    rw [Record.lengthWarnings, config, output]
  rw [ends, align, ProposalFile.path_of_read config, DecisionLog.path_of_read output]
  by_cases even : file.proposals.length = log.decisions.length
  · simp [even, Traced.pure_def]
  · cases allowIncomplete with
    | true => simp [even, Traced.report, Event.warns, Event.level]
    | false => simp [even, Traced.fail]

/-- What the loading of a record warns of are its warnings, and in the failing record those before the failure. -/
theorem Record.filter_warns_load (fs : FileSystem) (allowIncomplete : Bool) (record : Record) :
    (Run.load fs allowIncomplete record).events.filter Event.warns = record.warnings fs allowIncomplete := by
  have last (file : ProposalFile) (log : DecisionLog) :
      (align file log allowIncomplete >>= fun _ =>
        Traced.report (.processLoaded record.index log.decisions.length file.header.values.toNat) >>= fun _ =>
          pure (Run.mk record file log)).events.filter Event.warns =
        (align file log allowIncomplete).events.filter Event.warns :=
    Traced.filter_events_bind_of_silent fun _ => rfl
  rw [Record.warnings, ← Record.filter_warns_read, Run.load]
  cases config : (ProposalFile.read fs record.config).result with
  | error failure =>
    rw [Traced.bind_of_error config, Record.lengthWarnings, config, List.append_nil]
  | ok file =>
    rw [Traced.bind_of_ok config, List.filter_append]
    congr 1
    cases output : DecisionLog.read fs record.output with
    | error failure =>
      rw [Record.lengthWarnings, config, output]
      rfl
    | ok log =>
      rw [Traced.bind_of_ok rfl]
      exact (last file log).trans (Record.filter_warns_align config output allowIncomplete)

theorem Record.filter_warns_loadAll (fs : FileSystem) (allowIncomplete : Bool) (records : List Record) :
    (Run.loadAll fs allowIncomplete records).events.filter Event.warns =
      (Record.lookedAt fs allowIncomplete records).flatMap (Record.warnings fs allowIncomplete) := by
  have each : (fun record => (Run.load fs allowIncomplete record).events.filter Event.warns) =
      Record.warnings fs allowIncomplete := funext (Record.filter_warns_load fs allowIncomplete)
  rw [← each]
  exact Traced.filter_events_mapM _ _

end Reading

namespace CommandLine.CheckOptions

variable {options : CheckOptions} {fs : FileSystem} {runs : List Run} {failure : Failure}

theorem filter_warns_load_of_refused (refused : options.records = .error failure) :
    (options.load fs).events.filter Event.warns = [] := by
  rw [load, refused, Traced.bind_of_error rfl]
  rfl

theorem filter_warns_load_of_formed {records : List Record} (formed : options.records = .ok records) :
    (options.load fs).events.filter Event.warns =
      (Record.lookedAt fs options.allowIncomplete records).flatMap (Record.warnings fs options.allowIncomplete) := by
  rw [load, formed, Traced.bind_of_ok rfl, ← Record.filter_warns_loadAll]
  exact Traced.filter_events_bind_of_silent fun _ => rfl

/-- A check warns of nothing but what it was warned of while it loaded. -/
theorem filter_warns_execute (options : CheckOptions) (json : Bool) (fs : FileSystem) :
    (options.execute json fs).events.filter Event.warns = (options.load fs).events.filter Event.warns := by
  cases loaded : (options.load fs).result with
  | error failure =>
    rw [execute_of_failed json loaded]
    exact congrArg _ (Effect.filterMap_event_report _)
  | ok runs =>
    have silent : let audit := runChecks runs options.keepGoing
        ((audit.signals.map (effectOf json) ++
          printReport json audit.report.passed audit.report.json audit.report.lines).filterMap
            Effect.event?).filter Event.warns = [] := by
      refine List.filter_eq_nil_iff.2 fun event told warns => ?_
      obtain ⟨effect, done, reported⟩ := List.mem_filterMap.1 told
      cases effect with
      | print line => cases reported
      | report other =>
        obtain rfl := Option.some.inj reported
        exact level_ne_warn_of_audit done (of_decide_eq_true warns)
    rw [execute_of_loaded json loaded]
    change (List.filterMap Effect.event? _).filter Event.warns = _
    rw [List.append_assoc, List.filterMap_append, List.filter_append, Effect.filterMap_event_report, silent,
      List.append_nil]

end CommandLine.CheckOptions

theorem Record.warnings_eq_nil_iff {fs : FileSystem} {allowIncomplete : Bool} {record : Record} {run : Run}
    (loads : (Run.load fs allowIncomplete record).result = .ok run) :
    record.warnings fs allowIncomplete = [] ↔ run.CountsRight ∧ run.IsEven := by
  obtain ⟨rfl, config, output, tolerated⟩ := Run.result_load_eq_ok_iff.1 loads
  have header : run.record.headerWarnings fs = [] ↔ run.CountsRight := by
    rw [Record.headerWarnings, config]
    simp [Run.CountsRight]
  have lengths : run.record.lengthWarnings fs allowIncomplete = [] ↔ run.IsEven := by
    rw [Record.lengthWarnings, config, output]
    rcases tolerated with even | tolerant
    · have same : run.config.proposals.length = run.output.decisions.length := even
      simp [same, even]
    · simp [tolerant, Run.IsEven]
  rw [Record.warnings, List.append_eq_nil_iff, header, lengths]

theorem Text.endLines_eq_empty_iff {lines : List String} : Text.endLines lines = "" ↔ lines = [] := by
  cases lines with
  | nil => simp [Text.endLines]
  | cons line rest => simp [Text.endLines, String.append_eq_empty_iff]

theorem forall_mem_iff_of_forall₂ {Member Image : Type} {holds : Member → Prop} {holdsThere : Image → Prop}
    {members : List Member} {images : List Image}
    (each : List.Forall₂ (fun member image => holds member ↔ holdsThere image) members images) :
    (∀ member ∈ members, holds member) ↔ ∀ image ∈ images, holdsThere image := by
  induction each with
  | nil => simp
  | cons here _ ih => rw [List.forall_mem_cons, List.forall_mem_cons, here, ih]

theorem Record.flatMap_warnings_eq_nil_iff {fs : FileSystem} {allowIncomplete : Bool} {records : List Record}
    {runs : List Run} (loads : (Run.loadAll fs allowIncomplete records).result = .ok runs) :
    (Record.lookedAt fs allowIncomplete records).flatMap (Record.warnings fs allowIncomplete) = [] ↔
      ∀ run ∈ runs, run.CountsRight ∧ run.IsEven := by
  rw [Run.result_loadAll] at loads
  have all : Record.lookedAt fs allowIncomplete records = records := by
    have nowhere := Failure.of?_eq_none_iff.2 ⟨runs, loads⟩
    rw [Failure.of?_mapM, List.findSome?_eq_none_iff] at nowhere
    refine upToFirst_of_silent fun record listed => ?_
    rw [nowhere record listed, Option.isSome_none]
  rw [all, List.flatMap_eq_nil_iff]
  exact forall_mem_iff_of_forall₂ ((mapM_eq_ok_iff.1 loads).imp fun _ _ loads => Record.warnings_eq_nil_iff loads)

theorem EventFilter.shows_by_default (event : Event) : (everywhere (some .warn)).shows event = event.warns := by
  cases event with
  | _ => rfl

theorem Machine.logText_eq_empty_iff {machine : Machine} {lines : List String} :
    machine.logText lines = "" ↔ lines = [] := by
  rw [logText, Text.endLines_eq_empty_iff, List.map_eq_nil_iff, List.zipIdx_eq_nil_iff]

/-- Loading warns of each record up to the first one that fails, and only of what it tolerates there: first of a wrong
count in the header, then of uneven lengths. A check adds no warning, and where nothing is set, its log has a line for
each of these and no other. So a check that loads all its records is silent on the error channel if every count is
right and every process is even, and only then. -/
theorem warns_of_what_is_tolerated {State : Type} (fs : FileSystem) (allowIncomplete : Bool) (records : List Record)
    (options : CheckOptions) (json : Bool) (sampler : Sampler State) (start : Option UInt64 → State) :
    let outcome := Invocation.execute ⟨json, .check options⟩ sampler start fs
    (Run.loadAll fs allowIncomplete records).events.filter Event.warns =
      (Record.lookedAt fs allowIncomplete records).flatMap (Record.warnings fs allowIncomplete) ∧
    (∀ failure, options.records = .error failure → outcome.events.filter Event.warns = []) ∧
    (∀ checked, options.records = .ok checked → outcome.events.filter Event.warns =
      (Record.lookedAt fs options.allowIncomplete checked).flatMap (Record.warnings fs options.allowIncomplete)) ∧
    (∀ filter machine, EventFilter.ofSetting none = .ok filter → outcome.standardError filter machine =
      machine.logText ((outcome.events.filter Event.warns).map Event.shown) ++ outcome.ending.errorText machine) ∧
    ∀ runs filter machine, options.Loads fs runs → EventFilter.ofSetting none = .ok filter →
      (outcome.standardError filter machine = "" ↔ ∀ run ∈ runs, run.CountsRight ∧ run.IsEven) := by
  intro outcome
  have logged (filter : EventFilter) (machine : Machine) (unset : EventFilter.ofSetting none = .ok filter) :
      outcome.standardError filter machine =
        machine.logText ((outcome.events.filter Event.warns).map Event.shown) ++ outcome.ending.errorText machine := by
    obtain rfl := Except.ok.inj unset
    rw [Outcome.standardError, EventFilter.lines_eq, funext EventFilter.shows_by_default]
  have warned (checked : List Record) (formed : options.records = .ok checked) :
      outcome.events.filter Event.warns = _ :=
    (options.filter_warns_execute json fs).trans (CheckOptions.filter_warns_load_of_formed formed)
  refine ⟨Record.filter_warns_loadAll fs allowIncomplete records, ?_, warned, logged, ?_⟩
  · intro failure refused
    exact (options.filter_warns_execute json fs).trans (CheckOptions.filter_warns_load_of_refused refused)
  · intro runs filter machine loads unset
    obtain ⟨checked, formed, loaded⟩ := loads
    have unfailing : outcome.ending.errorText machine = "" := by
      change (options.execute json fs).ending.errorText machine = ""
      rw [CheckOptions.execute_of_loaded json (CheckOptions.load_result_eq_ok_iff.2 ⟨checked, formed, loaded⟩)]
      dsimp only
      split
      · rfl
      · rfl
    rw [logged filter machine unset, unfailing, String.append_empty, Machine.logText_eq_empty_iff,
      List.map_eq_nil_iff, warned checked formed, Record.flatMap_warnings_eq_nil_iff loaded]

theorem warns_of_what_is_tolerated_uneven :
    let files := unevenFiles.put (Location.root.enter "3.config") (.file (Text.encode "5 1 3\n0\n"))
    let loading := Run.loadAll files true [.named 1 "1", .named 2 "2", .named 3 "3"]
    loading.events.filter Event.warns =
        [.lengthsTolerated "2.config" "2.output" 1 2, .countDisagrees "3.config" 5 1] ∧
      (loading.events.filter Event.warns).map Event.shown =
        [" WARN length mismatch tolerated, comparing common prefix" ++
            " config=2.config output=2.output proposals=1 decisions=2",
          " WARN config header disagrees with proposal count path=3.config declared=5 found=1"] ∧
      loading.result = .error (.refused .opening "3.output" .notFound) ∧
      evenCheck.Loads unevenFiles [evenRun] ∧
      ∀ machine, (Invocation.execute ⟨false, .check evenCheck⟩ Mixing.sampler (.start 0) unevenFiles).standardError
        (.everywhere (some .warn)) machine = "" := by
  intro files loading
  obtain ⟨told, -⟩ := warns_of_what_is_tolerated files true [.named 1 "1", .named 2 "2", .named 3 "3"] evenCheck false
    Mixing.sampler (.start 0)
  obtain ⟨-, -, -, -, silent⟩ := warns_of_what_is_tolerated unevenFiles false [] evenCheck false Mixing.sampler
    (.start 0)
  have loads : evenCheck.Loads unevenFiles [evenRun] := ⟨[.named 1 "1"], rfl, by decide +kernel⟩
  have warned : loading.events.filter Event.warns =
      [.lengthsTolerated "2.config" "2.output" 1 2, .countDisagrees "3.config" 5 1] := by
    rw [told]
    decide +kernel
  refine ⟨warned, ?_, by decide +kernel, loads, ?_⟩
  · rw [warned]
    decide +kernel
  · intro machine
    exact (silent _ _ machine loads rfl).2 (List.forall_mem_singleton.2 ⟨rfl, rfl⟩)

end AgreementAudit
