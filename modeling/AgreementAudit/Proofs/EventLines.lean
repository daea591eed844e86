import AgreementAudit.EventFilter

/-! The lines of the log, spelled out. A line has the level of its event, what has happened, and what the event carries,
each part of it behind its name. -/
namespace AgreementAudit

namespace Event

def shown : Event → String
  | .countDisagrees config declared found =>
    String.join [" WARN config header disagrees with proposal count path=", config, " declared=", declared.repr,
      " found=", found.repr]
  | .lengthsTolerated config output proposals decisions =>
    String.join [" WARN length mismatch tolerated, comparing common prefix config=", config, " output=", output,
      " proposals=", proposals.repr, " decisions=", decisions.repr]
  | .processLoaded index rounds possible =>
    String.join ["DEBUG loaded process process=", index.repr, " rounds=", rounds.repr, " universe_size=",
      possible.repr]
  | .logsLoaded processes => String.join [" INFO loaded process logs processes=", processes.repr]
  | .validityStarted index => String.join ["DEBUG checking validity process=", index.repr]
  | .comparing progress =>
    String.join ["DEBUG ", Text.showControls progress.line, " property=", progress.property.title]
  | .violationFound property subject round =>
    String.join ["DEBUG violation property=", property.title, " subject=", subject, " round=", round.repr]
  | .validityDone processes => String.join [" INFO validity pass done processes=", processes.repr]
  | .universeDone possible => String.join [" INFO universe containment pass done universe=", possible.repr]
  | .chainDone => " INFO chain consistency pass done"
  | .stoppedEarly comparisons => String.join ["DEBUG stopped at first violation comparisons=", comparisons.repr]
  | .proposalsWritten path => String.join [" INFO wrote proposals path=", path]

/-- Only a message of progress has names from elsewhere in it. -/
theorem showControls_message {event : Event} (settled : ∀ progress, event ≠ .comparing progress) :
    Text.showControls event.message = event.message := by
  cases event with
  | comparing progress => exact absurd rfl (settled progress)
  | _ =>
    rw [message]
    decide +kernel

theorem line_eq_shown (event : Event) : event.line = event.shown := by
  apply String.toList_inj.1
  cases event with
  | comparing progress => simp [line, level, Level.label, message, fields, shown]
  | _ =>
    rw [line, showControls_message (by intro _ same; cases same)]
    simp [level, Level.label, message, fields, shown]

end Event

theorem EventFilter.lines_eq (filter : EventFilter) (events : List Event) :
    filter.lines events = (events.filter filter.shows).map Event.shown :=
  List.map_congr_left fun event _ => event.line_eq_shown

end AgreementAudit
