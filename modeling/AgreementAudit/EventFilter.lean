import AgreementAudit.Event

/-! Which events are shown. Each rule of a filter sets a verbosity for some of the events, and of the rules that
cover an event the finest one decides. An event that no rule covers stays hidden. -/
namespace AgreementAudit

/-- A verbosity for the events of a part of the program that lie in a span, have a field and have a certain
value in it. What is left out is not asked for. -/
structure FilterRule where
  part : Option String := none
  span : Option String := none
  field : Option String := none
  value : Option String := none
  verbosity : Verbosity
deriving DecidableEq

namespace FilterRule

/-- A part may be named by the beginning of its name. No event lies in a span, and only spans have their values
looked at, so that a rule which asks for either covers nothing. -/
def covers (rule : FilterRule) (event : Event) : Bool :=
  rule.span.isNone && rule.value.isNone &&
    rule.part.all (fun part => part.toList.isPrefixOf event.part.name.toList) &&
    rule.field.all fun field => event.fieldNames.contains field

def reach (rule : FilterRule) : Nat := rule.part.elim 0 String.utf8ByteSize

def fieldName (rule : FilterRule) : String := rule.field.getD ""

/-- Of two rules the one that spells out more, then the one with the later name of a field, then the second. -/
def finer (first second : FilterRule) : FilterRule :=
  if second.reach < first.reach ∨ second.reach = first.reach ∧ second.fieldName < first.fieldName then first
  else second

end FilterRule

structure EventFilter where
  rules : List FilterRule
deriving DecidableEq

namespace EventFilter

def everywhere (verbosity : Verbosity) : EventFilter := ⟨[{ verbosity }]⟩

def decisive? (filter : EventFilter) (event : Event) : Option FilterRule :=
  match filter.rules.filter fun rule => rule.covers event with
  | [] => none
  | first :: rest => some (rest.foldl FilterRule.finer first)

def shows (filter : EventFilter) (event : Event) : Bool :=
  (filter.decisive? event).any fun rule => rule.verbosity.shows event.level

def lines (filter : EventFilter) (events : List Event) : List String :=
  (events.filter filter.shows).map Event.line

end EventFilter

end AgreementAudit
