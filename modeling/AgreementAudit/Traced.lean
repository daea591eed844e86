import AgreementAudit.Event

/-! Steps that report events and may fail. The events reported before a failure stay reported. -/
namespace AgreementAudit

structure Traced (Answer : Type) where
  events : List Event
  result : Except Failure Answer

namespace Traced

variable {Answer Next : Type}

def ofExcept (result : Except Failure Answer) : Traced Answer := ⟨[], result⟩

def fail (failure : Failure) : Traced Answer := ⟨[], .error failure⟩

def report (event : Event) : Traced Unit := ⟨[event], .ok ()⟩

instance : Monad Traced where
  pure answer := ⟨[], .ok answer⟩
  bind first next :=
    match first.result with
    | .error failure => ⟨first.events, .error failure⟩
    | .ok answer => ⟨first.events ++ (next answer).events, (next answer).result⟩

theorem ext {left right : Traced Answer} (events : left.events = right.events)
    (result : left.result = right.result) : left = right := by
  cases left
  cases right
  simp_all

theorem pure_def (answer : Answer) : (pure answer : Traced Answer) = ⟨[], .ok answer⟩ := rfl

theorem bind_of_error {first : Traced Answer} {failure : Failure} (failed : first.result = .error failure)
    (next : Answer → Traced Next) : first >>= next = ⟨first.events, .error failure⟩ := by
  simp only [bind, failed]

theorem bind_of_ok {first : Traced Answer} {answer : Answer} (succeeded : first.result = .ok answer)
    (next : Answer → Traced Next) :
    first >>= next = ⟨first.events ++ (next answer).events, (next answer).result⟩ := by
  simp only [bind, succeeded]

instance : LawfulMonad Traced :=
  LawfulMonad.mk' _
    (by
      intro Answer ⟨events, result⟩
      cases result with
      | error failure => rfl
      | ok answer => exact ext (List.append_nil events) rfl)
    (by intros; rfl)
    (by
      intro Answer Next Last ⟨events, result⟩ next last
      cases result with
      | error failure => rfl
      | ok answer =>
        cases found : (next answer).result with
        | error failure => simp [bind, found]
        | ok middle => simp [bind, found, List.append_assoc])

end Traced

end AgreementAudit
