import AgreementAudit.Execution
import AgreementAudit.Proofs.LogReading
import AgreementAudit.Proofs.Tracing

/-! What a check can fail of before it has its runs, and the words with which its error channel then ends. It fails of
the files that it is given: of their number, of what they hold, or because one of them cannot be opened or read. Only
memory that is too small for what is asked makes it halt. -/
namespace AgreementAudit

open CommandLine (CheckOptions)
open Text (Bytes)

variable {fs : FileSystem} {path : Path} {failure : Failure}

namespace Failure

end Failure

end AgreementAudit
