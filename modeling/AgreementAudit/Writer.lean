import AgreementAudit.FileSystem

/-! A file that is written through a buffer. Short pieces wait until there are enough of them; what still waits when
the file is closed is written then, and whether that is refused remains unknown. -/
namespace AgreementAudit

open Text (Bytes)

structure Writer where
  files : FileSystem
  number : Nat
  waiting : Bytes

namespace Writer

def capacity : Nat := 8192

def andThen (next : Writer → Writer × Except Refusal Unit) :
    Writer × Except Refusal Unit → Writer × Except Refusal Unit
  | (writer, .ok ()) => next writer
  | refused => refused

/-- Writes all that waits. What is refused goes on waiting. -/
def flush (writer : Writer) : Writer × Except Refusal Unit :=
  match writer.files.append writer.number writer.waiting with
  | (files, .ok ()) => ({ writer with files, waiting := [] }, .ok ())
  | (files, .error shortfall) =>
    ({ writer with files, waiting := writer.waiting.drop shortfall.taken }, .error shortfall.refusal)

/-- Lets a piece wait, unless it alone would fill the buffer. Then it is written at once, and what is refused of it
is lost. -/
def accept (piece : Bytes) (writer : Writer) : Writer × Except Refusal Unit :=
  if piece.length < capacity then ({ writer with waiting := writer.waiting ++ piece }, .ok ())
  else
    match writer.files.append writer.number piece with
    | (files, .ok ()) => ({ writer with files }, .ok ())
    | (files, .error shortfall) => ({ writer with files }, .error shortfall.refusal)

/-- Takes a piece. What waits is written first if the buffer has no room for both. -/
def write (piece : Bytes) (writer : Writer) : Writer × Except Refusal Unit :=
  if capacity < writer.waiting.length + piece.length then writer.flush |> andThen (accept piece)
  else writer.accept piece

def writeLine (line : String) (writer : Writer) : Writer × Except Refusal Unit :=
  writer.write (Text.encode line) |> andThen (write [Text.lineFeed])

def close (writer : Writer) : FileSystem := writer.flush.1.files

end Writer

end AgreementAudit
