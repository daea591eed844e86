/-! JSON documents and their text. Nested entries are indented by two spaces, an empty array or object has
no inner line, and inside a text only quotes, backslashes and control characters are escaped. -/
namespace AgreementAudit

inductive Json
  | null
  | bool (value : Bool)
  | number (value : Nat)
  | text (value : String)
  | array (items : List Json)
  | object (fields : List (String × Json))

namespace Json

def quote : Char := '\x22'

def backslash : Char := '\x5c'

/-- Control characters have the escapes of one letter where the format has one, others the code in four
hexadecimal digits. -/
def escape (char : Char) : List Char :=
  if char = quote ∨ char = backslash then [backslash, char]
  else if char = '\x08' then [backslash, 'b']
  else if char = '\x0c' then [backslash, 'f']
  else if char = '\n' then [backslash, 'n']
  else if char = '\r' then [backslash, 'r']
  else if char = '\t' then [backslash, 't']
  else if char.toNat < 0x20 then
    [backslash, 'u', '0', '0', Nat.digitChar (char.toNat / 16), Nat.digitChar (char.toNat % 16)]
  else [char]

def quoted (text : String) : List Char := quote :: text.toList.flatMap escape ++ [quote]

def newLine (depth : Nat) : List Char := '\n' :: List.replicate (2 * depth) ' '

def enclose (depth : Nat) (left right : Char) (entries : List (List Char)) : List Char :=
  if entries = [] then [left, right]
  else
    left :: List.intercalate [','] (entries.map (newLine (depth + 1) ++ ·)) ++ newLine depth ++ [right]

mutual

def chars (depth : Nat) : Json → List Char
  | .null => "null".toList
  | .bool value => if value then "true".toList else "false".toList
  | .number value => Nat.toDigits 10 value
  | .text value => quoted value
  | .array items => enclose depth '[' ']' (itemChars (depth + 1) items)
  | .object fields => enclose depth '\x7b' '\x7d' (fieldChars (depth + 1) fields)

def itemChars (depth : Nat) : List Json → List (List Char)
  | [] => []
  | item :: rest => chars depth item :: itemChars depth rest

def fieldChars (depth : Nat) : List (String × Json) → List (List Char)
  | [] => []
  | (name, value) :: rest => (quoted name ++ ':' :: ' ' :: chars depth value) :: fieldChars depth rest

end

def render (document : Json) : String := String.ofList (document.chars 0)

end Json

end AgreementAudit
