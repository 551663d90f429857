import TurkishDates.Text.Digits

/-!
JSON values and their printed form, indented by two blanks for each level.
-/

namespace TurkishDates

inductive Json where
  | null
  | number (digits : Text)
  | string (t : Text)
  | array (items : List Json)
  | object (entries : List (String × Json))

namespace Json

def hexDigit (n : Nat) : Char := Char.ofNat (if n < 10 then 48 + n else 87 + n)

def escape (c : Char) : Text :=
  if c = '"' then ['\\', '"']
  else if c = '\\' then ['\\', '\\']
  else if c = '\x08' then ['\\', 'b']
  else if c = '\x0c' then ['\\', 'f']
  else if c = '\n' then ['\\', 'n']
  else if c = '\r' then ['\\', 'r']
  else if c = '\t' then ['\\', 't']
  else if c.toNat < 32 then ['\\', 'u', '0', '0', hexDigit (c.toNat / 16), hexDigit (c.toNat % 16)]
  else [c]

def quoted (t : Text) : Text := '"' :: t.flatMap escape ++ ['"']

def newLine (depth : Nat) : Text := '\n' :: List.replicate (2 * depth) ' '

/-- Items between brackets, each on a line of its own; the brackets touch when there is none. -/
def enclosed (opening closing : Char) (depth : Nat) (items : List Text) : Text :=
  match items with
  | [] => [opening, closing]
  | first :: rest =>
      opening :: newLine (depth + 1) ++ first ++
        rest.flatMap (fun item => ',' :: newLine (depth + 1) ++ item) ++ newLine depth ++ [closing]

mutual

def pretty (depth : Nat) : Json → Text
  | .null => "null".toList
  | .number digits => digits
  | .string t => quoted t
  | .array items => enclosed '[' ']' depth (prettyItems (depth + 1) items)
  | .object entries => enclosed '\x7b' '\x7d' depth (prettyEntries (depth + 1) entries)

def prettyItems (depth : Nat) : List Json → List Text
  | [] => []
  | item :: rest => pretty depth item :: prettyItems depth rest

def prettyEntries (depth : Nat) : List (String × Json) → List Text
  | [] => []
  | (key, value) :: rest =>
      (quoted key.toList ++ ':' :: ' ' :: pretty depth value) :: prettyEntries depth rest

end

end Json

end TurkishDates
