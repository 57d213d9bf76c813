import AccessMobility.Json.Basic
import AccessMobility.Text.Hex

/-!
# Writing JSON text

Text is written without blanks; quotes, backslashes and control characters are escaped and every
other character stands for itself.
-/

namespace AccessMobility.Json

def escape (c : Char) : List Char :=
  if c = '"' then ['\\', '"']
  else if c = '\\' then ['\\', '\\']
  else if c.toNat < 32 then
    ['\\', 'u', '0', '0', Hex.digit (c.toNat / 16), Hex.digit (c.toNat % 16)]
  else [c]

def quoted (text : String) : String :=
  "\"" ++ String.ofList (text.toList.flatMap escape) ++ "\""

mutual

def render : Json → String
  | .null => "null"
  | .bool true => "true"
  | .bool false => "false"
  | .integer value => toString value
  | .decimal text => text
  | .string value => quoted value
  | .array elements => "[" ++ renderElements elements ++ "]"
  | .object entries => "\x7b" ++ renderEntries entries ++ "\x7d"

def renderElements : List Json → String
  | [] => ""
  | [element] => render element
  | element :: rest => render element ++ "," ++ renderElements rest

def renderEntries : List (String × Json) → String
  | [] => ""
  | [(name, value)] => quoted name ++ ":" ++ render value
  | (name, value) :: rest => quoted name ++ ":" ++ render value ++ "," ++ renderEntries rest

end

end AccessMobility.Json
