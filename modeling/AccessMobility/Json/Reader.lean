import AccessMobility.Json.Basic
import AccessMobility.Text.Decimal
import AccessMobility.Text.Hex

/-!
# Reading JSON text

A value is read off the front of a list of characters together with what follows it.  Of two
entries of an object under one name the later wins.  The recursion is bounded by the number of
characters, since every step consumes one.
-/

namespace AccessMobility.Json

def skipBlanks (text : List Char) : List Char :=
  text.dropWhile fun c => c = ' ' || c = '\t' || c = '\n' || c = '\r'

/-- What follows a fixed word. -/
def skipWord? : List Char → List Char → Option (List Char)
  | [], text => some text
  | _ :: _, [] => none
  | c :: word, d :: text => if c = d then skipWord? word text else none

/-- A code unit written as four digits. -/
def codeUnit? : List Char → Option (Nat × List Char)
  | a :: b :: c :: d :: rest => do
    let a ← Hex.value? a
    let b ← Hex.value? b
    let c ← Hex.value? c
    let d ← Hex.value? d
    return (4096 * a + 256 * b + 16 * c + d, rest)
  | _ => none

/-- The character of an escape, after its backslash; a surrogate needs its partner. -/
def escape? : List Char → Option (Char × List Char)
  | '"' :: rest => some ('"', rest)
  | '\\' :: rest => some ('\\', rest)
  | '/' :: rest => some ('/', rest)
  | 'b' :: rest => some ('\x08', rest)
  | 'f' :: rest => some ('\x0c', rest)
  | 'n' :: rest => some ('\n', rest)
  | 'r' :: rest => some ('\r', rest)
  | 't' :: rest => some ('\t', rest)
  | 'u' :: rest => do
    let (unit, rest) ← codeUnit? rest
    if 0xD800 ≤ unit ∧ unit < 0xDC00 then
      match rest with
      | '\\' :: 'u' :: rest =>
        let (low, rest) ← codeUnit? rest
        if 0xDC00 ≤ low ∧ low < 0xE000 then
          some (Char.ofNat (0x10000 + 1024 * (unit - 0xD800) + (low - 0xDC00)), rest)
        else
          none
      | _ => none
    else if 0xDC00 ≤ unit ∧ unit < 0xE000 then
      none
    else
      some (Char.ofNat unit, rest)
  | _ => none

/-- The rest of a string, after its opening quote; `read` holds what was read, last first. -/
def string? (fuel : Nat) (read : List Char) (text : List Char) : Option (String × List Char) :=
  match fuel, text with
  | 0, _ => none
  | _, [] => none
  | _, '"' :: rest => some (String.ofList read.reverse, rest)
  | fuel + 1, '\\' :: rest => do
    let (c, rest) ← escape? rest
    string? fuel (c :: read) rest
  | fuel + 1, c :: rest =>
    if c.toNat < 32 then none else string? fuel (c :: read) rest

/-- The integer part of a number: a zero alone or digits without a leading zero. -/
def integerDigits? (text : List Char) : Option (List Char × List Char) :=
  match text.takeWhile Char.isDigit with
  | [] => none
  | ['0'] => some (['0'], text.drop 1)
  | '0' :: _ => none
  | digits => some (digits, text.drop digits.length)

/-- An optional fraction; its text includes the point. -/
def fraction? (text : List Char) : Option (List Char × List Char) :=
  match text with
  | '.' :: rest =>
    match rest.takeWhile Char.isDigit with
    | [] => none
    | digits => some ('.' :: digits, rest.drop digits.length)
  | _ => some ([], text)

/-- An optional exponent; its text includes the mark. -/
def exponent? (text : List Char) : Option (List Char × List Char) :=
  match text with
  | c :: rest =>
    if c = 'e' || c = 'E' then
      let (sign, rest) := match rest with
        | '+' :: rest => (['+'], rest)
        | '-' :: rest => (['-'], rest)
        | _ => ([], rest)
      match rest.takeWhile Char.isDigit with
      | [] => none
      | digits => some (c :: sign ++ digits, rest.drop digits.length)
    else
      some ([], text)
  | [] => some ([], text)

def number? (text : List Char) : Option (Json × List Char) := do
  let (negative, rest) := match text with
    | '-' :: rest => (true, rest)
    | _ => (false, text)
  let (digits, rest) ← integerDigits? rest
  let (fraction, rest) ← fraction? rest
  let (exponent, rest) ← exponent? rest
  let magnitude := Decimal.value digits
  if fraction.isEmpty && exponent.isEmpty && !(negative && magnitude = 0) then
    return (.integer (if negative then -(magnitude : Int) else magnitude), rest)
  else
    let sign := if negative then ['-'] else []
    return (.decimal (String.ofList (sign ++ digits ++ fraction ++ exponent)), rest)

mutual

/-- A value at the front of a text. -/
def value? (fuel : Nat) (text : List Char) : Option (Json × List Char) :=
  match fuel with
  | 0 => none
  | fuel + 1 =>
    match skipBlanks text with
    | [] => none
    | '"' :: rest => do
      let (value, rest) ← string? (rest.length + 1) [] rest
      return (.string value, rest)
    | '[' :: rest =>
      match skipBlanks rest with
      | ']' :: rest => some (.array [], rest)
      | rest => do
        let (elements, rest) ← elements? fuel rest
        return (.array elements, rest)
    | '\x7b' :: rest =>
      match skipBlanks rest with
      | '\x7d' :: rest => some (.object [], rest)
      | rest => do
        let (entries, rest) ← entries? fuel [] rest
        return (.object entries, rest)
    | 'n' :: rest => (skipWord? "ull".toList rest).map (.null, ·)
    | 't' :: rest => (skipWord? "rue".toList rest).map (.bool true, ·)
    | 'f' :: rest => (skipWord? "alse".toList rest).map (.bool false, ·)
    | rest => number? rest

/-- The elements of an array that is not empty. -/
def elements? (fuel : Nat) (text : List Char) : Option (List Json × List Char) :=
  match fuel with
  | 0 => none
  | fuel + 1 => do
    let (element, rest) ← value? fuel text
    match skipBlanks rest with
    | ',' :: rest =>
      let (elements, rest) ← elements? fuel rest
      return (element :: elements, rest)
    | ']' :: rest => return ([element], rest)
    | _ => none

/-- The entries of an object that is not empty, added to those read before. -/
def entries? (fuel : Nat) (read : List (String × Json)) (text : List Char) :
    Option (List (String × Json) × List Char) :=
  match fuel with
  | 0 => none
  | fuel + 1 =>
    match skipBlanks text with
    | '"' :: rest => do
      let (name, rest) ← string? (rest.length + 1) [] rest
      match skipBlanks rest with
      | ':' :: rest =>
        let (value, rest) ← value? fuel rest
        let read := insertEntry read name value
        match skipBlanks rest with
        | ',' :: rest => entries? fuel read rest
        | '\x7d' :: rest => return (read, rest)
        | _ => none
      | _ => none
    | _ => none

end

/-- The value a whole text writes. -/
def parse? (text : String) : Option Json := do
  let characters := text.toList
  let (value, rest) ← value? (2 * characters.length + 2) characters
  if (skipBlanks rest).isEmpty then some value else none

end AccessMobility.Json
