import AccessMobility.Text.Hex
import AccessMobility.Yaml.Character

/-!
# Scalars of YAML

The text of a plain scalar or of a scalar in single or double quotes.  Blanks around a line break
are dropped; a single line break between two lines of a scalar reads as a space, and of several the
first is dropped.
-/

namespace AccessMobility.Yaml

/-- Blanks and line breaks that stand between two pieces of a scalar. -/
structure Gap where
  /-- Blanks before the first line break, last first. -/
  blanks : List Char := []
  /-- The first line break; an escaped one reads as nothing. -/
  firstBreak : Option (List Char) := none
  /-- Further line breaks, last first. -/
  moreBreaks : List Char := []

namespace Gap

/-- Blanks after a line break are dropped. -/
def addBlank (gap : Gap) (c : Char) : Gap :=
  if gap.firstBreak.isSome then gap else { gap with blanks := c :: gap.blanks }

def addBreak (gap : Gap) (c : Char) : Gap :=
  if gap.firstBreak.isSome then { gap with moreBreaks := c :: gap.moreBreaks }
  else { blanks := [], firstBreak := some [c], moreBreaks := [] }

/-- What a gap reads as, last character first. -/
def folded (gap : Gap) : List Char :=
  match gap.firstBreak with
  | none => gap.blanks
  | some ['\n'] => if gap.moreBreaks.isEmpty then [' '] else gap.moreBreaks
  | some first => gap.moreBreaks ++ first

end Gap

/-- The end of a scalar: its text, what follows it, where, and whether a line break was crossed
after its last character. -/
structure ScalarEnd where
  text : String
  rest : List Char
  mark : Mark
  crossedBreak : Bool

/-- Whether an indicator ends a plain scalar here. -/
def endsPlain (inFlow : Bool) (c : Char) (rest : List Char) : Bool :=
  c = ':' && startsBlank rest
    || inFlow && (c = ',' || c = '[' || c = ']' || c = '\x7b' || c = '\x7d')

/-- Whether a colon inside a flow collection is followed by an indicator, which is refused. -/
def isMisplacedColon (inFlow : Bool) (c : Char) (rest : List Char) : Bool :=
  inFlow && c = ':' && match rest with
    | d :: _ => d = ',' || d = '?' || d = '[' || d = ']' || d = '\x7b' || d = '\x7d'
    | [] => false

/-- A plain scalar whose lines must be indented by `indent` in a block.  `read` holds the characters
read so far, last first; `fresh` says that a new piece would start here. -/
def plain? (inFlow : Bool) (indent : Nat) (read : List Char) (gap : Gap) (fresh : Bool)
    (text : List Char) (mark : Mark) : Option ScalarEnd :=
  let finish : Option ScalarEnd :=
    some {
      text := String.ofList read.reverse
      rest := text
      mark
      crossedBreak := gap.firstBreak.isSome }
  match text with
  | [] => finish
  | c :: rest =>
    if isBlank c then
      if c = '\t' && gap.firstBreak.isSome && mark.column < indent then none
      else plain? inFlow indent read (gap.addBlank c) true rest (mark.skip c)
    else if isBreak c then
      plain? inFlow indent read (gap.addBreak c) true rest mark.newline
    else if fresh && !read.isEmpty && !inFlow && mark.column < indent then
      finish
    else if fresh && (c = '#' || atDocumentMarker mark (c :: rest)) then
      finish
    else if isMisplacedColon inFlow c rest then
      none
    else if endsPlain inFlow c rest then
      finish
    else
      plain? inFlow indent (c :: gap.folded ++ read) {} false rest (mark.skip c)

/-- The character of so many hexadecimal digits. -/
def codePoint? (digits : Nat) (text : List Char) : Option Char := do
  guard (digits ≤ text.length)
  let values ← (text.take digits).mapM Hex.value?
  let value := values.foldl (fun value digit => 16 * value + digit) 0
  guard (value < 0xD800 || (0xE000 ≤ value && value ≤ 0x10FFFF))
  return Char.ofNat value

/-- The character of an escape in double quotes, after its backslash, and how many characters the
escape takes. -/
def escape? : List Char → Option (Char × Nat)
  | [] => none
  | c :: rest =>
    match c with
    | '0' => some ('\x00', 1)
    | 'a' => some ('\x07', 1)
    | 'b' => some ('\x08', 1)
    | 't' | '\t' => some ('\t', 1)
    | 'n' => some ('\n', 1)
    | 'v' => some ('\x0b', 1)
    | 'f' => some ('\x0c', 1)
    | 'r' => some ('\r', 1)
    | 'e' => some ('\x1b', 1)
    | ' ' => some (' ', 1)
    | '"' => some ('"', 1)
    | '/' => some ('/', 1)
    | '\\' => some ('\\', 1)
    | 'N' => some ('\x85', 1)
    | '_' => some ('\xa0', 1)
    | 'L' => some ('\u2028', 1)
    | 'P' => some ('\u2029', 1)
    | 'x' => (codePoint? 2 rest).map (·, 3)
    | 'u' => (codePoint? 4 rest).map (·, 5)
    | 'U' => (codePoint? 8 rest).map (·, 9)
    | _ => none

/-- A scalar in quotes, after its opening quote. -/
def quoted? (single : Bool) (fuel : Nat) (read : List Char) (gap : Gap) (fresh : Bool)
    (text : List Char) (mark : Mark) : Option ScalarEnd :=
  match fuel, text with
  | 0, _ => none
  | _, [] => none
  | fuel + 1, c :: rest =>
    let read' := gap.folded ++ read
    if isBlank c then
      quoted? single fuel read (gap.addBlank c) true rest (mark.skip c)
    else if isBreak c then
      quoted? single fuel read (gap.addBreak c) true rest mark.newline
    else if fresh && atDocumentMarker mark (c :: rest) then
      none
    else if single && c = '\'' then
      match rest with
      | '\'' :: rest => quoted? single fuel ('\'' :: read') {} false rest ((mark.skip c).skip c)
      | _ => some { text := String.ofList read'.reverse, rest, mark := mark.skip c,
                    crossedBreak := false }
    else if !single && c = '"' then
      some { text := String.ofList read'.reverse, rest, mark := mark.skip c, crossedBreak := false }
    else if !single && c = '\\' then
      match rest with
      | [] => none
      | d :: after =>
        if isBreak d then
          quoted? single fuel read' { firstBreak := some [] } true after mark.newline
        else
          match escape? rest with
          | none => none
          | some (e, count) =>
            quoted? single fuel (e :: read') {} false (rest.drop count)
              ((mark.skip c).skipAll (rest.take count))
    else
      quoted? single fuel (c :: read') {} false rest (mark.skip c)

end AccessMobility.Yaml
