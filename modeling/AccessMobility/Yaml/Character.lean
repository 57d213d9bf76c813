/-!
# Characters of YAML

Line breaks are unified before a text is scanned: carriage returns, alone or before a line feed, and
next-line characters become line feeds.  Line and paragraph separators stay what they are.
-/

namespace AccessMobility.Yaml

/-- A position of a text, counted from zero. -/
structure Mark where
  line : Nat := 0
  /-- The characters before it on its line. -/
  column : Nat := 0
  /-- The octets before it on its line, in UTF-8. -/
  offset : Nat := 0
  deriving DecidableEq

/-- The position after a character that does not end its line. -/
def Mark.skip (mark : Mark) (c : Char) : Mark :=
  { mark with column := mark.column + 1, offset := mark.offset + c.utf8Size }

/-- The position after characters that do not end their line. -/
def Mark.skipAll (mark : Mark) (characters : List Char) : Mark :=
  characters.foldl Mark.skip mark

def Mark.newline (mark : Mark) : Mark :=
  { line := mark.line + 1 }

/-- Whether a character may occur in a text at all. -/
def isAllowed (c : Char) : Bool :=
  let n := c.toNat
  n = 0x9 || n = 0xA || n = 0xD || (0x20 ≤ n && n ≤ 0x7E) || n = 0x85
    || (0xA0 ≤ n && n ≤ 0xD7FF) || (0xE000 ≤ n && n ≤ 0xFFFD) || 0x10000 ≤ n

def unifyBreaks : List Char → List Char
  | '\r' :: '\n' :: rest => '\n' :: unifyBreaks rest
  | c :: rest => (if c = '\r' || c = '\x85' then '\n' else c) :: unifyBreaks rest
  | [] => []

def byteOrderMark : Char := '\ufeff'

def isBreak (c : Char) : Bool :=
  c = '\n' || c = '\u2028' || c = '\u2029'

def isBlank (c : Char) : Bool :=
  c = ' ' || c = '\t'

/-- Whether a blank, a line break or nothing follows. -/
def startsBlank : List Char → Bool
  | [] => true
  | c :: _ => isBlank c || isBreak c

/-- Whether a text starts with three equal characters on their own, as `---` and `...` do. -/
def startsMarker (c : Char) : List Char → Bool
  | x :: y :: z :: rest => x = c && y = c && z = c && startsBlank rest
  | _ => false

/-- Whether a document marker stands at the start of a line. -/
def atDocumentMarker (mark : Mark) (text : List Char) : Bool :=
  mark.column = 0 && (startsMarker '-' text || startsMarker '.' text)

end AccessMobility.Yaml
