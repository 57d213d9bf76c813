import AccessMobility.Yaml.Scalar

/-!
# Tokens of YAML

A text is cut into indicators and scalars.  Indentation opens and closes block collections, and a
scalar or flow collection followed by a colon on its line becomes a key: it is remembered when it
starts, and the key token is put in front of it when the colon is found.  Anchors, aliases, tags,
directives and block scalars are refused.
-/

namespace AccessMobility.Yaml

inductive Token where
  | documentStart
  | documentEnd
  | blockSequenceStart
  | blockMappingStart
  | blockEnd
  | flowSequenceStart
  | flowSequenceEnd
  | flowMappingStart
  | flowMappingEnd
  | blockEntry
  | flowEntry
  | key
  | value
  | scalar (text : String) (plain : Bool)
  deriving DecidableEq

/-- A token that may turn out to be a key. -/
structure KeyCandidate where
  /-- How many tokens stand before it. -/
  position : Nat
  mark : Mark
  /-- Whether the indentation admits nothing but a key here. -/
  required : Bool

structure Scanner where
  rest : List Char
  mark : Mark := {}
  tokens : Array Token := #[]
  /-- The columns of the open block collections, the innermost first. -/
  indents : List Nat := []
  /-- The key candidate of the block context and of each open flow collection, the innermost
  first. -/
  candidates : List (Option KeyCandidate) := [none]
  keyAllowed : Bool := true

namespace Scanner

def inFlow (scanner : Scanner) : Bool :=
  2 ≤ scanner.candidates.length

def skip (scanner : Scanner) (count : Nat) : Scanner :=
  { scanner with
    rest := scanner.rest.drop count
    mark := scanner.mark.skipAll (scanner.rest.take count) }

def emit (scanner : Scanner) (token : Token) : Scanner :=
  { scanner with tokens := scanner.tokens.push token }

/-- What follows blanks, comments and line breaks.  A tab is no blank where a key could start in a
block, and a line break allows a key in a block. -/
def skipBlanks (inFlow comment keyAllowed : Bool) (text : List Char) (mark : Mark) :
    List Char × Mark × Bool :=
  match text with
  | [] => ([], mark, keyAllowed)
  | c :: rest =>
    if isBreak c then
      skipBlanks inFlow false (keyAllowed || !inFlow) rest mark.newline
    else if comment || c = ' ' || c = '#' || (c = '\t' && (inFlow || !keyAllowed))
        || (c = byteOrderMark && mark.column = 0) then
      skipBlanks inFlow (comment || c = '#') keyAllowed rest (mark.skip c)
    else
      (text, mark, keyAllowed)

def toNextToken (scanner : Scanner) : Scanner :=
  let (rest, mark, keyAllowed) :=
    skipBlanks scanner.inFlow false scanner.keyAllowed scanner.rest scanner.mark
  { scanner with rest, mark, keyAllowed }

/-- A key must end on the line it starts on and within 1024 octets. -/
def isStale (mark : Mark) (candidate : KeyCandidate) : Bool :=
  candidate.mark.line < mark.line || candidate.mark.offset + 1024 < mark.offset

/-- Forget the candidates that can no longer be keys; a required key that is none is refused. -/
def dropStale (scanner : Scanner) : Option Scanner := do
  let candidates ← scanner.candidates.mapM fun candidate =>
    match candidate with
    | none => some none
    | some candidate =>
      if !isStale scanner.mark candidate then some (some candidate)
      else if candidate.required then none
      else some none
  return { scanner with candidates }

/-- Forget the innermost candidate. -/
def dropCandidate (scanner : Scanner) : Option Scanner :=
  match scanner.candidates with
  | [] => none
  | some candidate :: outer =>
    if candidate.required then none else some { scanner with candidates := none :: outer }
  | none :: _ => some scanner

/-- Remember that a key could start here. -/
def saveCandidate (scanner : Scanner) : Option Scanner :=
  if scanner.keyAllowed then do
    let scanner ← scanner.dropCandidate
    let candidate : KeyCandidate :=
      { position := scanner.tokens.size
        mark := scanner.mark
        required := !scanner.inFlow && scanner.indents.head? = some scanner.mark.column }
    return { scanner with candidates := some candidate :: scanner.candidates.tail }
  else
    some scanner

/-- Open a block collection where the column is deeper than those open, its token at a position. -/
def openBlock (scanner : Scanner) (column position : Nat) (token : Token) : Scanner :=
  if scanner.inFlow || scanner.indents.head?.any (column ≤ ·) then scanner
  else
    { scanner with
      indents := column :: scanner.indents
      tokens := scanner.tokens.insertIdxIfInBounds position token }

/-- Close the block collections deeper than a column. -/
def closeBlocks (scanner : Scanner) (column : Nat) : Scanner :=
  if scanner.inFlow then scanner
  else
    let closed := scanner.indents.takeWhile (column < ·)
    { scanner with
      indents := scanner.indents.dropWhile (column < ·)
      tokens := scanner.tokens ++ (closed.map fun _ => Token.blockEnd).toArray }

/-- Close every block collection. -/
def closeAllBlocks (scanner : Scanner) : Scanner :=
  if scanner.inFlow then scanner
  else
    { scanner with
      indents := []
      tokens := scanner.tokens ++ (scanner.indents.map fun _ => Token.blockEnd).toArray }

def documentMarker (scanner : Scanner) (token : Token) : Option Scanner := do
  let scanner ← scanner.closeAllBlocks.dropCandidate
  return ({ scanner with keyAllowed := false }.emit token).skip 3

def openFlow (scanner : Scanner) (token : Token) : Option Scanner := do
  let scanner ← scanner.saveCandidate
  return ({ scanner with
    candidates := none :: scanner.candidates
    keyAllowed := true }.emit token).skip 1

def closeFlow (scanner : Scanner) (token : Token) : Option Scanner := do
  let scanner ← scanner.dropCandidate
  let candidates :=
    match scanner.candidates with
    | _ :: outer :: more => outer :: more
    | candidates => candidates
  return ({ scanner with candidates, keyAllowed := false }.emit token).skip 1

def flowEntry (scanner : Scanner) : Option Scanner := do
  let scanner ← scanner.dropCandidate
  return ({ scanner with keyAllowed := true }.emit .flowEntry).skip 1

def blockEntry (scanner : Scanner) : Option Scanner := do
  guard (scanner.inFlow || scanner.keyAllowed)
  let scanner := scanner.openBlock scanner.mark.column scanner.tokens.size .blockSequenceStart
  let scanner ← scanner.dropCandidate
  return ({ scanner with keyAllowed := true }.emit .blockEntry).skip 1

def explicitKey (scanner : Scanner) : Option Scanner := do
  guard (scanner.inFlow || scanner.keyAllowed)
  let scanner := scanner.openBlock scanner.mark.column scanner.tokens.size .blockMappingStart
  let scanner ← scanner.dropCandidate
  return ({ scanner with keyAllowed := !scanner.inFlow }.emit .key).skip 1

def valueIndicator (scanner : Scanner) : Option Scanner :=
  match scanner.candidates with
  | some candidate :: outer =>
    let scanner :=
      { scanner with
        tokens := scanner.tokens.insertIdxIfInBounds candidate.position .key
        candidates := none :: outer
        keyAllowed := false }
    let scanner := scanner.openBlock candidate.mark.column candidate.position .blockMappingStart
    some ((scanner.emit .value).skip 1)
  | _ => do
    guard (scanner.inFlow || scanner.keyAllowed)
    let scanner := scanner.openBlock scanner.mark.column scanner.tokens.size .blockMappingStart
    return ({ scanner with keyAllowed := !scanner.inFlow }.emit .value).skip 1

def quotedScalar (scanner : Scanner) (single : Bool) : Option Scanner := do
  let scanner ← scanner.saveCandidate
  let after := scanner.skip 1
  let scalar ← quoted? single (after.rest.length + 1) [] {} true after.rest after.mark
  return { scanner with
    rest := scalar.rest
    mark := scalar.mark
    keyAllowed := false }.emit (.scalar scalar.text false)

def plainScalar (scanner : Scanner) : Option Scanner := do
  let scanner ← scanner.saveCandidate
  let indent := match scanner.indents with
    | [] => 0
    | column :: _ => column + 1
  let scalar ← plain? scanner.inFlow indent [] {} true scanner.rest scanner.mark
  return { scanner with
    rest := scalar.rest
    mark := scalar.mark
    keyAllowed := scalar.crossedBreak }.emit (.scalar scalar.text true)

/-- Characters that never start a plain scalar. -/
def reserved : List Char :=
  ['-', '?', ':', ',', '[', ']', '\x7b', '\x7d', '#', '&', '*', '!', '|', '>', '\'', '"', '%', '@',
    '\x60']

/-- Whether a plain scalar starts with a character. -/
def startsPlain (inFlow : Bool) (c : Char) (rest : List Char) : Bool :=
  !(isBlank c || reserved.contains c)
    || (c = '-' && !(rest.head?.any isBlank))
    || (!inFlow && (c = '?' || c = ':') && !startsBlank rest)

/-- Scan the token that starts with a character. -/
def next (scanner : Scanner) (c : Char) (rest : List Char) : Option Scanner :=
  if scanner.mark.column = 0 && c = '%' then none
  else if scanner.mark.column = 0 && startsMarker '-' scanner.rest then
    scanner.documentMarker .documentStart
  else if scanner.mark.column = 0 && startsMarker '.' scanner.rest then
    scanner.documentMarker .documentEnd
  else if c = '[' then scanner.openFlow .flowSequenceStart
  else if c = '\x7b' then scanner.openFlow .flowMappingStart
  else if c = ']' then scanner.closeFlow .flowSequenceEnd
  else if c = '\x7d' then scanner.closeFlow .flowMappingEnd
  else if c = ',' then scanner.flowEntry
  else if c = '-' && startsBlank rest then scanner.blockEntry
  else if c = '?' && (scanner.inFlow || startsBlank rest) then scanner.explicitKey
  else if c = ':' && (scanner.inFlow || startsBlank rest) then scanner.valueIndicator
  else if c = '\'' then scanner.quotedScalar true
  else if c = '"' then scanner.quotedScalar false
  else if startsPlain scanner.inFlow c rest then scanner.plainScalar
  else none

/-- The tokens of the remaining text; every token but the closing ones takes a character. -/
def run? (fuel : Nat) (scanner : Scanner) : Option (List Token) :=
  match fuel with
  | 0 => none
  | fuel + 1 => do
    let scanner ← scanner.toNextToken.dropStale
    let scanner := scanner.closeBlocks scanner.mark.column
    match scanner.rest with
    | [] =>
      let scanner ← scanner.closeAllBlocks.dropCandidate
      return scanner.tokens.toList
    | c :: rest => run? fuel (← scanner.next c rest)

end Scanner

/-- The tokens of a text. -/
def Token.ofText? (text : String) : Option (List Token) := do
  let characters := text.toList
  guard (characters.all isAllowed)
  let characters := unifyBreaks characters
  Scanner.run? (characters.length + 1) { rest := characters }

end AccessMobility.Yaml
