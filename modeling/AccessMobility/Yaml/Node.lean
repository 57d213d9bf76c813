import AccessMobility.Document
import AccessMobility.Yaml.Token

/-!
# Nodes of YAML

The tree that the tokens of a text stand for.  A missing key, value or entry is an empty plain
scalar.  A text holds one document.
-/

namespace AccessMobility.Yaml

inductive Node where
  | scalar (text : String) (plain : Bool)
  | sequence (items : List Node)
  | mapping (entries : List (Node × Node))
  deriving Inhabited

namespace Node

/-- What stands where nothing is written. -/
def empty : Node := .scalar "" true

/-- Whether a key, value or entry of a block collection is left out before a token. -/
def blockGap (token : Token) : Bool :=
  token = .key || token = .value || token = .blockEnd

/-- Whether an entry of an indented sequence is left out before a token. -/
def entryGap (token : Token) : Bool :=
  token = .blockEntry || token = .blockEnd

/-- Whether an entry of a sequence that shares its indentation with a mapping is left out. -/
def unindentedGap (token : Token) : Bool :=
  token = .blockEntry || blockGap token

/-- Whether a key of a flow collection is left out before a token. -/
def flowKeyGap (close : Token) (token : Token) : Bool :=
  token = .value || token = .flowEntry || token = close

/-- Whether a value of a flow collection is left out before a token. -/
def flowValueGap (close : Token) (token : Token) : Bool :=
  token = .flowEntry || token = close

/-- What follows the comma that separates an item from the one before it. -/
def afterComma? (first : Bool) (tokens : List Token) : Option (List Token) :=
  match first, tokens with
  | true, tokens => some tokens
  | false, .flowEntry :: rest => some rest
  | false, _ => none

mutual

/-- The node at the front of the tokens.  A block collection is read only where `block` allows it,
a sequence without indentation of its own only where `unindented` does. -/
def read? (fuel : Nat) (block unindented : Bool) (tokens : List Token) :
    Option (Node × List Token) :=
  match fuel with
  | 0 => none
  | fuel + 1 =>
    match tokens with
    | .scalar text plain :: rest => some (.scalar text plain, rest)
    | .flowSequenceStart :: rest => do
      let (items, rest) ← flowItems? fuel true rest
      return (.sequence items, rest)
    | .flowMappingStart :: rest => do
      let (entries, rest) ← flowEntries? fuel true rest
      return (.mapping entries, rest)
    | .blockEntry :: _ =>
      if unindented then do
        let (items, rest) ← unindentedItems? fuel tokens
        return (.sequence items, rest)
      else
        none
    | .blockSequenceStart :: rest =>
      if block then do
        let (items, rest) ← blockItems? fuel rest
        return (.sequence items, rest)
      else
        none
    | .blockMappingStart :: rest =>
      if block then do
        let (entries, rest) ← blockEntries? fuel rest
        return (.mapping entries, rest)
      else
        none
    | _ => none

/-- A node, or an empty one before a token that leaves it out. -/
def readUnless? (fuel : Nat) (gap : Token → Bool) (block unindented : Bool)
    (tokens : List Token) : Option (Node × List Token) :=
  match fuel with
  | 0 => none
  | fuel + 1 =>
    match tokens with
    | [] => none
    | token :: _ =>
      if gap token then some (empty, tokens) else read? fuel block unindented tokens

/-- The items of an indented sequence and its end. -/
def blockItems? (fuel : Nat) (tokens : List Token) : Option (List Node × List Token) :=
  match fuel with
  | 0 => none
  | fuel + 1 =>
    match tokens with
    | .blockEntry :: rest => do
      let (item, rest) ← readUnless? fuel entryGap true false rest
      let (items, rest) ← blockItems? fuel rest
      return (item :: items, rest)
    | .blockEnd :: rest => some ([], rest)
    | _ => none

/-- The items of a sequence that ends with the mapping around it. -/
def unindentedItems? (fuel : Nat) (tokens : List Token) : Option (List Node × List Token) :=
  match fuel with
  | 0 => none
  | fuel + 1 =>
    match tokens with
    | .blockEntry :: rest => do
      let (item, rest) ← readUnless? fuel unindentedGap true false rest
      let (items, rest) ← unindentedItems? fuel rest
      return (item :: items, rest)
    | _ => some ([], tokens)

/-- The entries of a block mapping and its end. -/
def blockEntries? (fuel : Nat) (tokens : List Token) :
    Option (List (Node × Node) × List Token) :=
  match fuel with
  | 0 => none
  | fuel + 1 =>
    match tokens with
    | .key :: rest => do
      let (key, rest) ← readUnless? fuel blockGap true true rest
      let (value, rest) ← blockValue? fuel rest
      let (entries, rest) ← blockEntries? fuel rest
      return ((key, value) :: entries, rest)
    | .blockEnd :: rest => some ([], rest)
    | _ => none

/-- The value of a block mapping's entry. -/
def blockValue? (fuel : Nat) (tokens : List Token) : Option (Node × List Token) :=
  match fuel with
  | 0 => none
  | fuel + 1 =>
    match tokens with
    | .value :: rest => readUnless? fuel blockGap true true rest
    | _ => some (empty, tokens)

/-- The items of a flow sequence and its end; an item after the first follows a comma, and a pair
is a mapping of one entry. -/
def flowItems? (fuel : Nat) (first : Bool) (tokens : List Token) :
    Option (List Node × List Token) :=
  match fuel with
  | 0 => none
  | fuel + 1 =>
    match tokens with
    | .flowSequenceEnd :: rest => some ([], rest)
    | _ => do
      let rest ← afterComma? first tokens
      match rest with
      | .flowSequenceEnd :: rest => return ([], rest)
      | .key :: rest =>
        let (key, rest) ← flowItemKey? fuel rest
        let (value, rest) ← flowValue? fuel .flowSequenceEnd rest
        let (items, rest) ← flowItems? fuel false rest
        return (.mapping [(key, value)] :: items, rest)
      | rest =>
        let (item, rest) ← read? fuel false false rest
        let (items, rest) ← flowItems? fuel false rest
        return (item :: items, rest)

/-- The key of a pair in a flow sequence.  A token in the place of a missing key is passed over. -/
def flowItemKey? (fuel : Nat) (tokens : List Token) : Option (Node × List Token) :=
  match fuel with
  | 0 => none
  | fuel + 1 =>
    match tokens with
    | [] => none
    | token :: rest =>
      if flowKeyGap .flowSequenceEnd token then some (empty, rest)
      else read? fuel false false tokens

/-- The entries of a flow mapping and its end; an entry after the first follows a comma. -/
def flowEntries? (fuel : Nat) (first : Bool) (tokens : List Token) :
    Option (List (Node × Node) × List Token) :=
  match fuel with
  | 0 => none
  | fuel + 1 =>
    match tokens with
    | .flowMappingEnd :: rest => some ([], rest)
    | _ => do
      let rest ← afterComma? first tokens
      match rest with
      | .flowMappingEnd :: rest => return ([], rest)
      | .key :: rest =>
        let (key, rest) ← readUnless? fuel (flowKeyGap .flowMappingEnd) false false rest
        let (value, rest) ← flowValue? fuel .flowMappingEnd rest
        let (entries, rest) ← flowEntries? fuel false rest
        return ((key, value) :: entries, rest)
      | rest =>
        let (key, rest) ← read? fuel false false rest
        let (entries, rest) ← flowEntries? fuel false rest
        return ((key, empty) :: entries, rest)

/-- The value of an entry of a flow collection. -/
def flowValue? (fuel : Nat) (close : Token) (tokens : List Token) :
    Option (Node × List Token) :=
  match fuel with
  | 0 => none
  | fuel + 1 =>
    match tokens with
    | .value :: rest => readUnless? fuel (flowValueGap close) false false rest
    | _ => some (empty, tokens)

end

/-- The node of the only document of a list of tokens. -/
def ofTokens? (tokens : List Token) : Option Node := do
  let fuel := 4 * tokens.length + 4
  let tokens := match tokens with
    | .documentStart :: rest => rest
    | tokens => tokens
  let (node, rest) ← match tokens with
    | [] => some (empty, tokens)
    | .documentStart :: _ | .documentEnd :: _ => some (empty, tokens)
    | tokens => read? fuel true false tokens
  if rest.all (· = .documentEnd) then some node else none

def ofText? (text : String) : Option Node := do
  ofTokens? (← Token.ofText? text)

/-- The value of digits in a radix; there must be some, and nothing else. -/
def magnitude? (radix : Nat) (digits : List Char) : Option Nat := do
  guard (!digits.isEmpty)
  let values ← digits.mapM Hex.value?
  guard (values.all (· < radix))
  return values.foldl (fun value digit => radix * value + digit) 0

/-- A number without sign; a decimal one has no leading zero. -/
def natural? : List Char → Option Nat
  | '0' :: 'x' :: digits => magnitude? 16 digits
  | '0' :: 'o' :: digits => magnitude? 8 digits
  | '0' :: 'b' :: digits => magnitude? 2 digits
  | '0' :: _ :: _ => none
  | digits => magnitude? 10 digits

/-- A number with an optional sign; a minus is refused where numbers have no sign. -/
def integer? (signed : Bool) : List Char → Option Int
  | '+' :: digits => (natural? digits).map fun n => (n : Int)
  | '-' :: digits => if signed then (natural? digits).map fun n => -(n : Int) else none
  | digits => (natural? digits).map fun n => (n : Int)

/-- The spellings of nothing. -/
def nothingTexts : List String := ["", "~", "null", "Null", "NULL"]

/-- The entries under known names; keys must be scalars and no known name may stand twice. -/
def knownEntries? (fields : List String) (entries : List (Node × Node)) :
    Option (Record Node) :=
  match entries with
  | [] => some []
  | (.scalar name _, value) :: rest => do
    let known ← knownEntries? fields rest
    if !fields.contains name then return known
    guard (known.lookup name).isNone
    return (name, value) :: known
  | _ :: _ => none

end Node

/-- Any scalar is a text, and an empty plain one is an empty list or record.  Integers and nothing
are plain scalars. -/
instance : Document Node where
  text?
    | .scalar text _ => some text
    | _ => none
  integer? signed
    | .scalar text true => Node.integer? signed text.toList
    | _ => none
  isNothing
    | .scalar text true => Node.nothingTexts.contains text
    | _ => false
  list?
    | .sequence items => some items
    | .scalar "" true => some []
    | _ => none
  record? fields
    | .mapping entries => Node.knownEntries? fields entries
    | .scalar "" true => some []
    | _ => none

end AccessMobility.Yaml
