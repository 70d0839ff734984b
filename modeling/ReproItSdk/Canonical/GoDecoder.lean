import ReproItSdk.Canonical.GoEncoder

/-! # Strict JSON decoder of the Go SDK

The strict parser reads the tokens of a {lit}`json.Decoder` and rebuilds one value from them.  It
refuses objects with a key that stands twice, values that are nested too deep and anything behind
the value.

Main definitions:

- Definition {lit}`Decoder.token` is the token reader of the standard library, with the scanners of
  strings and numbers it uses.
- Definition {lit}`parseStrictJSON` is the parser.
-/

namespace ReproItSdk.Canonical

open Unicode Json Decimal

/-! ## Scanners of the standard library -/

/-- A character of a string, or a unit that was written by its code. -/
inductive StringPart where
  | plain (character : Char)
  | unit (value : Nat)
  deriving DecidableEq

/-- The character that a letter after the reverse solidus stands for. -/
def unescape? (letter : Char) : Option Char :=
  if letter = '\"' ∨ letter = '\\' ∨ letter = '/' then some letter
  else if letter = 'b' then some '\x08'
  else if letter = 'f' then some '\x0c'
  else if letter = 'n' then some '\x0a'
  else if letter = 'r' then some '\x0d'
  else if letter = 't' then some '\x09'
  else none

/-- Scans a string behind its opening quotation mark, up to the closing one. -/
def scanString : Text → Option (List StringPart × Text)
  | [] => none
  | character :: rest =>
      if character = '\"' then some ([], rest)
      else if character = '\\' then
        match rest with
        | [] => none
        | letter :: rest =>
            if letter = 'u' then
              match rest with
              | first :: second :: third :: fourth :: rest => do
                  let value ← hexadecimal? first second third fourth
                  let (parts, rest) ← scanString rest
                  return (.unit value :: parts, rest)
              | _ => none
            else do
              let character ← unescape? letter
              let (parts, rest) ← scanString rest
              return (.plain character :: parts, rest)
      else if character.toNat < 32 then none
      else do
        let (parts, rest) ← scanString rest
        return (.plain character :: parts, rest)

/-- Joins the units of surrogate pairs and puts the replacement character for lone surrogates. -/
def joinUnits : List StringPart → Text
  | [] => []
  | .plain character :: rest => character :: joinUnits rest
  | .unit value :: rest =>
      if value < 55296 ∨ 57344 ≤ value then Char.ofNat value :: joinUnits rest
      else
        match rest with
        | .unit low :: others =>
            if value < 56320 ∧ 56320 ≤ low ∧ low < 57344 then
              Char.ofNat (65536 + (value - 55296) * 1024 + (low - 56320)) :: joinUnits others
            else '\ufffd' :: joinUnits (.unit low :: others)
        | .plain next :: others => '\ufffd' :: joinUnits (.plain next :: others)
        | [] => ['\ufffd']

/-- Reads a string behind its opening quotation mark. -/
def readString (text : Text) : Option (Text × Text) := do
  let (parts, rest) ← scanString text
  return (joinUnits parts, rest)

/-- Reads the exponent of a number, where there is one. -/
def readExponent (front : Text) : Text → Option (Text × Text)
  | [] => some (front, [])
  | mark :: rest =>
      if mark = 'e' ∨ mark = 'E' then
        let signs := rest.take 1 |>.takeWhile fun sign => sign = '+' ∨ sign = '-'
        let rest := rest.drop signs.length
        let digits := rest.takeWhile Char.isDigit
        if digits = [] then none
        else some (front ++ mark :: signs ++ digits, rest.drop digits.length)
      else some (front, mark :: rest)

/-- Reads the fraction of a number, where there is one, and what follows it. -/
def readFraction (front : Text) : Text → Option (Text × Text)
  | [] => some (front, [])
  | point :: rest =>
      if point = '.' then
        let digits := rest.takeWhile Char.isDigit
        if digits = [] then none
        else readExponent (front ++ point :: digits) (rest.drop digits.length)
      else readExponent front (point :: rest)

/-- Reads the digits of a number behind its sign. -/
def readMagnitude (sign : Text) : Text → Option (Text × Text)
  | [] => none
  | first :: rest =>
      if first = '0' then readFraction (sign ++ ['0']) rest
      else if first.isDigit then
        let digits := rest.takeWhile Char.isDigit
        readFraction (sign ++ first :: digits) (rest.drop digits.length)
      else none

/-- Reads the longest number at the start of a text. -/
def readNumber : Text → Option (Text × Text)
  | [] => none
  | first :: rest =>
      if first = '-' then readMagnitude ['-'] rest else readMagnitude [] (first :: rest)

/-- Reads a fixed word. -/
def readLiteral (word : Text) (value : GoValue) (text : Text) : Option (GoValue × Text) :=
  if word.isPrefixOf text then some (value, text.drop word.length) else none

/-- Reads one value that is neither an array nor an object. -/
def readScalar (text : Text) : Option (GoValue × Text) :=
  match text with
  | [] => none
  | first :: rest =>
      if first = '\"' then do
        let (content, rest) ← readString rest
        return (.string content, rest)
      else if first = 'n' then readLiteral ['n', 'u', 'l', 'l'] .nil text
      else if first = 't' then readLiteral ['t', 'r', 'u', 'e'] (.bool true) text
      else if first = 'f' then readLiteral ['f', 'a', 'l', 's', 'e'] (.bool false) text
      else do
        let (digits, rest) ← readNumber text
        return (.number digits, rest)

/-! ## Tokens -/

/-- What the decoder expects next. -/
inductive TokenState where
  | topValue
  | arrayStart
  | arrayValue
  | arrayComma
  | objectStart
  | objectKey
  | objectColon
  | objectValue
  | objectComma
  deriving DecidableEq

/-- {lit}`tokenValueAllowed`. -/
def TokenState.valueAllowed : TokenState → Bool
  | .topValue | .arrayStart | .arrayValue | .objectValue => true
  | _ => false

/-- {lit}`tokenValueEnd`. -/
def TokenState.valueEnd : TokenState → TokenState
  | .arrayStart | .arrayValue => .arrayComma
  | .objectValue => .objectComma
  | state => state

/-- A decoder: the text it has not read, what it expects, and what it expects once the arrays and
objects it is in end. -/
structure Decoder where
  rest : Text
  tokenState : TokenState
  tokenStack : List TokenState

/-- A token: a bracket or brace, or a value. -/
inductive Token where
  | delimiter (character : Char)
  | value (value : GoValue)

/-- Why there is no token. -/
inductive TokenError where
  | eof
  | invalid

/-- White space between tokens. -/
def isSpace (character : Char) : Bool :=
  character = ' ' ∨ character = '\x09' ∨ character = '\x0d' ∨ character = '\x0a'

namespace Decoder

/-- The next character that is no space, and the text behind it. -/
def peek (decoder : Decoder) : Option (Char × Text) :=
  match decoder.rest.dropWhile isSpace with
  | [] => none
  | character :: rest => some (character, rest)

/-- There is another element or member. -/
def more (decoder : Decoder) : Bool :=
  match decoder.peek with
  | none => false
  | some (character, _) => character ≠ ']' ∧ character ≠ '\x7d'

/-- The turns of the loop of {lit}`Token` that only pass a colon or a comma.  None of the states
they lead to passes another one. -/
def passSeparator (decoder : Decoder) : Decoder :=
  match decoder.peek with
  | none => decoder
  | some (character, rest) =>
      if character = ':' ∧ decoder.tokenState = .objectColon then
        { decoder with rest := rest, tokenState := .objectValue }
      else if character = ',' ∧ decoder.tokenState = .arrayComma then
        { decoder with rest := rest, tokenState := .arrayValue }
      else if character = ',' ∧ decoder.tokenState = .objectComma then
        { decoder with rest := rest, tokenState := .objectKey }
      else decoder

/-- Enters an array or an object. -/
def enter (decoder : Decoder) (character : Char) (rest : Text) (state : TokenState) :
    Except TokenError (Token × Decoder) :=
  if decoder.tokenState.valueAllowed then
    .ok (.delimiter character, ⟨rest, state, decoder.tokenState :: decoder.tokenStack⟩)
  else .error .invalid

/-- Leaves an array or an object. -/
def leave (decoder : Decoder) (character : Char) (rest : Text) (start comma : TokenState) :
    Except TokenError (Token × Decoder) :=
  if decoder.tokenState = start ∨ decoder.tokenState = comma then
    match decoder.tokenStack with
    | [] => .error .invalid
    | state :: stack => .ok (.delimiter character, ⟨rest, state.valueEnd, stack⟩)
  else .error .invalid

/-- The last turn of the loop of {lit}`Token`. -/
def tokenHere (decoder : Decoder) : Except TokenError (Token × Decoder) :=
  match decoder.peek with
  | none => .error .eof
  | some (character, rest) =>
      if character = '[' then decoder.enter '[' rest .arrayStart
      else if character = ']' then decoder.leave ']' rest .arrayStart .arrayComma
      else if character = '\x7b' then decoder.enter '\x7b' rest .objectStart
      else if character = '\x7d' then decoder.leave '\x7d' rest .objectStart .objectComma
      else if character = ':' ∨ character = ',' then .error .invalid
      else if character = '\"' ∧
          (decoder.tokenState = .objectStart ∨ decoder.tokenState = .objectKey) then
        match readString rest with
        | none => .error .invalid
        | some (key, rest) => .ok (.value (.string key), ⟨rest, .objectColon, decoder.tokenStack⟩)
      else if decoder.tokenState.valueAllowed then
        match readScalar (character :: rest) with
        | none => .error .invalid
        | some (value, rest) =>
            .ok (.value value, ⟨rest, decoder.tokenState.valueEnd, decoder.tokenStack⟩)
      else .error .invalid

/-- The next token. -/
def token (decoder : Decoder) : Except TokenError (Token × Decoder) :=
  decoder.passSeparator.tokenHere

end Decoder

/-! ## Strict values -/

/-- How deep a value may be nested. -/
def maxStrictJSONDepth : Nat :=
  512

/-- The loop of {lit}`decodeStrictToken` over the elements of an array.  Every turn reads some of
the text, so a text is longer than the number of turns over it. -/
def decodeElements (decodeEntry : Decoder → Option (GoValue × Decoder)) :
    Nat → Decoder → List GoValue → Option (GoValue × Decoder)
  | 0, _, _ => none
  | turns + 1, decoder, values =>
      if decoder.more then do
        let (entry, decoder) ← decodeEntry decoder
        decodeElements decodeEntry turns decoder (values ++ [entry])
      else
        match decoder.token with
        | .error _ => none
        | .ok (_, decoder) => some (.slice values, decoder)

/-- The loop of {lit}`decodeStrictToken` over the members of an object. -/
def decodeMembers (decodeEntry : Decoder → Option (GoValue × Decoder)) :
    Nat → Decoder → List (Text × GoValue) → Option (GoValue × Decoder)
  | 0, _, _ => none
  | turns + 1, decoder, object =>
      if decoder.more then
        match decoder.token with
        | .ok (.value (.string key), decoder) =>
            if key ∈ object.map Prod.fst then none
            else do
              let (entry, decoder) ← decodeEntry decoder
              decodeMembers decodeEntry turns decoder (object ++ [(key, entry)])
        | _ => none
      else
        match decoder.token with
        | .error _ => none
        | .ok (_, decoder) => some (.map object, decoder)

/-- {lit}`decodeStrictValue` where so many more levels of values may still be entered. -/
def decodeStrictValue : Nat → Decoder → Option (GoValue × Decoder)
  | 0, _ => none
  | levels + 1, decoder =>
      match decoder.token with
      | .error _ => none
      | .ok (.value value, decoder) => some (value, decoder)
      | .ok (.delimiter delimiter, decoder) =>
          if delimiter = '\x7b' then
            decodeMembers (decodeStrictValue levels) (decoder.rest.length + 1) decoder []
          else if delimiter = '[' then
            decodeElements (decodeStrictValue levels) (decoder.rest.length + 1) decoder []
          else none

/-- The value of a strict JSON text, where there is one. -/
def parseStrictJSON (value : List UInt8) (maximumBytes : Int) : Option GoValue :=
  if maximumBytes < value.length then none
  else do
    let text ← decodeUtf8 value
    let (parsed, decoder) ← decodeStrictValue (maxStrictJSONDepth + 1) ⟨text, .topValue, []⟩
    match decoder.token with
    | .error .eof => some parsed
    | _ => none

end ReproItSdk.Canonical
