import ChargeBasis.Json.Basic

/-!
The tokens of JSON text. A text is split by a machine that reads one character at a time;
a token is printed as the characters it was split from, up to the choice of escapes.
-/

namespace ChargeBasis.Json

/-- A token of JSON text. A quoted text with an escape that names no character has no value. -/
inductive Token where
  | beginArray
  | endArray
  | beginObject
  | endObject
  | colon
  | comma
  | null
  | bool (value : Bool)
  | number (value : Numeral)
  | text (value : Option String)
  deriving DecidableEq, Repr

-------------------------------------------------------------------------------
-- Quoted texts

/-- What a quoted text is made of: characters, and the units of UTF-16 given by number. -/
inductive Piece where
  | char (c : Char)
  | unit (code : Nat)
  deriving DecidableEq, Repr

/-- Whether a unit opens a pair of units. -/
def isHighSurrogate (code : Nat) : Bool :=
  0xd800 ≤ code && code < 0xdc00

/-- Whether a unit closes a pair of units. -/
def isLowSurrogate (code : Nat) : Bool :=
  0xdc00 ≤ code && code < 0xe000

/-- The characters of a quoted text; there are none when a unit of a pair stands alone. -/
def joinPieces : List Piece → Option (List Char)
  | [] => some []
  | .char c :: rest => (joinPieces rest).map (c :: ·)
  | .unit high :: .unit low :: rest =>
    if isHighSurrogate high then
      if isLowSurrogate low then
        let code := 0x10000 + (high - 0xd800) * 0x400 + (low - 0xdc00)
        (joinPieces rest).map (Char.ofNat code :: ·)
      else none
    else if isLowSurrogate high then none
    else (joinPieces (.unit low :: rest)).map (Char.ofNat high :: ·)
  | .unit code :: rest =>
    if isHighSurrogate code || isLowSurrogate code then none
    else (joinPieces rest).map (Char.ofNat code :: ·)

/-- The character that a one-letter escape stands for. -/
def escaped? : Char → Option Char
  | '"' => some '"'
  | '\\' => some '\\'
  | '/' => some '/'
  | 'b' => some '\x08'
  | 'f' => some '\x0c'
  | 'n' => some '\n'
  | 'r' => some '\r'
  | 't' => some '\t'
  | _ => none

/-- The number that a hexadecimal digit stands for. -/
def hexDigit? (c : Char) : Option Nat :=
  if c.isDigit then some (c.toNat - '0'.toNat)
  else if 'a' ≤ c ∧ c ≤ 'f' then some (c.toNat - 'a'.toNat + 10)
  else if 'A' ≤ c ∧ c ≤ 'F' then some (c.toNat - 'A'.toNat + 10)
  else none

/-- How a character stands in a quoted text: quotes, backslashes and controls are escaped. -/
def escapeChar (c : Char) : List Char :=
  if c = '"' then ['\\', '"']
  else if c = '\\' then ['\\', '\\']
  else if c = '\x08' then ['\\', 'b']
  else if c = '\x0c' then ['\\', 'f']
  else if c = '\n' then ['\\', 'n']
  else if c = '\r' then ['\\', 'r']
  else if c = '\t' then ['\\', 't']
  else if c.toNat < 0x20 then
    ['\\', 'u', '0', '0', Nat.digitChar (c.toNat / 16), Nat.digitChar (c.toNat % 16)]
  else [c]

/-- A text between quotes. -/
def quote (s : String) : List Char :=
  '"' :: (s.toList.flatMap escapeChar ++ ['"'])

-------------------------------------------------------------------------------
-- Splitting

/-- The blanks between tokens. -/
def isSpace (c : Char) : Bool :=
  c == ' ' || c == '\t' || c == '\n' || c == '\r'

/-- The token that is one mark. -/
def Token.ofMark? : Char → Option Token
  | '[' => some .beginArray
  | ']' => some .endArray
  | '{' => some .beginObject
  | '}' => some .endObject
  | ':' => some .colon
  | ',' => some .comma
  | _ => none

/-- The token that a run of other characters makes: a literal or a number. -/
def Token.ofWord? (word : List Char) : Option Token :=
  if word = "null".toList then some .null
  else if word = "true".toList then some (.bool true)
  else if word = "false".toList then some (.bool false)
  else (Numeral.ofChars? word).map .number

/-- Where a splitter stands: between tokens, in a run of characters, or in a quoted text, there
perhaps behind a backslash or inside a numbered escape. What has been read of the token is kept
with its last part first. -/
inductive Splitter where
  | between
  | word (read : List Char)
  | quoted (read : List Piece)
  | escape (read : List Piece)
  | numbered (read : List Piece) (missing code : Nat)
  deriving DecidableEq, Repr

namespace Splitter

/-- Takes a character that does not continue the token before it. -/
def fresh (c : Char) : List Token × Splitter :=
  if isSpace c then ([], .between)
  else if c = '"' then ([], .quoted [])
  else
    match Token.ofMark? c with
    | some token => ([token], .between)
    | none => ([], .word [c])

/-- Whether a character ends a run. -/
def endsWord (c : Char) : Bool :=
  isSpace c || c == '"' || (Token.ofMark? c).isSome

/-- Takes one character: the tokens that it completes, and where the splitter stands after it. -/
def step : Splitter → Char → Option (List Token × Splitter)
  | .between, c => some (fresh c)
  | .word read, c =>
    if endsWord c then do
      let token ← Token.ofWord? read.reverse
      let (tokens, state) := fresh c
      return (token :: tokens, state)
    else some ([], .word (c :: read))
  | .quoted read, c =>
    if c = '"' then
      some ([.text ((joinPieces read.reverse).map String.ofList)], .between)
    else if c = '\\' then some ([], .escape read)
    else if c.toNat < 0x20 then none
    else some ([], .quoted (.char c :: read))
  | .escape read, c =>
    if c = 'u' then some ([], .numbered read 3 0)
    else (escaped? c).map fun d => ([], .quoted (.char d :: read))
  | .numbered read missing code, c => do
    let digit ← hexDigit? c
    let code := code * 16 + digit
    match missing with
    | 0 => return ([], .quoted (.unit code :: read))
    | missing + 1 => return ([], .numbered read missing code)

/-- The tokens that the end of the text completes. -/
def finish : Splitter → Option (List Token)
  | .between => some []
  | .word read => (Token.ofWord? read.reverse).map ([·])
  | _ => none

/-- Splits a text; `found` are the tokens before it, the last one first. -/
def run (state : Splitter) (found : List Token) : List Char → Option (List Token)
  | [] => state.finish.map fun tokens => found.reverse ++ tokens
  | c :: rest =>
    match state.step c with
    | some (tokens, state) => state.run (tokens.reverse ++ found) rest
    | none => none

end Splitter

/-- The tokens of a text. -/
def tokenize (cs : List Char) : Option (List Token) :=
  Splitter.between.run [] cs

-------------------------------------------------------------------------------
-- Printing

/-- The characters of a token. -/
def Token.chars : Token → List Char
  | .beginArray => ['[']
  | .endArray => [']']
  | .beginObject => ['{']
  | .endObject => ['}']
  | .colon => [':']
  | .comma => [',']
  | .null => "null".toList
  | .bool true => "true".toList
  | .bool false => "false".toList
  | .number value => value.chars
  | .text (some value) => quote value
  | .text none => quote ""

end ChargeBasis.Json
