import MarkupTemplate.Json.Basic
/-!
# JSON tokens — the lexical grammar of a JSON text

A text is cut into tokens by an automaton that reads it once, character by
character. Words, numbers and strings are gathered whole and only then given
their meaning, so that every rule about the inside of a token is a function on
its characters.
-/

namespace MarkupTemplate.Json

/-- A lexical unit. A string without a text is one that spells a lone
surrogate. -/
inductive Token where
  | openBrace
  | closeBrace
  | openBracket
  | closeBracket
  | comma
  | colon
  | string (text : Option String)
  | scalar (value : Json)

/-! ## Strings -/

/-- A part of a string: a character, or a UTF-16 unit that an escape spells. -/
inductive Piece where
  | char (c : Char)
  | unit (code : Nat)

/-- The number that a hexadecimal digit denotes. -/
def hexValue? (c : Char) : Option Nat :=
  if '0' ≤ c && c ≤ '9' then some (c.toNat - '0'.toNat)
  else if 'a' ≤ c && c ≤ 'f' then some (c.toNat - 'a'.toNat + 10)
  else if 'A' ≤ c && c ≤ 'F' then some (c.toNat - 'A'.toNat + 10)
  else none

/-- The number that hexadecimal digits denote. -/
def hexNumber? (cs : List Char) : Option Nat :=
  cs.foldlM (fun n c => (hexValue? c).map (16 * n + ·)) 0

/-- The character that a short escape denotes. -/
def shortEscape? : Char → Option Char
  | '"' => some '"'
  | '\\' => some '\\'
  | '/' => some '/'
  | 'b' => some '\x08'
  | 'f' => some '\x0c'
  | 'n' => some '\n'
  | 'r' => some '\r'
  | 't' => some '\t'
  | _ => none

/-- The pieces between the quotes of a string, if its escapes are well formed and
no control character stands for itself. -/
def stringPieces? : List Char → Option (List Piece)
  | [] => some []
  | '\\' :: 'u' :: a :: b :: c :: d :: rest => do
    let code ← hexNumber? [a, b, c, d]
    let pieces ← stringPieces? rest
    pure (.unit code :: pieces)
  | '\\' :: e :: rest => do
    let c ← shortEscape? e
    let pieces ← stringPieces? rest
    pure (.char c :: pieces)
  | c :: rest =>
    if c = '\\' || c.toNat < 0x20 then none
    else (stringPieces? rest).map (.char c :: ·)

/-- The first half of a surrogate pair. -/
def isHighSurrogate (code : Nat) : Bool :=
  0xD800 ≤ code && code < 0xDC00

/-- The second half of a surrogate pair. -/
def isLowSurrogate (code : Nat) : Bool :=
  0xDC00 ≤ code && code < 0xE000

/-- The characters that pieces denote, where `pending` is a high surrogate still
without its partner. A surrogate outside a pair denotes nothing. -/
def joinPieces? (pending : Option Nat) : List Piece → Option (List Char)
  | [] => if pending.isNone then some [] else none
  | .char c :: rest =>
    if pending.isNone then (joinPieces? none rest).map (c :: ·) else none
  | .unit code :: rest =>
    match pending with
    | some high =>
      if isLowSurrogate code then
        let c := Char.ofNat (0x10000 + (high - 0xD800) * 0x400 + (code - 0xDC00))
        (joinPieces? none rest).map (c :: ·)
      else
        none
    | none =>
      if isHighSurrogate code then joinPieces? (some code) rest
      else if isLowSurrogate code then none
      else (joinPieces? none rest).map (Char.ofNat code :: ·)

/-- The token of the characters between two quotes. -/
def stringToken? (body : List Char) : Option Token :=
  (stringPieces? body).map fun pieces => .string ((joinPieces? none pieces).map String.ofList)

/-! ## Numbers -/

/-- The decimal digits. -/
def isDigit (c : Char) : Bool :=
  '0' ≤ c && c ≤ '9'

/-- The number that decimal digits denote. -/
def digitsValue (cs : List Char) : Nat :=
  cs.foldl (fun n c => 10 * n + (c.toNat - '0'.toNat)) 0

/-- The parts of a written number. -/
structure Numeral where
  negative : Bool
  whole : List Char
  fraction : List Char
  exponent : Option Int
  isInteger : Bool

/-- A run of digits with no superfluous leading zero. -/
def isWhole (cs : List Char) : Bool :=
  !cs.isEmpty && (cs.length == 1 || cs.head? != some '0')

/-- The fraction, if a point starts one, and what follows it. -/
def fraction? : List Char → Option (Option (List Char) × List Char)
  | '.' :: rest =>
    if (rest.takeWhile isDigit).isEmpty then none
    else some (some (rest.takeWhile isDigit), rest.dropWhile isDigit)
  | rest => some (none, rest)

/-- The exponent that the rest of a number spells, if there is a rest. -/
def exponent? : List Char → Option (Option Int)
  | [] => some none
  | e :: rest =>
    if e = 'e' || e = 'E' then
      let (negative, digits) := match rest with
        | '-' :: digits => (true, digits)
        | '+' :: digits => (false, digits)
        | digits => (false, digits)
      if digits.isEmpty || !digits.all isDigit then none
      else
        let n : Int := digitsValue digits
        some (some (if negative then -n else n))
    else
      none

/-- The parts of a number, if the characters spell one. -/
def numeral? (cs : List Char) : Option Numeral := do
  let (negative, cs) := match cs with
    | '-' :: rest => (true, rest)
    | rest => (false, rest)
  let whole := cs.takeWhile isDigit
  guard (isWhole whole)
  let (fraction, rest) ← fraction? (cs.dropWhile isDigit)
  let exponent ← exponent? rest
  pure
    { negative
      whole
      fraction := fraction.getD []
      exponent
      isInteger := fraction.isNone && exponent.isNone }

/-- The double closest to a number, if there is one. -/
def Numeral.toFloat (n : Numeral) : Json :=
  let digits := digitsValue (n.whole ++ n.fraction)
  match Double.ofDecimal? n.negative digits (n.exponent.getD 0 - n.fraction.length) with
  | some value => .float value
  | none => .unreadable

/-- The value of a number. Integers down to `-2^63` and below `2^64` keep their
class; negative zero is no integer. -/
def Numeral.value (n : Numeral) : Json :=
  let magnitude := digitsValue n.whole
  if !n.isInteger then n.toFloat
  else if n.negative then
    if 0 < magnitude && magnitude ≤ UInt64.size / 2 then .int (-magnitude) else n.toFloat
  else if magnitude < UInt64.size then .int magnitude
  else n.toFloat

/-- The token of the characters of a number. -/
def numberToken? (cs : List Char) : Option Token :=
  (numeral? cs).map fun n => .scalar n.value

/-- The token of a word. -/
def wordToken? (cs : List Char) : Option Token :=
  if cs = "null".toList then some (.scalar .null)
  else if cs = "true".toList then some (.scalar (.bool true))
  else if cs = "false".toList then some (.scalar (.bool false))
  else none

/-! ## The automaton -/

/-- What the automaton is gathering; characters are gathered last first. -/
inductive Gathering where
  | nothing
  | word (cs : List Char)
  | number (cs : List Char)
  | string (cs : List Char)
  | escape (cs : List Char)

/-- White space between tokens. -/
def isSpace (c : Char) : Bool :=
  c = ' ' || c = '\t' || c = '\n' || c = '\r'

/-- The characters that make up words. -/
def isWordChar (c : Char) : Bool :=
  'a' ≤ c && c ≤ 'z'

/-- The characters that can stand inside a number. -/
def isNumberChar (c : Char) : Bool :=
  isDigit c || c = '-' || c = '+' || c = '.' || c = 'e' || c = 'E'

/-- Read a character between two tokens. -/
def begin? (c : Char) : Option (List Token × Gathering) :=
  match c with
  | '\x7b' => some ([.openBrace], .nothing)
  | '\x7d' => some ([.closeBrace], .nothing)
  | '[' => some ([.openBracket], .nothing)
  | ']' => some ([.closeBracket], .nothing)
  | ',' => some ([.comma], .nothing)
  | ':' => some ([.colon], .nothing)
  | '"' => some ([], .string [])
  | c =>
    if isSpace c then some ([], .nothing)
    else if isDigit c || c = '-' then some ([], .number [c])
    else if isWordChar c then some ([], .word [c])
    else none

/-- End a word or a number in front of the character that follows it. -/
def endBefore? (token : Option Token) (c : Char) : Option (List Token × Gathering) := do
  let token ← token
  let (tokens, next) ← begin? c
  pure (token :: tokens, next)

/-- Read one character: the tokens it completes, and what is gathered after it. -/
def advance? (state : Gathering) (c : Char) : Option (List Token × Gathering) :=
  match state with
  | .nothing => begin? c
  | .word cs =>
    if isWordChar c then some ([], .word (c :: cs)) else endBefore? (wordToken? cs.reverse) c
  | .number cs =>
    if isNumberChar c then some ([], .number (c :: cs))
    else endBefore? (numberToken? cs.reverse) c
  | .string cs =>
    if c = '"' then do
      let token ← stringToken? cs.reverse
      pure ([token], .nothing)
    else if c = '\\' then some ([], .escape (c :: cs))
    else some ([], .string (c :: cs))
  | .escape cs => some ([], .string (c :: cs))

/-- The tokens completed by the end of the text. -/
def close? (state : Gathering) : Option (List Token) :=
  match state with
  | .nothing => some []
  | .word cs => (wordToken? cs.reverse).map ([·])
  | .number cs => (numberToken? cs.reverse).map ([·])
  | .string _ => none
  | .escape _ => none

/-- The tokens read so far, last first, and those of the characters still to be
read. -/
def tokensFrom? (state : Gathering) (found : List Token) : List Char → Option (List Token)
  | [] => (close? state).map fun last => (last ++ found).reverse
  | c :: cs =>
    match advance? state c with
    | some (tokens, next) => tokensFrom? next (tokens.reverse ++ found) cs
    | none => none

/-- The tokens of a text. -/
def tokens? (text : String) : Option (List Token) :=
  tokensFrom? .nothing [] text.toList

end MarkupTemplate.Json
