import ShaderCheck.Json.Basic

/-!
The tokens of a JSON text. Reading them is one pass over the characters; each character either extends
the token at hand or ends it and starts the next.
-/

namespace ShaderCheck.Json

/-- The pieces of a JSON text. A string whose escapes name half of a surrogate pair has no characters to
stand for, and is only known to be a string. -/
inductive Token where
  | openBrace
  | closeBrace
  | openBracket
  | closeBracket
  | comma
  | colon
  | null
  | bool (value : Bool)
  | number (value : Numeral)
  | string (value : Option String)
  deriving DecidableEq

/-- The whole part of a number: no digit may follow a leading zero. -/
def isWholePart : List Char → Bool
  | [] => false
  | ['0'] => true
  | '0' :: _ => false
  | digits => digits.all isDecimalDigit

def isFractionPart : List Char → Bool
  | '.' :: c :: _ => isDecimalDigit c
  | '.' :: [] => false
  | _ => true

/-- A number as JSON writes it: an optional minus, then a decimal with digits before its point and after. -/
def numeral? (chars : List Char) : Option Numeral := do
  let (negative, rest) := match chars with
    | '-' :: rest => (true, rest)
    | rest => (false, rest)
  let digits := rest.takeWhile isDecimalDigit
  let tail := rest.dropWhile isDecimalDigit
  if isWholePart digits && isFractionPart tail then
    let size ← Decimal.ofChars? rest
    some ⟨negative, size, tail.isEmpty⟩
  else none

/-- The characters that code points stand for, where two surrogates in the right order are one character. -/
def pairSurrogates : List Nat → Option (List Char)
  | [] => some []
  | high :: rest =>
    if 0xD800 ≤ high ∧ high < 0xDC00 then
      match rest with
      | low :: rest =>
        if 0xDC00 ≤ low ∧ low < 0xE000 then
          (pairSurrogates rest).map
            (Char.ofNat (0x10000 + (high - 0xD800) * 0x400 + (low - 0xDC00)) :: ·)
        else none
      | [] => none
    else if 0xDC00 ≤ high ∧ high < 0xE000 then none
    else (pairSurrogates rest).map (Char.ofNat high :: ·)

/-- What the lexer is in the middle of. The characters of a token are collected in reverse. -/
inductive Lexing where
  /-- Between two tokens. -/
  | between
  /-- Inside a word. -/
  | word (letters : List Char)
  /-- Inside a number. -/
  | number (chars : List Char)
  /-- Inside a string, at the code points so far. -/
  | text (codes : List Nat)
  /-- Behind a backslash. -/
  | escape (codes : List Nat)
  /-- Inside a `\u` escape with some of its four digits. -/
  | unicode (codes : List Nat) (value : Nat) (missing : Nat)

def isLetter (c : Char) : Bool := 'a' ≤ c && c ≤ 'z'

def isNumberChar (c : Char) : Bool :=
  isDecimalDigit c || c = '-' || c = '+' || c = '.' || c = 'e' || c = 'E'

def punctuation? : Char → Option Token
  | '\x7b' => some .openBrace
  | '\x7d' => some .closeBrace
  | '[' => some .openBracket
  | ']' => some .closeBracket
  | ',' => some .comma
  | ':' => some .colon
  | _ => none

def isBlank (c : Char) : Bool := c = ' ' || c = '\n' || c = '\t' || c = '\r'

def wordToken? : List Char → Option Token
  | ['n', 'u', 'l', 'l'] => some .null
  | ['t', 'r', 'u', 'e'] => some (.bool true)
  | ['f', 'a', 'l', 's', 'e'] => some (.bool false)
  | _ => none

def start (tokens : List Token) (c : Char) : Option (List Token × Lexing) :=
  if isBlank c then some (tokens, .between)
  else if c = '"' then some (tokens, .text [])
  else if isLetter c then some (tokens, .word [c])
  else if isDecimalDigit c || c = '-' then some (tokens, .number [c])
  else (punctuation? c).map fun token => (token :: tokens, .between)

def escaped? : Char → Option Char
  | '"' => some '"'
  | '\\' => some '\\'
  | '/' => some '/'
  | 'b' => some '\x08'
  | 'f' => some '\x0c'
  | 'n' => some '\n'
  | 'r' => some '\r'
  | 't' => some '\t'
  | _ => none

def lexChar : List Token × Lexing → Char → Option (List Token × Lexing)
  | (tokens, .between), c => start tokens c
  | (tokens, .word letters), c =>
    if isLetter c then some (tokens, .word (c :: letters))
    else (wordToken? letters.reverse).bind fun token => start (token :: tokens) c
  | (tokens, .number chars), c =>
    if isNumberChar c then some (tokens, .number (c :: chars))
    else (numeral? chars.reverse).bind fun n => start (.number n :: tokens) c
  | (tokens, .text codes), c =>
    if c = '"' then
      some (.string ((pairSurrogates codes.reverse).map String.ofList) :: tokens, .between)
    else if c = '\\' then some (tokens, .escape codes)
    else if c.toNat < 0x20 then none
    else some (tokens, .text (c.toNat :: codes))
  | (tokens, .escape codes), c =>
    if c = 'u' then some (tokens, .unicode codes 0 4)
    else (escaped? c).map fun d => (tokens, .text (d.toNat :: codes))
  | (tokens, .unicode codes value missing), c =>
    (digitValue? 16 c).map fun digit =>
      let value := value * 16 + digit
      if missing ≤ 1 then (tokens, .text (value :: codes))
      else (tokens, .unicode codes value (missing - 1))

def lexEnd : List Token × Lexing → Option (List Token)
  | (tokens, .between) => some tokens.reverse
  | (tokens, .word letters) => (wordToken? letters.reverse).map fun token => (token :: tokens).reverse
  | (tokens, .number chars) => (numeral? chars.reverse).map fun n => (.number n :: tokens).reverse
  | _ => none

def tokens? (text : String) : Option (List Token) :=
  (text.toList.foldlM lexChar ([], .between)).bind lexEnd

end ShaderCheck.Json
