import ShaderCheck.Json.Basic

/-!
Writing JSON text in the layout that reports use: one field or item a line, indented by two spaces.
-/

namespace ShaderCheck.Json

def hexDigit (n : Nat) : Char := (Nat.toDigits 16 n).headD '0'

/-- A character inside a string. Quotes, backslashes and control characters are escaped, all others stand for
themselves. -/
def escapeChar (c : Char) : List Char :=
  match c with
  | '"' => ['\\', '"']
  | '\\' => ['\\', '\\']
  | '\x08' => ['\\', 'b']
  | '\x0c' => ['\\', 'f']
  | '\n' => ['\\', 'n']
  | '\r' => ['\\', 'r']
  | '\t' => ['\\', 't']
  | c =>
    if c.toNat < 0x20 then ['\\', 'u', '0', '0', hexDigit (c.toNat / 16), hexDigit (c.toNat % 16)]
    else [c]

def quote (text : String) : String :=
  "\"" ++ String.ofList (text.toList.flatMap escapeChar) ++ "\""

/-- A number as a whole number with an exponent where it needs one. -/
def numeralText (n : Numeral) : String :=
  let digits := toString n.size.significand
  let exponent := if n.size.exponent = 0 then "" else "e" ++ toString n.size.exponent
  (if n.negative then "-" else "") ++ digits ++ exponent

def indentation (level : Nat) : String := String.ofList (List.replicate (2 * level) ' ')

/-- Lines between an opening and a closing mark. Nothing at all stands between the marks of an empty list. -/
def enclose (level : Nat) (opening closing : String) (lines : List String) : String :=
  if lines.isEmpty then opening ++ closing
  else
    let inner := indentation (level + 1)
    opening ++ "\n" ++ inner ++ String.intercalate (",\n" ++ inner) lines
      ++ "\n" ++ indentation level ++ closing

mutual

def pretty (level : Nat) : Json → String
  | .null => "null"
  | .bool true => "true"
  | .bool false => "false"
  | .number n => numeralText n
  | .string text => quote text
  | .array items => enclose level "[" "]" (prettyItems (level + 1) items)
  | .object fields => enclose level "\x7b" "\x7d" (prettyFields (level + 1) fields)
termination_by structural json => json

def prettyItems (level : Nat) : List Json → List String
  | [] => []
  | item :: rest => pretty level item :: prettyItems level rest
termination_by structural items => items

def prettyFields (level : Nat) : List (String × Json) → List String
  | [] => []
  | (key, value) :: rest => (quote key ++ ": " ++ pretty level value) :: prettyFields level rest
termination_by structural fields => fields

end

def write (json : Json) : String := pretty 0 json

end ShaderCheck.Json
