import Rind.Json.Value
import Mathlib.Data.Char

/-!
# JSON text

Compact printing and recursive-descent parsing of JSON values, over lists of
characters.  Printing writes no blanks, lists object members in key order and
escapes exactly the quotation mark, the backslash and the control characters.
Parsing accepts blanks between tokens, any member order and every escape, keeps
the last of several members with one key, and rejects text nested deeper than
its limit.
-/

namespace Rind.Json

/-! ## Printing -/

/-- One character of a string, escaped where JSON requires it. -/
def escapeChar (c : Char) : List Char :=
  if c = '"' then ['\\', '"']
  else if c = '\\' then ['\\', '\\']
  else if c = '\x08' then ['\\', 'b']
  else if c = '\t' then ['\\', 't']
  else if c = '\n' then ['\\', 'n']
  else if c = '\x0c' then ['\\', 'f']
  else if c = '\r' then ['\\', 'r']
  else if c.toNat < 0x20 then
    ['\\', 'u', '0', '0', Nat.digitChar (c.toNat / 16), Nat.digitChar (c.toNat % 16)]
  else [c]

/-- A quoted string. -/
def quote (text : String) : List Char := '"' :: (text.toList.flatMap escapeChar ++ ['"'])

/-- The printed form of a number. -/
def Number.render : Number → List Char
  | .int value =>
      if value < 0 then '-' :: Nat.toDigits 10 value.natAbs else Nat.toDigits 10 value.natAbs
  | .float decimal => decimal.toList

mutual
/-- The compact text of a value. -/
def render : Json → List Char
  | .null => ['n', 'u', 'l', 'l']
  | .bool true => ['t', 'r', 'u', 'e']
  | .bool false => ['f', 'a', 'l', 's', 'e']
  | .num value => value.render
  | .str text => quote text
  | .arr [] => ['[', ']']
  | .arr (item :: rest) => '[' :: (render item ++ renderItems rest)
  | .obj [] => ['{', '}']
  | .obj ((key, value) :: rest) =>
      '{' :: (quote key ++ ':' :: (render value ++ renderFields rest))

/-- The items after the first one, up to the closing bracket. -/
def renderItems : List Json → List Char
  | [] => [']']
  | item :: rest => ',' :: (render item ++ renderItems rest)

/-- The members after the first one, up to the closing brace. -/
def renderFields : List (String × Json) → List Char
  | [] => ['}']
  | (key, value) :: rest => ',' :: (quote key ++ ':' :: (render value ++ renderFields rest))
end

/-! ## Parsing -/

/-- A parser takes a prefix of its input and returns the rest. -/
abbrev Parser (α : Type) : Type := List Char → Option (α × List Char)

/-- JSON's blanks. -/
def isBlank (c : Char) : Bool := c = ' ' || c = '\n' || c = '\t' || c = '\r'

/-- Drop leading blanks. -/
def skipBlanks (input : List Char) : List Char := input.dropWhile isBlank

/-- The value of a hexadecimal digit. -/
def hexValue (c : Char) : Option Nat :=
  if '0' ≤ c ∧ c ≤ '9' then some (c.toNat - '0'.toNat)
  else if 'a' ≤ c ∧ c ≤ 'f' then some (c.toNat - 'a'.toNat + 10)
  else if 'A' ≤ c ∧ c ≤ 'F' then some (c.toNat - 'A'.toNat + 10)
  else none

/-- Four hexadecimal digits. -/
def parseHex4 : Parser Nat
  | a :: b :: c :: d :: rest => do
      let a ← hexValue a
      let b ← hexValue b
      let c ← hexValue c
      let d ← hexValue d
      some (((a * 16 + b) * 16 + c) * 16 + d, rest)
  | _ => none

/-- The rest of a `\u` escape. A leading surrogate needs its trailing one. -/
def parseUnicode (input : List Char) : Option (Char × List Char) := do
  let (high, rest) ← parseHex4 input
  if 0xD800 ≤ high ∧ high < 0xDC00 then
    match rest with
    | '\\' :: 'u' :: rest =>
        let (low, rest) ← parseHex4 rest
        if 0xDC00 ≤ low ∧ low < 0xE000 then
          some (Char.ofNat (0x10000 + (high - 0xD800) * 0x400 + (low - 0xDC00)), rest)
        else none
    | _ => none
  else if 0xDC00 ≤ high ∧ high < 0xE000 then none
  else some (Char.ofNat high, rest)

/-- The character a one-letter escape stands for. -/
def simpleEscape (c : Char) : Option Char :=
  if c = '"' then some '"'
  else if c = '\\' then some '\\'
  else if c = '/' then some '/'
  else if c = 'b' then some '\x08'
  else if c = 'f' then some '\x0c'
  else if c = 'n' then some '\n'
  else if c = 'r' then some '\r'
  else if c = 't' then some '\t'
  else none

/-- The characters of a string up to its closing quotation mark. -/
def parseChars : Nat → Parser (List Char)
  | 0, _ => none
  | fuel + 1, input =>
      match input with
      | [] => none
      | c :: rest =>
          if c = '"' then some ([], rest)
          else if c = '\\' then
            match rest with
            | [] => none
            | e :: rest =>
                let escaped := if e = 'u' then parseUnicode rest
                  else (simpleEscape e).map fun c => (c, rest)
                match escaped with
                | none => none
                | some (c, rest) => (parseChars fuel rest).map fun (cs, rest) => (c :: cs, rest)
          else if c.toNat < 0x20 then none
          else (parseChars fuel rest).map fun (cs, rest) => (c :: cs, rest)

/-- A quoted string. -/
def parseString : Parser String
  | '"' :: rest =>
      (parseChars (rest.length + 1) rest).map fun (cs, rest) => (String.ofList cs, rest)
  | _ => none

/-- The characters a number is made of. -/
def isNumberChar (c : Char) : Bool :=
  c.isDigit || c = '-' || c = '+' || c = '.' || c = 'e' || c = 'E'

/-- A digit sequence without a superfluous leading zero. -/
def isNatural (digits : List Char) : Bool :=
  match digits with
  | [] => false
  | ['0'] => true
  | first :: rest => first != '0' && first.isDigit && rest.all Char.isDigit

/-- An optional exponent. -/
def isExponent : List Char → Bool
  | [] => true
  | mark :: sign :: rest =>
      (mark = 'e' || mark = 'E') &&
        if sign = '+' || sign = '-' then !rest.isEmpty && rest.all Char.isDigit
        else sign.isDigit && rest.all Char.isDigit
  | _ => false

/-- An optional fraction, then an optional exponent. -/
def isFraction : List Char → Bool
  | '.' :: rest =>
      !(rest.takeWhile Char.isDigit).isEmpty && isExponent (rest.dropWhile Char.isDigit)
  | rest => isExponent rest

/-- The number of a token without its sign: an integer when it has neither
fraction nor exponent and fits in 64 bits, and a floating-point number
otherwise. -/
def numberOfUnsigned (token : List Char) (negative : Bool) (unsigned : List Char) :
    Option Number :=
  let digits := unsigned.takeWhile Char.isDigit
  let fraction := unsigned.dropWhile Char.isDigit
  let magnitude := Nat.ofDigitChars 10 digits 0
  if !(isNatural digits && isFraction fraction) then none
  else if fraction.isEmpty && negative && 0 < magnitude && magnitude ≤ 2 ^ 63 then
    some (.int (-magnitude))
  else if fraction.isEmpty && !negative && magnitude < 2 ^ 64 then
    some (.int magnitude)
  else some (.float (String.ofList token))

/-- The number a token stands for. -/
def numberOf (token : List Char) : Option Number :=
  match token with
  | '-' :: unsigned => numberOfUnsigned token true unsigned
  | unsigned => numberOfUnsigned token false unsigned

/-- The longest number token at the front. -/
def parseNumber (input : List Char) : Option (Json × List Char) :=
  (numberOf (input.takeWhile isNumberChar)).map fun value =>
    (.num value, input.dropWhile isNumberChar)

/-- The items after the first one. -/
def parseItems (value : Parser Json) : Nat → Parser (List Json)
  | 0, _ => none
  | fuel + 1, input =>
      match skipBlanks input with
      | ']' :: rest => some ([], rest)
      | ',' :: rest => do
          let (item, rest) ← value (skipBlanks rest)
          let (items, rest) ← parseItems value fuel rest
          some (item :: items, rest)
      | _ => none

/-- One member of an object. -/
def parseMember (value : Parser Json) (input : List Char) :
    Option ((String × Json) × List Char) := do
  let (key, rest) ← parseString (skipBlanks input)
  match skipBlanks rest with
  | ':' :: rest =>
      let (held, rest) ← value (skipBlanks rest)
      some ((key, held), rest)
  | _ => none

/-- The members after the first one. -/
def parseFields (value : Parser Json) : Nat → Parser (List (String × Json))
  | 0, _ => none
  | fuel + 1, input =>
      match skipBlanks input with
      | '}' :: rest => some ([], rest)
      | ',' :: rest => do
          let (member, rest) ← parseMember value rest
          let (members, rest) ← parseFields value fuel rest
          some (member :: members, rest)
      | _ => none

/-- The ordered map of a member list, later members first overwriting earlier
ones. -/
def collect (members : List (String × Json)) : List (String × Json) :=
  members.foldl (fun fields member => OrderedFields.insert member.1 member.2 fields) []

/-- A value other than an array or an object. -/
def parseScalar : Parser Json
  | 'n' :: 'u' :: 'l' :: 'l' :: rest => some (.null, rest)
  | 't' :: 'r' :: 'u' :: 'e' :: rest => some (.bool true, rest)
  | 'f' :: 'a' :: 'l' :: 's' :: 'e' :: rest => some (.bool false, rest)
  | '"' :: rest => (parseString ('"' :: rest)).map fun (text, rest) => (.str text, rest)
  | input => parseNumber input

/-- An array after its opening bracket. -/
def parseArray (value : Parser Json) (input : List Char) : Option (Json × List Char) :=
  match skipBlanks input with
  | ']' :: rest => some (.arr [], rest)
  | inside => do
      let (item, rest) ← value inside
      let (items, rest) ← parseItems value (rest.length + 1) rest
      some (.arr (item :: items), rest)

/-- An object after its opening brace. -/
def parseObject (value : Parser Json) (input : List Char) : Option (Json × List Char) :=
  match skipBlanks input with
  | '}' :: rest => some (.obj [], rest)
  | inside => do
      let (member, rest) ← parseMember value inside
      let (members, rest) ← parseFields value (rest.length + 1) rest
      some (.obj (collect (member :: members)), rest)

/-- A value with at most `nesting` arrays and objects inside one another. -/
def parseValue : Nat → Parser Json
  | 0, input => parseScalar input
  | nesting + 1, input =>
      match input with
      | '[' :: rest => parseArray (parseValue nesting) rest
      | '{' :: rest => parseObject (parseValue nesting) rest
      | _ => parseScalar input

/-- A whole text: one value between blanks. -/
def parse (nesting : Nat) (input : List Char) : Option Json :=
  match parseValue nesting (skipBlanks input) with
  | some (value, rest) => if (skipBlanks rest).isEmpty then some value else none
  | none => none

end Rind.Json
