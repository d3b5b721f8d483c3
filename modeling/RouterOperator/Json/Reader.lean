import RouterOperator.Json.Number

/-!
# Reading JSON text

The reader works in two passes, each a fold over its input. The first cuts the characters into
tokens, the second shifts tokens onto a stack of open arrays and objects. The result keeps the
members of objects as they are written. Unreadable, though well-formed, are a string with half a
surrogate pair, an object with such a key, a number beyond the range of numbers, and an array or
object that lies in 127 others.
-/

namespace RouterOperator.Json

/-- The pieces of a JSON text. A string is a piece even if it stands for no characters. -/
inductive Token where
  | openArray
  | closeArray
  | openObject
  | closeObject
  | comma
  | colon
  | text (characters : Option String)
  | scalar (value : Json)

/-- Where in a token the scanner stands. What was already seen is kept in reverse: the characters of
a word, and the code points of a string, in which an escape stands for a code unit. -/
inductive ScanMode where
  | between
  | word (seen : List Char)
  | text (seen : List Nat)
  | escape (seen : List Nat)
  | hex (seen : List Nat) (digits : Nat) (value : Nat)

/-- A scanner: its mode and the tokens cut so far, in reverse. -/
structure Scanner where
  mode : ScanMode
  tokens : List Token

/-- The blanks allowed between tokens. -/
def isSpace (c : Char) : Bool := c = ' ' || c = '\n' || c = '\t' || c = '\r'

/-- The token that a single character stands for. -/
def punctuation? (c : Char) : Option Token :=
  if c = '[' then some .openArray
  else if c = ']' then some .closeArray
  else if c = '\x7b' then some .openObject
  else if c = '\x7d' then some .closeObject
  else if c = ',' then some .comma
  else if c = ':' then some .colon
  else none

/-- A literal name or a number. -/
def scalar? (word : List Char) : Option Json :=
  if word = "null".toList then some null
  else if word = "true".toList then some (bool true)
  else if word = "false".toList then some (bool false)
  else number? word

/-- The value of a hexadecimal digit. -/
def hexValue? (c : Char) : Option Nat :=
  if c.isDigit then some (c.toNat - '0'.toNat)
  else if 'a' ≤ c ∧ c ≤ 'f' then some (c.toNat - 'a'.toNat + 10)
  else if 'A' ≤ c ∧ c ≤ 'F' then some (c.toNat - 'A'.toNat + 10)
  else none

/-- The character that a backslash and this letter stand for. -/
def escaped? (c : Char) : Option Char :=
  if c = '"' || c = '\\' || c = '/' then some c
  else if c = 'b' then some '\x08'
  else if c = 'f' then some '\x0c'
  else if c = 'n' then some '\n'
  else if c = 'r' then some '\r'
  else if c = 't' then some '\t'
  else none

/-- Whether a code unit is the first half of a surrogate pair. -/
def isHighSurrogate (unit : Nat) : Bool := 0xD800 ≤ unit && unit < 0xDC00

/-- Whether a code unit is the second half of a surrogate pair. -/
def isLowSurrogate (unit : Nat) : Bool := 0xDC00 ≤ unit && unit < 0xE000

/-- The characters that code points stand for, given in reverse and put before others. Two halves of
a surrogate pair make one character, and half a pair makes none. -/
def characters? : List Nat → List Char → Option (List Char)
  | [], rest => some rest
  | [point], rest =>
    if isHighSurrogate point || isLowSurrogate point then none else some (Char.ofNat point :: rest)
  | point :: before :: seen, rest =>
    if isLowSurrogate point then
      if isHighSurrogate before then
        characters? seen
          (Char.ofNat (0x10000 + (before - 0xD800) * 0x400 + (point - 0xDC00)) :: rest)
      else none
    else if isHighSurrogate point then none
    else characters? (before :: seen) (Char.ofNat point :: rest)

/-- Reads one character. -/
def Scanner.step (scanner : Scanner) (c : Char) : Option Scanner :=
  let between (tokens : List Token) : Option Scanner :=
    if isSpace c then some ⟨.between, tokens⟩
    else if c = '"' then some ⟨.text [], tokens⟩
    else match punctuation? c with
      | some token => some ⟨.between, token :: tokens⟩
      | none => some ⟨.word [c], tokens⟩
  match scanner.mode with
  | .between => between scanner.tokens
  | .word seen =>
    if isSpace c || c = '"' || (punctuation? c).isSome then do
      let value ← scalar? seen.reverse
      between (.scalar value :: scanner.tokens)
    else some ⟨.word (c :: seen), scanner.tokens⟩
  | .text seen =>
    if c = '"' then
      some ⟨.between, .text ((characters? seen []).map String.ofList) :: scanner.tokens⟩
    else if c = '\\' then some ⟨.escape seen, scanner.tokens⟩
    else if c.toNat < 0x20 then none
    else some ⟨.text (c.toNat :: seen), scanner.tokens⟩
  | .escape seen =>
    if c = 'u' then some ⟨.hex seen 0 0, scanner.tokens⟩
    else (escaped? c).map fun e => ⟨.text (e.toNat :: seen), scanner.tokens⟩
  | .hex seen digits value => do
    let digit ← hexValue? c
    let unit := 16 * value + digit
    let mode := if digits < 3 then .hex seen (digits + 1) unit else .text (unit :: seen)
    return ⟨mode, scanner.tokens⟩

/-- The tokens of a text. -/
def tokens? (cs : List Char) : Option (List Token) := do
  let scanner ← cs.foldlM Scanner.step ⟨.between, []⟩
  match scanner.mode with
  | .between => some scanner.tokens.reverse
  | .word seen => (scalar? seen.reverse).map fun value => (.scalar value :: scanner.tokens).reverse
  | _ => none

/-- An array or object whose end is still to come: its items in reverse, or its members in reverse
and the key of the member being read. There are no members once a key was unreadable. -/
inductive Frame where
  | array (items : List Json)
  | object (members : Option (List (String × Json))) (key : Option String)

/-- What may come next. -/
inductive Expect where
  | value
  | firstItem
  | firstKey
  | key
  | colon
  | next
  | done (result : Json)

/-- The open arrays and objects, the innermost first, and what may come next. -/
structure Shift where
  stack : List Frame
  expect : Expect

/-- The deepest nesting of arrays and objects that can be read. -/
def maxDepth : Nat := 127

namespace Shift

/-- Hands a finished value to the innermost open array or object. -/
def complete (stack : List Frame) (value : Json) : Shift :=
  match stack with
  | [] => ⟨[], .done value⟩
  | .array items :: rest => ⟨.array (value :: items) :: rest, .next⟩
  | .object members key :: rest =>
    ⟨.object (do return (← key, value) :: (← members)) key :: rest, .next⟩

/-- Hands on an array or object that lies in these. -/
def close (stack : List Frame) (value : Json) : Shift :=
  complete stack (if stack.length < maxDepth then value else unreadable)

/-- Hands on an object that lies in these. -/
def closeObject (stack : List Frame) (members : Option (List (String × Json))) : Shift :=
  close stack ((members.map fun members => object members.reverse).getD unreadable)

/-- Reads one token. -/
def step (shift : Shift) (token : Token) : Option Shift :=
  match shift.expect, token, shift.stack with
  | .value, .scalar value, stack => some (complete stack value)
  | .value, .text text, stack => some (complete stack ((text.map string).getD unreadable))
  | .value, .openArray, stack => some ⟨.array [] :: stack, .firstItem⟩
  | .value, .openObject, stack => some ⟨.object (some []) none :: stack, .firstKey⟩
  | .firstItem, .scalar value, stack => some (complete stack value)
  | .firstItem, .text text, stack => some (complete stack ((text.map string).getD unreadable))
  | .firstItem, .openArray, stack => some ⟨.array [] :: stack, .firstItem⟩
  | .firstItem, .openObject, stack => some ⟨.object (some []) none :: stack, .firstKey⟩
  | .firstItem, .closeArray, .array items :: rest => some (close rest (array items.reverse))
  | .firstKey, .text key, .object members _ :: rest => some ⟨.object members key :: rest, .colon⟩
  | .firstKey, .closeObject, .object members _ :: rest => some (closeObject rest members)
  | .key, .text key, .object members _ :: rest => some ⟨.object members key :: rest, .colon⟩
  | .colon, .colon, stack => some ⟨stack, .value⟩
  | .next, .comma, .array items :: rest => some ⟨.array items :: rest, .value⟩
  | .next, .comma, .object members key :: rest => some ⟨.object members key :: rest, .key⟩
  | .next, .closeArray, .array items :: rest => some (close rest (array items.reverse))
  | .next, .closeObject, .object members _ :: rest => some (closeObject rest members)
  | _, _, _ => none

end Shift

/-- What a text says, as it is written. -/
def parse? (text : String) : Option Json := do
  let tokens ← tokens? text.toList
  let shift ← tokens.foldlM Shift.step ⟨[], .value⟩
  match shift.expect with
  | .done value => some value
  | _ => none

/-- The plain value that a text stands for. -/
def read? (text : String) : Option Json := (parse? text).bind plain?

end RouterOperator.Json
