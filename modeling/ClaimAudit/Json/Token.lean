import ClaimAudit.Json.Value
import ClaimAudit.Text.Hexadecimal

/-! The tokens of a JSON text.

The scanner looks at each character once. A run of characters that are neither
blanks, quotes nor punctuation is one word, which must be a name or a number; two
words cannot touch, so a run that is neither refuses the text.
-/

set_option autoImplicit false

namespace ClaimAudit.Json

inductive Token where
  | openArray
  | closeArray
  | openObject
  | closeObject
  | comma
  | colon
  | null
  | bool (value : Bool)
  | number (value : Option Number)
  | string (value : Option String)

/-- One written element of a string: a character, or the code unit of an escape
sequence with four hexadecimal digits. -/
inductive Piece where
  | char (c : Char)
  | unit (n : Nat)
  deriving DecidableEq

def pairedUnits (high low : Nat) : Nat := 0x10000 + (high - 0xD800) * 0x400 + (low - 0xDC00)

/-- The characters of a string literal. A surrogate that is not half of a pair
stands for no character. -/
def charsOfPieces? : List Piece → Option (List Char)
  | [] => some []
  | .char c :: rest => (charsOfPieces? rest).map (c :: ·)
  | .unit high :: .unit low :: rest =>
    if 0xD800 ≤ high ∧ high < 0xDC00 then
      if 0xDC00 ≤ low ∧ low < 0xE000 then
        (charsOfPieces? rest).map (Char.ofNat (pairedUnits high low) :: ·)
      else none
    else if 0xDC00 ≤ high ∧ high < 0xE000 then none
    else (charsOfPieces? (.unit low :: rest)).map (Char.ofNat high :: ·)
  | .unit n :: rest =>
    if 0xD800 ≤ n ∧ n < 0xE000 then none
    else (charsOfPieces? rest).map (Char.ofNat n :: ·)

def isSpace (c : Char) : Bool := c = ' ' || c = '\n' || c = '\t' || c = '\r'

def punctuation? : Char → Option Token
  | '[' => some .openArray
  | ']' => some .closeArray
  | '{' => some .openObject
  | '}' => some .closeObject
  | ',' => some .comma
  | ':' => some .colon
  | _ => none

def wordToken? (word : List Char) : Option Token :=
  if word = ['n', 'u', 'l', 'l'] then some .null
  else if word = ['t', 'r', 'u', 'e'] then some (.bool true)
  else if word = ['f', 'a', 'l', 's', 'e'] then some (.bool false)
  else (Literal.ofChars? word).map fun literal => .number literal.number?

def escaped? : Char → Option Char
  | '"' => some '"'
  | '\\' => some '\\'
  | '/' => some '/'
  | 'b' => some '\x08'
  | 'f' => some '\x0c'
  | 'n' => some '\n'
  | 'r' => some '\r'
  | 't' => some '\t'
  | _ => none

/-- Where the scanner stands between two characters. Lists hold what was read of
an unfinished token, the latest first. -/
inductive Mode where
  | between
  | word (letters : List Char)
  | quoted (pieces : List Piece)
  | escape (pieces : List Piece)
  | code (pieces : List Piece) (value digits : Nat)

def scan : Mode → List Char → Option (List Token)
  | .between, [] => some []
  | .word letters, [] => (wordToken? letters.reverse).map ([·])
  | _, [] => none
  | .between, c :: cs =>
    if isSpace c then scan .between cs
    else if c = '"' then scan (.quoted []) cs
    else
      match punctuation? c with
      | some token => (scan .between cs).map (token :: ·)
      | none => scan (.word [c]) cs
  | .word letters, c :: cs =>
    if isSpace c then do
      let word ← wordToken? letters.reverse
      let rest ← scan .between cs
      return word :: rest
    else if c = '"' then do
      let word ← wordToken? letters.reverse
      let rest ← scan (.quoted []) cs
      return word :: rest
    else
      match punctuation? c with
      | some token => do
        let word ← wordToken? letters.reverse
        let rest ← scan .between cs
        return word :: token :: rest
      | none => scan (.word (c :: letters)) cs
  | .quoted pieces, c :: cs =>
    if c = '"' then do
      let rest ← scan .between cs
      return .string ((charsOfPieces? pieces.reverse).map String.ofList) :: rest
    else if c = '\\' then scan (.escape pieces) cs
    else if c.toNat < 0x20 then none
    else scan (.quoted (.char c :: pieces)) cs
  | .escape pieces, c :: cs =>
    if c = 'u' then scan (.code pieces 0 0) cs
    else
      match escaped? c with
      | some e => scan (.quoted (.char e :: pieces)) cs
      | none => none
  | .code pieces value digits, c :: cs =>
    match Text.hexDigit? c with
    | none => none
    | some digit =>
      if digits = 3 then scan (.quoted (.unit (value * 16 + digit) :: pieces)) cs
      else scan (.code pieces (value * 16 + digit) (digits + 1)) cs

def tokens? (text : List Char) : Option (List Token) := scan .between text

end ClaimAudit.Json
