import ClaimAudit.Http.Name
import ClaimAudit.Text.Percent
import ClaimAudit.Text.Search
import ClaimAudit.Text.Utf8

/-! Hosts of addresses: names in ASCII, and numbers of 32 or of 128 bits.

A name that ends in a number must be a number of 32 bits as a whole: up to four parts
with points between them, decimal, octal after a zero or hexadecimal after `0x`, of
which the last fills the bits that the others leave. Numbers of 128 bits stand in
brackets, as eight parts of 16 bits; two colons stand for zeros that are left out.
-/

set_option autoImplicit false

namespace ClaimAudit.Http.Host

def numeral (base : Nat) (digits : List Nat) : Nat :=
  digits.foldl (fun value digit => value * base + digit) 0

def part? (cs : List Char) : Option Nat :=
  let inBase (base : Nat) (cs : List Char) : Option Nat := do
    let digits ← cs.mapM Text.hexDigit?
    guard (digits.all (· < base))
    return numeral base digits
  match cs with
  | [] => none
  | '0' :: 'x' :: rest => inBase 16 rest
  | '0' :: c :: rest => inBase 8 (c :: rest)
  | cs => inBase 10 cs

def parts (name : List Char) : List (List Char) :=
  let all := Text.splitAll '.' name
  if all.getLast? = some [] then all.dropLast else all

def endsInNumber (name : List Char) : Bool :=
  (parts name).getLast?.any fun last =>
    (last ≠ [] && last.all Char.isDigit) || (part? last).isSome

def word? (parts : List (List Char)) : Option Nat := do
  guard (parts.length ≤ 4)
  let numbers ← parts.mapM part?
  let last ← numbers.getLast?
  guard (numbers.dropLast.all (· < 256) && last < Nat.pow 256 (5 - numbers.length))
  return numeral 256 (numbers.dropLast ++ List.replicate (5 - numbers.length) 0) + last

def wordChars (word : Nat) : List Char :=
  let byte (place : Nat) : String := toString (word / Nat.pow 256 place % 256)
  (".".intercalate [byte 3, byte 2, byte 1, byte 0]).toList

def dotted? (cs : List Char) : Option (List Nat) := do
  let bytes ← (Text.splitAll '.' cs).mapM fun digits => do
    guard (digits ≠ [] && digits.all Char.isDigit && (digits.length = 1 || digits.head? ≠ some '0'))
    let value ← part? digits
    guard (value < 256)
    return value
  match bytes with
  | [a, b, c, d] => return [a * 256 + b, c * 256 + d]
  | _ => none

/-- Parts of 16 bits with colons between them; the last two may be dotted. -/
def groups? (cs : List Char) : Option (List Nat) :=
  if cs = [] then some []
  else
    let pieces := Text.splitAll ':' cs
    let group (digits : List Char) : Option (List Nat) := do
      guard (1 ≤ digits.length && digits.length ≤ 4)
      return [numeral 16 (← digits.mapM Text.hexDigit?)]
    let last (piece : List Char) : Option (List Nat) :=
      if piece.contains '.' then dotted? piece else group piece
    do return (← pieces.dropLast.mapM group).flatten ++ (← last (pieces.getLast?.getD []))

def address? (cs : List Char) : Option (List Nat) := do
  match Text.splitFirst [':', ':'] cs with
  | none =>
    let groups ← groups? cs
    guard (groups.length = 8)
    return groups
  | some (before, after) =>
    guard (!before.contains '.')
    let before ← groups? before
    let after ← groups? after
    guard (before.length + after.length ≤ 7)
    return before ++ List.replicate (8 - before.length - after.length) 0 ++ after

def zeros (groups : List Nat) : Nat := (groups.takeWhile (· = 0)).length

/-- The first of the longest runs of zeros: where it begins, and its length. -/
def longestRun (groups : List Nat) : Nat × Nat :=
  (List.range groups.length).foldl (fun best start =>
    let length := zeros (groups.drop start)
    if best.2 < length then (start, length) else best) (0, 0)

def addressChars (groups : List Nat) : List Char :=
  let text (groups : List Nat) : List Char :=
    (":".intercalate (groups.map fun g => String.ofList (Nat.toDigits 16 g))).toList
  let (start, length) := longestRun groups
  if length < 2 then text groups
  else text (groups.take start) ++ [':', ':'] ++ text (groups.drop (start + length))

def forbidden : List Char :=
  ['#', '/', '<', '>', '?', '@', '[', '\\', ']', '^', '|', '%', ':', '\x7f']

def ofChars? (cs : List Char) : Option (List Char) := do
  match cs with
  | '[' :: rest =>
    guard (rest.getLast? = some ']')
    return '[' :: addressChars (← address? rest.dropLast) ++ [']']
  | cs =>
    let name ← Name.ascii? (← Text.Utf8.strict? (Text.percentDecode cs)).toList
    guard (name ≠ [] && name.all fun c => 0x20 < c.toNat && c ∉ forbidden)
    if endsInNumber name then return wordChars (← word? (parts name)) else return name

end ClaimAudit.Http.Host
