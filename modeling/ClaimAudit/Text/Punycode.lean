import ClaimAudit.Text.Search

/-! Texts of any characters written with ASCII letters, digits and hyphens.

The ASCII characters come first, with a hyphen after them. Then the others follow in
the order of their code points, each as the number of steps from the one before: a
step goes to the next place in the text, and after the last place to the first one
for the next code point. Numbers have digits in base 36, the least first. Each digit
has a threshold, and one below it ends the number. Thresholds follow a bias that
adapts to the numbers before.
-/

set_option autoImplicit false

namespace ClaimAudit.Text.Punycode

def base : Nat := 36

def isAscii (c : Char) : Bool := c.toNat < 0x80

def digitChar (d : Nat) : Char :=
  if d < 26 then Char.ofNat ('a'.toNat + d) else Char.ofNat ('0'.toNat + (d - 26))

def digit? (c : Char) : Option Nat :=
  if 'a' ≤ c ∧ c ≤ 'z' then some (c.toNat - 'a'.toNat)
  else if '0' ≤ c ∧ c ≤ '9' then some (c.toNat - '0'.toNat + 26)
  else none

/-- The threshold of the digit at a place, between 1 and 26. Places are multiples of 36. -/
def threshold (bias place : Nat) : Nat := min 26 (max 1 (place - bias))

def digits (bias place n : Nat) : List Char :=
  let t := threshold bias place
  if n < t then [digitChar n]
  else digitChar (t + (n - t) % (base - t)) :: digits bias (place + base) ((n - t) / (base - t))
termination_by n
decreasing_by
  have : 1 ≤ threshold bias place := by unfold threshold; omega
  exact Nat.lt_of_le_of_lt (Nat.div_le_self _ _) (by omega)

def biasOf (n : Nat) : Nat :=
  if n ≤ 455 then base * n / (n + 38) else base + biasOf (n / (base - 1))
termination_by n
decreasing_by exact Nat.div_lt_self (by omega) (by decide)

/-- The bias after a number, of which the text has `count` now. The first number says
little about the next. -/
def adapt (number count : Nat) (isFirst : Bool) : Nat :=
  let n := if isFirst then number / 700 else number / 2
  biasOf (n + n / count)

structure Writer where
  written : List Char := []
  /-- Steps since the last character. -/
  steps : Nat := 0
  bias : Nat := 72
  /-- How many characters of the text are written. -/
  count : Nat
  isFirst : Bool := true

def Writer.pass (code : Nat) (w : Writer) (c : Char) : Writer :=
  if c.toNat < code then { w with steps := w.steps + 1 }
  else if c.toNat = code then
    { written := w.written ++ digits w.bias base w.steps
      bias := adapt w.steps (w.count + 1) w.isFirst
      count := w.count + 1
      isFirst := false }
  else w

def Writer.writeAll (cs : List Char) (code : Nat) (w : Writer) : List Nat → Writer
  | [] => w
  | next :: codes =>
    let w := { w with steps := w.steps + (next - code) * (w.count + 1) }
    let w := cs.foldl (Writer.pass next) w
    Writer.writeAll cs (next + 1) { w with steps := w.steps + 1 } codes

def encode (cs : List Char) : List Char :=
  let plain := cs.filter isAscii
  let codes := ((cs.filter (!isAscii ·)).map Char.toNat).mergeSort.eraseDups
  let hyphen := if plain = [] then [] else ['-']
  plain ++ hyphen ++ (Writer.writeAll cs 0x80 { count := plain.length } codes).written

structure Reader where
  text : List Char
  code : Nat := 0x80
  bias : Nat := 72
  /-- The place that the steps so far lead to, and where they began. -/
  index : Nat := 0
  start : Nat := 0
  /-- The place and the weight of the next digit. -/
  place : Nat := base
  weight : Nat := 1

def Reader.step (r : Reader) (c : Char) : Option Reader := do
  let d ← digit? c
  let t := threshold r.bias r.place
  let index := r.index + d * r.weight
  if t ≤ d then return { r with index, weight := r.weight * (base - t), place := r.place + base }
  let count := r.text.length + 1
  let code := r.code + index / count
  guard (code.isValidChar)
  return {
    text := r.text.insertIdx (index % count) (Char.ofNat code)
    code
    bias := adapt (index - r.start) count (r.start = 0)
    index := index % count + 1
    start := index % count + 1 }

def decode? (cs : List Char) : Option (List Char) := do
  let (plain, rest) := match splitLast '-' cs with
    | some (c :: plain, rest) => (c :: plain, rest)
    | _ => ([], cs)
  guard (plain.all isAscii)
  let r ← rest.foldlM Reader.step { text := plain }
  guard (r.place = base)
  return r.text

end ClaimAudit.Text.Punycode
