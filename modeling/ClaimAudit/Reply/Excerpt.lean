import ClaimAudit.Text.Blank
import ClaimAudit.Text.Search

/-! The part of a model's reply that is meant to be read as JSON.

A block fenced as JSON comes first, then any fenced block, then the span between
the outermost brackets, then the whole reply. A fence that is never closed does
not count. What is chosen is always a contiguous part of the reply.
-/

set_option autoImplicit false

namespace ClaimAudit.Reply

open ClaimAudit.Text (splitFirst splitLast trimChars)

def fence : List Char := ['\x60', '\x60', '\x60']

def jsonFence : List Char := fence ++ ['j', 's', 'o', 'n']

/-- The inside of the first block whose fence names JSON. The block begins right
after that name. -/
def jsonBlock? (reply : List Char) : Option (List Char) := do
  let (_, opened) ← splitFirst jsonFence reply
  let (block, _) ← splitFirst fence opened
  return block

/-- The text after a language name, which ends with its line. -/
def afterLanguage (opened : List Char) : List Char :=
  match splitFirst ['\n'] opened with
  | some (_, rest) => rest
  | none => opened

def fencedBlock? (reply : List Char) : Option (List Char) := do
  let (_, opened) ← splitFirst fence reply
  let (block, _) ← splitFirst fence (afterLanguage opened)
  return block

def bracketed? (opening closing : Char) (reply : List Char) : Option (List Char) := do
  let (_, opened) ← splitFirst [opening] reply
  let (inner, _) ← splitLast closing opened
  return opening :: inner ++ [closing]

def excerpt (opening closing : Char) (reply : List Char) : List Char :=
  match jsonBlock? reply with
  | some block => trimChars block
  | none =>
    match fencedBlock? reply with
    | some block => trimChars block
    | none => (bracketed? opening closing reply).getD (trimChars reply)

end ClaimAudit.Reply
