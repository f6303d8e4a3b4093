import ClaimAudit.Text.Direction
import ClaimAudit.Text.Punycode

/-! Names of hosts in all scripts.

A name consists of labels with points between them. It is folded and composed first.
A label beyond ASCII is then written in ASCII after `xn--`; one that begins like that
already must be what would be written for its text.
-/

set_option autoImplicit false

namespace ClaimAudit.Http.Name

open ClaimAudit.Text

structure Label where
  text : List Char
  written : List Char
  deriving DecidableEq, Repr

def codeMark : List Char := ['x', 'n', '-', '-']

namespace Label

/-- The label that is written as a code. Its text is beyond ASCII, folded and composed. -/
def ofCode? (code : List Char) : Option Label := do
  let text ← Punycode.decode? code
  guard (text.any (!Punycode.isAscii ·))
  guard (folded? text = some text && Composition.composed text = text)
  return ⟨text, codeMark ++ code⟩

def ofText (text : List Char) : Label :=
  if text.all Punycode.isAscii then ⟨text, text⟩ else ⟨text, codeMark ++ Punycode.encode text⟩

def isSound (l : Label) : Bool := !l.text.head?.any isMark && joinersFit [] l.text

end Label

def labels? (name : List Char) : Option (List Label) := do
  let name := Composition.composed (← folded? name)
  let labels ← (splitAll '.' name).mapM fun label =>
    match dropPrefix codeMark label with
    | some code => Label.ofCode? code
    | none => some (Label.ofText label)
  let texts := labels.map Label.text
  guard (labels.all Label.isSound)
  guard (!texts.any runsLeft || texts.all keepsDirection)
  return labels

def ascii? (name : List Char) : Option (List Char) := do
  return ['.'].intercalate ((← labels? name).map Label.written)

end ClaimAudit.Http.Name
