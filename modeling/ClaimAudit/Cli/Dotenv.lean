import ClaimAudit.Text.Alphanumeric
import ClaimAudit.Text.Blank
import ClaimAudit.Text.Search

/-! Files of environment variables: one assignment a line, `NAME=value`.

A value may stand in single quotes, which keep it as it is, or in double quotes; a
backslash escapes, a dollar sign inserts another variable, and a hash sign after a
blank begins a comment. A quoted value may span lines. The first assignment that
cannot be read ends the file.
-/

set_option autoImplicit false

namespace ClaimAudit.Cli.Dotenv

inductive Place where
  | plain
  | blank
  | escape
  | weak
  | weakEscape
  | strong
  | strongEscape
  deriving DecidableEq, Repr

def Place.next : Place → Char → Option Place
  | .blank, '#' => none
  | .blank, '\\' | .plain, '\\' => some .escape
  | .blank, '"' | .plain, '"' => some .weak
  | .blank, '\x27' | .plain, '\x27' => some .strong
  | .blank, _ => some .plain
  | .plain, c => some (if Text.isBlank c ∧ c ≠ '\n' ∧ c ≠ '\r' then .blank else .plain)
  | .escape, _ => some .plain
  | .weak, '\\' => some .weakEscape
  | .weak, '"' => some .plain
  | .weak, _ => some .weak
  | .weakEscape, _ => some .weak
  | .strong, '\\' => some .strongEscape
  | .strong, '\x27' => some .plain
  | .strong, _ => some .strong
  | .strongEscape, _ => some .strong

def scan (place : Place) : List Char → List Char × Option Place
  | [] => ([], some place)
  | c :: rest =>
    match place.next c with
    | none => ([], none)
    | some place =>
      let (kept, last) := scan place rest
      (c :: kept, last)

def linesOf (text : List Char) : List (List Char) :=
  text.foldr (fun c lines =>
    if c = '\n' then ['\n'] :: lines
    else match lines with
      | (d :: line) :: rest =>
        (c :: d :: line) :: rest
      | _ => [c] :: lines) []

def dropBreak (text : List Char) : List Char :=
  match text.reverse with
  | '\n' :: '\r' :: rest => rest.reverse
  | '\n' :: rest => rest.reverse
  | _ => text

/-- The texts of assignments; `none` where the file ends inside of one. -/
def assignments (place : Place) (held : List Char) : List (List Char) → List (Option (List Char))
  | [] => if place = .plain then [] else [none]
  | line :: rest =>
    if (Text.trimStart (held ++ line)).head? = some '#' then
      some [] :: assignments .plain [] rest
    else
      match scan place line with
      | (kept, none) => some (held ++ kept) :: assignments .plain [] rest
      | (_, some .plain) => some (dropBreak (held ++ line)) :: assignments .plain [] rest
      | (_, some place) => assignments place (held ++ line) rest

inductive Insertion where
  | none
  | bare (name : List Char)
  | braced (name : List Char)
  deriving DecidableEq, Repr

structure Reading where
  /-- The value so far, latest character first. -/
  output : List Char := []
  strong : Bool := false
  weak : Bool := false
  escaped : Bool := false
  /-- The value is over; only blanks and a comment may follow. -/
  ended : Bool := false
  insertion : Insertion := .none

namespace Reading

def push (r : Reading) (c : Char) : Reading := { r with output := c :: r.output }

def insert (lookup : String → Option String) (name : List Char) (r : Reading) : Reading :=
  let value := ((lookup (String.ofList name.reverse)).getD "").toList
  { r with output := value.reverse ++ r.output, insertion := .none }

def unescaped? (c : Char) : Option Char :=
  if c ∈ ['\\', '\x27', '"', '$', ' '] then some c
  else if c = 'n' then some '\n'
  else none

def ordinary (r : Reading) (c : Char) : Reading :=
  if c = '$' then { r with insertion := .bare [] }
  else if r.weak then
    if c = '"' then { r with weak := false }
    else if c = '\\' then { r with escaped := true }
    else r.push c
  else if c = '\x27' then { r with strong := true }
  else if c = '"' then { r with weak := true }
  else if c = '\\' then { r with escaped := true }
  else if c = ' ' ∨ c = '\t' then { r with ended := true }
  else r.push c

def step (lookup : String → Option String) (r : Reading) (c : Char) : Option Reading :=
  if r.escaped then (unescaped? c).map fun d => { r.push d with escaped := false }
  else if r.strong then some (if c = '\x27' then { r with strong := false } else r.push c)
  else
    match r.insertion with
    | .none => some (r.ordinary c)
    | .bare name =>
      if Text.isAlphanumeric c then some { r with insertion := .bare (c :: name) }
      else if c = '{' ∧ name = [] then some { r with insertion := .braced [] }
      else if c = '$' then some { r.insert lookup name with insertion := .bare [] }
      else some ((r.insert lookup name).push c)
    | .braced name =>
      if c = '}' then some (r.insert lookup name)
      else some { r with insertion := .braced (c :: name) }

def finish? (lookup : String → Option String) (r : Reading) : Option String :=
  match r.insertion with
  | .braced _ => none
  | .bare name =>
    if r.strong ∨ r.weak then none
    else some (String.ofList (r.insert lookup name).output.reverse)
  | .none => if r.strong ∨ r.weak then none else some (String.ofList r.output.reverse)

def value? (lookup : String → Option String) (r : Reading) : List Char → Option String
  | [] => r.finish? lookup
  | c :: rest =>
    if r.ended then
      if c = ' ' ∨ c = '\t' then r.value? lookup rest
      else if c = '#' then r.finish? lookup
      else none
    else (r.step lookup c).bind (·.value? lookup rest)

end Reading

def name? (text : List Char) : Option (String × List Char) :=
  match text with
  | [] => none
  | c :: _ =>
    if c.isAlpha ∨ c = '_' then
      let name := text.takeWhile fun c => c.isAlphanum ∨ c = '_' ∨ c = '.'
      some (String.ofList name, Text.trimStart (text.drop name.length))
    else none

def target? (text : List Char) : Option (String × List Char) := do
  let (name, rest) ← name? text
  match rest with
  | '=' :: value => return (name, Text.trimStart value)
  | rest =>
    guard (name = "export")
    let (name, rest) ← name? rest
    let value ← Text.dropPrefix ['='] rest
    return (name, Text.trimStart value)

def assignment? (lookup : String → Option String) (text : List Char) :
    Option (Option (String × String)) :=
  match Text.trimChars text with
  | [] => some none
  | '#' :: _ => some none
  | text => do
    let (name, value) ← target? text
    if value = [] ∨ value.head? = some '#' then return some (name, "")
    return some (name, ← Reading.value? lookup {} value)

/-- Add assignments to an environment, in which variables that are set stay. Nothing
is left of one that is to take a value with a zero character, which none can hold. -/
def extend (environment : List (String × String)) :
    List (Option (List Char)) → Option (List (String × String))
  | [] => some environment
  | none :: _ => some environment
  | some text :: rest =>
    match assignment? (fun name => environment.lookup name) text with
    | none => some environment
    | some none => extend environment rest
    | some (some (name, value)) =>
      if (environment.lookup name).isSome then extend environment rest
      else if value.toList.contains '\x00' then none
      else extend (environment ++ [(name, value)]) rest

/-- The environment after reading a file. A mark of byte order at its start is skipped. -/
def load (environment : List (String × String)) (file : String) :
    Option (List (String × String)) :=
  let text := match file.toList with
    | c :: rest => if c = Char.ofNat 0xFEFF then rest else c :: rest
    | [] => []
  extend environment (assignments .plain [] (linesOf text))

end ClaimAudit.Cli.Dotenv
