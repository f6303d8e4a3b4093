import ClaimAudit.Text.Search

/-! The arguments of the command line.

Arguments are read from left to right and the first that decides the outcome counts:
a request for help or the version, or a mistake. An option takes the next argument as
its value, or what follows an equals sign; a value on its own may not look like an
option. After a double hyphen no argument is an option.
-/

set_option autoImplicit false

namespace ClaimAudit.Cli

inductive Command where
  | audit (query response : String) (context : List String) (requestId : Option String)
  | seed (file : String)
  | health
  deriving DecidableEq, Repr

inductive Invocation where
  | run (command : Command)
  | help
  | version
  | invalid
  deriving DecidableEq, Repr

inductive Argument where
  | plain (text : String)
  | short (letters : List Char)
  | long (name : String) (value : Option String)
  | escape
  deriving DecidableEq, Repr

def Argument.of (text : String) : Argument :=
  match text.toList with
  | ['-', '-'] => .escape
  | '-' :: '-' :: rest =>
    match Text.splitFirst ['='] rest with
    | some (name, value) => .long (String.ofList name) (some (String.ofList value))
    | none => .long (String.ofList rest) none
  | '-' :: c :: rest => .short (c :: rest)
  | _ => .plain text

def isValue (text : String) : Bool :=
  match Argument.of text with
  | .plain _ => true
  | _ => false

structure Grammar where
  /-- Options with a value, and whether they may be repeated. -/
  options : List (String × Bool)
  operands : Nat

def logOption : String × Bool := ("log", false)

def auditGrammar : Grammar :=
  ⟨[logOption, ("query", false), ("response", false), ("context", true), ("request-id", false)], 0⟩

def seedGrammar : Grammar := ⟨[logOption], 1⟩

def healthGrammar : Grammar := ⟨[logOption], 0⟩

structure Given where
  options : List (String × String) := []
  operands : List String := []
  deriving DecidableEq, Repr

def Given.values (g : Given) (name : String) : List String :=
  (g.options.filter fun (n, _) => n = name).map (·.2)

def Given.option? (grammar : Grammar) (g : Given) (name value : String) : Option Given :=
  match grammar.options.lookup name with
  | none => none
  | some repeatable =>
    if !repeatable ∧ g.values name ≠ [] then none
    else some { g with options := g.options ++ [(name, value)] }

/-- One more operand; an empty one names nothing. -/
def Given.operand? (grammar : Grammar) (g : Given) (value : String) : Option Given :=
  if value = "" ∨ grammar.operands ≤ g.operands.length then none
  else some { g with operands := g.operands ++ [value] }

def Given.operandsOnly (grammar : Grammar) : Given → List String → Option Given
  | g, [] => some g
  | g, value :: rest => (g.operand? grammar value).bind (operandsOnly grammar · rest)

/-- Read the arguments of a command. Anything but a complete reading decides the
outcome at once. -/
def gather (grammar : Grammar) (g : Given) : List String → Except Invocation Given
  | [] => .ok g
  | argument :: rest =>
    match Argument.of argument with
    | .escape => Option.elim (g.operandsOnly grammar rest) (.error .invalid) .ok
    | .plain text =>
      match g.operand? grammar text with
      | some g => gather grammar g rest
      | none => .error .invalid
    | .short letters => .error (if letters.head? = some 'h' then .help else .invalid)
    | .long "help" none => .error .help
    | .long name (some value) =>
      match g.option? grammar name value with
      | some g => gather grammar g rest
      | none => .error .invalid
    | .long name none =>
      match rest with
      | [] => .error .invalid
      | value :: rest =>
        match g.option? grammar name value with
        | some g => if isValue value then gather grammar g rest else .error .invalid
        | none => .error .invalid

def auditCommand (g : Given) : Invocation :=
  match g.values "query", g.values "response" with
  | [query], [response] =>
    .run (.audit query response (g.values "context") (g.values "request-id").head?)
  | _, _ => .invalid

def seedCommand (g : Given) : Invocation :=
  match g.operands with
  | [file] => .run (.seed file)
  | _ => .invalid

def complete (grammar : Grammar) (finish : Given → Invocation) (arguments : List String) :
    Invocation :=
  match gather grammar {} arguments with
  | .ok g => finish g
  | .error outcome => outcome

def helpTopics : List String := ["audit", "seed", "health", "help"]

def ofCommandName (name : String) (arguments : List String) : Invocation :=
  if name = "audit" then complete auditGrammar auditCommand arguments
  else if name = "seed" then complete seedGrammar seedCommand arguments
  else if name = "health" then complete healthGrammar (fun _ => .run .health) arguments
  else if name = "help" then
    match arguments with
    | [] => .help
    | [topic] => if topic ∈ helpTopics then .help else .invalid
    | _ => .invalid
  else .invalid

def Invocation.of (logged : Bool) : List String → Invocation
  | [] => .invalid
  | argument :: rest =>
    match Argument.of argument with
    | .escape => .invalid
    | .plain name => ofCommandName name rest
    | .short letters =>
      match letters.head? with
      | some 'h' => .help
      | some 'V' => .version
      | _ => .invalid
    | .long "help" none => .help
    | .long "version" none => .version
    | .long "log" (some _) => if logged then .invalid else Invocation.of true rest
    | .long "log" none =>
      match rest with
      | [] => .invalid
      | value :: rest => if !logged ∧ isValue value then Invocation.of true rest else .invalid
    | .long _ _ => .invalid

end ClaimAudit.Cli
