import ClaimAudit.Cli.Arguments
import ClaimAudit.Cli.Dotenv
import ClaimAudit.Cli.Shown
import ClaimAudit.Json.Writer
import ClaimAudit.Knowledge.Seed
import ClaimAudit.Service.Json
import ClaimAudit.Settings.Choice

/-! Running one command line against the machine it runs on. -/

set_option autoImplicit false

namespace ClaimAudit.Cli

/-- What a command needs from its machine, whose condition is part of `σ`. -/
structure Machine (σ : Type) where
  /-- The variables of the environment. -/
  lookup : String → Option String
  /-- The bytes of a file, or why they cannot be read. -/
  read : String → StateM σ (Except String (List UInt8))
  transport : Http.Transport σ
  /-- Open the database file at a path, which is created if it is not there. -/
  openFile : String → Action σ (Knowledge.Store σ)
  /-- Milliseconds since the first of January 1970. -/
  clock : StateM σ Nat
  now : StateM σ Timestamp
  /-- An identifier that was never given before. -/
  freshId : StateM σ Uuid

structure Outcome where
  exit : Nat := 0
  output : String := ""
  error : Option Error := none
  deriving DecidableEq, Repr

namespace Outcome

def failed (error : Error) : Outcome := { exit := 1, error := some error }

def aborted : Outcome := { exit := 101 }

/-- Whether a bad exit code is a finding and not a failure. -/
def isReport (o : Outcome) : Bool := o.exit = 1 && o.error.isNone

end Outcome

def versionText : String := s!"truthtable {Service.version}\n"

def usageText : String := "Audit LLM responses for unsupported claims

Usage: truthtable [OPTIONS] <COMMAND>

Commands:
  audit   Audit one response and print the outcome as JSON
  seed    Load a JSON array of documents into the knowledge base
  health  Check the inference backend and knowledge base
  help    Print this message or the help of the given subcommand(s)

Options:
      --log <LOG>  Log filter (overrides LOG_LEVEL)
  -h, --help       Print help
  -V, --version    Print version
"

structure Equipment (σ : Type) where
  settings : Settings
  client : Client σ
  embedder : Embedder σ
  store : Option (Knowledge.Store σ)

variable {σ : Type}

def equip (m : Machine σ) : Action σ (Equipment σ) := do
  let settings ← liftExcept (Settings.ofLookup m.lookup)
  let (provider, access) ← liftExcept settings.access
  let client := Backend.client m.transport m.clock provider access
  let embedder := Embedder.ofClient client settings.embeddingModel settings.embeddingDimension
  let store ← match settings.knowledgePlace? with
    | none => pure none
    | some (.server config) => pure (some (Knowledge.Qdrant.store m.transport config))
    | some (.file path) => some <$> m.openFile path
  return { settings, client, embedder, store }

namespace Equipment

def auditor (e : Equipment σ) (ready : Bool) : Auditor σ where
  client := e.client
  retriever := if ready then e.store.map fun store => { embedder := e.embedder, store } else none

def noStore : Error := .configuration "Set QDRANT_URL or KNOWLEDGE_DB to seed a knowledge base"

def seed (e : Equipment σ) (m : Machine σ) (file : String) : Action σ Outcome := do
  let some store := e.store | throw noStore
  let docs ← liftExcept
    (Knowledge.SeedDocument.listOfFile file (← (m.read file : StateM σ _)))
  let written ← Knowledge.seed e.embedder store docs
  let total ← store.count
  return { output := s!"Stored {written} documents (total in knowledge base: {total})\n" }

/-- Audit one answer and print its record. A knowledge base that cannot be used is
left out. -/
def audit (e : Equipment σ) (m : Machine σ) (query response : String) (context : List String)
    (requestId : Option String) : Action σ Outcome := do
  let ready ← match e.store with
    | some store => (store.prepare : StateM σ _)
    | none => pure false
  let requestId ← match requestId with
    | some id => pure id
    | none => pure (← (m.freshId : StateM σ _)).toString
  let request : Request := ⟨requestId, query, response, context⟩
  let service : Service σ := { auditor := e.auditor ready, limit := e.settings.auditLimit }
  let id ← (m.freshId : StateM σ _)
  let now ← (m.now : StateM σ _)
  let (record, state) := (do
    let submission ← service.submit id now request
    Service.result submission.auditId : Action (Service.State σ) Record).run { outside := ← get }
  set state.outside
  return { output := (← liftExcept record).json.renderIndented ++ "\n" }

def health (e : Equipment σ) : StateM σ Outcome := do
  let service : Service σ := { auditor := e.auditor true }
  let report ← service.health
  return { exit := if report.healthy then 0 else 1, output := report.json.renderIndented ++ "\n" }

end Equipment

def perform (m : Machine σ) (command : Command) : Action σ Outcome := do
  let e ← equip m
  match command with
  | .audit query response context requestId => e.audit m query response context requestId
  | .seed file => e.seed m file
  | .health => (e.health : StateM σ _)

/-- Run a command line. Mistakes in the arguments come before all others. -/
def run (m : Machine σ) (arguments : List String) : StateM σ Outcome := do
  match Invocation.of false arguments with
  | .help => return { output := usageText }
  | .version => return { output := versionText }
  | .invalid => return { exit := 2 }
  | .run command =>
    match ← (perform m command).run with
    | .ok outcome => return outcome
    | .error error => return .failed error

end ClaimAudit.Cli
