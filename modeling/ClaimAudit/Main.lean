import ClaimAudit.Cli.Directory

/-! The command line. Everything a command may look at is read before it runs. -/

set_option autoImplicit false

namespace ClaimAudit.Cli

def settingNames : List String :=
  ["LLM_PROVIDER", "LLM_MODEL", "OLLAMA_BASE_URL", "OPENAI_API_KEY", "OPENAI_BASE_URL",
   "LLM_TIMEOUT_SECS", "EMBEDDING_MODEL", "EMBEDDING_DIMENSION", "QDRANT_URL",
   "QDRANT_COLLECTION", "KNOWLEDGE_DB", "AUDIT_TIMEOUT_SECS", "LOG_LEVEL"]

def readEnvironment : IO (List (String × String)) :=
  settingNames.filterMapM fun name => do
    return (← IO.getEnv name).map fun value => (name, value)

def readFiles (paths : List String) : IO (List (String × List UInt8)) :=
  paths.filterMapM fun (path : String) => do
    try return some (path, (← IO.FS.readBinFile path).toList)
    catch _ => return none

def readClock : IO Timestamp := do
  let (_, path) ← IO.FS.createTempFile
  let modified := (← path.metadata).modified
  IO.FS.removeFile path
  return ⟨modified.sec / 86400, (modified.sec % 86400).toNat, modified.nsec.toNat⟩

def readSeed : IO (BitVec 128) := do
  let bytes ← IO.getRandomBytes 16
  return .ofNat 128 (bytes.toList.foldl (fun n byte => n * 256 + byte.toNat) 0)

end ClaimAudit.Cli

open ClaimAudit.Cli in
def main (arguments : List String) : IO UInt32 := do
  let files := Files.ofPaths (← readFiles (".env" :: arguments))
  let directory : Directory := { disk := { files }, seed := ← readSeed, now := ← readClock }
  let (outcome, _) := Directory.run (← readEnvironment) arguments directory
  IO.print outcome.output
  if let some error := outcome.error then IO.eprintln ("Error: " ++ error.shown)
  return UInt32.ofNat outcome.exit
