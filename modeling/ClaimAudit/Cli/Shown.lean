import ClaimAudit.Error
import ClaimAudit.Text.Quoted

/-! How the command line shows the error that ends it: the kind of the error with its
parts, texts between quotes. -/

set_option autoImplicit false

namespace ClaimAudit

def Stage.shown : Stage → String
  | .decompose => "Decompose"
  | .retrieve => "Retrieve"
  | .verify => "Verify"
  | .score => "Score"
  | .done => "Done"

def shownAs (kind text : String) : String := kind ++ "(" ++ Text.quoted text ++ ")"

def shownWith (kind : String) (parts : List (String × String)) : String :=
  let inner := ", ".intercalate (parts.map fun (name, value) => name ++ ": " ++ value)
  kind ++ " \x7b " ++ inner ++ " \x7d"

def Error.shown : Error → String
  | .api provider message =>
    shownWith "LlmApi" [("provider", Text.quoted provider), ("message", Text.quoted message)]
  | .model message => shownAs "LLM" message
  | .embedding message => shownAs "Embedding" message
  | .vectorStore message => shownAs "VectorStore" message
  | .storage message => shownAs "Storage" message
  | .serialization message => shownAs "Serialization" message
  | .configuration message => shownAs "Config" message
  | .timeout milliseconds => shownWith "Timeout" [("duration_ms", toString milliseconds)]
  | .staged stage message =>
    shownWith "Stage" [("stage", stage.shown), ("message", Text.quoted message)]
  | .notFound message => shownAs "NotFound" message
  | .internal message => shownAs "Internal" message

end ClaimAudit
