import ClaimAudit.Text.Blank

/-! How a claim stands against the evidence.

A status has one written form. It is read leniently: blanks around it, the case of
ASCII letters, and a blank or hyphen for the underscore make no difference.
-/

set_option autoImplicit false

namespace ClaimAudit

inductive Status where
  | supported
  | unsupported
  | partiallySupported
  /-- The claim could not be judged. -/
  | unknown
  deriving DecidableEq, Repr

namespace Status

/-- Every status, in the order in which reports count them. -/
def all : List Status := [.supported, .partiallySupported, .unsupported, .unknown]

def name : Status → String
  | .supported => "supported"
  | .unsupported => "unsupported"
  | .partiallySupported => "partially_supported"
  | .unknown => "unknown"

def label : Status → String
  | .supported => "Supported"
  | .unsupported => "Unsupported"
  | .partiallySupported => "Partially Supported"
  | .unknown => "Unknown"

def problematic : Status → Bool
  | .unsupported | .partiallySupported => true
  | .supported | .unknown => false

def lowerAscii (c : Char) : Char :=
  if 'A' ≤ c ∧ c ≤ 'Z' then Char.ofNat (c.toNat + 32) else c

/-- The form in which spellings are compared. -/
def normalChar (c : Char) : Char :=
  if c = '-' ∨ c = ' ' then '_' else lowerAscii c

def ofChars? (text : List Char) : Option Status :=
  let normal := (Text.trimChars text).map normalChar
  all.find? fun status => status.name.toList = normal

def ofString? (text : String) : Option Status := ofChars? text.toList

theorem ofString?_name (s : Status) : ofString? s.name = some s := by
  cases s <;> decide +kernel

end Status

end ClaimAudit
