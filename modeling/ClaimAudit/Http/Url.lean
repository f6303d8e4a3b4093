import ClaimAudit.Http.Host

/-! Addresses in the form in which a client sends requests to them.

An address is absolute. Its scheme and host are in lower case, a port that the
scheme implies is left out, segments of dots are resolved, and characters that may
not stand in an address are written as percent signs and bytes.
-/

set_option autoImplicit false

namespace ClaimAudit.Http

def withoutSlashes (address : String) : String :=
  String.ofList (address.toList.reverse.dropWhile (· = '/')).reverse

structure Url where
  scheme : String
  /-- Host and port; nothing in an address that names no server. -/
  authority : Option String
  /-- Everything after the authority. -/
  rest : String
  deriving DecidableEq, Repr

namespace Url

def toString (u : Url) : String :=
  match u.authority with
  | some authority => u.scheme ++ "://" ++ authority ++ u.rest
  | none => u.scheme ++ ":" ++ u.rest

/-- The port that a scheme implies, for schemes whose addresses always have a host. -/
def impliedPort : List (String × Nat) :=
  [("http", 80), ("https", 443), ("ws", 80), ("wss", 443), ("ftp", 21)]

def encode (reserved : List Char) (cs : List Char) : List Char :=
  Text.percentEncode (fun c => 0x20 ≤ c.toNat ∧ c.toNat < 0x7f ∧ c ∉ reserved) cs

def pathReserved : List Char := [' ', '"', '#', '<', '>', '?', '^', '\x60', '{', '}']

def queryReserved : List Char := [' ', '"', '#', '<', '>', '\x27']

def fragmentReserved : List Char := [' ', '"', '<', '>', '\x60']

def plainDots : List Char → List Char
  | '%' :: '2' :: c :: rest =>
    if c = 'e' ∨ c = 'E' then '.' :: plainDots rest else '%' :: '2' :: c :: plainDots rest
  | c :: rest => c :: plainDots rest
  | [] => []

def resolve (segments : List (List Char)) : List (List Char) :=
  go [] segments
where
  go (kept : List (List Char)) : List (List Char) → List (List Char)
    | [] => kept.reverse
    | segment :: rest =>
      let last := if rest = [] then [[]] else []
      if plainDots segment = ['.'] then go (last ++ kept) rest
      else if plainDots segment = ['.', '.'] then go (last ++ kept.drop 1) rest
      else go (segment :: kept) rest

def pathChars (path : List Char) : List Char :=
  let segments := Text.splitAll '/' ((path.map fun c => if c = '\\' then '/' else c).drop 1)
  (resolve segments).flatMap fun segment => '/' :: encode pathReserved segment

def restChars (cs : List Char) : List Char :=
  let path := cs.takeWhile fun c => c ≠ '?' ∧ c ≠ '#'
  let query := (cs.drop path.length).takeWhile (· ≠ '#')
  let fragment := cs.drop (path.length + query.length)
  pathChars path ++ query.take 1 ++ encode queryReserved (query.drop 1) ++
    fragment.take 1 ++ encode fragmentReserved (fragment.drop 1)

def authority? (implied : Nat) (cs : List Char) : Option String := do
  let cs := match Text.splitLast '@' cs with
    | some (_, server) => server
    | none => cs
  let (host, port) := match Text.splitLast ':' cs with
    | some (host, port) => if port.all Char.isDigit then (host, port) else (cs, [])
    | none => (cs, [])
  let host ← Host.ofChars? host
  let number := port.foldl (fun n c => n * 10 + (c.toNat - '0'.toNat)) 0
  guard (number < 0x10000)
  let shown := if port = [] ∨ number = implied then "" else s!":{number}"
  return String.ofList host ++ shown

def scheme? (cs : List Char) : Option (String × List Char) := do
  let (scheme, rest) ← Text.splitFirst [':'] cs
  guard (scheme.head?.any Char.isAlpha)
  guard (scheme.all fun c => c.isAlphanum ∨ c ∈ ['+', '-', '.'])
  return (String.ofList (scheme.map Char.toLower), rest)

def ofString? (s : String) : Option Url := do
  let control (c : Char) : Bool := c.toNat ≤ 0x20
  let trimmed := ((s.toList.dropWhile control).reverse.dropWhile control).reverse
  let (scheme, cs) ← scheme? (trimmed.filter fun c => c ∉ ['\t', '\n', '\r'])
  match impliedPort.lookup scheme with
  | none => return ⟨scheme, none, String.ofList (encode [] cs)⟩
  | some implied =>
    let cs := cs.dropWhile fun c => c = '/' ∨ c = '\\'
    let server := cs.takeWhile fun c => c ∉ ['/', '\\', '?', '#']
    let authority ← authority? implied server
    return ⟨scheme, some authority, String.ofList (restChars (cs.drop server.length))⟩

/-- Whether requests can be sent to an address: its scheme is one of the web, and its
host can stand in a request. -/
def isWeb (u : Url) : Bool :=
  (u.scheme = "http" || u.scheme = "https") &&
    u.authority.any fun host => host.toList.all fun c => c ∉ ['"', '\x60', '{', '}']

end Url

end ClaimAudit.Http
