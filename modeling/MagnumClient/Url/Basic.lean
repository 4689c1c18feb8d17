/-
MagnumClient.Url.Basic — reading a URL.

`Url.parse?` follows the URL standard for an absolute URL and keeps what tells
where a request goes: scheme, host and port. Whether a text is a URL at all is
whether it reads. Blanks and controls at the ends are dropped, tabs and line
ends anywhere.

Schemes of the standard (`http`, `https`, `ws`, `wss`, `ftp`) always have a
host, and any number of slashes of either kind before it; `file` has one that
may be empty; other schemes have a host only after `//` and may have no path
structure at all.
-/
import MagnumClient.Url.Host

namespace MagnumClient

/-- Where a URL points: its scheme, its host if it has one, and its port unless
that is the scheme's own. -/
structure Url where
  scheme : String
  host : Option Url.Host
  port : Option Nat
deriving Repr, DecidableEq

namespace Url

/-! ## 1. Schemes -/

/-- The port that a scheme of the standard uses when none is given. -/
def defaultPort? : String → Option Nat
  | "http" => some 80
  | "https" => some 443
  | "ws" => some 80
  | "wss" => some 443
  | "ftp" => some 21
  | _ => none

/-- Schemes of the standard that name a server. -/
def isSpecial (scheme : String) : Bool := (defaultPort? scheme).isSome

/-- A character of a scheme after its first letter. -/
def isSchemeChar (c : Char) : Bool :=
  isLetter c || Decimal.isDigit c || c == '+' || c == '-' || c == '.'

/-- The scheme, in lower case, and what follows its colon. -/
def splitScheme? (cs : List Char) : Option (String × List Char) :=
  match cs with
  | [] => none
  | c :: _ =>
    if !isLetter c then none
    else
      match cs.dropWhile isSchemeChar with
      | ':' :: rest => some (String.ofList ((cs.takeWhile isSchemeChar).map Char.toLower), rest)
      | _ => none

/-! ## 2. Authorities -/

/-- Whether a character ends the part of a URL that names the server. -/
def endsAuthority (special : Bool) (c : Char) : Bool :=
  c == '/' || c == '?' || c == '#' || (special && c == '\\')

/-- What follows the last `@`, and whether there is one. -/
def afterCredentials (cs : List Char) : List Char × Bool :=
  ((cs.reverse.takeWhile (· != '@')).reverse, cs.contains '@')

/-- The host and, after a colon outside brackets, the port. -/
def splitPort : Bool → List Char → List Char × Option (List Char)
  | _, [] => ([], none)
  | inside, c :: rest =>
    if c = ':' && !inside then ([], some rest)
    else
      let now := if c = '[' then true else if c = ']' then false else inside
      let (host, port) := splitPort now rest
      (c :: host, port)

/-- The number of a port; an empty one is none. -/
def port? (digits : List Char) : Option (Option Nat) :=
  if digits.isEmpty then some none
  else if digits.all Decimal.isDigit then do
    let n ← Decimal.natOfDigits 10 digits
    if n ≤ 65535 then some (some n) else none
  else none

/-- The server that an authority names. -/
def readAuthority? (scheme : String) (cs : List Char) : Option Url := do
  let special := isSpecial scheme
  let (server, credentials) := afterCredentials cs
  let (hostText, portText) := splitPort false server
  if hostText.isEmpty && (special || portText.isSome || credentials) then none
  else
    let host ← Host.read? special hostText
    let port ← port? (portText.getD [])
    some ⟨scheme, some host, if port == defaultPort? scheme then none else port⟩

/-! ## 3. Files -/

/-- A drive letter where a host could be. -/
def isDrive : List Char → Bool
  | [c, d] => isLetter c && (d == ':' || d == '|')
  | _ => false

/-- Either slash. -/
def isSlash (c : Char) : Bool := c == '/' || c == '\\'

/-- The place of a file. -/
def readFile? (cs : List Char) : Option Url :=
  match cs with
  | a :: b :: rest =>
    if isSlash a && isSlash b then
      let server := rest.takeWhile fun c => !endsAuthority true c
      if server.isEmpty || isDrive server then some ⟨"file", some .empty, none⟩
      else (Host.read? true server).map fun h => ⟨"file", some h, none⟩
    else some ⟨"file", some .empty, none⟩
  | _ => some ⟨"file", some .empty, none⟩

/-! ## 4. URLs -/

/-- The text without controls and blanks at its ends and without tabs and line
ends. -/
def stripped (s : String) : List Char :=
  let cs := s.toList.dropWhile fun c => c.toNat ≤ 0x20
  let cs := (cs.reverse.dropWhile fun c => c.toNat ≤ 0x20).reverse
  cs.filter fun c => c != '\t' && c != '\n' && c != '\r'

/-- The URL that a text writes. -/
def parse? (s : String) : Option Url := do
  let (scheme, rest) ← splitScheme? (stripped s)
  if scheme = "file" then readFile? rest
  else if isSpecial scheme then
    readAuthority? scheme ((rest.dropWhile isSlash).takeWhile fun c => !endsAuthority true c)
  else
    match rest with
    | '/' :: '/' :: server =>
      readAuthority? scheme (server.takeWhile fun c => !endsAuthority false c)
    | _ => some ⟨scheme, none, none⟩

end Url

end MagnumClient
