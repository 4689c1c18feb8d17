/-
MagnumClient.Url.Host — the host of a URL.

A host is a domain, an IPv4 address, an IPv6 address in brackets, or, in URLs of
schemes that the URL standard does not know, an opaque text. A domain is
percent-decoded and mapped (see `Url.Domain`) before it is looked at; a domain
whose last label is a number must be an IPv4 address, in any of its spellings
(`127.1`, `0x7f.1`).

`Host.read?` is `none` exactly for a text that is no host.
-/
import MagnumClient.Decimal.Number
import MagnumClient.Url.Domain

namespace MagnumClient.Url

/-- The host of a URL. -/
inductive Host where
  | empty
  | domain (name : String)
  | ipv4 (address : Nat)
  | ipv6 (pieces : List Nat)
  | opaqueName (name : String)
deriving Repr, DecidableEq

/-! ## 1. Small readers -/

/-- Splits at every occurrence of a character. -/
def splitAt (sep : Char) : List Char → List (List Char)
  | [] => [[]]
  | c :: rest =>
    if c = sep then [] :: splitAt sep rest
    else
      match splitAt sep rest with
      | [] => [[c]]
      | first :: others => (c :: first) :: others

/-- An ASCII letter. -/
def isLetter (c : Char) : Bool := ('a' ≤ c && c ≤ 'z') || ('A' ≤ c && c ≤ 'Z')

/-- A hexadecimal digit. -/
def isHex (c : Char) : Bool :=
  Decimal.isDigit c || ('a' ≤ c && c ≤ 'f') || ('A' ≤ c && c ≤ 'F')

/-- The number that digits write in a base of at most 16; `none` on any other
character. No digits write zero. -/
def numberIn? (base : Nat) (cs : List Char) : Option Nat :=
  if cs.isEmpty then some 0 else Decimal.natOfDigits base cs

/-! ## 2. IPv4 -/

/-- The number that a part of an IPv4 address writes: hexadecimal after `0x`,
octal after another leading zero, decimal otherwise. -/
def ipv4Number? : List Char → Option Nat
  | [] => none
  | '0' :: 'x' :: rest => numberIn? 16 rest
  | '0' :: 'X' :: rest => numberIn? 16 rest
  | '0' :: d :: rest => numberIn? 8 (d :: rest)
  | cs => numberIn? 10 cs

/-- The parts of a dotted name; one empty part at the end does not count. -/
def dottedParts (cs : List Char) : List (List Char) :=
  match (splitAt '.' cs).reverse with
  | [] :: p :: before => (p :: before).reverse
  | parts => parts.reverse

/-- Whether the last label of a name is a number. -/
def endsInNumber (cs : List Char) : Bool :=
  match (dottedParts cs).getLast? with
  | none => false
  | some [] => false
  | some last => last.all Decimal.isDigit || (ipv4Number? last).isSome

/-- The address of four numbers or fewer: all but the last fill one byte each,
and the last fills the bytes that are left. -/
def ipv4Address? (numbers : List Nat) : Option Nat :=
  match numbers.reverse with
  | [] => none
  | last :: before =>
    let count := numbers.length
    if count ≤ 4 && before.all (· ≤ 255) && last < Nat.pow 256 (5 - count) then
      let high := before.reverse.foldl (fun acc n => acc * 256 + n) 0
      some (high * Nat.pow 256 (5 - count) + last)
    else none

/-- The IPv4 address that a name writes. -/
def ipv4? (cs : List Char) : Option Nat := do
  let parts := dottedParts cs
  if parts.length ≤ 4 then ipv4Address? (← parts.mapM ipv4Number?) else none

/-! ## 3. IPv6 -/

/-- A byte of a dotted tail: decimal, without a leading zero. -/
def decimalByte? (cs : List Char) : Option Nat :=
  match cs with
  | [] => none
  | '0' :: _ :: _ => none
  | _ => do
    let n ← Decimal.natOfDigits 10 cs
    if n ≤ 255 then some n else none

/-- The two pieces of a dotted tail. -/
def dottedTail? (cs : List Char) : Option (List Nat) := do
  match ← (splitAt '.' cs).mapM decimalByte? with
  | [a, b, c, d] => some [a * 256 + b, c * 256 + d]
  | _ => none

/-- A piece: one to four hexadecimal digits. -/
def piece? (cs : List Char) : Option Nat :=
  if cs.isEmpty || cs.length > 4 || !cs.all isHex then none else numberIn? 16 cs

/-- The pieces of one side of an address; the last may be a dotted tail if
`tail` allows it. -/
def pieces? (tail : Bool) (cs : List Char) : Option (List Nat) :=
  if cs.isEmpty then some []
  else
    match (splitAt ':' cs).reverse with
    | [] => none
    | last :: before => do
      let front ← before.reverse.mapM piece?
      let back ← if tail && last.contains '.' then dottedTail? last
        else (piece? last).map fun n => [n]
      some (front ++ back)

/-- Splits at the first `::`. -/
def splitDouble : List Char → Option (List Char × List Char)
  | ':' :: ':' :: rest => some ([], rest)
  | c :: rest => (splitDouble rest).map fun p => (c :: p.1, p.2)
  | [] => none

/-- The IPv6 address that a text writes: eight pieces, or fewer around a `::`. -/
def ipv6? (cs : List Char) : Option (List Nat) :=
  match splitDouble cs with
  | none => do
    let ps ← pieces? true cs
    if ps.length = 8 then some ps else none
  | some (front, back) => do
    let a ← pieces? false front
    let b ← pieces? true back
    let count := a.length + b.length
    if count ≤ 7 then some (a ++ List.replicate (8 - count) 0 ++ b) else none

/-! ## 4. Domains -/

/-- The bytes of a text after percent-decoding. A percent sign that two
hexadecimal digits do not follow stands for itself. -/
def percentDecode : List Char → List UInt8
  | [] => []
  | '%' :: a :: b :: rest =>
    if isHex a && isHex b then
      UInt8.ofNat ((numberIn? 16 [a, b]).getD 0) :: percentDecode rest
    else UInt8.ofNat 0x25 :: percentDecode (a :: b :: rest)
  | c :: rest => c.toString.toUTF8.toList ++ percentDecode rest

/-- Characters that may not stand in any host. -/
def isForbiddenInHost (c : Char) : Bool :=
  c.toNat == 0 || "\t\n\r #/:<>?@[\\]^|".toList.contains c

/-- Characters that may not stand in a domain. -/
def isForbiddenInDomain (c : Char) : Bool :=
  isForbiddenInHost c || c.toNat < 0x20 || c == '%' || c.toNat == 0x7F

/-- The mapped form of a domain: one without forbidden characters, all of whose
labels are valid. -/
def domainText? (cs : List Char) : Option (List Char) := do
  let codes ← Domain.mappedName? (cs.map (·.toNat))
  let text := codes.map Char.ofNat
  if text.isEmpty || text.any isForbiddenInDomain || !(splitAt '.' text).all Domain.isValidLabel
  then none else some text

/-! ## 5. Hosts -/

/-- The host that a domain or IPv4 address writes. -/
def namedHost? (cs : List Char) : Option Host := do
  let decoded ← String.fromUTF8? (ByteArray.mk (percentDecode cs).toArray)
  let text ← domainText? decoded.toList
  if endsInNumber text then (ipv4? text).map Host.ipv4
  else some (.domain (String.ofList text))

/-- The host that a text writes, in a scheme of the standard (`special`) or
another. -/
def Host.read? (special : Bool) (cs : List Char) : Option Host :=
  match cs with
  | '[' :: inner =>
    if inner.getLast? == some ']' then (ipv6? inner.dropLast).map Host.ipv6 else none
  | _ =>
    if special then namedHost? cs
    else if cs.any isForbiddenInHost then none
    else if cs.isEmpty then some .empty
    else some (.opaqueName (String.ofList cs))

end MagnumClient.Url
