/-
MagnumClient.Json.Equality — when two JSON documents are the same.

Records are the same when they have the same fields, in any order; lists when
they have the same items in the same order; numbers when they are the same
double (so NaN is itself, and zero is not its negative). Documents of different
kinds are never the same, and a field that is null differs from a missing one.

Comparing records takes each field of the one and looks it up in the other.
With equally many fields and no name twice that is symmetric.
-/
import MagnumClient.Json.Basic

namespace MagnumClient.Json

mutual

/-- Whether two documents are the same. -/
def same : Json → Json → Bool
  | null, null => true
  | bool a, bool b => a == b
  | num a, num b => a.toBits == b.toBits
  | str a, str b => a == b
  | arr as, arr bs => sameItems as bs
  | obj as, obj bs => as.length == bs.length && sameFields as bs
  | _, _ => false

/-- Whether two lists hold the same items in the same order. -/
def sameItems : List Json → List Json → Bool
  | [], [] => true
  | a :: as, b :: bs => same a b && sameItems as bs
  | _, _ => false

/-- Whether every field on the left has a same field on the right. -/
def sameFields : List (String × Json) → Fields → Bool
  | [], _ => true
  | (k, v) :: rest, other =>
    (match Fields.get? k other with
      | some w => same v w
      | none => false) && sameFields rest other

end

end MagnumClient.Json
