/-
MagnumClient.Path — joining the parts of a request URL.

Parts are joined by slashes and no slash is written twice: a run of slashes
becomes one, except a run right after a colon, which is left alone so that the
two slashes of `https://` stay. Nothing but slashes is ever dropped. Empty and
absent parts do not count, and a slash at either end stays.

`shorten` reads the text once and remembers of what it has read only what it
needs: whether the last unit was a colon, or a slash, and if a slash whether its
run is kept. Equations for each case follow it.
-/
import MagnumClient.Json.Printer

namespace MagnumClient.Path

/-! ## 1. Parts -/

/-- What a path is joined from: one segment, several, or none. -/
inductive Part where
  | segment (text : String)
  | segments (texts : List String)
  | absent
deriving Repr, DecidableEq

/-- The segments of a part. -/
def Part.texts : Part → List String
  | segment t => [t]
  | segments ts => ts
  | absent => []

/-- The part of some texts that all count, though some may be empty. -/
def Part.ofTexts (texts : List String) : Part :=
  if texts.all fun t => !t.isEmpty then segments texts
  else segment (String.intercalate "/" texts)

/-- The part that a value stands for: a list stands for its items that are
present, anything else that is present for its text. -/
def Part.ofJson : Json → Part
  | .str s => segment s
  | .arr items => ofTexts ((items.filter Json.isTruthy).map Json.plainText)
  | v => if v.isTruthy then segment v.plainText else absent

/-- The segments that count: those that are not empty. -/
def segmentsOf (parts : List Part) : List String :=
  (parts.flatMap Part.texts).filter fun t => !t.isEmpty

/-! ## 2. Runs of slashes -/

/-- What stands before the next character. -/
inductive Before where
  | text
  | colon
  | slash
  | keptSlash
deriving Repr, DecidableEq

/-- Shortens every run of slashes to one, but a run after a colon. -/
def shorten : Before → List Char → List Char
  | _, [] => []
  | before, c :: rest =>
    if c = '/' then
      match before with
      | .text => c :: shorten .slash rest
      | .slash => shorten .slash rest
      | .colon => c :: shorten .keptSlash rest
      | .keptSlash => c :: shorten .keptSlash rest
    else if c = ':' then c :: shorten .colon rest
    else c :: shorten .text rest

/-- Joins parts to a path. -/
def join (parts : List Part) : String :=
  String.ofList (shorten .text (String.intercalate "/" (segmentsOf parts)).toList)

/-! ## 3. Equations -/

@[simp] theorem shorten_nil (before : Before) : shorten before [] = [] := by
  cases before <;> rfl

@[simp] theorem shorten_slash_slash (rest : List Char) :
    shorten .slash ('/' :: rest) = shorten .slash rest := rfl

@[simp] theorem shorten_text_slash (rest : List Char) :
    shorten .text ('/' :: rest) = '/' :: shorten .slash rest := rfl

@[simp] theorem shorten_colon_slash (rest : List Char) :
    shorten .colon ('/' :: rest) = '/' :: shorten .keptSlash rest := rfl

@[simp] theorem shorten_keptSlash_slash (rest : List Char) :
    shorten .keptSlash ('/' :: rest) = '/' :: shorten .keptSlash rest := rfl

theorem shorten_colon (before : Before) (rest : List Char) :
    shorten before (':' :: rest) = ':' :: shorten .colon rest := by
  cases before <;> rfl

theorem shorten_text (before : Before) {c : Char} (rest : List Char) (hs : c ≠ '/')
    (hc : c ≠ ':') : shorten before (c :: rest) = c :: shorten .text rest := by
  simp [shorten, hs, hc]

/-- Only slashes are dropped. -/
theorem filter_shorten (before : Before) (cs : List Char) :
    (shorten before cs).filter (· != '/') = cs.filter (· != '/') := by
  induction cs generalizing before with
  | nil => simp
  | cons c rest ih =>
    by_cases hs : c = '/'
    · subst hs
      cases before <;> simp [ih]
    · by_cases hc : c = ':'
      · subst hc
        rw [shorten_colon, List.filter_cons, List.filter_cons, ih]
      · rw [shorten_text before rest hs hc, List.filter_cons, List.filter_cons, ih]

end MagnumClient.Path
