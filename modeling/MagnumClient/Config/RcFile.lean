/-
MagnumClient.Config.RcFile — a configuration from an RC file.

An RC file is a shell script that exports variables. It is read line by line: a
line gives the variable before its first `=` the value after it, both trimmed
and the value freed of one pair of quotes around it; blank lines, comments and
lines without `=` say nothing, and the last value given counts.

Before that, every `export` at the start of a line is taken away together with
the blanks around it. Blanks include line ends here, and every line end starts a
line, a carriage return before a line feed as well; so taking an `export` away
can join lines (`dropExports`).

Three older names of variables fill in for the newer ones where those are not
set (`withAliases`).
-/
import MagnumClient.Config.Environment

namespace MagnumClient.Config

namespace RcFile

/-! ## 1. Variables -/

/-- Variables and their values, each variable once. -/
abbrev Bindings := List (String × String)

/-- The value of a variable. -/
def value? (name : String) : Bindings → Option String
  | [] => none
  | (k, v) :: rest => if k = name then some v else value? name rest

/-- The value of a variable that is set, and not to the empty text. -/
def set? (name : String) (bs : Bindings) : Option String :=
  (value? name bs).filter fun v => !v.isEmpty

/-- Gives a variable a value. -/
def assign (name value : String) : Bindings → Bindings
  | [] => [(name, value)]
  | (k, v) :: rest => if k = name then (k, value) :: rest else (k, v) :: assign name value rest

/-- Giving a variable a value changes that variable and no other. -/
@[simp] theorem value?_assign (name other value : String) (bs : Bindings) :
    value? other (assign name value bs) = if name = other then some value else value? other bs := by
  induction bs with
  | nil => simp [assign, value?]
  | cons b rest ih =>
    obtain ⟨k, v⟩ := b
    unfold assign
    by_cases hk : k = name
    · subst hk
      by_cases ho : k = other <;> simp [value?, ho]
    · rw [if_neg hk, value?, value?, ih]
      by_cases ho : k = other
      · have : ¬ name = other := fun e => hk (ho.trans e.symm)
        simp [ho, this]
      · simp [ho]

/-! ## 2. Exports -/

/-- What follows a text at the start of another. -/
def after? : List Char → List Char → Option (List Char)
  | [], cs => some cs
  | p :: ps, c :: cs => if p = c then after? ps cs else none
  | _ :: _, [] => none

/-- The word that marks a variable for export. -/
def exportWord : List Char := ['e', 'x', 'p', 'o', 'r', 't']

/-- What follows an `export` and the blanks around it, if the text starts with
one, and whether that stands at the start of a line. -/
def afterExport? (cs : List Char) : Option (List Char × Bool) := do
  let rest ← after? exportWord (cs.dropWhile Text.isBlank)
  match (rest.takeWhile Text.isBlank).getLast? with
  | none => none
  | some c => some (rest.dropWhile Text.isBlank, Text.isLineEnd c)

theorem length_after {ps cs rest : List Char} (h : after? ps cs = some rest) :
    rest.length ≤ cs.length := by
  induction ps generalizing cs with
  | nil =>
    simp only [after?, Option.some.injEq] at h
    simp [h]
  | cons p ps ih =>
    cases cs with
    | nil => simp [after?] at h
    | cons c cs =>
      simp only [after?] at h
      split at h
      · have := ih h
        simp only [List.length_cons]
        omega
      · simp at h

theorem length_dropWhile_le (p : Char → Bool) (cs : List Char) :
    (cs.dropWhile p).length ≤ cs.length := (List.dropWhile_suffix p).length_le

theorem length_afterExport {cs rest : List Char} {fresh : Bool}
    (h : afterExport? cs = some (rest, fresh)) : rest.length < cs.length := by
  unfold afterExport? at h
  cases ha : after? exportWord (cs.dropWhile Text.isBlank) with
  | none => simp [ha] at h
  | some tail =>
    have h1 := length_after ha
    have h2 := length_dropWhile_le Text.isBlank cs
    simp only [ha, Option.bind_eq_bind, Option.bind_some] at h
    cases hl : (tail.takeWhile Text.isBlank).getLast? with
    | none => simp [hl] at h
    | some c =>
      simp only [hl, Option.some.injEq, Prod.mk.injEq] at h
      have h3 := congrArg List.length
        (List.takeWhile_append_dropWhile (p := Text.isBlank) (l := tail))
      have h4 : (tail.takeWhile Text.isBlank).length ≠ 0 := by
        intro h0
        rw [List.length_eq_zero_iff.mp h0] at hl
        simp at hl
      rw [List.length_append] at h3
      rw [← h.1]
      omega

/-- Takes every `export` at the start of a line away; `fresh` says whether the
text starts a line. -/
def dropExports (fresh : Bool) (cs : List Char) : List Char :=
  match cs with
  | [] => []
  | c :: rest =>
    match _h : (if fresh then afterExport? (c :: rest) else none) with
    | some (tail, next) => dropExports next tail
    | none => c :: dropExports (Text.isLineEnd c) rest
termination_by cs.length
decreasing_by
  · split at _h
    · exact length_afterExport _h
    · simp at _h
  · simp

/-! ## 3. Lines -/

/-- Whether a text has this quote at both ends. -/
def isQuotedBy (quote : Char) (cs : List Char) : Bool :=
  cs.head? == some quote && cs.getLast? == some quote

/-- A value without one pair of quotes around it. -/
def unquote (cs : List Char) : List Char :=
  if cs.length ≥ 2 && (isQuotedBy '"' cs || isQuotedBy '\'' cs) then cs.tail.dropLast else cs

/-- What a line says: a variable and its value, or nothing. -/
def binding? (line : List Char) : Option (String × String) :=
  let t := Text.trimChars line
  if t.head? == some '#' then none
  else
    match t.dropWhile (· != '=') with
    | [] => none
    | _ :: value =>
      some (String.ofList (Text.trimChars (t.takeWhile (· != '='))),
        String.ofList (unquote (Text.trimChars value)))

/-- The lines of a text. A carriage return before the line feed stays; it is
blank, and a line is trimmed before it is read. -/
def lines : List Char → List (List Char)
  | [] => [[]]
  | c :: rest =>
    if c = '\n' then [] :: lines rest
    else
      match lines rest with
      | [] => [[c]]
      | first :: others => (c :: first) :: others

/-! ## 4. Files -/

/-- Fills in a variable that is not set from another that is. -/
def fill (target source : String) (bs : Bindings) : Bindings :=
  match set? source bs, set? target bs with
  | some v, none => assign target v bs
  | _, _ => bs

/-- Fills in the variables that have older names. -/
def withAliases (bs : Bindings) : Bindings :=
  fill "OS_PROJECT_ID" "OS_TENANT_ID" <|
    fill "OS_PROJECT_NAME" "OS_TENANT_NAME" <|
      fill "OS_DOMAIN_NAME" "OS_PROJECT_DOMAIN_NAME" bs

/-- The variables that an RC file sets. -/
def read (content : String) : Bindings :=
  withAliases <|
    ((lines (dropExports true content.toList)).filterMap binding?).foldl
      (fun bs b => assign b.1 b.2 bs) []

/-- The variables without which no request can be made. -/
def requiredNames : List String := ["OS_AUTH_TOKEN", "OS_CONTAINER_INFRA_ENDPOINT"]

/-- The required variables that are missing or blank. -/
def missing (bs : Bindings) : List String :=
  requiredNames.filter fun name => (value? name bs).all Text.isAllBlank

/-- The variables that an RC file sets, or what is missing among them. -/
def load (content : String) : Except (List String) Bindings :=
  let bs := read content
  let absent := missing bs
  if absent.isEmpty then .ok bs else .error absent

/-- The complaint about missing variables. -/
def complaint (names : List String) : String :=
  "Missing required fields: " ++ String.intercalate ", " names

/-- Variables as an environment. -/
def environment (bs : Bindings) : Fields := bs.map fun b => (b.1, .str b.2)

end RcFile

/-- The configuration that an RC file describes. -/
def ofRcFile (content : String) : Except Failure Config :=
  match RcFile.load content with
  | .ok bs => ofEnvironment (RcFile.environment bs)
  | .error names => .error (.configuration (RcFile.complaint names) .nothing)

end MagnumClient.Config
