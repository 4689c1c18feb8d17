/-
MagnumClient.Config.Environment — a configuration from environment variables.

Fifteen variables are read, each by a rule of its own that looks at nothing but
that variable's value: URLs, texts that must not be blank, optional texts, a
flag, and two numbers. A rule also says what a missing variable means. Either
all fifteen pass and make a configuration, or everything that is wrong is
reported, in the order of `readAll`.

Texts are trimmed. An optional text that is blank counts as unset; a blank value
of any other variable is checked as it is. The names of the project and of its
domain each have a second variable that is used when the first is unset.
-/
import MagnumClient.Config.Basic
import MagnumClient.Config.Checked
import MagnumClient.Failure.Basic
import MagnumClient.Text.Blank
import MagnumClient.Url.Basic

namespace MagnumClient.Config

/-! ## 1. Rules -/

/-- How the value of a variable is read; `none` is a missing variable. -/
abbrev Rule (α : Type) := Option Json → Except (List Flaw) α

namespace Rule

/-- A URL. -/
def url : Rule String
  | some (.str s) =>
    let t := Text.trim s
    if (Url.parse? t).isSome then .ok t else .error [.invalidString]
  | _ => .error [.invalidType]

/-- A text that is not blank. -/
def text : Rule String
  | some (.str s) =>
    let t := Text.trim s
    if t.isEmpty then .error [.tooSmall] else .ok t
  | _ => .error [.invalidType]

/-- A rule with a value for the missing variable. -/
def withDefault {α : Type} (value : α) (rule : Rule α) : Rule α
  | none => .ok value
  | some v => rule (some v)

/-- A text that may be missing or blank. -/
def optionalText : Rule (Option String)
  | none => .ok none
  | some (.str s) =>
    let t := Text.trim s
    .ok (if t.isEmpty then none else some t)
  | some _ => .error [.invalidType]

/-- The words that set a flag. -/
def yesWords : List String := ["true", "1", "yes"]

/-- The words that clear a flag. -/
def noWords : List String := ["false", "0", "no"]

/-- A flag, in letters of either case. -/
def flag : Rule Bool
  | some (.str s) =>
    let t := (Text.trim s).toLower
    if yesWords.contains t then .ok true
    else if noWords.contains t then .ok false
    else .error [.invalidWord]
  | _ => .error [.invalidType]

/-- The number that a value stands for; NaN if it stands for none. -/
def numberOf : Json → Float
  | .null => 0
  | .bool b => if b then 1 else 0
  | .num x => x
  | .str s => (Decimal.ofText? s).getD Decimal.nan
  | v@(.arr _) => (Decimal.ofText? v.plainText).getD Decimal.nan
  | .obj _ => Decimal.nan

/-- The least time that a request may take, in milliseconds. -/
def minTimeout : Float := 1000

/-- The most time that a request may take, in milliseconds. -/
def maxTimeout : Float := 600000

/-- A whole number of milliseconds between the two bounds. -/
def timeout : Rule Float
  | none => .error [.invalidType]
  | some v =>
    let x := numberOf v
    if x.isNaN then .error [.invalidType]
    else
      let flaws := (if Decimal.isWhole x then [] else [.invalidType]) ++
        (if x < minTimeout then [.tooSmall] else []) ++ (if maxTimeout < x then [.tooBig] else [])
      if flaws.isEmpty then .ok x else .error flaws

/-- A positive number, which may be missing or blank. -/
def expiration : Rule (Option Float)
  | none => .ok none
  | some (.str s) => if Text.isAllBlank s then .ok none else positive (.str s)
  | some v => positive v
where
  /-- A positive number. -/
  positive (v : Json) : Except (List Flaw) (Option Float) :=
    let x := numberOf v
    if x.isNaN then .error [.invalidType]
    else if x > 0 then .ok (some x)
    else .error [.tooSmall]

end Rule

/-! ## 2. Variables -/

/-- The values of the variables, each read by its rule. -/
structure Variables where
  endpoint : String
  token : String
  cloud : String
  regionName : Option String
  zone : Option String
  projectId : Option String
  projectName : Option String
  tenantName : Option String
  projectDomainId : Option String
  projectDomainName : Option String
  domainName : Option String
  strictMode : Bool
  timeout : Float
  apiVersion : String
  cacheExpiration : Option Float

/-- Reads one variable. -/
def check {α : Type} (env : Fields) (name : String) (rule : Rule α) : Checked α :=
  match rule (Fields.get? name env) with
  | .ok a => .valid a
  | .error flaws => .invalid (flaws.map fun f => ⟨f, name⟩)

/-- Reads all variables. -/
def readAll (env : Fields) : Checked Variables :=
  Variables.mk
    <$> check env "OS_CONTAINER_INFRA_ENDPOINT" Rule.url
    <*> check env "OS_AUTH_TOKEN" Rule.text
    <*> check env "OS_CLOUD" (Rule.text.withDefault "defaults")
    <*> check env "OS_REGION_NAME" Rule.optionalText
    <*> check env "OS_ZONE" Rule.optionalText
    <*> check env "OS_PROJECT_ID" Rule.optionalText
    <*> check env "OS_PROJECT_NAME" Rule.optionalText
    <*> check env "OS_TENANT_NAME" Rule.optionalText
    <*> check env "OS_PROJECT_DOMAIN_ID" Rule.optionalText
    <*> check env "OS_PROJECT_DOMAIN_NAME" Rule.optionalText
    <*> check env "OS_DOMAIN_NAME" Rule.optionalText
    <*> check env "OS_STRICT_MODE" (Rule.flag.withDefault false)
    <*> check env "OS_API_TIMEOUT" (Rule.timeout.withDefault 120000)
    <*> check env "OS_CONTAINER_INFRA_API_VERSION" (Rule.text.withDefault "latest")
    <*> check env "OS_CACHE_EXPIRATION" Rule.expiration

/-! ## 3. The configuration -/

/-- The configuration that the variables describe. -/
def Variables.config (v : Variables) : Config where
  endpoint := v.endpoint
  token := v.token
  apiVersion := v.apiVersion
  timeout := v.timeout
  strictMode := v.strictMode
  cacheExpiration := v.cacheExpiration
  location :=
    { cloud := v.cloud
      regionName := v.regionName
      zone := v.zone
      project :=
        { id := v.projectId
          name := v.projectName.or v.tenantName
          domainId := v.projectDomainId
          domainName := v.projectDomainName.or v.domainName } }

/-- The names that a list of issues is about, each once. -/
def namesOf (issues : List Issue) : List String := (issues.map Issue.name).eraseDups

/-- The complaint about a list of issues. -/
def complaint (issues : List Issue) : Failure :=
  .configuration ("Invalid cloud configuration: " ++ String.intercalate ", " (namesOf issues))
    (.issues issues)

/-- The configuration that an environment describes. -/
def ofEnvironment (env : Fields) : Except Failure Config :=
  match readAll env with
  | .valid v => .ok v.config
  | .invalid issues => .error (complaint issues)

end MagnumClient.Config
