/-
MagnumClient.Proofs.Exports — an RC file and the environment that it exports.

A configuration can be had from an environment (`Config.ofEnvironment`) and from an RC file
(`Config.ofRcFile`). A file that exports an environment should make the same configuration.
It is read as what it exports, and then filled in by the aliases, so all that is left to
compare is an environment with and without its aliases. Two of them fill in a variable that
the configuration would fall back from anyhow. The third does not: a file takes the project's
id from `OS_TENANT_ID` where `OS_PROJECT_ID` is not set, and an environment has no such
fallback. `exported_configures_iff` says that this is the only difference, and
`RcFile.withTenant` what it does.
-/
import MagnumClient.Proofs.ExportFiles

namespace MagnumClient

namespace Config.RcFile

/-! ## 1. Configurations -/

theorem get?_environment (name : String) (bs : Bindings) :
    Fields.get? name (environment bs) = (value? name bs).map .str := by
  induction bs with
  | nil => rfl
  | cons b bs ih =>
    obtain ⟨k, v⟩ := b
    by_cases hk : k = name
    · simp [environment, Fields.get?_cons, value?, hk]
    · simpa [environment, Fields.get?_cons, value?, hk] using ih

theorem check_eq_valid_iff {α : Type} {env : Fields} {name : String} {rule : Rule α} {a : α} :
    check env name rule = .valid a ↔ rule (Fields.get? name env) = .ok a := by
  unfold check
  cases rule (Fields.get? name env) <;> simp

/-- An optional text is always valid. -/
theorem check_optionalText (name : String) (bs : Bindings) :
    check (environment bs) name Rule.optionalText = .valid (told (value? name bs)) := by
  rw [check, get?_environment]
  cases value? name bs with
  | none => rfl
  | some v => simp [Rule.optionalText, told]

theorem check_congr {α : Type} {name : String} {a b : Bindings} (rule : Rule α)
    (h : value? name a = value? name b) :
    check (environment a) name rule = check (environment b) name rule := by
  simp only [check, get?_environment, h]

end Config.RcFile

namespace Config

namespace Checked

variable {α β : Type}

/-- What holds of the value of a changed value holds of the value, changed. -/
theorem exists_map_eq_valid {f : α → β} {c : Checked α} {Q : β → Prop} :
    (∃ b, f <$> c = .valid b ∧ Q b) ↔ ∃ a, c = .valid a ∧ Q (f a) := by
  cases c <;> simp [Functor.map, map]

/-- A combination has a value iff both parts have one. -/
theorem exists_seq_eq_valid {f : Checked (α → β)} {c : Checked α} {Q : β → Prop} :
    (∃ b, f <*> c = .valid b ∧ Q b) ↔ ∃ g, f = .valid g ∧ ∃ a, c = .valid a ∧ Q (g a) := by
  cases f <;> cases c <;> simp [Seq.seq, apply]

end Checked

/-- The variables are valid iff each of them is. -/
theorem readAll_eq_valid_iff (env : Fields) (v : Variables) :
    readAll env = .valid v ↔
      check env "OS_CONTAINER_INFRA_ENDPOINT" Rule.url = .valid v.endpoint ∧
      check env "OS_AUTH_TOKEN" Rule.text = .valid v.token ∧
      check env "OS_CLOUD" (Rule.text.withDefault "defaults") = .valid v.cloud ∧
      check env "OS_REGION_NAME" Rule.optionalText = .valid v.regionName ∧
      check env "OS_ZONE" Rule.optionalText = .valid v.zone ∧
      check env "OS_PROJECT_ID" Rule.optionalText = .valid v.projectId ∧
      check env "OS_PROJECT_NAME" Rule.optionalText = .valid v.projectName ∧
      check env "OS_TENANT_NAME" Rule.optionalText = .valid v.tenantName ∧
      check env "OS_PROJECT_DOMAIN_ID" Rule.optionalText = .valid v.projectDomainId ∧
      check env "OS_PROJECT_DOMAIN_NAME" Rule.optionalText = .valid v.projectDomainName ∧
      check env "OS_DOMAIN_NAME" Rule.optionalText = .valid v.domainName ∧
      check env "OS_STRICT_MODE" (Rule.flag.withDefault false) = .valid v.strictMode ∧
      check env "OS_API_TIMEOUT" (Rule.timeout.withDefault 120000) = .valid v.timeout ∧
      check env "OS_CONTAINER_INFRA_API_VERSION" (Rule.text.withDefault "latest") =
        .valid v.apiVersion ∧
      check env "OS_CACHE_EXPIRATION" Rule.expiration = .valid v.cacheExpiration := by
  have hread : readAll env = .valid v ↔ ∃ w, readAll env = .valid w ∧ w = v := by simp
  rw [hread]
  simp only [readAll, Checked.exists_seq_eq_valid, Checked.exists_map_eq_valid]
  constructor
  · rintro ⟨_, h1, _, h2, _, h3, _, h4, _, h5, _, h6, _, h7, _, h8, _, h9, _, h10, _, h11, _, h12,
      _, h13, _, h14, _, h15, rfl⟩
    exact ⟨h1, h2, h3, h4, h5, h6, h7, h8, h9, h10, h11, h12, h13, h14, h15⟩
  · rintro ⟨h1, h2, h3, h4, h5, h6, h7, h8, h9, h10, h11, h12, h13, h14, h15⟩
    exact ⟨_, h1, _, h2, _, h3, _, h4, _, h5, _, h6, _, h7, _, h8, _, h9, _, h10, _, h11, _, h12,
      _, h13, _, h14, _, h15, rfl⟩

theorem ofEnvironment_eq_ok_iff {env : Fields} {c : Config} :
    ofEnvironment env = .ok c ↔ ∃ v, readAll env = .valid v ∧ v.config = c := by
  unfold ofEnvironment
  cases readAll env <;> simp

/-- An environment that makes no configuration is complained about. -/
theorem ofEnvironment_eq_error {env : Fields} {f : Failure} (h : ofEnvironment env = .error f) :
    ∃ message extra, f = .configuration message extra := by
  unfold ofEnvironment at h
  cases hr : readAll env with
  | valid v => simp [hr] at h
  | invalid issues =>
    rw [hr] at h
    cases h
    exact ⟨_, _, rfl⟩

namespace RcFile

/-! ## 2. Files beside environments -/

theorem trim_of_isAllBlank {s : String} (h : Text.isAllBlank s = true) : Text.trim s = "" := by
  rw [Text.trim, Text.trimChars_of_all h]

/-- A variable with a valid value is not missing, nor blank, if its rule allows neither. -/
theorem not_missing_of_valid {α : Type} {bs : Bindings} {name : String} {rule : Rule α} {a : α}
    (hnone : ∀ a, rule none ≠ .ok a)
    (hblank : ∀ s a, Text.isAllBlank s = true → rule (some (.str s)) ≠ .ok a)
    (h : check (environment bs) name rule = .valid a) :
    (value? name bs).all Text.isAllBlank = false := by
  rw [check_eq_valid_iff, get?_environment] at h
  cases hv : value? name bs with
  | none =>
    rw [hv] at h
    exact absurd h (hnone a)
  | some s =>
    rw [hv] at h
    exact Bool.eq_false_iff.mpr fun hs => hblank s a hs h

/-- Nothing that a file must set is missing from variables that are valid. -/
theorem missing_of_valid {bs : Bindings} {v : Variables}
    (h : readAll (environment bs) = .valid v) : missing bs = [] := by
  obtain ⟨hurl, htext, -⟩ := (readAll_eq_valid_iff _ _).mp h
  have hendpoint := not_missing_of_valid (by simp [Rule.url]) (fun s a hs => by
    have hno : Url.parse? "" = none := rfl
    simp [Rule.url, trim_of_isAllBlank hs, hno]) hurl
  have htoken := not_missing_of_valid (by simp [Rule.text]) (fun s a hs => by
    simp [Rule.text, trim_of_isAllBlank hs]) htext
  simp [missing, requiredNames, hendpoint, htoken]

/-- The variables that a file sets, given those of the environment that it exports. -/
def aliased (bs : Bindings) (v : Variables) : Variables :=
  { v with
    projectId := told (filled "OS_PROJECT_ID" "OS_TENANT_ID" bs)
    projectName := told (filled "OS_PROJECT_NAME" "OS_TENANT_NAME" bs)
    domainName := told (filled "OS_DOMAIN_NAME" "OS_PROJECT_DOMAIN_NAME" bs) }

/-- The id of the project that a file takes from `OS_TENANT_ID`. -/
def tenant? (bs : Bindings) : Option String :=
  if (set? "OS_PROJECT_ID" bs).isSome then none else told (value? "OS_TENANT_ID" bs)

/-- The configuration with the id of the project taken from elsewhere, if it is. -/
def withTenant (tenant : Option String) (c : Config) : Config :=
  { c with
    location := { c.location with
      project := { c.location.project with id := tenant.or c.location.project.id } } }

section

variable {bs order : Bindings} (hd : (bs.map Prod.fst).Nodup) (hp : order.Perm bs)
include hd hp

/-- With the aliases, the same variables are valid, and three of them are filled in. -/
theorem readAll_withAliases_iff (w : Variables) :
    readAll (environment (withAliases order)) = .valid w ↔
      ∃ v, readAll (environment bs) = .valid v ∧ aliased bs v = w := by
  have hvalue (name : String) : value? name (withAliases order) = value? name (withAliases bs) := by
    simp only [value?_withAliases, filled, set?, value?_perm hd hp]
  have hsame {α : Type} (name : String) (rule : Rule α)
      (h : name ∉ ["OS_PROJECT_ID", "OS_PROJECT_NAME", "OS_DOMAIN_NAME"]) :
      check (environment (withAliases order)) name rule = check (environment bs) name rule := by
    refine check_congr rule ?_
    simp only [List.mem_cons, List.not_mem_nil, or_false, not_or] at h
    rw [hvalue, value?_withAliases, if_neg (Ne.symm h.1), if_neg (Ne.symm h.2.1),
      if_neg (Ne.symm h.2.2)]
  have hid : told (value? "OS_PROJECT_ID" (withAliases bs)) =
      told (filled "OS_PROJECT_ID" "OS_TENANT_ID" bs) := by simp [value?_withAliases]
  have hname : told (value? "OS_PROJECT_NAME" (withAliases bs)) =
      told (filled "OS_PROJECT_NAME" "OS_TENANT_NAME" bs) := by simp [value?_withAliases]
  have hdomain : told (value? "OS_DOMAIN_NAME" (withAliases bs)) =
      told (filled "OS_DOMAIN_NAME" "OS_PROJECT_DOMAIN_NAME" bs) := by simp [value?_withAliases]
  rw [readAll_eq_valid_iff]
  simp (disch := decide) only [hsame]
  simp only [check_optionalText _ (withAliases order), hvalue, hid, hname, hdomain,
    Checked.valid.injEq]
  constructor
  · rintro ⟨h1, h2, h3, h4, h5, h6, h7, h8, h9, h10, h11, h12, h13, h14, h15⟩
    -- unset what was filled in
    refine ⟨{ w with
      projectId := told (value? "OS_PROJECT_ID" bs)
      projectName := told (value? "OS_PROJECT_NAME" bs)
      domainName := told (value? "OS_DOMAIN_NAME" bs) }, ?_, ?_⟩
    · exact (readAll_eq_valid_iff _ _).mpr ⟨h1, h2, h3, h4, h5, check_optionalText _ _,
        check_optionalText _ _, h8, h9, h10, check_optionalText _ _, h12, h13, h14, h15⟩
    · simp only [aliased, h6, h7, h11]
  · rintro ⟨v, hv, rfl⟩
    obtain ⟨h1, h2, h3, h4, h5, -, -, h8, h9, h10, -, h12, h13, h14, h15⟩ :=
      (readAll_eq_valid_iff _ _).mp hv
    exact ⟨h1, h2, h3, h4, h5, rfl, rfl, h8, h9, h10, rfl, h12, h13, h14, h15⟩

end

/-- What the aliases fill in changes nothing of the configuration but the project's id. -/
theorem aliased_config {bs : Bindings} {v : Variables}
    (h : readAll (environment bs) = .valid v) :
    (aliased bs v).config = withTenant (tenant? bs) v.config := by
  obtain ⟨-, -, -, -, -, hid, hname, htenant, -, hdomain, hfallback, -⟩ :=
    (readAll_eq_valid_iff _ _).mp h
  simp only [check_optionalText, Checked.valid.injEq] at hid hname htenant hdomain hfallback
  have hproject : told (filled "OS_PROJECT_ID" "OS_TENANT_ID" bs) =
      (tenant? bs).or v.projectId := by
    rw [told_filled, tenant?, ← hid]
    cases hset : set? "OS_PROJECT_ID" bs with
    | some id => simp
    | none => simp [told_of_set?_eq_none hset]
  simp only [aliased, Variables.config, withTenant, hproject, ← hname, ← htenant, ← hdomain,
    ← hfallback, told_filled_or, or_told_filled]

/-- A file takes the id of the project from elsewhere only where the environment has none. -/
theorem withTenant_eq_self_iff {bs : Bindings} {c : Config}
    (h : ofEnvironment (environment bs) = .ok c) :
    withTenant (tenant? bs) c = c ↔ tenant? bs = none := by
  refine ⟨fun he => ?_, fun hnone => by rw [hnone]; rfl⟩
  obtain ⟨v, hv, rfl⟩ := ofEnvironment_eq_ok_iff.mp h
  obtain ⟨-, -, -, -, -, hid, -⟩ := (readAll_eq_valid_iff _ _).mp hv
  simp only [check_optionalText, Checked.valid.injEq] at hid
  cases hset : set? "OS_PROJECT_ID" bs with
  | some id => simp [tenant?, hset]
  | none =>
    have hsame : (tenant? bs).or v.projectId = v.projectId :=
      congrArg (fun c : Config => c.location.project.id) he
    rw [← hid, told_of_set?_eq_none hset, Option.or_none] at hsame
    exact hsame

/-- A file that exports variables makes a configuration iff they do with their aliases. -/
theorem ofRcFile_exported_eq_ok_iff {bs : Bindings} (h : Exportable bs) {c : Config} :
    ofRcFile (exported bs) = .ok c ↔
      ∃ w, readAll (environment (withAliases bs)) = .valid w ∧ w.config = c := by
  have hload : load (exported bs) = if (missing (withAliases bs)).isEmpty
      then .ok (withAliases bs) else .error (missing (withAliases bs)) := by
    rw [load, read_exported h]
  rw [ofRcFile, hload]
  cases hm : (missing (withAliases bs)).isEmpty with
  | true => exact ofEnvironment_eq_ok_iff
  | false =>
    refine ⟨nofun, fun ⟨w, hw, _⟩ => ?_⟩
    rw [missing_of_valid hw] at hm
    cases hm

/-- The configurations that a file makes are those that the environment makes, but for the id
of the project. -/
theorem ofRcFile_eq_ok_iff {env order : Bindings} (h : Exportable env) (hp : order.Perm env)
    {c : Config} :
    ofRcFile (exported order) = .ok c ↔
      ∃ d, ofEnvironment (environment env) = .ok d ∧ withTenant (tenant? env) d = c := by
  simp only [ofRcFile_exported_eq_ok_iff (h.perm hp), readAll_withAliases_iff h.distinct hp,
    ofEnvironment_eq_ok_iff]
  constructor
  · rintro ⟨_, ⟨v, hv, rfl⟩, rfl⟩
    exact ⟨v.config, ⟨v, hv, rfl⟩, (aliased_config hv).symm⟩
  · rintro ⟨_, ⟨v, hv, rfl⟩, rfl⟩
    exact ⟨aliased env v, ⟨v, hv, rfl⟩, aliased_config hv⟩

/-- A file that makes no configuration is complained about. -/
theorem ofRcFile_eq_error {content : String} {f : Failure} (h : ofRcFile content = .error f) :
    ∃ message extra, f = .configuration message extra := by
  unfold ofRcFile at h
  cases hl : load content with
  | ok bs => exact ofEnvironment_eq_error (by simpa [hl] using h)
  | error names =>
    rw [hl] at h
    cases h
    exact ⟨_, _, rfl⟩

end RcFile

/-- One configuration, or two complaints about a configuration. -/
inductive SameOutcome : Except Failure Config → Except Failure Config → Prop where
  | configured (c : Config) : SameOutcome (.ok c) (.ok c)
  | refused (m m' : String) (x x' : Extra) :
    SameOutcome (.error (.configuration m x)) (.error (.configuration m' x'))

theorem SameOutcome.ok_iff {c d : Config} : SameOutcome (.ok c) (.ok d) ↔ c = d := by
  constructor
  · intro h
    cases h
    rfl
  · rintro rfl
    exact .configured c

open RcFile

/-- **A file and the environment that it exports.** They both make a configuration or are both
complained about, and the configurations are the same but for the id of the project: that the
file takes from `OS_TENANT_ID` if `OS_PROJECT_ID` is not set or empty, and the environment does
not. So the outcomes are the same unless there is a configuration and such an id. -/
theorem exported_configures_iff {env order : Bindings} (h : Exportable env)
    (hp : order.Perm env) :
    (SameOutcome (ofRcFile (exported order)) (ofEnvironment (environment env)) ↔
      ¬ ((ofEnvironment (environment env)).isOk = true ∧ (tenant? env).isSome = true)) ∧
    (∀ c, ofEnvironment (environment env) = .ok c →
      ofRcFile (exported order) = .ok (withTenant (tenant? env) c)) ∧
    (∀ f, ofEnvironment (environment env) = .error f →
      SameOutcome (ofRcFile (exported order)) (.error f)) := by
  have hconfigured : ∀ c, ofEnvironment (environment env) = .ok c →
      ofRcFile (exported order) = .ok (withTenant (tenant? env) c) :=
    fun c hc => (ofRcFile_eq_ok_iff h hp).mpr ⟨c, hc, rfl⟩
  have hrefused : ∀ f, ofEnvironment (environment env) = .error f →
      SameOutcome (ofRcFile (exported order)) (.error f) := by
    intro f hf
    obtain ⟨m, x, rfl⟩ := ofEnvironment_eq_error hf
    cases hfile : ofRcFile (exported order) with
    | ok c =>
      obtain ⟨d, hd, -⟩ := (ofRcFile_eq_ok_iff h hp).mp hfile
      rw [hd] at hf
      cases hf
    | error g =>
      obtain ⟨m', x', rfl⟩ := ofRcFile_eq_error hfile
      exact .refused ..
  refine ⟨?_, hconfigured, hrefused⟩
  cases henv : ofEnvironment (environment env) with
  | error f => exact ⟨fun _ => nofun, fun _ => hrefused f henv⟩
  | ok c =>
    rw [hconfigured c henv, SameOutcome.ok_iff, withTenant_eq_self_iff henv]
    simp [Except.isOk, Except.toBool]

/-- A file in another order than the environment, with quotes in a value and an alias. -/
theorem exported_configures_reversed :
    let env : Bindings := [("OS_CONTAINER_INFRA_ENDPOINT", "https://[::1]:9511/v1"),
      ("OS_AUTH_TOKEN", "\"token\""), ("OS_TENANT_NAME", "demo")]
    Exportable env ∧ env.reverse.Perm env ∧ (∃ c, ofEnvironment (environment env) = .ok c) ∧
      SameOutcome (ofRcFile (exported env.reverse)) (ofEnvironment (environment env)) := by
  intro env
  have henv : Exportable env :=
    .of_words (by simp [env]) (by simp [env, IsWordChar]) (by simp [env, Text.isLineEnd])
  have hp : env.reverse.Perm env := List.reverse_perm env
  have hnone : tenant? env = none := rfl
  refine ⟨henv, hp, ⟨_, rfl⟩, (exported_configures_iff henv hp).1.mpr fun hboth => ?_⟩
  rw [hnone] at hboth
  cases hboth.2

/-- A file that names a tenant is about a project, and the environment that it exports is not. -/
theorem tenant_in_file_only :
    let env : Bindings := [("OS_CONTAINER_INFRA_ENDPOINT", "https://[::1]:9511/v1"),
      ("OS_AUTH_TOKEN", "token"), ("OS_TENANT_ID", "tenant-1")]
    Exportable env ∧
      (∃ c, ofEnvironment (environment env) = .ok c ∧ c.location.project.id = none) ∧
      (∃ c, ofRcFile (exported env) = .ok c ∧ c.location.project.id = some "tenant-1") ∧
      ¬ SameOutcome (ofRcFile (exported env)) (ofEnvironment (environment env)) := by
  intro env
  have henv : Exportable env :=
    .of_words (by simp [env]) (by simp [env, IsWordChar]) (by simp [env, Text.isLineEnd])
  obtain ⟨c, hc, hid⟩ : ∃ c, ofEnvironment (environment env) = .ok c ∧
      c.location.project.id = none := ⟨_, rfl, rfl⟩
  obtain ⟨w, hw, hid'⟩ : ∃ w, readAll (environment (withAliases env)) = .valid w ∧
      w.config.location.project.id = some "tenant-1" := ⟨_, rfl, rfl⟩
  have hfile : ofRcFile (exported env) = .ok w.config :=
    (ofRcFile_exported_eq_ok_iff henv).mpr ⟨w, hw, rfl⟩
  refine ⟨henv, ⟨c, hc, hid⟩, ⟨w.config, hfile, hid'⟩, fun hsame => ?_⟩
  rw [hfile, hc, SameOutcome.ok_iff] at hsame
  rw [hsame, hid] at hid'
  cases hid'

end Config

end MagnumClient
