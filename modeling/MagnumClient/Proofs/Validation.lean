/-
MagnumClient.Proofs.Validation — which environments make a configuration, and what it is then.

Fifteen variables are read. Of each something is demanded (`demands`), which looks at the value of
that variable alone (`Demand.Met`). That the rules of the variables test these demands is a lemma
for each kind of rule (`Rule.Tests`), and how checked values are put together carries it to the
whole (`Judged.seq`): all demands are met iff there are values for all variables, and what is
complained about are the variables whose demands are not met, in the order in which they are read.
One variable can be complained about several times in a row, but it is named once
(`Blames.sublist`).

What a configuration that is made is like is read off the rules one by one (`Sound`). Its timeout
is tested as a floating-point number; that makes it one of the integers between the two bounds,
since whole numbers compare as integers.
-/
import Mathlib.Data.List.Nodup
import MagnumClient.Proofs.Exports
import MagnumClient.Proofs.Numbers
import MagnumClient.Proofs.Paragraphs

namespace MagnumClient

/-! ## 1. Trimmed texts -/

namespace Text

/-- A text without blanks at its ends. -/
def Trimmed (s : String) : Prop := trim s = s

theorem head?_trimEndChars {c : Char} {cs : List Char} (h : c ∈ (trimEndChars cs).head?) :
    c ∈ cs.head? := by
  have hprefix : trimEndChars cs <+: cs := by
    rw [← List.reverse_suffix, trimEndChars, List.reverse_reverse]
    exact List.dropWhile_suffix isBlank
  obtain ⟨rest, hrest⟩ := hprefix
  rw [← hrest, List.head?_append, Option.mem_def.mp h]
  rfl

theorem trimChars_trimChars (cs : List Char) : trimChars (trimChars cs) = trimChars cs := by
  refine trimChars_eq_self (fun c hc => ?_) (fun c hc => ?_)
  · exact head?_dropWhile cs c (head?_trimEndChars hc)
  · rw [trimChars, trimEndChars, List.getLast?_reverse] at hc
    exact head?_dropWhile _ c hc

theorem trimmed_trim (s : String) : Trimmed (trim s) := by
  rw [Trimmed, trim, trim, String.toList_ofList, trimChars_trimChars]

theorem trim_eq_empty_iff {s : String} : trim s = "" ↔ isAllBlank s = true := by
  constructor
  · intro h
    by_contra hblank
    have hnot : ∃ c ∈ s.toList, isBlank c = false := by simpa [isAllBlank] using hblank
    refine trimChars_ne_nil hnot ?_
    rw [← String.toList_ofList (l := trimChars s.toList), ← trim, h]
    rfl
  · intro h
    rw [trim, trimChars_of_all h]

theorem isEmpty_trim (s : String) : (trim s).isEmpty = isAllBlank s := by
  rw [Bool.eq_iff_iff, String.isEmpty_iff, trim_eq_empty_iff]

end Text

namespace Config

/-! ## 2. Demands -/

/-- What is demanded of the value of a variable. -/
inductive Demand where
  /-- A URL. -/
  | url
  /-- A text that is not blank. -/
  | text
  /-- A text. -/
  | anyText
  /-- One of the words for yes and no. -/
  | flag
  /-- A whole number of milliseconds, a second to ten minutes. -/
  | timeout
  /-- A positive number, or a blank text. -/
  | expiration
  /-- That it is unset, or else something. -/
  | unsetOr (demand : Demand)

/-- Whether a value, `none` if unset, meets a demand. -/
def Demand.Met : Demand → Option Json → Prop
  | url, v => ∃ s, v = some (.str s) ∧ (Url.parse? (Text.trim s)).isSome = true
  | text, v => ∃ s, v = some (.str s) ∧ Text.isAllBlank s = false
  | anyText, v => ∃ s, v = some (.str s)
  | flag, v => ∃ s, v = some (.str s) ∧
    (Text.trim s).toLower ∈ ["true", "false", "1", "0", "yes", "no"]
  | timeout, v => ∃ w, v = some w ∧ ∃ n : Nat, 1000 ≤ n ∧ n ≤ 600000 ∧
    Decimal.whole? (Rule.numberOf w) = some (n : Int)
  | expiration, v => ∃ w, v = some w ∧
    ((∃ s, w = .str s ∧ Text.isAllBlank s = true) ∨ 0 < Rule.numberOf w)
  | unsetOr demand, v => v = none ∨ demand.Met v

/-- What is demanded of each variable. -/
def demands : List (String × Demand) :=
  [("OS_CONTAINER_INFRA_ENDPOINT", .url), ("OS_AUTH_TOKEN", .text), ("OS_CLOUD", .unsetOr .text),
    ("OS_REGION_NAME", .unsetOr .anyText), ("OS_ZONE", .unsetOr .anyText),
    ("OS_PROJECT_ID", .unsetOr .anyText), ("OS_PROJECT_NAME", .unsetOr .anyText),
    ("OS_TENANT_NAME", .unsetOr .anyText), ("OS_PROJECT_DOMAIN_ID", .unsetOr .anyText),
    ("OS_PROJECT_DOMAIN_NAME", .unsetOr .anyText), ("OS_DOMAIN_NAME", .unsetOr .anyText),
    ("OS_STRICT_MODE", .unsetOr .flag), ("OS_API_TIMEOUT", .unsetOr .timeout),
    ("OS_CONTAINER_INFRA_API_VERSION", .unsetOr .text),
    ("OS_CACHE_EXPIRATION", .unsetOr .expiration)]

/-! ## 3. Rules -/

namespace Rule

/-- A rule accepts the values that meet a demand, and tells what is wrong with all others. -/
structure Tests {α : Type} (rule : Rule α) (demand : Demand) : Prop where
  accepts : ∀ v, (∃ a, rule v = .ok a) ↔ demand.Met v
  tells : ∀ v, rule v ≠ .error []

theorem url_eq_ok_iff {v : Option Json} {t : String} :
    url v = .ok t ↔ ∃ s, v = some (.str s) ∧ (Url.parse? (Text.trim s)).isSome = true ∧
      Text.trim s = t := by
  rcases v with _ | w
  · simp [url]
  · cases w with
    | str s => cases hparse : (Url.parse? (Text.trim s)).isSome <;> simp [url, hparse]
    | _ => simp [url]

theorem url_tests : url.Tests .url where
  accepts v := by
    simp only [url_eq_ok_iff, Demand.Met]
    exact ⟨fun ⟨_, s, hs, hparse, _⟩ => ⟨s, hs, hparse⟩,
      fun ⟨s, hs, hparse⟩ => ⟨_, s, hs, hparse, rfl⟩⟩
  tells v := by
    unfold url
    dsimp only
    split
    · split <;> simp
    · simp

theorem text_eq_ok_iff {v : Option Json} {t : String} :
    text v = .ok t ↔ ∃ s, v = some (.str s) ∧ Text.isAllBlank s = false ∧ Text.trim s = t := by
  rcases v with _ | w
  · simp [text]
  · cases w with
    | str s => cases hblank : Text.isAllBlank s <;> simp [text, Text.isEmpty_trim, hblank]
    | _ => simp [text]

theorem text_tests : text.Tests .text where
  accepts v := by
    simp only [text_eq_ok_iff, Demand.Met]
    exact ⟨fun ⟨_, s, hs, hblank, _⟩ => ⟨s, hs, hblank⟩,
      fun ⟨s, hs, hblank⟩ => ⟨_, s, hs, hblank, rfl⟩⟩
  tells v := by
    unfold text
    dsimp only
    split
    · split <;> simp
    · simp

/-- With a value for the missing variable, the variable may be unset. -/
theorem Tests.withDefault {α : Type} {rule : Rule α} {demand : Demand} (h : rule.Tests demand)
    (value : α) : (rule.withDefault value).Tests (.unsetOr demand) where
  accepts v := by
    rcases v with _ | w
    · simp [Rule.withDefault, Demand.Met]
    · simpa [Rule.withDefault, Demand.Met] using h.accepts (some w)
  tells v := by
    rcases v with _ | w
    · simp [Rule.withDefault]
    · exact h.tells (some w)

theorem optionalText_eq_ok_iff {v : Option Json} {t : Option String} :
    optionalText v = .ok t ↔
      (v = none ∨ ∃ s, v = some (.str s)) ∧ RcFile.told (v.bind Json.str?) = t := by
  rcases v with _ | w
  · simp [optionalText, RcFile.told]
  · cases w with
    | str s => simp [optionalText, RcFile.told, Json.str?]
    | _ => simp [optionalText]

theorem optionalText_tests : optionalText.Tests (.unsetOr .anyText) where
  accepts v := by
    simp only [optionalText_eq_ok_iff, Demand.Met]
    exact ⟨fun ⟨_, h, _⟩ => h, fun h => ⟨_, h, rfl⟩⟩
  tells v := by
    unfold optionalText
    split <;> simp

theorem mem_words_iff {word : String} :
    word ∈ ["true", "false", "1", "0", "yes", "no"] ↔
      yesWords.contains word = true ∨ noWords.contains word = true := by
  simp only [yesWords, noWords, List.contains_eq_mem, decide_eq_true_eq, List.mem_cons,
    List.not_mem_nil, or_false]
  tauto

theorem flag_tests : flag.Tests .flag where
  accepts v := by
    rcases v with _ | w
    · simp [flag, Demand.Met]
    · cases w with
      | str s =>
        simp only [flag, Demand.Met, Option.some.injEq, Json.str.injEq, exists_eq_left',
          mem_words_iff]
        cases yesWords.contains (Text.trim s).toLower <;>
          cases noWords.contains (Text.trim s).toLower <;> simp
      | _ => simp [flag, Demand.Met]
  tells v := by
    unfold flag
    dsimp only
    split
    · split
      · simp
      · split <;> simp
    · simp

/-- A time is in bounds as a float iff it is as an integer. -/
theorem timeout_eq_ok_iff {v : Option Json} {x : Float} :
    timeout v = .ok x ↔ ∃ w, v = some w ∧ (∃ n : Nat, 1000 ≤ n ∧ n ≤ 600000 ∧
      Decimal.whole? (numberOf w) = some (n : Int)) ∧ numberOf w = x := by
  rcases v with _ | w
  · simp [timeout]
  · simp only [timeout, Option.some.injEq, exists_eq_left']
    generalize numberOf w = y
    obtain hwhole | ⟨a, hwhole⟩ := Option.eq_none_or_eq_some (Decimal.whole? y)
    · have hpart : Decimal.isWhole y = false := by rw [Decimal.isWhole, hwhole]; rfl
      cases y.isNaN <;> simp [hpart, hwhole]
    · have hint : Decimal.isWhole y = true := by rw [Decimal.isWhole, hwhole]; rfl
      have hmin : y < minTimeout ↔ a < 1000 := Decimal.lt_iff_of_whole hwhole rfl
      have hmax : maxTimeout < y ↔ 600000 < a := Decimal.lt_iff_of_whole rfl hwhole
      have hbounds : (∃ n : Nat, 1000 ≤ n ∧ n ≤ 600000 ∧ some a = some (n : Int)) ↔
          ¬ a < 1000 ∧ ¬ 600000 < a := by
        constructor
        · rintro ⟨n, hlow, hhigh, ha⟩
          cases ha
          omega
        · rintro ⟨hlow, hhigh⟩
          exact ⟨a.toNat, by omega, by omega, by rw [Int.toNat_of_nonneg (by omega)]⟩
      rw [hwhole, hbounds]
      simp only [Decimal.isNaN_of_whole hwhole, hint, hmin, hmax]
      by_cases hlow : a < 1000 <;> by_cases hhigh : 600000 < a <;> simp [hlow, hhigh]

theorem timeout_tests : timeout.Tests .timeout where
  accepts v := by
    simp only [timeout_eq_ok_iff, Demand.Met]
    exact ⟨fun ⟨_, w, hw, hn, _⟩ => ⟨w, hw, hn⟩, fun ⟨w, hw, hn⟩ => ⟨_, w, hw, hn, rfl⟩⟩
  tells v := by
    rcases v with _ | w
    · simp [timeout]
    · have hflaws (x : Float) (flaws : List Flaw) :
          (if flaws.isEmpty then .ok x else .error flaws : Except (List Flaw) Float) ≠
            .error [] := by
        cases flaws <;> simp
      unfold timeout
      dsimp only
      split
      · simp
      · exact hflaws _ _

theorem positive_eq_ok_iff {w : Json} {x : Option Float} :
    expiration.positive w = .ok x ↔ 0 < numberOf w ∧ some (numberOf w) = x := by
  unfold expiration.positive
  dsimp only
  by_cases hpos : 0 < numberOf w
  · rw [isNaN_of_pos hpos]
    simp [hpos]
  · cases (numberOf w).isNaN <;> simp [hpos]

theorem expiration_eq_ok_iff {v : Option Json} {x : Option Float} :
    expiration v = .ok x ↔ v = none ∧ none = x ∨ ∃ w, v = some w ∧
      ((∃ s, w = .str s ∧ Text.isAllBlank s = true) ∧ none = x ∨
        0 < numberOf w ∧ some (numberOf w) = x) := by
  rcases v with _ | w
  · simp [expiration]
  · cases w with
    | str s =>
      cases hblank : Text.isAllBlank s
      · simp [expiration, hblank, positive_eq_ok_iff]
      · have hzero : ¬ 0 < numberOf (.str s) := by
          rw [numberOf, Decimal.ofText?, Text.trimChars_of_all hblank]
          decide
        simp [expiration, hblank, hzero]
    | _ => simp [expiration, positive_eq_ok_iff]

theorem expiration_tests : expiration.Tests (.unsetOr .expiration) where
  accepts v := by
    simp only [expiration_eq_ok_iff, Demand.Met]
    constructor
    · rintro ⟨_, ⟨rfl, -⟩ | ⟨w, rfl, ⟨hblank, -⟩ | ⟨hpos, -⟩⟩⟩
      · exact .inl rfl
      · exact .inr ⟨w, rfl, .inl hblank⟩
      · exact .inr ⟨w, rfl, .inr hpos⟩
    · rintro (rfl | ⟨w, rfl, hblank | hpos⟩)
      · exact ⟨_, .inl ⟨rfl, rfl⟩⟩
      · exact ⟨_, .inr ⟨w, rfl, .inl ⟨hblank, rfl⟩⟩⟩
      · exact ⟨_, .inr ⟨w, rfl, .inr ⟨hpos, rfl⟩⟩⟩
  tells v := by
    have hpositive (w : Json) : expiration.positive w ≠ .error [] := by
      unfold expiration.positive
      dsimp only
      split
      · simp
      · split <;> simp
    unfold expiration
    split
    · simp
    · split
      · simp
      · exact hpositive _
    · exact hpositive _

end Rule

/-! ## 4. Complaints -/

variable {env : Fields}

/-- Names of the variables whose demands are not met, in their order, each as often in a row as
there is something wrong with it. -/
inductive Blames (env : Fields) : List (String × Demand) → List String → Prop where
  | nil : Blames env [] []
  | cons {name : String} {demand : Demand} {ds : List (String × Demand)} {names : List String}
    (k : Nat) (hk : k = 0 ↔ demand.Met (Fields.get? name env)) (h : Blames env ds names) :
    Blames env ((name, demand) :: ds) (List.replicate k name ++ names)

theorem Blames.append {ds es : List (String × Demand)} {names others : List String}
    (h : Blames env ds names) (h' : Blames env es others) :
    Blames env (ds ++ es) (names ++ others) := by
  induction h with
  | nil => exact h'
  | cons k hk _ ih =>
    rw [List.append_assoc]
    exact .cons k hk ih

theorem eraseDups_replicate_append {name : String} {names : List String} (h : name ∉ names)
    (k : Nat) : (List.replicate (k + 1) name ++ names).eraseDups = name :: names.eraseDups := by
  have hrest : (List.replicate k name ++ names).filter (fun n => !n == name) = names := by
    rw [List.filter_append, List.filter_replicate]
    simpa using fun n hn => ne_of_mem_of_not_mem hn h
  rw [List.replicate_succ, List.cons_append, List.eraseDups_cons, hrest]

/-- The names of the variables, each once, stand in the order of the variables. -/
theorem Blames.sublist {ds : List (String × Demand)} {names : List String}
    (h : Blames env ds names) (hds : (ds.map Prod.fst).Nodup) :
    names.eraseDups.Sublist (ds.map Prod.fst) := by
  induction h with
  | nil => exact List.Sublist.refl []
  | @cons name _ ds names k _ _ ih =>
    obtain ⟨hnew, hds⟩ := List.nodup_cons.mp hds
    have hnames := ih hds
    have hother : name ∉ names := fun hmem =>
      hnew (hnames.subset (List.mem_eraseDups.mpr hmem))
    cases k with
    | zero => exact hnames.cons _
    | succ k =>
      rw [eraseDups_replicate_append hother]
      exact hnames.cons_cons _

/-- They are the variables whose demands are not met. -/
theorem Blames.mem_iff {ds : List (String × Demand)} {names : List String}
    (h : Blames env ds names) (hds : (ds.map Prod.fst).Nodup) :
    ∀ p ∈ ds, (p.1 ∈ names ↔ ¬ p.2.Met (Fields.get? p.1 env)) := by
  induction h with
  | nil => simp
  | @cons name demand ds names k hk hrest ih =>
    obtain ⟨hnew, hds⟩ := List.nodup_cons.mp hds
    have hother : name ∉ names := fun hmem =>
      hnew ((hrest.sublist hds).subset (List.mem_eraseDups.mpr hmem))
    rintro p (_ | ⟨_, hp⟩)
    · simp [hother, hk]
    · have hname : p.1 ≠ name := ne_of_mem_of_not_mem (List.mem_map_of_mem hp) hnew
      simpa [hname] using ih hds p hp

/-- A value that is checked is there iff all demands are met, and the complaints are about those
that are not. -/
structure Judged {α : Type} (env : Fields) (ds : List (String × Demand)) (c : Checked α) :
    Prop where
  valid_iff : c.value?.isSome = true ↔ ∀ p ∈ ds, p.2.Met (Fields.get? p.1 env)
  blamed : Blames env ds (c.issues.map Issue.name)

section

variable {α β : Type} {ds es : List (String × Demand)}

theorem Judged.check {rule : Rule α} {demand : Demand} (h : rule.Tests demand) (env : Fields)
    (name : String) : Judged env [(name, demand)] (check env name rule) := by
  have haccepts := h.accepts (Fields.get? name env)
  have htells := h.tells (Fields.get? name env)
  unfold Config.check
  cases hv : rule (Fields.get? name env) with
  | ok a =>
    have hmet : demand.Met (Fields.get? name env) := haccepts.mp ⟨a, hv⟩
    exact ⟨by simp [Checked.value?, hmet], .cons 0 (by simp [hmet]) .nil⟩
  | error flaws =>
    have hunmet : ¬ demand.Met (Fields.get? name env) := fun hmet => by
      obtain ⟨a, ha⟩ := haccepts.mpr hmet
      rw [hv] at ha
      cases ha
    have hflaws : flaws ≠ [] := fun hnil => htells (by rw [hv, hnil])
    refine ⟨by simp [Checked.value?, hunmet], ?_⟩
    have hnames : Blames env [(name, demand)] (List.replicate flaws.length name ++ []) :=
      .cons flaws.length (by simp [hunmet, hflaws]) .nil
    simpa [Checked.issues, Function.comp_def, List.map_const'] using hnames

theorem Judged.map {c : Checked α} (h : Judged env ds c) (f : α → β) : Judged env ds (f <$> c) where
  valid_iff := by simpa using h.valid_iff
  blamed := by simpa using h.blamed

/-- What is checked independently is judged by the demands on either. -/
theorem Judged.seq {f : Checked (α → β)} {c : Checked α} (hf : Judged env ds f)
    (hc : Judged env es c) : Judged env (ds ++ es) (f <*> c) where
  valid_iff := by
    rw [List.forall_mem_append, ← hf.valid_iff, ← hc.valid_iff, Checked.value?_seq]
    cases f.value? <;> simp
  blamed := by
    rw [Checked.issues_seq, List.map_append]
    exact hf.blamed.append hc.blamed

end

/-- **All variables are read iff all demands are met.** -/
theorem judged_readAll (env : Fields) : Judged env demands (readAll env) :=
  (Judged.check Rule.url_tests env _).map _
    |>.seq (.check Rule.text_tests env _)
    |>.seq (.check (Rule.text_tests.withDefault _) env _)
    |>.seq (.check Rule.optionalText_tests env _)
    |>.seq (.check Rule.optionalText_tests env _)
    |>.seq (.check Rule.optionalText_tests env _)
    |>.seq (.check Rule.optionalText_tests env _)
    |>.seq (.check Rule.optionalText_tests env _)
    |>.seq (.check Rule.optionalText_tests env _)
    |>.seq (.check Rule.optionalText_tests env _)
    |>.seq (.check Rule.optionalText_tests env _)
    |>.seq (.check (Rule.flag_tests.withDefault _) env _)
    |>.seq (.check (Rule.timeout_tests.withDefault _) env _)
    |>.seq (.check (Rule.text_tests.withDefault _) env _)
    |>.seq (.check Rule.expiration_tests env _)

theorem nodup_demands : (demands.map Prod.fst).Nodup := by decide

/-! ## 5. Configurations -/

/-- A text that is not empty and has no blanks at its ends. -/
def Proper (s : String) : Prop := Text.Trimmed s ∧ s ≠ ""

/-- A variable is unset, or blank. -/
def Absent (v : Option Json) : Prop := v = none ∨ ∃ s, v = some (.str s) ∧ Text.isAllBlank s = true

/-- What an optional text is: the value of the variable, trimmed, and none if that is absent. -/
structure Reads (v : Option Json) (t : Option String) : Prop where
  absent : Absent v → t = none
  present : ¬ Absent v → ∃ s, v = some (.str s) ∧ t = some (Text.trim s)

/-- An optional text that is read from a second variable where the first one is absent. -/
structure FallsBack (first second : Option Json) (t : Option String) : Prop where
  absent : Absent first → Reads second t
  present : ¬ Absent first → Reads first t

theorem proper_trim {s : String} (h : Text.isAllBlank s = false) : Proper (Text.trim s) :=
  ⟨Text.trimmed_trim s, fun hempty => by
    rw [Text.trim_eq_empty_iff.mp hempty] at h
    cases h⟩

/-- What is read is proper. -/
theorem Reads.proper {v : Option Json} {t : Option String} (h : Reads v t) :
    ∀ s ∈ t, Proper s := by
  intro s hs
  have hpresent : ¬ Absent v := fun habsent => by
    rw [h.absent habsent] at hs
    cases hs
  obtain ⟨s', rfl, rfl⟩ := h.present hpresent
  cases hs
  exact proper_trim (Bool.eq_false_iff.mpr fun hblank => hpresent (.inr ⟨s', rfl, hblank⟩))

theorem FallsBack.proper {v w : Option Json} {t : Option String} (h : FallsBack v w t) :
    ∀ s ∈ t, Proper s := by
  by_cases habsent : Absent v
  · exact (h.absent habsent).proper
  · exact (h.present habsent).proper

/-- What a configuration is like that an environment makes. -/
structure Sound (env : Fields) (c : Config) : Prop where
  endpoint : Text.Trimmed c.endpoint ∧ (Url.parse? c.endpoint).isSome = true
  token : Proper c.token
  apiVersion : Proper c.apiVersion
  cloud : Proper c.location.cloud
  timeout : ∃ n : Nat, 1000 ≤ n ∧ n ≤ 600000 ∧ Decimal.whole? c.timeout = some (n : Int)
  cacheExpiration : ∀ x ∈ c.cacheExpiration, 0 < x
  regionName : Reads (Fields.get? "OS_REGION_NAME" env) c.location.regionName
  zone : Reads (Fields.get? "OS_ZONE" env) c.location.zone
  projectId : Reads (Fields.get? "OS_PROJECT_ID" env) c.location.project.id
  projectName : FallsBack (Fields.get? "OS_PROJECT_NAME" env) (Fields.get? "OS_TENANT_NAME" env)
    c.location.project.name
  domainId : Reads (Fields.get? "OS_PROJECT_DOMAIN_ID" env) c.location.project.domainId
  domainName : FallsBack (Fields.get? "OS_PROJECT_DOMAIN_NAME" env)
    (Fields.get? "OS_DOMAIN_NAME" env) c.location.project.domainName
  texts : ∀ t ∈ [c.location.regionName, c.location.zone, c.location.project.id,
    c.location.project.name, c.location.project.domainId, c.location.project.domainName],
    ∀ s ∈ t, Proper s

theorem absent_iff_of_text {s : String} :
    Absent (some (.str s)) ↔ Text.isAllBlank s = true := by
  simp [Absent]

theorem Rule.reads_of_optionalText {v : Option Json} {t : Option String}
    (h : optionalText v = .ok t) : Reads v t := by
  obtain ⟨rfl | ⟨s, rfl⟩, rfl⟩ := optionalText_eq_ok_iff.mp h
  · exact ⟨fun _ => rfl, fun hpresent => absurd (.inl rfl) hpresent⟩
  · constructor
    · intro habsent
      rw [absent_iff_of_text] at habsent
      simp [RcFile.told, Json.str?, Text.isEmpty_trim, habsent]
    · intro hpresent
      rw [absent_iff_of_text] at hpresent
      exact ⟨s, rfl, by simp [RcFile.told, Json.str?, Text.isEmpty_trim, hpresent]⟩

theorem Reads.or {v w : Option Json} {t u : Option String} (h : Reads v t) (h' : Reads w u) :
    FallsBack v w (t.or u) where
  absent habsent := by
    rw [h.absent habsent]
    exact h'
  present hpresent := by
    obtain ⟨s, -, rfl⟩ := h.present hpresent
    exact h

theorem Rule.proper_of_text {v : Option Json} {t : String} (h : text v = .ok t) : Proper t := by
  obtain ⟨s, -, hblank, rfl⟩ := text_eq_ok_iff.mp h
  exact proper_trim hblank

/-- What holds of the value for the missing variable and of all others holds of the value. -/
theorem Rule.of_withDefault {α : Type} {rule : Rule α} {value a : α} {v : Option Json}
    (P : α → Prop) (hvalue : P value) (hrule : ∀ v a, rule v = .ok a → P a)
    (h : rule.withDefault value v = .ok a) : P a := by
  rcases v with _ | w
  · cases h
    exact hvalue
  · exact hrule _ _ h

theorem Rule.pos_of_expiration {v : Option Json} {t : Option Float} (h : expiration v = .ok t) :
    ∀ x ∈ t, 0 < x := by
  intro x hx
  obtain ⟨-, rfl⟩ | ⟨w, -, ⟨-, rfl⟩ | ⟨hpos, rfl⟩⟩ := expiration_eq_ok_iff.mp h
  · cases hx
  · cases hx
  · cases hx
    exact hpos

/-- A configuration that an environment makes is sound. -/
theorem sound_of_ok {c : Config} (h : ofEnvironment env = .ok c) : Sound env c := by
  obtain ⟨v, hv, rfl⟩ := ofEnvironment_eq_ok_iff.mp h
  simp only [readAll_eq_valid_iff, RcFile.check_eq_valid_iff] at hv
  obtain ⟨hendpoint, htoken, hcloud, hregion, hzone, hid, hname, htenant, hdomainId, hdomain,
    hfallback, -, htimeout, hversion, hexpiration⟩ := hv
  have hproject := (Rule.reads_of_optionalText hname).or (Rule.reads_of_optionalText htenant)
  have hdomainName := (Rule.reads_of_optionalText hdomain).or (Rule.reads_of_optionalText hfallback)
  have hregion := Rule.reads_of_optionalText hregion
  have hzone := Rule.reads_of_optionalText hzone
  have hid := Rule.reads_of_optionalText hid
  have hdomainId := Rule.reads_of_optionalText hdomainId
  refine
    { endpoint := ?_
      token := Rule.proper_of_text htoken
      apiVersion := ?_
      cloud := ?_
      timeout := ?_
      cacheExpiration := ?_
      regionName := hregion
      zone := hzone
      projectId := hid
      projectName := hproject
      domainId := hdomainId
      domainName := hdomainName
      texts := ?_ }
  · obtain ⟨s, -, hparse, hs⟩ := Rule.url_eq_ok_iff.mp hendpoint
    have htrim : v.config.endpoint = Text.trim s := hs.symm
    rw [htrim]
    exact ⟨Text.trimmed_trim s, hparse⟩
  · exact Rule.of_withDefault Proper (Rule.proper_of_text (v := some (.str "latest")) rfl)
      (fun _ _ => Rule.proper_of_text) hversion
  · exact Rule.of_withDefault Proper (Rule.proper_of_text (v := some (.str "defaults")) rfl)
      (fun _ _ => Rule.proper_of_text) hcloud
  · refine Rule.of_withDefault (fun x => ∃ n : Nat, 1000 ≤ n ∧ n ≤ 600000 ∧
      Decimal.whole? x = some (n : Int)) ⟨120000, by decide, by decide, rfl⟩ ?_ htimeout
    intro v x hx
    obtain ⟨w, -, hn, rfl⟩ := Rule.timeout_eq_ok_iff.mp hx
    exact hn
  · exact Rule.pos_of_expiration hexpiration
  · intro t ht
    simp only [List.mem_cons, List.not_mem_nil, or_false] at ht
    rcases ht with rfl | rfl | rfl | rfl | rfl | rfl
    · exact hregion.proper
    · exact hzone.proper
    · exact hid.proper
    · exact hproject.proper
    · exact hdomainId.proper
    · exact hdomainName.proper

theorem exists_ofEnvironment_iff :
    (∃ c, ofEnvironment env = .ok c) ↔ (readAll env).value?.isSome = true := by
  unfold ofEnvironment
  cases readAll env <;> simp [Checked.value?]

theorem ofEnvironment_eq_error_iff {f : Failure} :
    ofEnvironment env = .error f ↔
      ∃ issues, readAll env = .invalid issues ∧ complaint issues = f := by
  unfold ofEnvironment
  cases readAll env <;> simp

/-- **Which environments make a configuration.** An environment makes one iff each variable meets
what is demanded of it, which is about the value of this variable alone. If it makes none, the
complaint names the variables that do not meet their demands, all of these and no others, each
once and in the order in which they are listed. A configuration that is made is sound. -/
theorem environment_validated (env : Fields) :
    ((∃ c, ofEnvironment env = .ok c) ↔ ∀ p ∈ demands, p.2.Met (Fields.get? p.1 env)) ∧
      (∀ f, ofEnvironment env = .error f → ∃ names issues,
        f = .configuration ("Invalid cloud configuration: " ++ String.intercalate ", " names)
          (.issues issues) ∧
        names.Sublist (demands.map Prod.fst) ∧ names.Nodup ∧
        ∀ p ∈ demands, (p.1 ∈ names ↔ ¬ p.2.Met (Fields.get? p.1 env))) ∧
      ∀ c, ofEnvironment env = .ok c → Sound env c := by
  obtain ⟨hvalid, hblamed⟩ := judged_readAll env
  refine ⟨?_, ?_, fun c => sound_of_ok⟩
  · rw [← hvalid, exists_ofEnvironment_iff]
  · intro f hf
    obtain ⟨issues, hread, rfl⟩ := ofEnvironment_eq_error_iff.mp hf
    rw [hread] at hblamed
    have hsublist := hblamed.sublist nodup_demands
    refine ⟨namesOf issues, issues, rfl, hsublist, hsublist.nodup nodup_demands, ?_⟩
    intro p hp
    rw [namesOf, List.mem_eraseDups]
    exact hblamed.mem_iff nodup_demands p hp

/-- Blanks around a value and a blank name are no harm, and a variable that two things are wrong
with is named once. -/
theorem environments_judged :
    let good : Fields := [("OS_CONTAINER_INFRA_ENDPOINT", .str " https://[::1]:9511/v1 "),
      ("OS_AUTH_TOKEN", .str "token"), ("OS_PROJECT_NAME", .str " "),
      ("OS_TENANT_NAME", .str "demo")]
    let bad : Fields := [("OS_API_TIMEOUT", .str "Infinity"), ("OS_CLOUD", .null),
      ("OS_AUTH_TOKEN", .str "token"),
      ("OS_CONTAINER_INFRA_ENDPOINT", .str "https://[::1]:9511/v1")]
    let issues : List Issue := [⟨.invalidType, "OS_CLOUD"⟩, ⟨.invalidType, "OS_API_TIMEOUT"⟩,
      ⟨.tooBig, "OS_API_TIMEOUT"⟩]
    (∃ c, ofEnvironment good = .ok c ∧ Sound good c ∧ c.endpoint = "https://[::1]:9511/v1" ∧
      c.location.project.name = some "demo") ∧
    ofEnvironment bad = .error (.configuration
      "Invalid cloud configuration: OS_CLOUD, OS_API_TIMEOUT" (.issues issues)) ∧
    ¬ ∀ p ∈ demands, p.2.Met (Fields.get? p.1 bad) := by
  intro good bad issues
  obtain ⟨c, hc, hendpoint, hname⟩ : ∃ c, ofEnvironment good = .ok c ∧
      c.endpoint = "https://[::1]:9511/v1" ∧ c.location.project.name = some "demo" :=
    ⟨_, rfl, rfl, rfl⟩
  have hmessage : "Invalid cloud configuration: " ++
      String.intercalate ", " ["OS_CLOUD", "OS_API_TIMEOUT"] =
        "Invalid cloud configuration: OS_CLOUD, OS_API_TIMEOUT" := by decide
  have hbad : ofEnvironment bad = .error (complaint issues) := rfl
  refine ⟨⟨c, hc, (environment_validated good).2.2 c hc, hendpoint, hname⟩, ?_, fun hmet => ?_⟩
  · rw [hbad, ← hmessage]
    rfl
  · obtain ⟨d, hd⟩ := (environment_validated bad).1.mpr hmet
    rw [hbad] at hd
    cases hd

end Config

end MagnumClient
