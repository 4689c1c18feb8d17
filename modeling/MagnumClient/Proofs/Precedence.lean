/-
MagnumClient.Proofs.Precedence — an entity that is called by a text, beside those that the text
stands for as a wildcard.

A text can be the identifier or the name of an entity (`Resolver.Called`), and it can stand for
one as a wildcard (`Resolver.Covers`). Names may have the units of wildcards in them, so one text
can do both, for different entities. Looking for a text asks each entity by itself whether it is
one or the other (`answersTo_iff`), and knows nothing of the rest of the list. So the one entity
that is called by the text is found, but not before others: all that the text stands for as a
wildcard are found with it (`called_found_alone_iff`).
-/
import Mathlib.Data.List.Sigma
import MagnumClient.Proofs.Naming
import MagnumClient.Proofs.Wildcards

namespace MagnumClient.Selection.Resolver

/-! ## 1. Identifiers and names -/

/-- A text is the identifier or the name of an entity. -/
def Called (r : Resolver) (text : String) (e : Json) : Prop :=
  ∃ key ∈ [r.idKey, "name"], e.field? key = some (.str text)

/-- A wildcard stands for the identifier or the name of an entity, if that is not empty. -/
def Covers (r : Resolver) (wildcard : String) (e : Json) : Prop :=
  ∃ text, text ≠ "" ∧ r.Called text e ∧ Wildcard.Meant wildcard text

theorem fieldText?_eq_some_iff {key text : String} {e : Json} :
    fieldText? key e = some text ↔ text ≠ "" ∧ e.field? key = some (.str text) := by
  unfold fieldText?
  rw [Option.filter_eq_some_iff]
  rcases e.field? key with _ | _ | _ | _ | s | _ | _
  case some.str =>
    simp only [Option.bind_some, Json.str?, Option.some.injEq, Json.str.injEq]
    constructor
    · rintro ⟨rfl, h⟩
      exact ⟨by simpa using h, rfl⟩
    · rintro ⟨h, rfl⟩
      exact ⟨rfl, by simpa using h⟩
  all_goals simp [Json.str?]

theorem mem_candidates_iff {r : Resolver} {text : String} {e : Json} :
    text ∈ r.candidates e ↔ text ≠ "" ∧ r.Called text e := by
  simp [candidates, Called, fieldText?_eq_some_iff, and_or_left]

/-- An entity answers to a text that it is called by, and to a wildcard that stands for what it
is called by. -/
theorem answersTo_iff {r : Resolver} {text : String} (ht : text ≠ "") (e : Json) :
    r.answersTo text (Wildcard.matcher? text) e = true ↔ r.Called text e ∨ r.Covers text e := by
  have hcalled : (r.candidates e).contains text = true ↔ r.Called text e := by
    rw [List.contains_iff_mem, mem_candidates_iff]
    exact and_iff_right ht
  have hcovers : (∃ m, Wildcard.matcher? text = some m ∧ (r.candidates e).any m.test = true) ↔
      r.Covers text e := by
    simp only [List.any_eq_true, mem_candidates_iff, Covers, ← Wildcard.exists_test_iff]
    grind
  rw [← hcalled, ← hcovers]
  unfold answersTo
  cases Wildcard.matcher? text <;> simp

/-! ## 2. What is found -/

/-- What a text finds. -/
def found (r : Resolver) (text : String) (entities : List Json) : List Placed :=
  entities.zipIdx.filter fun p => r.answersTo text (Wildcard.matcher? text) p.1

variable {r : Resolver} {entities : List Json} {text : String}

theorem select_eq_found (hnull : ∀ e ∈ entities, e.isNull = false) (ht : text ≠ "") :
    r.select entities (some text) .all = .ok (r.found text entities) := by
  rw [select_text ht, named_zipIdx hnull]
  rfl

theorem mem_found_iff (ht : text ≠ "") {e : Json} {i : Nat} :
    (e, i) ∈ r.found text entities ↔
      entities[i]? = some e ∧ (r.Called text e ∨ r.Covers text e) := by
  rw [found, List.mem_filter, List.mem_zipIdx_iff_getElem?, answersTo_iff ht]

theorem found_nodup : (r.found text entities).Nodup :=
  (List.Nodup.of_map Prod.snd (List.nodup_zipIdx_map_snd entities)).filter _

/-- Where two entities are found, none is picked. -/
theorem resolve_of_two (hnull : ∀ e ∈ entities, e.isNull = false) (ht : text ≠ "") {p q : Placed}
    (hp : p ∈ r.found text entities) (hq : q ∈ r.found text entities) (hne : p ≠ q) :
    r.resolve entities text .all = .error (r.ambiguous text) := by
  rw [resolve, select_eq_found hnull ht]
  generalize r.found text entities = found at hp hq
  rcases found with _ | ⟨x, _ | ⟨y, rest⟩⟩
  · cases hp
  · exact absurd ((List.mem_singleton.mp hp).trans (List.mem_singleton.mp hq).symm) hne
  · rfl

/-! ## 3. The one that is called so -/

/-- No entity but the one at a place is covered by a wildcard. -/
def CoversNoneBut (r : Resolver) (wildcard : String) (entities : List Json) (i : Nat) : Prop :=
  ∀ j e, entities[j]? = some e → r.Covers wildcard e → j = i

/-- If one entity alone is called by a text, then what the text finds is that entity and all
that the text stands for as a wildcard. So the entity is found alone, and told, iff the text
covers no other; otherwise looking for it is refused for several matches. -/
theorem called_found_alone_iff (r : Resolver) {entities : List Json}
    (hnull : ∀ e ∈ entities, e.isNull = false) {text : String} (ht : text ≠ "") {i : Nat} {e : Json}
    (he : entities[i]? = some e)
    (hcalled : ∀ j e', entities[j]? = some e' → (r.Called text e' ↔ j = i)) :
    (∃ found, r.select entities (some text) .all = .ok found ∧ found.Sublist entities.zipIdx ∧
      ∀ e' j, (e', j) ∈ found ↔ entities[j]? = some e' ∧ (j = i ∨ r.Covers text e')) ∧
    (r.select entities (some text) .all = .ok [(e, i)] ↔ r.CoversNoneBut text entities i) ∧
    (r.CoversNoneBut text entities i → r.resolve entities text .all = .ok (some (e, i))) ∧
    (¬ r.CoversNoneBut text entities i →
      r.resolve entities text .all = .error (r.ambiguous text)) := by
  have hselect := select_eq_found (r := r) hnull ht
  have hmem : ∀ e' j, (e', j) ∈ r.found text entities ↔
      entities[j]? = some e' ∧ (j = i ∨ r.Covers text e') := by
    intro e' j
    rw [mem_found_iff ht]
    exact and_congr_right fun hj => by rw [hcalled j e' hj]
  have hself : (e, i) ∈ r.found text entities := (hmem e i).mpr ⟨he, .inl rfl⟩
  have halone : r.CoversNoneBut text entities i → r.found text entities = [(e, i)] := by
    intro h
    have hone : ∀ p ∈ r.found text entities, p = (e, i) := by
      rintro ⟨e', j⟩ hp
      obtain ⟨hj, hji⟩ := (hmem e' j).mp hp
      obtain rfl : j = i := hji.elim id (h j e' hj)
      rw [he] at hj
      rw [Option.some.inj hj]
    exact List.perm_singleton.mp
      ((List.perm_ext_iff_of_nodup found_nodup (List.nodup_singleton _)).mpr fun p =>
        ⟨fun hp => List.mem_singleton.mpr (hone p hp), fun hp => List.mem_singleton.mp hp ▸ hself⟩)
  refine ⟨⟨_, hselect, List.filter_sublist, hmem⟩, ?_, ?_, ?_⟩
  · rw [hselect]
    constructor
    · intro h j e' hj hcovers
      have hfound : (e', j) ∈ r.found text entities := (hmem e' j).mpr ⟨hj, .inr hcovers⟩
      rw [Except.ok.inj h, List.mem_singleton] at hfound
      exact congrArg Prod.snd hfound
    · exact fun h => congrArg Except.ok (halone h)
  · intro h
    rw [resolve, hselect, halone h]
  · intro h
    obtain ⟨j, e', hj, hcovers, hne⟩ :
        ∃ j e', entities[j]? = some e' ∧ r.Covers text e' ∧ j ≠ i := by
      simpa [CoversNoneBut] using h
    refine resolve_of_two hnull ht hself ((hmem e' j).mpr ⟨hj, .inr hcovers⟩) fun heq => ?_
    exact hne (congrArg Prod.snd heq).symm

/-- A resolver of things, which are identified by their `id`. -/
def things : Resolver := ⟨"thing", "id"⟩

/-- A thing of this identifier and name. -/
def thing (id name : String) : Json := .obj [("id", .str id), ("name", .str name)]

theorem called_thing_iff (text id name : String) :
    things.Called text (thing id name) ↔ text = id ∨ text = name := by
  simp [Called, things, thing, Json.field?, Fields.get?, eq_comm]

/-- The thing `web[1]` is found by its name, since that stands for `web1` as a wildcard, and no
thing is called so. -/
theorem bracketed_found_alone :
    let entities := [thing "t-1" "web[1]", thing "t-2" "web2"]
    (∀ j e, entities[j]? = some e → (things.Called "web[1]" e ↔ j = 0)) ∧
      things.CoversNoneBut "web[1]" entities 0 ∧
      things.resolve entities "web[1]" .all = .ok (some (thing "t-1" "web[1]", 0)) := by
  intro entities
  have hplaces : ∀ j e, entities[j]? = some e →
      (j = 0 ∧ e = thing "t-1" "web[1]") ∨ (j = 1 ∧ e = thing "t-2" "web2") := by
    rintro (_ | _ | j) e h
    · exact .inl ⟨rfl, (Option.some.inj h).symm⟩
    · exact .inr ⟨rfl, (Option.some.inj h).symm⟩
    · cases h
  have hcalled : ∀ j e, entities[j]? = some e → (things.Called "web[1]" e ↔ j = 0) := by
    intro j e h
    rcases hplaces j e h with ⟨rfl, rfl⟩ | ⟨rfl, rfl⟩ <;> simp [called_thing_iff]
  have halone : things.CoversNoneBut "web[1]" entities 0 := by
    obtain ⟨m, hm, hterms⟩ : ∃ m, Wildcard.matcher? "web[1]" = some m ∧ m.terms =
        [⟨.unit 119, false⟩, ⟨.unit 101, false⟩, ⟨.unit 98, false⟩,
          ⟨.cls false [(49, 49)], false⟩] :=
      Option.map_eq_some_iff.mp (by decide +kernel)
    have hid : Text.units "t-2" = [116, 45, 50] := by decide
    have hname : Text.units "web2" = [119, 101, 98, 50] := by decide
    intro j e h hcovers
    rcases hplaces j e h with ⟨rfl, -⟩ | ⟨rfl, rfl⟩
    · rfl
    · obtain ⟨text, -, hcalled, hmeant⟩ := hcovers
      obtain ⟨m', hm', htest⟩ := (Wildcard.exists_test_iff _ _).mpr hmeant
      obtain rfl := Option.some.inj (hm.symm.trans hm')
      rw [Wildcard.Matcher.test, hterms] at htest
      rcases (called_thing_iff ..).mp hcalled with rfl | rfl
      · simp [hid, Wildcard.Regex.test, Wildcard.Regex.Atom.admits] at htest
      · simp [hname, Wildcard.Regex.test, Wildcard.Regex.Atom.admits] at htest
  have hnull : ∀ e ∈ entities, e.isNull = false := by simp [entities, thing, Json.isNull]
  exact ⟨hcalled, halone,
    (called_found_alone_iff things hnull (by decide) rfl hcalled).2.2.1 halone⟩

/-- The thing `web*` is not found alone by its name where another stands beside it that its name
covers as a wildcard. -/
theorem starred_not_found_alone :
    let entities := [thing "t-1" "web*", thing "t-2" "web1"]
    (∀ j e, entities[j]? = some e → (things.Called "web*" e ↔ j = 0)) ∧
      things.select entities (some "web*") .all ≠ .ok [(thing "t-1" "web*", 0)] ∧
      things.resolve entities "web*" .all = .error (things.ambiguous "web*") := by
  intro entities
  obtain ⟨m, hm, hterms⟩ : ∃ m, Wildcard.matcher? "web*" = some m ∧ m.terms =
      [⟨.unit 119, false⟩, ⟨.unit 101, false⟩, ⟨.unit 98, false⟩, ⟨.dot, true⟩] :=
    Option.map_eq_some_iff.mp (by decide +kernel)
  have hunits : Text.units "web1" = [119, 101, 98, 49] := by decide
  have htest : m.test "web1" = true := by
    simp [Wildcard.Matcher.test, hterms, hunits, Wildcard.Regex.test, Wildcard.Regex.Atom.admits]
  have hnull : ∀ e ∈ entities, e.isNull = false := by simp [entities, thing, Json.isNull]
  have htext : "web*" ≠ "" := by decide
  have hfirst : (thing "t-1" "web*", 0) ∈ things.found "web*" entities :=
    (mem_found_iff htext).mpr ⟨rfl, .inl ((called_thing_iff ..).mpr (.inr rfl))⟩
  have hcovers : things.Covers "web*" (thing "t-2" "web1") :=
    ⟨"web1", by decide, (called_thing_iff ..).mpr (.inr rfl),
      (Wildcard.exists_test_iff _ _).mp ⟨m, hm, htest⟩⟩
  have hsecond : (thing "t-2" "web1", 1) ∈ things.found "web*" entities :=
    (mem_found_iff htext).mpr ⟨rfl, .inr hcovers⟩
  refine ⟨?_, fun h => ?_, resolve_of_two hnull htext hfirst hsecond (by simp)⟩
  · rintro (_ | _ | j) e h
    · obtain rfl := Option.some.inj h
      simp [called_thing_iff]
    · obtain rfl := Option.some.inj h
      simp [called_thing_iff]
    · cases h
  · rw [select_eq_found hnull htext] at h
    rw [Except.ok.inj h] at hsecond
    simp at hsecond

end MagnumClient.Selection.Resolver
