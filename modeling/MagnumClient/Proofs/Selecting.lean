/-
MagnumClient.Proofs.Selecting — selecting picks entities of a list, and nothing else.

Names and fields are asked of each entity by itself, so each of them keeps the entities of which
something holds (`selectIn_having`, `selectIn_all`), and they can be asked in any order or at
once. A query is asked of the whole list and can answer with anything: with entities in another
order, some of them twice, parts of them, copies of them. Of such an answer nothing counts but
which of the entities are in it, each as the very one (`Query.HoldsAt`). The entities are told
from each other and from all that is built in a query by their labels (`identical_documents_iff`).

The language of queries is left open throughout: nothing is asked of it.
-/
import Mathlib
import MagnumClient.Proofs.Naming

namespace MagnumClient

/-! ## 1. Documents and their labels -/

namespace Query

namespace Value

variable (mk : Nat → Label)

mutual

theorem le_ofJson : ∀ (v : Json) (n : Nat), n ≤ (ofJson mk v n).2
  | .null, n => Nat.le_refl n
  | .bool _, n => Nat.le_refl n
  | .num _, n => Nat.le_refl n
  | .str _, n => Nat.le_refl n
  | .arr items, n => Nat.le_of_succ_le (le_ofItems items (n + 1))
  | .obj fields, n => Nat.le_of_succ_le (le_ofFields fields (n + 1))

theorem le_ofItems : ∀ (items : List Json) (n : Nat), n ≤ (ofItems mk items n).2
  | [], n => Nat.le_refl n
  | v :: rest, n => Nat.le_trans (le_ofJson v n) (le_ofItems rest _)

theorem le_ofFields : ∀ (fields : List (String × Json)) (n : Nat), n ≤ (ofFields mk fields n).2
  | [], n => Nat.le_refl n
  | (_, v) :: rest, n => Nat.le_trans (le_ofJson v n) (le_ofFields rest _)

end

/-- A record takes the next label, and its fields take later ones. -/
theorem ofJson_record {v : Json} (h : v.isRecord = true) (n : Nat) :
    ∃ fields, (ofJson mk v n).1 = .obj (mk n) fields ∧ n < (ofJson mk v n).2 := by
  cases v with
  | obj fields => exact ⟨_, rfl, le_ofFields mk fields (n + 1)⟩
  | _ => cases h

end Value

/-- The records of a list have labels from a number on, which rise from each to the next. -/
theorem ofItems_records {items : List Json} (h : ∀ e ∈ items, e.isRecord = true) (n : Nat) :
    ∃ labelled : List (Nat × List (String × Value)),
      (Value.ofItems Label.data items n).1 = labelled.map (fun p => .obj (.data p.1) p.2) ∧
      (∀ p ∈ labelled, n ≤ p.1) ∧ (labelled.map Prod.fst).Pairwise (· < ·) := by
  induction items generalizing n with
  | nil => exact ⟨[], rfl, by simp, .nil⟩
  | cons v rest ih =>
    obtain ⟨hv, hrest⟩ := List.forall_mem_cons.mp h
    obtain ⟨fields, hfields, hlt⟩ := Value.ofJson_record Label.data hv n
    obtain ⟨labelled, hlabelled, hfrom, hrise⟩ := ih hrest (Value.ofJson Label.data v n).2
    refine ⟨(n, fields) :: labelled, ?_, ?_, ?_⟩
    · rw [List.map_cons, ← hlabelled, ← hfields]
      rfl
    · exact List.forall_mem_cons.mpr
        ⟨Nat.le_refl n, fun p hp => Nat.le_trans (Nat.le_of_lt hlt) (hfrom p hp)⟩
    · refine List.pairwise_cons.mpr ⟨fun m hm => ?_, hrise⟩
      obtain ⟨p, hp, rfl⟩ := List.mem_map.mp hm
      exact Nat.lt_of_lt_of_le hlt (hfrom p hp)

/-- A query can tell records apart that are equal: each is identical with itself alone. -/
theorem identical_documents_iff {items : List Json} (h : ∀ e ∈ items, e.isRecord = true)
    {i j : Nat} {d d' : Value} (hd : (documents items)[i]? = some d)
    (hd' : (documents items)[j]? = some d') : d.identical d' = true ↔ i = j := by
  obtain ⟨labelled, hlabelled, -, hrise⟩ := ofItems_records h 1
  have hdocuments : documents items = labelled.map fun p => .obj (.data p.1) p.2 := hlabelled
  rw [hdocuments, List.getElem?_map] at hd hd'
  obtain ⟨p, hp, rfl⟩ := Option.map_eq_some_iff.mp hd
  obtain ⟨q, hq, rfl⟩ := Option.map_eq_some_iff.mp hd'
  have hi : (labelled.map Prod.fst)[i]? = some p.1 := by rw [List.getElem?_map, hp]; rfl
  have hj : (labelled.map Prod.fst)[j]? = some q.1 := by rw [List.getElem?_map, hq]; rfl
  have hlabel : Value.identical (.obj (.data p.1) p.2) (.obj (.data q.1) q.2) = true ↔
      p.1 = q.1 := by simp [Value.identical]
  rw [hlabel]
  constructor
  · intro he
    have hlength := (List.getElem?_eq_some_iff.mp hi).1
    exact (List.getElem?_inj hlength (hrise.imp Nat.ne_of_lt)).mp (by rw [hi, hj, he])
  · rintro rfl
    exact Option.some.inj (hi.symm.trans hj)

/-- A list of results holds the document at a place, as the very same. -/
def HoldsAt (documents results : List Value) (i : Nat) : Prop :=
  ∃ d, documents[i]? = some d ∧ ∃ v ∈ results, v.identical d = true

/-- Which documents of a list of records are selected. -/
theorem selected_iff {items : List Json} (h : ∀ e ∈ items, e.isRecord = true) (label : Label)
    (results : List Value) (i : Nat) :
    (selected (documents items) (.arr label results))[i]? = some true ↔
      HoldsAt (documents items) results i := by
  obtain ⟨labelled, hlabelled, -, -⟩ := ofItems_records h 1
  have hdocuments : documents items = labelled.map fun p => .obj (.data p.1) p.2 := hlabelled
  have hholds : ∀ d ∈ documents items, (holds results d = true ↔
      ∃ v ∈ results, v.identical d = true) := by
    intro d hd
    rw [hdocuments] at hd
    obtain ⟨p, -, rfl⟩ := List.mem_map.mp hd
    rw [holds, List.any_eq_true]
    refine exists_congr fun v => and_congr_right fun _ => ?_
    cases v <;> simp
  unfold selected HoldsAt
  rw [List.getElem?_map, Option.map_eq_some_iff]
  exact exists_congr fun d => and_congr_right fun hd => hholds d (List.mem_of_getElem? hd)

/-- Nothing counts of an answer but which documents it holds. -/
theorem selected_congr {items : List Json} (h : ∀ e ∈ items, e.isRecord = true)
    {label label' : Label} {results results' : List Value}
    (hsame : ∀ i, HoldsAt (documents items) results i ↔ HoldsAt (documents items) results' i) :
    selected (documents items) (.arr label results) =
      selected (documents items) (.arr label' results') := by
  have hlength : (selected (documents items) (.arr label results)).length =
      (selected (documents items) (.arr label' results')).length := by simp [selected]
  refine List.ext_getElem hlength fun i hi hi' => ?_
  have hiff := (selected_iff h label results i).trans
    ((hsame i).trans (selected_iff h label' results' i).symm)
  rw [List.getElem?_eq_getElem hi, List.getElem?_eq_getElem hi', Option.some.injEq,
    Option.some.injEq] at hiff
  exact Bool.eq_iff_iff.mpr hiff

end Query

namespace Selection

/-! ## 2. Places -/

section Places

variable {α β : Type}

theorem filter_zip_sublist (l : List α) (choices : List Bool) :
    (((l.zip choices).filter (·.2)).map (·.1)).Sublist l := by
  induction l generalizing choices with
  | nil => exact .refl _
  | cons a l ih =>
    cases choices with
    | nil => exact List.nil_sublist _
    | cons choice choices =>
      cases choice with
      | true => exact (ih choices).cons_cons a
      | false => exact (ih choices).cons a

theorem mem_filter_zip_iff {l : List α} {choices : List Bool} {a : α} :
    a ∈ ((l.zip choices).filter (·.2)).map (·.1) ↔
      ∃ i : Nat, l[i]? = some a ∧ choices[i]? = some true := by
  simp only [List.mem_map, List.mem_filter]
  constructor
  · rintro ⟨⟨b, choice⟩, ⟨hmem, rfl⟩, rfl⟩
    obtain ⟨i, hi⟩ := List.mem_iff_getElem?.mp hmem
    exact ⟨i, List.getElem?_zip_eq_some.mp hi⟩
  · rintro ⟨i, hi⟩
    exact ⟨(a, true), ⟨List.mem_of_getElem? (List.getElem?_zip_eq_some.mpr hi), rfl⟩, rfl⟩

/-- To filter the values of a list, and then look their places up, is to filter the list. -/
theorem filterMap_filter_zipIdx (l : List α) (f : α → β) (p : β → Bool) :
    ((l.map f).zipIdx.filter fun q => p q.1).filterMap (fun q => l[q.2]?) =
      l.filter fun a => p (f a) := by
  have hplace : ∀ q ∈ l.zipIdx.filter fun q => p (f q.1), l[q.2]? = some q.1 := fun q hq =>
    List.mem_zipIdx_iff_getElem?.mp (List.mem_of_mem_filter hq)
  calc ((l.map f).zipIdx.filter fun q => p q.1).filterMap (fun q => l[q.2]?)
      = (l.zipIdx.filter fun q => p (f q.1)).filterMap (fun q => l[q.2]?) := by
        rw [List.zipIdx_map, List.filter_map, List.filterMap_map]
        rfl
    _ = (l.zipIdx.filter fun q => p (f q.1)).map Prod.fst := by
        rw [List.filterMap_congr hplace, ← List.filterMap_eq_map]
        rfl
    _ = (l.zipIdx.map Prod.fst).filter fun a => p (f a) := by
        rw [List.filter_map]
        rfl
    _ = l.filter fun a => p (f a) := by rw [List.zipIdx_map_fst]

end Places

/-! ## 3. Names and fields -/

/-- Whether an entity has the fields that are wanted; no fields are no wish. -/
def accepts (wanted : List (String × Wanted)) (e : Json) : Bool :=
  wanted.isEmpty || meets (.fields wanted) (some e)

namespace Resolver

/-- Whether an entity answers to a name, if one is given; the empty one is none. -/
def answers (r : Resolver) (name : Option String) (e : Json) : Bool :=
  match name.filter fun n => !n.isEmpty with
  | none => true
  | some n => r.answersTo n (Wildcard.matcher? n) e

/-- The entities that answer to a name, with their places. -/
def answering (r : Resolver) (name : Option String) (entities : List Json) : List Placed :=
  entities.zipIdx.filter fun p => r.answers name p.1

variable {r : Resolver} {language : Query.Language} {entities : List Json} {name : Option String}

/-- A filter is applied to the entities that answer, and not looked at if none does. -/
theorem selectIn_cases (hnull : ∀ e ∈ entities, e.isNull = false) (filter : Filter) :
    r.selectIn language entities name filter =
        r.filtered language filter (r.answering name entities) ∨
      r.answering name entities = [] ∧ r.selectIn language entities name filter = .ok [] := by
  unfold selectIn answering answers
  cases name.filter fun n => !n.isEmpty with
  | none =>
    left
    simp
  | some n =>
    simp only [named_zipIdx hnull]
    cases entities.zipIdx.filter fun p => r.answersTo n (Wildcard.matcher? n) p.1 with
    | nil => exact .inr ⟨rfl, rfl⟩
    | cons p found => exact .inl rfl

/-- For a filter that gives nothing of nothing it makes no difference whether it is looked at. -/
theorem selectIn_eq_filtered (hnull : ∀ e ∈ entities, e.isNull = false) {filter : Filter}
    (hnil : r.filtered language filter [] = .ok []) :
    r.selectIn language entities name filter =
      r.filtered language filter (r.answering name entities) := by
  rcases selectIn_cases hnull filter with h | ⟨hnone, h⟩
  · exact h
  · rw [h, hnone, hnil]

theorem filtered_having (wanted : List (String × Wanted)) (placed : List Placed) :
    r.filtered language (.having wanted) placed =
      .ok (placed.filter fun p => accepts wanted p.1) := by
  cases wanted with
  | nil => simp [Filter.having, filtered, accepts]
  | cons w ws => rfl

/-- Names and wanted fields are asked of each entity by itself. -/
theorem selectIn_having (hnull : ∀ e ∈ entities, e.isNull = false)
    (wanted : List (String × Wanted)) :
    r.selectIn language entities name (.having wanted) =
      .ok (entities.zipIdx.filter fun p => r.answers name p.1 && accepts wanted p.1) := by
  rw [selectIn_eq_filtered hnull (filtered_having wanted []), filtered_having, answering,
    List.filter_filter]
  simp only [Bool.and_comm]

/-- Without a name, lists with nulls in them can be filtered as well. -/
theorem selectIn_none_having (wanted : List (String × Wanted)) :
    r.selectIn language entities none (.having wanted) =
      .ok (entities.zipIdx.filter fun p => accepts wanted p.1) :=
  filtered_having wanted _

theorem selectIn_all (hnull : ∀ e ∈ entities, e.isNull = false) :
    r.selectIn language entities name .all = .ok (r.answering name entities) :=
  selectIn_eq_filtered hnull rfl

/-! ## 4. Selecting once more -/

/-- Selects among entities that were selected before. Places are those in the first list. -/
def selectAmong (r : Resolver) (language : Query.Language) (found : List Placed)
    (name : Option String) (filter : Filter) : Except Failure (List Placed) :=
  (r.selectIn language (found.map (·.1)) name filter).map fun again =>
    again.filterMap fun p => found[p.2]?

theorem selectAmong_having {found : List Placed} (hnull : ∀ p ∈ found, p.1.isNull = false)
    (wanted : List (String × Wanted)) :
    r.selectAmong language found name (.having wanted) =
      .ok (found.filter fun p => r.answers name p.1 && accepts wanted p.1) := by
  have hvalues : ∀ e ∈ found.map (·.1), e.isNull = false := by simpa using hnull
  rw [selectAmong, selectIn_having hvalues, Except.map]
  exact congrArg Except.ok
    (filterMap_filter_zipIdx found Prod.fst fun e => r.answers name e && accepts wanted e)

theorem selectAmong_none_having (found : List Placed) (wanted : List (String × Wanted)) :
    r.selectAmong language found none (.having wanted) =
      .ok (found.filter fun p => accepts wanted p.1) := by
  rw [selectAmong, selectIn_none_having, Except.map]
  exact congrArg Except.ok (filterMap_filter_zipIdx found Prod.fst _)

/-! ## 5. Queries -/

theorem chosen_sublist (value : Query.Value) (placed : List Placed) :
    (chosen value placed).Sublist placed :=
  filter_zip_sublist ..

/-- A list chooses the entities that it holds. -/
theorem mem_chosen_iff {placed : List Placed} (hrec : ∀ e ∈ placed.map (·.1), e.isRecord = true)
    {label : Query.Label} {results : List Query.Value} {p : Placed} :
    p ∈ chosen (.arr label results) placed ↔ ∃ i : Nat, placed[i]? = some p ∧
      Query.HoldsAt (Query.documents (placed.map (·.1))) results i := by
  rw [chosen, mem_filter_zip_iff]
  exact exists_congr fun i => and_congr_right fun _ => Query.selected_iff hrec label results i

/-- What is no list chooses nothing. -/
theorem chosen_of_ne {value : Query.Value} (h : ∀ label results, value ≠ .arr label results)
    (placed : List Placed) : chosen value placed = [] := by
  have hnone : Query.selected (Query.documents (placed.map (·.1))) value =
      (Query.documents (placed.map (·.1))).map fun _ => false := by
    cases value with
    | arr label results => exact absurd rfl (h label results)
    | _ => rfl
  refine List.eq_nil_iff_forall_not_mem.mpr fun p hp => ?_
  rw [chosen, mem_filter_zip_iff, hnone] at hp
  obtain ⟨i, -, hi⟩ := hp
  rw [List.getElem?_map, Option.map_eq_some_iff] at hi
  obtain ⟨_, _, hfalse⟩ := hi
  cases hfalse

/-- A query that has a value chooses from the entities that answer to the name. -/
theorem selectIn_query (hnull : ∀ e ∈ entities, e.isNull = false) {text : String}
    {value : Query.Value}
    (hquery : language text (Query.documents ((r.answering name entities).map (·.1))) =
      .ok value) :
    r.selectIn language entities name (.query text) =
      .ok (chosen value (r.answering name entities)) := by
  rcases selectIn_cases hnull (.query text) with h | ⟨hnone, h⟩
  · rw [h, filtered, queried, hquery]
  · rw [h, hnone]
    rfl

/-- A filter that is applied picks entities of those that it is applied to, or is a query that
the language rejects. -/
theorem filtered_cases (r : Resolver) (language : Query.Language) (filter : Filter)
    (placed : List Placed) :
    (∃ found, r.filtered language filter placed = .ok found ∧ found.Sublist placed) ∨
      ∃ text p, filter = .query text ∧
        language text (Query.documents (placed.map (·.1))) = .error p ∧
        r.filtered language filter placed = .error (r.badQuery text p) := by
  cases filter with
  | all => exact .inl ⟨_, rfl, .refl _⟩
  | fields wanted => exact .inl ⟨_, rfl, List.filter_sublist⟩
  | query text =>
    simp only [filtered, queried]
    cases hquery : language text (Query.documents (placed.map (·.1))) with
    | error p => exact .inr ⟨text, p, rfl, hquery, rfl⟩
    | ok value => exact .inl ⟨_, rfl, chosen_sublist value placed⟩

/-! ## 6. What selecting comes to -/

/-- Some entities of a list with their places, none of them twice, in the order of the list. -/
structure Picked (entities : List Json) (found : List Placed) : Prop where
  placed : ∀ p ∈ found, entities[p.2]? = some p.1
  rising : (found.map (·.2)).Pairwise (· < ·)

theorem picked_of_sublist {found : List Placed} (h : found.Sublist entities.zipIdx) :
    Picked entities found where
  placed p hp := List.mem_zipIdx_iff_getElem?.mp (h.subset hp)
  rising := by
    have hplaces : (entities.zipIdx.map (·.2)).Pairwise (· < ·) := by
      rw [List.zipIdx_map_snd]
      exact List.pairwise_lt_range'
    exact hplaces.sublist (h.map _)

/-- **Selecting picks entities of the list.** Take a list of records, each of which is itself
alone, a name or none, and any language of queries. The name picks some of the entities.
Whatever else is asked for, some of these are picked, or it is a query that the language rejects,
and then the operation fails with that.

Of a list that a query gives, nothing counts but which of the entities it holds, as the very
ones: other languages in which it holds the same select the same, and a list of what is identical
to no entity, however equal, selects nothing, as does what is no list. With wanted fields it makes
no difference whether name and fields are asked for at once, or one after the other, in either
order. -/
theorem select_picks (r : Resolver) (language : Query.Language) {entities : List Json}
    (hrec : ∀ e ∈ entities, e.isRecord = true) (name : Option String) :
    ∃ named, r.selectIn language entities name .all = .ok named ∧ Picked entities named ∧
      let documents := Query.documents (named.map (·.1))
      (∀ filter,
        (∃ found, r.selectIn language entities name filter = .ok found ∧ found.Sublist named ∧
          Picked entities found) ∨
        ∃ text p, filter = .query text ∧ language text documents = .error p ∧
          r.selectIn language entities name filter = .error (r.badQuery text p)) ∧
      (∀ (i j : Nat) (d d' : Query.Value), documents[i]? = some d → documents[j]? = some d' →
        (d.identical d' = true ↔ i = j)) ∧
      (∀ text label results, language text documents = .ok (.arr label results) →
        (∃ found, r.selectIn language entities name (.query text) = .ok found ∧
          ∀ p, p ∈ found ↔
            ∃ i : Nat, named[i]? = some p ∧ Query.HoldsAt documents results i) ∧
        (∀ (other : Query.Language) label' results',
          other text documents = .ok (.arr label' results') →
          (∀ i, Query.HoldsAt documents results i ↔ Query.HoldsAt documents results' i) →
          r.selectIn other entities name (.query text) =
            r.selectIn language entities name (.query text)) ∧
        ((∀ v ∈ results, ∀ d ∈ documents, v.identical d = false) →
          r.selectIn language entities name (.query text) = .ok [])) ∧
      (∀ text value, language text documents = .ok value →
        (∀ label results, value ≠ .arr label results) →
        r.selectIn language entities name (.query text) = .ok []) ∧
      ∀ wanted, ∃ found, r.selectIn language entities name (.having wanted) = .ok found ∧
        (r.selectIn language entities name .all).bind
          (fun named => r.selectAmong language named none (.having wanted)) = .ok found ∧
        (r.selectIn language entities none (.having wanted)).bind
          (fun fitting => r.selectAmong language fitting name .all) = .ok found := by
  have hnull : ∀ e ∈ entities, e.isNull = false := by
    intro e he
    have := hrec e he
    cases e with
    | obj fields => rfl
    | _ => cases this
  have hpicked : (r.answering name entities).Sublist entities.zipIdx := List.filter_sublist
  have hplaced : ∀ p ∈ r.answering name entities, p.1.isRecord = true := fun p hp =>
    hrec p.1 (List.fst_mem_of_mem_zipIdx (hpicked.subset hp))
  have hvalues : ∀ e ∈ (r.answering name entities).map (·.1), e.isRecord = true := by
    simpa using hplaced
  refine ⟨_, selectIn_all hnull, picked_of_sublist hpicked, ?_, ?_, ?_, ?_, ?_⟩
  · intro filter
    rcases selectIn_cases hnull filter with h | ⟨hnone, h⟩
    · rw [h]
      rcases filtered_cases r language filter (r.answering name entities) with
        ⟨found, hfound, hsub⟩ | hrejected
      · exact .inl ⟨found, hfound, hsub, picked_of_sublist (hsub.trans hpicked)⟩
      · exact .inr hrejected
    · exact .inl ⟨[], h, List.nil_sublist _, picked_of_sublist (List.nil_sublist _)⟩
  · exact fun i j d d' hd hd' => Query.identical_documents_iff hvalues hd hd'
  · intro text label results hquery
    refine ⟨⟨_, selectIn_query hnull hquery, fun p => mem_chosen_iff hvalues⟩, ?_, ?_⟩
    · intro other label' results' hother hsame
      rw [selectIn_query hnull hquery, selectIn_query hnull hother, chosen, chosen,
        Query.selected_congr hvalues hsame]
    · intro hcopies
      rw [selectIn_query hnull hquery]
      refine congrArg Except.ok (List.eq_nil_iff_forall_not_mem.mpr fun p hp => ?_)
      obtain ⟨i, -, d, hd, v, hv, hidentical⟩ := (mem_chosen_iff hvalues).mp hp
      rw [hcopies v hv d (List.mem_of_getElem? hd)] at hidentical
      cases hidentical
  · intro text value hquery hvalue
    rw [selectIn_query hnull hquery, chosen_of_ne hvalue]
  · intro wanted
    have hnull' : ∀ p ∈ entities.zipIdx.filter fun p => accepts wanted p.1, p.1.isNull = false :=
      fun p hp => hnull p.1 (List.fst_mem_of_mem_zipIdx (List.mem_of_mem_filter hp))
    refine ⟨_, selectIn_having hnull wanted, ?_, ?_⟩
    · rw [selectIn_all hnull, Except.bind, selectAmong_none_having, answering, List.filter_filter]
      simp only [Bool.and_comm]
    · rw [selectIn_none_having, Except.bind]
      show r.selectAmong language _ name (.having []) = _
      rw [selectAmong_having hnull', List.filter_filter]
      simp [accepts]

/-- A query on three things, of which the first two are equal. It gives the last, a copy of the
first, and the second twice. The first is not selected, though the answer holds what is equal to
it, and the second is. -/
theorem select_second_of_equals :
    let things : Resolver := ⟨"thing", "id"⟩
    let entities : List Json :=
      [.obj [("n", .str "a")], .obj [("n", .str "a")], .obj [("n", .str "b")]]
    let text := "[@[2], @[0].\x7bn: n\x7d, @[1], @[1]]"
    (∀ e ∈ entities, e.isRecord = true) ∧
      ∃ found, things.select entities none (.query text) = .ok found ∧ Picked entities found ∧
        (.obj [("n", .str "a")], 0) ∉ found ∧ (.obj [("n", .str "a")], 1) ∈ found := by
  intro things entities text
  have hrec : ∀ e ∈ entities, e.isRecord = true := by simp [entities, Json.isRecord]
  have hquery : Query.evaluate text (Query.documents entities) = .ok (.arr (.built 2)
      [.obj (.data 3) [("n", .str [98])], .obj (.built 1) [("n", .str [97])],
        .obj (.data 2) [("n", .str [97])], .obj (.data 2) [("n", .str [97])]]) := by cbv
  obtain ⟨named, hnamed, -, hall, -, hlist, -, -⟩ := select_picks things Query.evaluate hrec none
  obtain rfl : entities.zipIdx = named := Except.ok.inj hnamed
  obtain ⟨⟨found, hfound, hmem⟩, -, -⟩ := hlist text _ _ hquery
  refine ⟨hrec, found, hfound, ?_, ?_, ?_⟩
  · rcases hall (.query text) with ⟨found', hfound', -, hpicked⟩ | ⟨_, _, -, -, herror⟩
    · rw [hfound] at hfound'
      exact Except.ok.inj hfound' ▸ hpicked
    · rw [hfound] at herror
      cases herror
  · rw [hmem]
    rintro ⟨_ | i, hi, d, hd, v, hv, hidentical⟩
    · obtain rfl := Option.some.inj hd
      simp only [List.mem_cons, List.not_mem_nil, or_false] at hv
      rcases hv with rfl | rfl | rfl | rfl <;> cases hidentical
    · -- another place is not the first
      rw [List.getElem?_zipIdx, Option.map_eq_some_iff] at hi
      obtain ⟨_, -, hplace⟩ := hi
      cases hplace
  · exact (hmem _).mpr ⟨1, rfl, _, rfl, .obj (.data 2) [("n", .str [97])], by simp, rfl⟩

end Resolver

end Selection

end MagnumClient
