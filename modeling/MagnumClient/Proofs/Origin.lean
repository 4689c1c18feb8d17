/-
MagnumClient.Proofs.Origin — where a place at an endpoint points.

The URL of a request is joined from an endpoint and a place, and runs of slashes are
shortened on the way. `Shortened` is that as a relation, and what is read of a URL goes
along with it: the scheme has no slashes, and the server is named between a run of slashes
and the next slash. So a place at an endpoint is on the endpoint's server (`parse?_join`).

Two conditions are needed. The endpoint is of a scheme that always has a server in front of
the place: others can end in front of it, and then the place is taken for the server. And
it ends in something that is kept there: a blank or a control is dropped at the end of a
URL, and is none of the server's name inside.
-/
import Mathlib.Data.List.TakeWhile
import MagnumClient.Path
import MagnumClient.Url.Basic

namespace MagnumClient

namespace Path

/-! ## 1. Shortened runs of slashes -/

/-- The first text is the second with runs of slashes shortened, none of them to
nothing. -/
inductive Shortened : List Char → List Char → Prop where
  | nil : Shortened [] []
  | cons {xs ys : List Char} (c : Char) : Shortened xs ys → Shortened (c :: xs) (c :: ys)
  | slash {xs ys : List Char} :
    Shortened ('/' :: xs) ('/' :: ys) → Shortened ('/' :: xs) ('/' :: '/' :: ys)

/-- Joining shortens runs of slashes. A run that goes on is shortened behind its
first slash, so that slash is part of the statement. -/
theorem shortened_shorten (cs : List Char) :
    (∀ b, b ≠ .slash → Shortened (shorten b cs) cs) ∧
      Shortened ('/' :: shorten .slash cs) ('/' :: cs) := by
  induction cs with
  | nil => exact ⟨fun b _ => by rw [shorten_nil]; exact .nil, .cons _ .nil⟩
  | cons c rest ih =>
    obtain ⟨ih, ihslash⟩ := ih
    by_cases hs : c = '/'
    · subst hs
      refine ⟨fun b hb => ?_, .slash ihslash⟩
      cases b with
      | text => exact ihslash
      | colon => exact .cons _ (ih .keptSlash (by decide))
      | keptSlash => exact .cons _ (ih .keptSlash (by decide))
      | slash => exact absurd rfl hb
    · by_cases hc : c = ':'
      · subst hc
        have hcolon := Shortened.cons ':' (ih .colon (by decide))
        refine ⟨fun b _ => ?_, ?_⟩
        · rw [shorten_colon]
          exact hcolon
        · rw [shorten_colon]
          exact .cons _ hcolon
      · have htext := Shortened.cons c (ih .text (by decide))
        refine ⟨fun b _ => ?_, ?_⟩
        · rw [shorten_text b rest hs hc]
          exact htext
        · rw [shorten_text .slash rest hs hc]
          exact .cons _ htext

namespace Shortened

variable {xs ys : List Char} {p : Char → Bool}

theorem filter (h : Shortened xs ys) (hp : p '/' = true) :
    Shortened (xs.filter p) (ys.filter p) := by
  induction h with
  | nil => exact .nil
  | cons c h ih =>
    cases hc : p c with
    | true => simpa [hc] using ih.cons c
    | false => simpa [hc] using ih
  | slash h ih =>
    rw [List.filter_cons_of_pos hp, List.filter_cons_of_pos hp] at ih
    rw [List.filter_cons_of_pos hp, List.filter_cons_of_pos hp, List.filter_cons_of_pos hp]
    exact ih.slash

theorem takeWhile_eq (h : Shortened xs ys) (hp : p '/' = false) :
    xs.takeWhile p = ys.takeWhile p := by
  induction h with
  | nil => rfl
  | cons c h ih => rw [List.takeWhile_cons, List.takeWhile_cons, ih]
  | slash h ih => simp [hp]

/-- Dropping a beginning: it either has no slashes or all that stand there. -/
theorem dropWhile (h : Shortened xs ys) (p : Char → Bool) :
    Shortened (xs.dropWhile p) (ys.dropWhile p) := by
  induction h with
  | nil => exact .nil
  | cons c h ih =>
    cases hc : p c with
    | true => simpa [List.dropWhile_cons, hc] using ih
    | false => simpa [List.dropWhile_cons, hc] using h.cons c
  | slash h ih =>
    cases hp : p '/' with
    | true => simpa [List.dropWhile_cons, hp] using ih
    | false => simpa [List.dropWhile_cons, hp] using h.slash

theorem append (h : Shortened xs ys) (zs : List Char) : Shortened (xs ++ zs) (ys ++ zs) := by
  induction h with
  | nil =>
    induction zs with
    | nil => exact .nil
    | cons c zs ih => exact ih.cons c
  | cons c h ih => exact ih.cons c
  | slash h ih => exact ih.slash

/-- A run at the end can be longer. -/
theorem snoc_slash (h : Shortened xs ys) (hlast : ys.getLast? = some '/') :
    Shortened xs (ys ++ ['/']) := by
  induction h with
  | nil => cases hlast
  | @cons xs ys c h ih =>
    cases ys with
    | nil =>
      cases h
      obtain rfl : c = '/' := by simpa using hlast
      exact .slash (.cons _ .nil)
    | cons d ys => exact .cons c (ih (by simpa [List.getLast?_cons_cons] using hlast))
  | @slash xs ys h ih => exact .slash (ih (by simpa [List.getLast?_cons_cons] using hlast))

/-- What has no slash stays as it is. -/
theorem exists_of_append {ws : List Char} (hws : '/' ∉ ws) (h : Shortened xs (ws ++ ys)) :
    ∃ zs, xs = ws ++ zs ∧ Shortened zs ys := by
  induction ws generalizing xs with
  | nil => exact ⟨xs, rfl, h⟩
  | cons w ws ih =>
    rw [List.cons_append] at h
    generalize hrest : ws ++ ys = rest at h
    cases h with
    | cons _ h =>
      subst hrest
      obtain ⟨zs, rfl, hzs⟩ := ih (fun hmem => hws (List.mem_cons_of_mem w hmem)) h
      exact ⟨zs, rfl, hzs⟩
    | slash _ => exact absurd List.mem_cons_self hws

theorem reverse (h : Shortened xs ys) : Shortened xs.reverse ys.reverse := by
  induction h with
  | nil => exact .nil
  | cons c h ih =>
    rw [List.reverse_cons, List.reverse_cons]
    exact ih.append [c]
  | @slash xs ys h ih =>
    rw [show ('/' :: '/' :: ys).reverse = ('/' :: ys).reverse ++ ['/'] from List.reverse_cons]
    exact ih.snoc_slash (by simp)

end Shortened

/-- A place at an endpoint is behind it, after a slash, with runs of slashes
shortened. -/
theorem toList_join {base place : String} (hbase : base ≠ "") (hplace : place ≠ "") :
    (join [.segment base, .segment place]).toList =
      shorten .text (base.toList ++ '/' :: place.toList) := by
  have hsegments : segmentsOf [.segment base, .segment place] = [base, place] := by
    simp [segmentsOf, Part.texts, hbase, hplace]
  rw [join, hsegments, String.toList_ofList]
  show shorten .text (base ++ "/" ++ place).toList = _
  simp

theorem shortened_join {base place : String} (hbase : base ≠ "") (hplace : place ≠ "") :
    Shortened (join [.segment base, .segment place]).toList
      (base.toList ++ '/' :: place.toList) := by
  rw [toList_join hbase hplace]
  exact (shortened_shorten _).1 .text (by decide)

/-- What stands before the next character, after some others. -/
def beforeNext : Before → List Char → Before
  | b, [] => b
  | b, c :: rest =>
    if c = '/' then
      match b with
      | .text => beforeNext .slash rest
      | .slash => beforeNext .slash rest
      | .colon => beforeNext .keptSlash rest
      | .keptSlash => beforeNext .keptSlash rest
    else if c = ':' then beforeNext .colon rest
    else beforeNext .text rest

theorem shorten_append (b : Before) (xs ys : List Char) :
    shorten b (xs ++ ys) = shorten b xs ++ shorten (beforeNext b xs) ys := by
  induction xs generalizing b with
  | nil =>
    rw [shorten_nil]
    rfl
  | cons c rest ih =>
    by_cases hs : c = '/'
    · subst hs
      cases b <;> simp [shorten, beforeNext, ih]
    · by_cases hc : c = ':'
      · subst hc
        simp [shorten, beforeNext, ih]
      · simp [shorten, beforeNext, hs, hc, ih]

/-- Where no slash comes next, it does not matter what stands before. -/
theorem shorten_of_ne {b : Before} {c : Char} {rest : List Char} (hc : c ≠ '/') :
    shorten b (c :: rest) = shorten .text (c :: rest) := by
  simp [shorten, hc]

/-- Places at an endpoint differ behind the endpoint only. -/
theorem exists_join_eq (base : String) :
    ∃ front, ∀ (place : String) (c : Char) (rest : List Char), c ≠ '/' →
      place.toList = '/' :: c :: rest →
      (join [.segment base, .segment place]).toList = front ++ shorten .text (c :: rest) := by
  have hplace : ∀ {place : String} {cs : List Char}, place.toList = '/' :: cs → place ≠ "" := by
    rintro place cs h rfl
    cases h
  by_cases hbase : base = ""
  · subst hbase
    refine ⟨['/'], fun place c rest hc h => ?_⟩
    have hsegments : segmentsOf [.segment "", .segment place] = [place] := by
      simp [segmentsOf, Part.texts, hplace h]
    rw [join, hsegments, String.toList_ofList, show String.intercalate "/" [place] = place from rfl,
      h, shorten_text_slash, shorten_of_ne hc]
    rfl
  · have hjoin : ∀ place : String, place ≠ "" →
        (join [.segment base, .segment place]).toList =
          shorten .text base.toList ++ shorten (beforeNext .text base.toList)
            ('/' :: place.toList) := by
      intro place hne
      rw [← shorten_append, toList_join hbase hne]
    cases hb : beforeNext .text base.toList with
    | text =>
      refine ⟨shorten .text base.toList ++ ['/'], fun place c rest hc h => ?_⟩
      rw [hjoin place (hplace h), hb, h, shorten_text_slash, shorten_slash_slash, shorten_of_ne hc]
      simp
    | slash =>
      refine ⟨shorten .text base.toList, fun place c rest hc h => ?_⟩
      rw [hjoin place (hplace h), hb, h, shorten_slash_slash, shorten_slash_slash,
        shorten_of_ne hc]
    | colon =>
      refine ⟨shorten .text base.toList ++ ['/', '/'], fun place c rest hc h => ?_⟩
      rw [hjoin place (hplace h), hb, h, shorten_colon_slash, shorten_keptSlash_slash,
        shorten_of_ne hc]
      simp
    | keptSlash =>
      refine ⟨shorten .text base.toList ++ ['/', '/'], fun place c rest hc h => ?_⟩
      rw [hjoin place (hplace h), hb, h, shorten_keptSlash_slash, shorten_keptSlash_slash,
        shorten_of_ne hc]
      simp

end Path

namespace Url

/-! ## 2. Where a URL points -/

/-- Whether a character is dropped at the ends of a URL. -/
def isMargin (c : Char) : Bool := c.toNat ≤ 0x20

/-- Whether a character is kept inside a URL. -/
def isKept (c : Char) : Bool := c != '\t' && c != '\n' && c != '\r'

theorem stripped_eq (s : String) :
    stripped s =
      (((s.toList.dropWhile isMargin).reverse.dropWhile isMargin).reverse).filter isKept := rfl

theorem shortened_stripped {s t : String} (h : Path.Shortened s.toList t.toList) :
    Path.Shortened (stripped s) (stripped t) := by
  rw [stripped_eq, stripped_eq]
  exact ((((h.dropWhile _).reverse).dropWhile _).reverse).filter (by decide)

/-- A text whose end is kept stays whole in front of a place. -/
theorem stripped_append {s : String} {t rest : List Char} {c : Char}
    (hlast : s.toList.getLast? = some c) (hc : isMargin c = false)
    (ht : t = s.toList ++ '/' :: rest) :
    ∃ more, stripped (String.ofList t) = stripped s ++ '/' :: more := by
  obtain ⟨init, hs⟩ := List.getLast?_eq_some_iff.mp hlast
  have hfront : s.toList.dropWhile isMargin = init.dropWhile isMargin ++ [c] := by
    rw [hs, Text.dropWhile_append_cons hc]
  have hfront' : t.dropWhile isMargin = init.dropWhile isMargin ++ [c] ++ '/' :: rest := by
    rw [ht, hs, List.append_assoc, List.append_assoc]
    exact Text.dropWhile_append_cons hc ..
  have hwhole : (stripped s) = (init.dropWhile isMargin ++ [c]).filter isKept := by
    rw [stripped_eq, hfront, List.reverse_append, List.reverse_singleton, List.singleton_append,
      List.dropWhile_cons_of_neg (by simp [hc])]
    simp
  refine ⟨((rest.reverse.dropWhile isMargin).reverse).filter isKept, ?_⟩
  rw [hwhole, stripped_eq, String.toList_ofList, hfront', List.reverse_append,
    List.reverse_cons, List.append_assoc, List.singleton_append,
    Text.dropWhile_append_cons (by decide), List.reverse_append, List.filter_append,
    List.reverse_cons, List.reverse_reverse, List.filter_append, List.append_assoc]
  rfl

/-- A server is read as one of the scheme. -/
theorem scheme_of_readAuthority? {scheme : String} {cs : List Char} {u : Url}
    (h : readAuthority? scheme cs = some u) : u.scheme = scheme := by
  unfold readAuthority? at h
  simp only at h
  split at h
  · cases h
  · obtain ⟨host, -, h⟩ := Option.bind_eq_some_iff.mp h
    obtain ⟨port, -, h⟩ := Option.bind_eq_some_iff.mp h
    rw [← Option.some.inj h]

/-- A scheme of the standard needs a server. -/
theorem readAuthority?_nil {scheme : String} (h : isSpecial scheme = true) :
    readAuthority? scheme [] = none := by
  simp [readAuthority?, afterCredentials, splitPort, h]

theorem scheme_of_readFile? {cs : List Char} {u : Url} (h : readFile? cs = some u) :
    u.scheme = "file" := by
  unfold readFile? at h
  split at h
  · simp only at h
    split at h
    · split at h
      · rw [← Option.some.inj h]
      · obtain ⟨host, -, h⟩ := Option.map_eq_some_iff.mp h
        rw [← h]
    · rw [← Option.some.inj h]
  · rw [← Option.some.inj h]

/-- The part of a text after its scheme that names the server. -/
def serverOf (rest : List Char) : List Char :=
  (rest.dropWhile isSlash).takeWhile fun c => !endsAuthority true c

/-- A URL of a scheme of the standard names its server after the scheme. -/
theorem parse?_special_iff {s : String} {u : Url} :
    parse? s = some u ∧ isSpecial u.scheme = true ↔
      ∃ rest, splitScheme? (stripped s) = some (u.scheme, rest) ∧ isSpecial u.scheme = true ∧
        readAuthority? u.scheme (serverOf rest) = some u := by
  constructor
  · rintro ⟨h, hspecial⟩
    unfold parse? at h
    obtain ⟨⟨scheme, rest⟩, hsplit, h⟩ := Option.bind_eq_some_iff.mp h
    simp only at h
    split at h
    · rw [scheme_of_readFile? h] at hspecial
      cases hspecial
    · split at h
      · obtain rfl := scheme_of_readAuthority? h
        exact ⟨rest, hsplit, hspecial, h⟩
      · rename_i hno
        have hscheme : u.scheme = scheme := by
          split at h
          · exact scheme_of_readAuthority? h
          · rw [← Option.some.inj h]
        rw [hscheme] at hspecial
        exact absurd hspecial hno
  · rintro ⟨rest, hsplit, hspecial, h⟩
    refine ⟨?_, hspecial⟩
    have hfile : u.scheme ≠ "file" := by
      intro hfile
      rw [hfile] at hspecial
      cases hspecial
    unfold parse?
    rw [hsplit]
    show (if u.scheme = "file" then _ else _) = _
    rw [if_neg hfile, if_pos hspecial]
    exact h

/-- A scheme is written in front of a colon, and begins with a letter. -/
theorem splitScheme?_eq_some_iff {cs rest : List Char} {scheme : String} :
    splitScheme? cs = some (scheme, rest) ↔
      ∃ w, cs = w ++ ':' :: rest ∧ (∀ c ∈ w, isSchemeChar c = true) ∧
        (∃ c, w.head? = some c ∧ isLetter c = true) ∧
        scheme = String.ofList (w.map Char.toLower) := by
  constructor
  · intro h
    unfold splitScheme? at h
    cases cs with
    | nil => cases h
    | cons c tail =>
      simp only at h
      split at h
      · cases h
      · rename_i hletter
        split at h
        · rename_i more hdrop
          simp only [Option.some.injEq, Prod.mk.injEq] at h
          obtain ⟨rfl, rfl⟩ := h
          have hc : isSchemeChar c = true := by
            unfold isSchemeChar
            simp only [Bool.not_eq_true, Bool.not_eq_false'] at hletter
            simp [hletter]
          refine ⟨(c :: tail).takeWhile isSchemeChar, ?_, ?_, ⟨c, ?_, ?_⟩, rfl⟩
          · rw [← hdrop, List.takeWhile_append_dropWhile]
          · exact fun d hd => List.mem_takeWhile_imp hd
          · rw [List.takeWhile_cons_of_pos hc]
            rfl
          · simpa using hletter
        · cases h
  · rintro ⟨w, rfl, hall, ⟨c, hhead, hletter⟩, rfl⟩
    cases w with
    | nil => cases hhead
    | cons d w =>
      obtain rfl := Option.some.inj hhead
      have hcolon : isSchemeChar ':' = false := by decide
      unfold splitScheme?
      rw [List.takeWhile_append_of_pos hall, List.dropWhile_append_of_pos hall,
        List.dropWhile_cons_of_neg (by simp [hcolon]),
        List.takeWhile_cons_of_neg (by simp [hcolon])]
      simp [hletter]

/-- The server is named before the first slash that follows it. -/
theorem serverOf_append {rest : List Char} (h : rest.dropWhile isSlash ≠ []) (more : List Char) :
    serverOf (rest ++ '/' :: more) = serverOf rest := by
  unfold serverOf
  rw [List.dropWhile_append, if_neg (by simpa using h), List.takeWhile_append,
    List.takeWhile_cons_of_neg (by decide), List.append_nil]
  split <;> rename_i hlen
  · exact (List.takeWhile_prefix _).eq_of_length hlen |>.symm
  · rfl

theorem serverOf_shortened {xs ys : List Char} (h : Path.Shortened xs ys) :
    serverOf xs = serverOf ys := (h.dropWhile _).takeWhile_eq (by decide)

/-- A place at an endpoint of a scheme of the standard is on the endpoint's server,
unless the endpoint ends in something that is dropped there and not inside. -/
theorem parse?_join {base place : String} {u : Url} {c : Char} (h : parse? base = some u)
    (hspecial : isSpecial u.scheme = true) (hlast : base.toList.getLast? = some c)
    (hc : isMargin c = false) (hplace : place ≠ "") :
    parse? (Path.join [.segment base, .segment place]) = some u := by
  obtain ⟨rest, hsplit, -, hserver⟩ := parse?_special_iff.mp ⟨h, hspecial⟩
  have hbase : base ≠ "" := by
    rintro rfl
    cases hlast
  obtain ⟨more, hmore⟩ := stripped_append hlast hc (t := base.toList ++ '/' :: place.toList) rfl
  obtain ⟨w, hw, hall, hhead, hscheme⟩ := splitScheme?_eq_some_iff.mp hsplit
  have hwhole : stripped (String.ofList (base.toList ++ '/' :: place.toList)) =
      (w ++ [':']) ++ (rest ++ '/' :: more) := by
    rw [hmore, hw]
    simp
  have hshort := shortened_stripped
    (s := Path.join [.segment base, .segment place])
    (t := String.ofList (base.toList ++ '/' :: place.toList))
    (by rw [String.toList_ofList]; exact Path.shortened_join hbase hplace)
  rw [hwhole] at hshort
  -- the scheme and its colon have no slash, so they stay in front as they are
  have hslash : '/' ∉ w ++ [':'] := by
    intro hmem
    rcases List.mem_append.mp hmem with hmem | hmem
    · exact absurd (hall _ hmem) (by decide)
    · exact absurd (List.mem_singleton.mp hmem) (by decide)
  obtain ⟨zs, hzs, hshort⟩ := hshort.exists_of_append hslash
  -- the endpoint names a server, so what is joined to it is not taken for one
  have hsome : rest.dropWhile isSlash ≠ [] := by
    intro hnil
    rw [serverOf, hnil, List.takeWhile_nil, readAuthority?_nil hspecial] at hserver
    cases hserver
  refine (parse?_special_iff.mpr ⟨zs, ?_, hspecial, ?_⟩).1
  · exact splitScheme?_eq_some_iff.mpr ⟨w, by rw [hzs]; simp, hall, hhead, hscheme⟩
  · rw [serverOf_shortened hshort, serverOf_append hsome]
    exact hserver

end Url

end MagnumClient
