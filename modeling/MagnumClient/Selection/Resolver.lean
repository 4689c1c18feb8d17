/-
MagnumClient.Selection.Resolver — finding entities by name, identifier and filter.

A resolver knows what its entities are called in messages and which field
identifies them. An entity answers to a text if its identifier or its name is
that text, or if the text, read as a wildcard, matches one of them. A filter is
then applied to the entities that answer, and not looked at if none do.

Entities are kept with their places in the list, so what is selected is a
sublist of the list: nothing is reordered, repeated or invented.

The language of the queries is a parameter (`selectIn`), because what is selected
depends on nothing of it but the value of a query. `select` is in the language of
`Query.Eval`.
-/
import MagnumClient.Failure.Basic
import MagnumClient.Query.Eval
import MagnumClient.Selection.Filter
import MagnumClient.Wildcard.Source

namespace MagnumClient.Selection

/-- How entities of one kind are found. -/
structure Resolver where
  resource : String
  idKey : String
deriving Repr, DecidableEq

/-- An entity and its place in the list. -/
abbrev Placed := Json × Nat

namespace Resolver

/-! ## 1. Names -/

/-- The text of a field, if it has one that is not empty. -/
def fieldText? (key : String) (entity : Json) : Option String :=
  ((entity.field? key).bind Json.str?).filter fun s => !s.isEmpty

/-- The texts that an entity goes by: its identifier and its name. -/
def candidates (r : Resolver) (entity : Json) : List String :=
  (fieldText? r.idKey entity).toList ++ (fieldText? "name" entity).toList

/-- Whether an entity answers to a text, compiled to `matcher` if it compiles. -/
def answersTo (r : Resolver) (text : String) (matcher : Option Wildcard.Matcher) (entity : Json) :
    Bool :=
  let names := r.candidates entity
  names.contains text ||
    match matcher with
    | none => false
    | some m => names.any m.test

/-- The failure of an entity that is null, which has no fields to read. -/
def nullEntity (r : Resolver) : Failure :=
  .misshapen ("Cannot read properties of null (reading '" ++ r.idKey ++ "')")

/-- The entities that answer to a text. Each entity is asked, so none may be
null. -/
def named (r : Resolver) (text : String) (entities : List Placed) :
    Except Failure (List Placed) :=
  if entities.any fun p => p.1.isNull then .error r.nullEntity
  else
    let matcher := Wildcard.matcher? text
    .ok (entities.filter fun p => r.answersTo text matcher p.1)

/-! ## 2. Filters -/

/-- The failure of a filter that is no query. -/
def badQuery (r : Resolver) (text : String) (p : Query.Problem) : Failure :=
  .cloud .operation ("Invalid filter expression for " ++ r.resource ++ ": " ++ text) .nothing
    (.query p)

/-- The entities that the value of a query on their list selects. -/
def chosen (value : Query.Value) (entities : List Placed) : List Placed :=
  let choices := Query.selected (Query.documents (entities.map (·.1))) value
  ((entities.zip choices).filter (·.2)).map (·.1)

/-- The entities that a query on their list gives. -/
def queried (r : Resolver) (language : Query.Language) (text : String) (entities : List Placed) :
    Except Failure (List Placed) :=
  match language text (Query.documents (entities.map (·.1))) with
  | .error p => .error (r.badQuery text p)
  | .ok value => .ok (chosen value entities)

/-- The entities that a filter asks for. -/
def filtered (r : Resolver) (language : Query.Language) (filter : Filter)
    (entities : List Placed) : Except Failure (List Placed) :=
  match filter with
  | .all => .ok entities
  | .fields wanted => .ok (entities.filter fun p => meets (.fields wanted) (some p.1))
  | .query text => r.queried language text entities

/-! ## 3. Selecting -/

/-- The entities, with their places, that answer to a name and pass a filter, whose
queries are in some language. An empty name is none. -/
def selectIn (r : Resolver) (language : Query.Language) (entities : List Json)
    (name : Option String) (filter : Filter) : Except Failure (List Placed) :=
  match name.filter fun n => !n.isEmpty with
  | none => r.filtered language filter entities.zipIdx
  | some n =>
    match r.named n entities.zipIdx with
    | .error f => .error f
    | .ok [] => .ok []
    | .ok found => r.filtered language filter found

/-- The entities, with their places, that answer to a name and pass a filter. -/
def select (r : Resolver) (entities : List Json) (name : Option String) (filter : Filter) :
    Except Failure (List Placed) :=
  r.selectIn Query.evaluate entities name filter

/-- The failure of a name that several entities answer to. -/
def ambiguous (r : Resolver) (name : String) : Failure :=
  .cloud .multipleMatches ("Multiple matches found for " ++ r.resource ++ " " ++ name) .nothing
    .nothing

/-- The one entity that answers to a name and passes a filter, if there is one;
a failure if there are several. -/
def resolve (r : Resolver) (entities : List Json) (name : String) (filter : Filter) :
    Except Failure (Option Placed) :=
  match r.select entities (some name) filter with
  | .error f => .error f
  | .ok [] => .ok none
  | .ok [p] => .ok (some p)
  | .ok (_ :: _ :: _) => .error (r.ambiguous name)

end Resolver

end MagnumClient.Selection
