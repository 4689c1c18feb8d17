/-
MagnumClient.Config.Issue — what can be wrong with a configuration variable.
-/

namespace MagnumClient.Config

/-- The ways in which a variable's value breaks its rule. -/
inductive Flaw where
  /-- It is missing, or of another kind than the rule wants. -/
  | invalidType
  /-- It is blank, or below the least number allowed. -/
  | tooSmall
  /-- It is above the greatest number allowed. -/
  | tooBig
  /-- It is no URL. -/
  | invalidString
  /-- It is none of the words allowed. -/
  | invalidWord
deriving Repr, DecidableEq

/-- A flaw of the variable of that name. -/
structure Issue where
  flaw : Flaw
  name : String
deriving Repr, DecidableEq

end MagnumClient.Config
