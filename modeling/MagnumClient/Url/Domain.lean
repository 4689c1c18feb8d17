/-
MagnumClient.Url.Domain — the names of domains in all scripts.

A domain name is mapped before it means anything: capitals and letters of special
form become the plain small letters that they stand for, dots of other scripts
become dots, some characters do not count, and some are disallowed. The mapped
name is composed, so that a name has one form however it was typed.

The labels between the dots must then make sense. A label that begins with `xn--`
spells one in ASCII; what it spells must be in mapped form already. Other labels
of ASCII are not looked at. A label with other characters must not begin with a
mark, may hold an invisible joiner only where it shows in writing, and must be
readable in one direction.
-/
import MagnumClient.Text.BidiClass
import MagnumClient.Text.CaseFolding
import MagnumClient.Text.JoiningType
import MagnumClient.Text.Mark
import MagnumClient.Text.Normalization
import MagnumClient.Url.Disallowed
import MagnumClient.Url.Punycode

namespace MagnumClient.Url.Domain

open Text

/-! ## 1. Mapping -/

/-- The characters that do not count. -/
def ignoredSet : CodeSet := CodeSet.ofText
  "AD 34F 180B-180D 180F 200B 2060 2064 FE00-FE0F FEFF 1BCA0-1BCA3 E0100-E01EF"

/-- The plain small letters that characters stand for. Folding can bring up
letters that stand for others again, so it is done twice. -/
def plain (codes : List Nat) : List Nat :=
  compatible ((compatible ((compatible codes).map folded)).map folded)

/-- What a character of a name becomes; `none` if it is disallowed. The final
sigma and the sharp s stay as they are, and the capital sharp s becomes the small
one. -/
def mapped? (code : Nat) : Option (List Nat) :=
  if isDisallowed code then none
  else if ignoredSet.holds code then some []
  else if code == 0x3C2 then some [code]
  else if code == 0x1E9E then some [0xDF]
  else if code == 0x3002 || code == 0xFF61 then some [0x2E]
  else some (plain [code])

/-- The mapped form of a name. -/
def mappedName? (codes : List Nat) : Option (List Nat) :=
  (codes.mapM mapped?).map fun images => normalized images.flatten

/-! ## 2. Joiners and directions -/

/-- The joiner, which asks for a joined form. -/
def joiner : Nat := 0x200D

/-- The non-joiner, which asks for a separate form. -/
def nonJoiner : Nat := 0x200C

/-- Whether a character is invisible but changes the form of its neighbours. -/
def isJoiner (code : Nat) : Bool := code == joiner || code == nonJoiner

/-- Whether an invisible character may stand between what is before it and what
is after it: after the sign that joins consonants either may, and the non-joiner
also between letters that would join. -/
def joinerFits (code : Nat) (before after : List Nat) : Bool :=
  (before.getLast?.map combiningClass == some viramaClass) ||
    (code == nonJoiner && before.any joinsAfter && after.any joinsBefore)

/-- Whether a class belongs to text that is written from right to left. -/
def isRightToLeft : BidiClass → Bool
  | .rightToLeft => true
  | .arabicLetter => true
  | .arabicNumber => true
  | _ => false

/-- Whether a class may stand in a label with text from right to left. -/
def mayStandWithRightToLeft : BidiClass → Bool
  | .leftToRight => false
  | .other => false
  | _ => true

/-- Whether a class may end a label with text from right to left. -/
def mayEndRightToLeft (c : BidiClass) : Bool := isRightToLeft c || c == .europeanNumber

/-- Whether a label reads in one direction. Marks at the end belong to the letter
before them. A label with text from right to left holds nothing from left to
right, ends in a letter or a number, and has numbers of one kind only. -/
def readsOneWay (label : List Nat) : Bool :=
  let backwards := (label.map bidiClass).reverse.dropWhile (· == .mark)
  match backwards with
  | [] => false
  | last :: _ =>
    !backwards.any isRightToLeft ||
      (backwards.all mayStandWithRightToLeft && mayEndRightToLeft last &&
        !(backwards.contains .europeanNumber && backwards.contains .arabicNumber))

/-! ## 3. Labels -/

/-- Whether a label in mapped form makes sense. The first invisible character in
it decides alone, if there is one. -/
def isSound (label : List Nat) : Bool :=
  match label with
  | [] => false
  | first :: _ =>
    !isMark first &&
      match label.dropWhile (!isJoiner ·) with
      | code :: after => joinerFits code (label.takeWhile (!isJoiner ·)) after
      | [] => readsOneWay label

/-- Whether a character is ASCII. -/
def isAscii (code : Nat) : Bool := code < 0x80

/-- What stands before a label that is spelled in ASCII. -/
def spelledMark : List Char := ['x', 'n', '-', '-']

/-- Whether a label that is spelled in ASCII spells a mapped label that makes
sense. A spelling of a spelling is none. -/
def spellsSound (spelling : List Char) : Bool :=
  !spelledMark.isPrefixOf spelling &&
    match Punycode.decode? spelling with
    | some cs => mappedName? (cs.map (·.toNat)) == some (cs.map (·.toNat)) &&
        isSound (cs.map (·.toNat))
    | none => false

/-- Whether a label of a mapped name is valid. -/
def isValidLabel (label : List Char) : Bool :=
  if spelledMark.isPrefixOf label then
    label.all (isAscii ·.toNat) && spellsSound (label.drop spelledMark.length)
  else label.all (isAscii ·.toNat) || isSound (label.map (·.toNat))

end MagnumClient.Url.Domain
