/-
MagnumClient.Text.JoiningType — how letters of cursive scripts join.

A letter may join the one after it, the one before it, or both. Letters of
scripts that are not cursive join none.
-/
import MagnumClient.Text.CodeTable

namespace MagnumClient.Text

/-- Which neighbours a letter joins: those on both sides, the one after it, the
one before it, or none. -/
inductive JoiningType where
  | both
  | after
  | before
  | none
deriving Repr, DecidableEq

/-- The type of a heading. -/
def JoiningType.ofName (name : List Char) : JoiningType :=
  match name with
  | ['D'] => both
  | ['L'] => after
  | ['R'] => before
  | _ => none

/-- The letters by joining type. -/
def joiningRanges : String := "
=D 620 626 628 62A-62E 633-63F 641-647 649-64A 66E-66F 678-687 69A-6BF 6C1-6C2 6CC 6CE 6D0-6D1
6FA-6FC 6FF 712-714 71A-71D 71F-727 729 72B 72D-72E 74E-758 75C-76A 76D-770 772 775-777 77A-77F
7CA-7EA 841-845 848 84A-853 855 860 862-865 868 886 889-88D 8A0-8A9 8AF-8B0 8B3-8B8 8BA-8C8 1807
1820-1878 1887-18A8 18AA A840-A871 10AC0-10AC4 10AD3-10AD6 10AD8-10ADC 10ADE-10AE0 10AEB-10AEE
10B80 10B82 10B86-10B88 10B8A-10B8B 10B8D 10B90 10BAD-10BAE 10D01-10D21 10D23 10F30-10F32
10F34-10F44 10F51-10F53 10F70-10F73 10F76-10F81 10FB0 10FB2-10FB3 10FB8 10FBB-10FBC 10FBE-10FBF
10FC1 10FC4 10FCA 1E900-1E943 =L A872 10ACD 10AD7 10D00 10FCB =R 622-625 627 629 62F-632 648
671-673 675-677 688-699 6C0 6C3-6CB 6CD 6CF 6D2-6D3 6D5 6EE-6EF 710 715-719 71E 728 72A 72C 72F
74D 759-75B 76B-76C 771 773-774 778-779 840 846-847 849 854 856-858 867 869-86A 870-882 88E
8AA-8AC 8AE 8B1-8B2 8B9 10AC5 10AC7 10AC9-10ACA 10ACE-10AD2 10ADD 10AE1 10AE4 10AEF 10B81
10B83-10B85 10B89 10B8C 10B8E-10B8F 10B91 10BA9-10BAC 10D22 10F33 10F54 10F74-10F75 10FB4-10FB6
10FB9-10FBA 10FBD 10FC2-10FC3 10FC9
"

/-- The joining types, as a table. -/
def joiningTable : CodeTable JoiningType :=
  CodeTable.ofText JoiningType.ofName .none joiningRanges

/-- The joining type of a letter. -/
def joiningType (code : Nat) : JoiningType := (joiningTable.get? code).getD .none

/-- Whether a letter joins the one after it. -/
def joinsAfter (code : Nat) : Bool :=
  joiningType code == .both || joiningType code == .after

/-- Whether a letter joins the one before it. -/
def joinsBefore (code : Nat) : Bool :=
  joiningType code == .both || joiningType code == .before

end MagnumClient.Text
