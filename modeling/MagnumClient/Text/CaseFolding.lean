/-
MagnumClient.Text.CaseFolding — letters without the difference of case.

Folding sends a letter to the one that stands for it and for its other case,
nearly always the small one. The table holds the letters that do not decompose:
an accented capital is folded by folding the capital that it decomposes into.
-/
import MagnumClient.Text.CodeTable

namespace MagnumClient.Text

/-- The letters that folding changes, in the notation of `imageSpans`. -/
def foldings : String := "
41: 61+19 C6: E6 D0: F0 D8: F8 DE: FE 110: 111 126: 127 141: 142 14A: 14B 152: 153 166: 167 181:
253 183 184: 185 186: 254 188 189: 256+1 18C 18E: 1DD 259 25B 192 193: 260 263 196: 269 268 199
19C: 26F 272 19F: 275 1A2: 1A3 1A4: 1A5 1A6: 280 1A8 1A9: 283 1AC: 1AD 1AE: 288 1B1: 28A+1 1B4
1B5: 1B6 1B7: 292 1B9 1BC: 1BD 1E4: 1E5 1F6: 195 1BF 21C: 21D 220: 19E 222: 223 224: 225 23A: 2C65
23C 23D: 19A 2C66 241: 242 243: 180 289 28C 247 248: 249 24A: 24B 24C: 24D 24E: 24F 345: 3B9 370:
371 372: 373 376: 377 37F: 3F3 391: 3B1+10 3A3: 3C3+6 3C2: 3C3 3CF: 3D7 3D8: 3D9 3DA: 3DB 3DC: 3DD
3DE: 3DF 3E0: 3E1 3E2: 3E3 3E4: 3E5 3E6: 3E7 3E8: 3E9 3EA: 3EB 3EC: 3ED 3EE: 3EF 3F7: 3F8 3FA: 3FB
3FD: 37B+2 402: 452 404: 454+2 408: 458+3 40F: 45F 430+8 41A: 43A+15 460: 461 462: 463 464: 465
466: 467 468: 469 46A: 46B 46C: 46D 46E: 46F 470: 471 472: 473 474: 475 478: 479 47A: 47B 47C: 47D
47E: 47F 480: 481 48A: 48B 48C: 48D 48E: 48F 490: 491 492: 493 494: 495 496: 497 498: 499 49A: 49B
49C: 49D 49E: 49F 4A0: 4A1 4A2: 4A3 4A4: 4A5 4A6: 4A7 4A8: 4A9 4AA: 4AB 4AC: 4AD 4AE: 4AF 4B0: 4B1
4B2: 4B3 4B4: 4B5 4B6: 4B7 4B8: 4B9 4BA: 4BB 4BC: 4BD 4BE: 4BF 4C0: 4CF 4C3: 4C4 4C5: 4C6 4C7: 4C8
4C9: 4CA 4CB: 4CC 4CD: 4CE 4D4: 4D5 4D8: 4D9 4E0: 4E1 4E8: 4E9 4F6: 4F7 4FA: 4FB 4FC: 4FD 4FE: 4FF
500: 501 502: 503 504: 505 506: 507 508: 509 50A: 50B 50C: 50D 50E: 50F 510: 511 512: 513 514: 515
516: 517 518: 519 51A: 51B 51C: 51D 51E: 51F 520: 521 522: 523 524: 525 526: 527 528: 529 52A: 52B
52C: 52D 52E: 52F 531: 561+25 10A0: 2D00+25 10C7: 2D27 10CD: 2D2D 13F8: 13F0+5 1C80: 432 434 43E
441+1 442 44A 463 A64B 1C90: 10D0+2A 1CBD: 10FD+2 1EFA: 1EFB 1EFC: 1EFD 1EFE: 1EFF 2132: 214E
2183: 2184 2C00: 2C30+2F 2C60: 2C61 2C62: 26B 1D7D 27D 2C67: 2C68 2C69: 2C6A 2C6B: 2C6C 2C6D: 251
271 250 252 2C72: 2C73 2C75: 2C76 2C7E: 23F+1 2C81 2C82: 2C83 2C84: 2C85 2C86: 2C87 2C88: 2C89
2C8A: 2C8B 2C8C: 2C8D 2C8E: 2C8F 2C90: 2C91 2C92: 2C93 2C94: 2C95 2C96: 2C97 2C98: 2C99 2C9A: 2C9B
2C9C: 2C9D 2C9E: 2C9F 2CA0: 2CA1 2CA2: 2CA3 2CA4: 2CA5 2CA6: 2CA7 2CA8: 2CA9 2CAA: 2CAB 2CAC: 2CAD
2CAE: 2CAF 2CB0: 2CB1 2CB2: 2CB3 2CB4: 2CB5 2CB6: 2CB7 2CB8: 2CB9 2CBA: 2CBB 2CBC: 2CBD 2CBE: 2CBF
2CC0: 2CC1 2CC2: 2CC3 2CC4: 2CC5 2CC6: 2CC7 2CC8: 2CC9 2CCA: 2CCB 2CCC: 2CCD 2CCE: 2CCF 2CD0: 2CD1
2CD2: 2CD3 2CD4: 2CD5 2CD6: 2CD7 2CD8: 2CD9 2CDA: 2CDB 2CDC: 2CDD 2CDE: 2CDF 2CE0: 2CE1 2CE2: 2CE3
2CEB: 2CEC 2CED: 2CEE 2CF2: 2CF3 A640: A641 A642: A643 A644: A645 A646: A647 A648: A649 A64A: A64B
A64C: A64D A64E: A64F A650: A651 A652: A653 A654: A655 A656: A657 A658: A659 A65A: A65B A65C: A65D
A65E: A65F A660: A661 A662: A663 A664: A665 A666: A667 A668: A669 A66A: A66B A66C: A66D A680: A681
A682: A683 A684: A685 A686: A687 A688: A689 A68A: A68B A68C: A68D A68E: A68F A690: A691 A692: A693
A694: A695 A696: A697 A698: A699 A69A: A69B A722: A723 A724: A725 A726: A727 A728: A729 A72A: A72B
A72C: A72D A72E: A72F A732: A733 A734: A735 A736: A737 A738: A739 A73A: A73B A73C: A73D A73E: A73F
A740: A741 A742: A743 A744: A745 A746: A747 A748: A749 A74A: A74B A74C: A74D A74E: A74F A750: A751
A752: A753 A754: A755 A756: A757 A758: A759 A75A: A75B A75C: A75D A75E: A75F A760: A761 A762: A763
A764: A765 A766: A767 A768: A769 A76A: A76B A76C: A76D A76E: A76F A779: A77A A77B: A77C A77D: 1D79
A77F A780: A781 A782: A783 A784: A785 A786: A787 A78B: A78C A78D: 265 A790: A791 A792: A793 A796:
A797 A798: A799 A79A: A79B A79C: A79D A79E: A79F A7A0: A7A1 A7A2: A7A3 A7A4: A7A5 A7A6: A7A7 A7A8:
A7A9 A7AA: 266 25C 261 26C 26A A7B0: 29E 287 29D AB53 A7B5 A7B6: A7B7 A7B8: A7B9 A7BA: A7BB A7BC:
A7BD A7BE: A7BF A7C0: A7C1 A7C2: A7C3 A7C4: A794 282 1D8E A7C8 A7C9: A7CA A7D0: A7D1 A7D6: A7D7
A7D8: A7D9 A7F5: A7F6 AB70: 13A0+4F 10400: 10428+27 104B0: 104D8+23 10570: 10597+A 1057C: 105A3+E
1058C: 105B3+6 10594: 105BB+1 10C80: 10CC0+32 118A0: 118C0+1F 16E40: 16E60+1F 1E900: 1E922+21
"

/-- The letters that folding changes, as a table. -/
def foldingTable : CodeTable (Image Unit) :=
  CodeTable.ofSpans (imageSpans (fun _ => ()) () 0 (tableWords foldings))

/-- What folding sends a letter to, if it changes it. -/
def folded? (code : Nat) : Option Nat :=
  (foldingTable.image? code).bind fun image => image.2.head?

/-- A letter after folding. -/
def folded (code : Nat) : Nat := (folded? code).getD code

end MagnumClient.Text
