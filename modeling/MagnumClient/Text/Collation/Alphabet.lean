/-
MagnumClient.Text.Collation.Alphabet — the characters in dictionary order.

`letters` lists everything that counts as a letter when texts are compared, from
white space over punctuation, symbols, currency signs and digits to the letters
of all scripts. Each word is a new letter after the one before. `10A0+25` stands
for a letter each of thirty-eight code points, `438.306` for a letter spelled
with two, `3042:E` for a letter of variant 14, and `660~` for another spelling of
the letter before, `251~8` for another variant of it. The usual variant is 2,
that of capitals 8.

`accents` lists the marks by their weight, which is their heading. `expansions`
lists what counts as several letters and accents, `!118~4` being an accent by
its weight. `unweighted` lists what does not count at all.

Not listed is what follows from elsewhere: what decomposes has the letters of its
parts, and a capital those of its small letter.
-/

namespace MagnumClient.Text.Collation

/-- The letters in their order. -/
def letters : String := "
9+4 85 2028+1 20 1680~4 203E 5F 2017 2D 58A 1400 1B60 1806+1 2010 2012+3 2E3A+1 2053 2E43 2E17
2E40 301C 3030 30A0 30FB 10EAD 2C 2E34 2E32 2E41 2E4C 2E4E+1 55D 60C+1 66B+1 7F8 1802 1808 A4FE
A60D A6F5 16E97 3001 FE45+1 16FE2 3B 61B 204F 2E35 A6F6 2E49 3A 589 61E 703+5 830+E 1361 1363+3
1804+1 F14 17D6 1B5D A9C7 16EB+2 A6F4 21 A1 55C 7F9 1944 1E95E 3F BF 2E2E 55E 61F 709 1367 1945
2CFA+1 A60F A6F7 AAF1 11143 1E95F 203D 2E18 2E 1801 6D4 701+1 1362 1803 1809 166E 1B5C 2CF9 2CFE
2E30 2E3C A4FF A60E A6F3 16AF5 16E98 1BC9F 3002 B7 2E31 2E33 964+1 A8CE+1 1C3B+1 A876+1 1735+1
A92F 104A+1 17D4+1 1AA8+3 1B5E+1 A9C8+1 AA5D+2 AAF0 ABEB 10A56+1 11047+1 110C0+1 11141+1 111C5+1
11238+1 1144B+1 115C2+1 11641+1 1173C+1 11944 11C41+1 16A6E+1 1C7E+1 700 7F7 10FB 1360 1368 1A1E+1
1B5A+1 A9C1+5 A9CA+3 A6F2 A95F 10857 10B3A+5 10F55+4 110BE+1 11140 111C8 111DE+1 112A9 1173E 11946
11EF7+1 2055+1 2058+6 2E2A+3 2E3D 2CFC 2CFF 2E19 1093F 10100+2 1039F 103D0 1091F 12470+4 27 2018+3
2039+1 22 201C+3 2E42 301D+2 AB BB 28+1 5B 5D 7B 7D F3A+3 169B+1 2045+1 2308+3 29FC+1 2983+15
27C5+1 27E6+9 2768+D 2E02+3 2E09+1 2E0C+1 2E1C+1 2E20+9 3008+9 3014+7 FD3E+1 2016 2E3E 29D8+3 A7
2E39 B6 204B 2E4D 2E3F 40 2A 204E 2051 66D A673 2F 5C 2E4A 26 204A 2E52 23 25 66A 2030 609 2031
60A 2020+1 2E36+2 2E4B 2022+1 2027 2043 204C+1 2032 2035 3003 303D 2038 203B 203F 2054 2040 2050
2041+1 2E00+1 2E06+2 2E0B 2E0E+8 2E1A+1 2E1E+1 2E44+4 A67E 55A+1 55F 5BE 5C0 5C3 5C6 5F3+1 70A+3
85E 1800 11660+C 970 A8F8+2 A8FC 9FD A76 AF0 C77 C84 DF4 E4F E5A+1 AADE+1 F04+6 FD0+1 F0B F0D+5
F85 FD2+2 FD9+1 11A3F+7 11A9A+2 11A9E+4 11C70+1 1C3D+2 104C+3 17D8+2 1AA0+6 1AAC+1 1CC0+7 2D70
A874+1 1BFC+3 A92E A9DE+1 AA5C 1056F 11049+4 10A50+5 10A58 11C43+2 10B39 10AF0+6 10B99+3 110BB+1
11174+1 111CD 111C7 111DB 111DD 1123A+3 1144D 1145A 1144E+1 1145B 1145D 114C6 115C1 115C4+13 11643
1183B 11945 119E2 11FFF 16B37+4 16B44 16E99+1 1DA87+4 10A7F 60 B4 384~ 2DC 5E AF 2D8+1 A8 2DA 2DD
B8 2DB 1FBD 1FBF~ 1FFE 1FC0 309B+1 2B9 375 2BA 2C2+D 2D2+3 AB6A+1 2D6+1 2DE+1 2E5+8 2EF+10 1390+9
A700+21 A788+2 AB5B B0 482 58D+1 608 1EEF0+1 60E+1 6DE 6E9 FDFD FBB2+F 7F6 9FA B70 BF3+5 BFA
11FD5+7 11FE1+10 C7F D4F D79 A828+3 A836+1 A839 F01+2 F13 F15+2 F1A+5 F34 F36 F38 FBE+7 FC7+5
FCE+1 FD5+3 166D 1940 109E+1 AA77+2 1173F 19E0+1F 1B61+9 1B74+8 A9 1F12F AE 1F1AD 2104 2108 2114
2117+1 211E+1 2123 2125 2127 2129 212E 213A 2141+3 214A 214C 214F 218A+1 2190 2192 2191 2193+6
219C+11 21AF+1D 21D0+33 2205+3 220A+1 220D 3F6 220E+3 2B B1 F7 D7 3C+2 AC 7C A6 7E 2212 2052
2213+2 2044 2216+5 606 221C 607 221D+6 2225 2227+4 222E 2231+F 2242+1 2245+1 2248 224A+15 2261
2263+9 2272+1 2276+1 227A+5 2282+1 2286+1 228A+21 22B0+C 214B 22BD+22 22E4+5 22EE+19 230C+1C
232B+FB 2440+A 2500+FF 1FB00+92 1FB94+36 2600+2F 2638+34 2670+19 2690+6F 1F1E6+19 2700+20 2E50+1
2721+46 2794+30 27C7+1E 27F0+F 2900+82 2999+3E 29DC+1F 29FE+D 2A0D+66 2A77+64 2ADD+96 2B76+1F
2B97+68 2CE5+5 2800+FF 268A+5 2630+7 4DC0+3F 1D300+56 A490+36 10137+8 10179+10 1018C+2 10190+C
101A0 101D0+2C 10877+1 16B3C+3 16B45 1E14F 1D000+F5 1D100+26 266D+2 1D12A+F 1D129 1D13A+23 1D16A+2
1D183+1 1D18C+1D 1D1AE+C 1D1C1+29 1D200+41 1D245 1BC9C 1ECAC 1ED2E 1F000+2B 1F030+63 1F0A0+E
1F0B1+E 1F0C1+E 1F0D1+24 1FA00+53 1FA60+D 1F10D+2 1F16D+2 1F260+5 1F300+2FF 1F900+FF 1FA70+C
1FA80+8 1FA90+2D 1FABF+6 1FACE+D 1FAE0+8 1FAF0+8 1F600+D7 1F6DC+10 1F6F0+C 1F700+76 1F77B+5E
1F7E0+B 1F7F0 1F800+B 1F810+37 1F850+9 1F860+27 1F890+1D 1F8B0+1 1D800+1FF 1DA37+3 1DA6D+7 1DA76+D
1DA85+1 2FF0+B 31C0+23 3004 3012+1 3020 3037 303E+1 3190+1 327F FFFC 2D0+1 971 E46 EC6 17D7 1AA7
A9CF A9E6 AA70 AADD AAF3+1 16B42+1 1E13C+1 3005 303B 16FE0+1 16FE3 3031 3033 3035 309D 30FC+1 A4
A2 24 A3 A5 58F 60B 7FE+1 9F2+1 9FB AF1 A838 BF9 11FDD+3 E3F 17DB 1E2FF 20A0+19 1ECB0 20BA+6 FDFC
9F4+5 B72+5 A830+5 BF0+2 11FC0+14 D58+6 D70+8 1372+A 2180+2 2186+2 10E69+15 2CFD 10322+1 10CFC+3
10110+23 10140+1 10144+3 10149+5 10150+7 10160+12 10174+4 1018B 102EA+11 103D3+2 1087E+1 108AD+2
108FD+2 10A7E 10A9E+1 10917+2 1085B+4 10AED+2 10B5C+3 10B7C+3 10BAD+2 10F22+4 10F52+2 10FC9+2
1173A+1 1105B+A 10A44+4 11C63+9 111EA+A 118EA+8 16B5B+6 16E8A+9 1D2EA+9 1EC7A+28 1ECAD+2 1ECB3+1
1ED0A+23 1ED37+6 109C9+6 109D2+23 109BD 109F6+9 109BC 12432+1 1245A+E 1D369+8 30 660~ 6F0~ 7C0~
966~ 9E6~ A66~ AE6~ B66~ BE6~ C66~ C78~ CE6~ D66~ DE6~ E50~ ED0~ F20~ 1040~ 1090~ 17E0~ 17F0~
1810~ 1946~ 19D0~ 1A80~ 1A90~ 1B50~ 1BB0~ 1C40~ 1C50~ 3007~ A620~ A8D0~ A900~ A9D0~ A9F0~ AA50~
ABF0~ 1018A~ 104A0~ 10D30~ 11066~ 110F0~ 11136~ 111D0~ 112F0~ 11450~ 114D0~ 11650~ 116C0~ 11730~
118E0~ 11950~ 11C50~ 11D50~ 11DA0~ 11F50~ 16A60~ 16AC0~ 16B50~ 16E80~ 1D2E0~ 1E140~ 1E2F0~ 1E4F0~
1E950~ F33~4 24FF~6 1F10B+1~6 31 661~ 6F1~ 7C1~ 967~ 9E7~ A67~ AE7~ B67~ BE7~ C67~ C79~ C7C~ CE7~
D67~ DE7~ E51~ ED1~ F21~ 1041~ 1091~ 1369~ 17E1~ 17F1~ 1811~ 1947~ 19D1~ 19DA~ 1A81~ 1A91~ 1B51~
1BB1~ 1C41~ 1C51~ 3021~ A621~ A8D1~ A901~ A9D1~ A9F1~ AA51~ ABF1~ 10107~ 10142~ 10158+2~ 102E1~
10320~ 103D1~ 104A1~ 10858~ 10879~ 108A7~ 108FB~ 10916~ 109C0~ 10A40~ 10A7D~ 10A9D~ 10AEB~ 10B58~
10B78~ 10BA9~ 10CFA~ 10D31~ 10E60~ 10F1D~ 10F51~ 10FC5~ 11052~ 11067~ 110F1~ 11137~ 111D1~ 111E1~
112F1~ 11451~ 114D1~ 11651~ 116C1~ 11731~ 118E1~ 11951~ 11C51~ 11C5A~ 11D51~ 11DA1~ 11F51~ 12415~
1241E~ 1242C~ 12434~ 1244F~ 12458~ 16A61~ 16AC1~ 16B51~ 16E81~ 1D2E1~ 1D360~ 1D372~ 1D377~ 1E141~
1E2F1~ 1E4F1~ 1E8C7~ 1E951~ 1EC71~ 1ECA3~ 1ED01~ F2A~4 24F5~6 2776~6 2780~6 278A~6 32 662~ 6F2~
7C2~ 968~ 9E8~ A68~ AE8~ B68~ BE8~ C68~ C7A~ C7D~ CE8~ D68~ DE8~ E52~ ED2~ F22~ 1042~ 1092~ 136A~
17E2~ 17F2~ 1812~ 1948~ 19D2~ 1A82~ 1A92~ 1B52~ 1BB2~ 1C42~ 1C52~ 3022~ A622~ A8D2~ A902~ A9D2~
A9F2~ AA52~ ABF2~ 10108~ 1015B+3~ 102E2~ 103D2~ 104A2~ 10859~ 1087A~ 108A8~ 1091A~ 109C1~ 10A41~
10B59~ 10B79~ 10BAA~ 10D32~ 10E61~ 10F1E~ 10FC6~ 11053~ 11068~ 110F2~ 11138~ 111D2~ 111E2~ 112F2~
11452~ 114D2~ 11652~ 116C2~ 11732~ 118E2~ 11952~ 11C52~ 11C5B~ 11D52~ 11DA2~ 11F52~ 12400~ 12416~
1241F~ 12423~ 1242D~ 12435~ 1244A~ 12450~ 12456~ 12459~ 16A62~ 16AC2~ 16B52~ 16E82~ 1D2E2~ 1D361~
1D373~ 1E142~ 1E2F2~ 1E4F2~ 1E8C8~ 1E952~ 1EC72~ 1ECA4~ 1ED02~ F2B~4 24F6~6 2777~6 2781~6 278B~6
33 663~ 6F3~ 7C3~ 969~ 9E9~ A69~ AE9~ B69~ BE9~ C69~ C7B~ C7E~ CE9~ D69~ DE9~ E53~ ED3~ F23~ 1043~
1093~ 136B~ 17E3~ 17F3~ 1813~ 1949~ 19D3~ 1A83~ 1A93~ 1B53~ 1BB3~ 1C43~ 1C53~ 3023~ A623~ A8D3~
A903~ A9D3~ A9F3~ AA53~ ABF3~ 10109~ 102E3~ 104A3~ 1085A~ 1087B~ 108A9~ 1091B~ 109C2~ 10A42~
10B5A~ 10B7A~ 10BAB~ 10D33~ 10E62~ 10F1F~ 10FC7~ 11054~ 11069~ 110F3~ 11139~ 111D3~ 111E3~ 112F3~
11453~ 114D3~ 11653~ 116C3~ 11733~ 118E3~ 11953~ 11C53~ 11C5C~ 11D53~ 11DA3~ 11F53~ 12401~ 12408~
12417~ 12420~ 12424+1~ 1242E+1~ 12436+1~ 1243A+1~ 1244B~ 12451~ 12457~ 16A63~ 16AC3~ 16B53~ 16E83~
1D2E3~ 1D362~ 1D374~ 1E143~ 1E2F3~ 1E4F3~ 1E8C9~ 1E953~ 1EC73~ 1ECA5~ 1ED03~ F2C~4 24F7~6 2778~6
2782~6 278C~6 34 664~ 6F4~ 7C4~ 96A~ 9EA~ A6A~ AEA~ B6A~ BEA~ C6A~ CEA~ D6A~ DEA~ E54~ ED4~ F24~
1044~ 1094~ 136C~ 17E4~ 17F4~ 1814~ 194A~ 19D4~ 1A84~ 1A94~ 1B54~ 1BB4~ 1C44~ 1C54~ 3024~ A624~
A8D4~ A904~ A9D4~ A9F4~ AA54~ ABF4~ 1010A~ 102E4~ 104A4~ 1087C~ 108AA+1~ 109C3~ 10A43~ 10B5B~
10B7B~ 10BAC~ 10D34~ 10E63~ 10F20~ 10FC8~ 11055~ 1106A~ 110F4~ 1113A~ 111D4~ 111E4~ 112F4~ 11454~
114D4~ 11654~ 116C4~ 11734~ 118E4~ 11954~ 11C54~ 11C5D~ 11D54~ 11DA4~ 11F54~ 12402~ 12409~ 1240F~
12418~ 12421~ 12426~ 12430~ 12438~ 1243C+3~ 1244C~ 12452+1~ 12469~ 16A64~ 16AC4~ 16B54~ 16E84~
1D2E4~ 1D363~ 1D375~ 1E144~ 1E2F4~ 1E4F4~ 1E8CA~ 1E954~ 1EC74~ 1ECA6~ 1ED04~ F2D~4 24F8~6 2779~6
2783~6 278D~6 35 665~ 6F5~ 7C5~ 96B~ 9EB~ A6B~ AEB~ B6B~ BEB~ C6B~ CEB~ D6B~ DEB~ E55~ ED5~ F25~
1045~ 1095~ 136D~ 17E5~ 17F5~ 1815~ 194B~ 19D5~ 1A85~ 1A95~ 1B55~ 1BB5~ 1C45~ 1C55~ 3025~ A625~
A8D5~ A905~ A9D5~ A9F5~ AA55~ ABF5~ 1010B~ 10143~ 10148~ 1014F~ 1015F~ 10173~ 102E5~ 10321~ 104A5~
1087D~ 108AC~ 108FC~ 109C4~ 10AEC~ 10CFB~ 10D35~ 10E64~ 10F21~ 11056~ 1106B~ 110F5~ 1113B~ 111D5~
111E5~ 112F5~ 11455~ 114D5~ 11655~ 116C5~ 11735~ 118E5~ 11955~ 11C55~ 11C5E~ 11D55~ 11DA5~ 11F55~
12403~ 1240A~ 12410~ 12419~ 12422~ 12427~ 12431~ 12439~ 1244D~ 12454+1~ 1246A~ 16A65~ 16AC5~
16B55~ 16E85~ 1D2E5~ 1D364~ 1D376~ 1D378~ 1E145~ 1E2F5~ 1E4F5~ 1E8CB~ 1E955~ 1EC75~ 1ECA7~ 1ED05~
F2E~4 24F9~6 277A~6 2784~6 278E~6 36 666~ 6F6~ 7C6~ 96C~ 9EC~ A6C~ AEC~ B6C~ BEC~ C6C~ CEC~ D6C~
DEC~ E56~ ED6~ F26~ 1046~ 1096~ 136E~ 17E6~ 17F6~ 1816~ 194C~ 19D6~ 1A86~ 1A96~ 1B56~ 1BB6~ 1C46~
1C56~ 2185~ 3026~ A626~ A8D6~ A906~ A9D6~ A9F6~ AA56~ ABF6~ 1010C~ 102E6~ 104A6~ 109C5~ 10D36~
10E65~ 11057~ 1106C~ 110F6~ 1113C~ 111D6~ 111E6~ 112F6~ 11456~ 114D6~ 11656~ 116C6~ 11736~ 118E6~
11956~ 11C56~ 11C5F~ 11D56~ 11DA6~ 11F56~ 12404~ 1240B~ 12411~ 1241A~ 12428~ 12440~ 1244E~ 1246B~
16A66~ 16AC6~ 16B56~ 16E86~ 1D2E6~ 1D365~ 1E146~ 1E2F6~ 1E4F6~ 1E8CC~ 1E956~ 1EC76~ 1ECA8~ 1ED06~
F2F~4 24FA~6 277B~6 2785~6 278F~6 37 667~ 6F7~ 7C7~ 96D~ 9ED~ A6D~ AED~ B6D~ BED~ C6D~ CED~ D6D~
DED~ E57~ ED7~ F27~ 1047~ 1097~ 136F~ 17E7~ 17F7~ 1817~ 194D~ 19D7~ 1A87~ 1A97~ 1B57~ 1BB7~ 1C47~
1C57~ 3027~ A627~ A8D7~ A907~ A9D7~ A9F7~ AA57~ ABF7~ 1010D~ 102E7~ 104A7~ 109C6~ 10D37~ 10E66~
11058~ 1106D~ 110F7~ 1113D~ 111D7~ 111E7~ 112F7~ 11457~ 114D7~ 11657~ 116C7~ 11737~ 118E7~ 11957~
11C57~ 11C60~ 11D57~ 11DA7~ 11F57~ 12405~ 1240C~ 12412~ 1241B~ 12429~ 12441+2~ 1246C~ 16A67~
16AC7~ 16B57~ 16E87~ 1D2E7~ 1D366~ 1E147~ 1E2F7~ 1E4F7~ 1E8CD~ 1E957~ 1EC77~ 1ECA9~ 1ED07~ F30~4
24FB~6 277C~6 2786~6 2790~6 38 668~ 6F8~ 7C8~ 96E~ 9EE~ A6E~ AEE~ B6E~ BEE~ C6E~ CEE~ D6E~ DEE~
E58~ ED8~ F28~ 1048~ 1098~ 1370~ 17E8~ 17F8~ 1818~ 194E~ 19D8~ 1A88~ 1A98~ 1B58~ 1BB8~ 1C48~ 1C58~
3028~ A628~ A8D8~ A908~ A9D8~ A9F8~ AA58~ ABF8~ 1010E~ 102E8~ 104A8~ 109C7~ 10D38~ 10E67~ 11059~
1106E~ 110F8~ 1113E~ 111D8~ 111E8~ 112F8~ 11458~ 114D8~ 11658~ 116C8~ 11738~ 118E8~ 11958~ 11C58~
11C61~ 11D58~ 11DA8~ 11F58~ 12406~ 1240D~ 12413~ 1241C~ 1242A~ 12444+1~ 1246D~ 16A68~ 16AC8~
16B58~ 16E88~ 1D2E8~ 1D367~ 1E148~ 1E2F8~ 1E4F8~ 1E8CE~ 1E958~ 1EC78~ 1ECAA~ 1ED08~ F31~4 24FC~6
277D~6 2787~6 2791~6 39 669~ 6F9~ 7C9~ 96F~ 9EF~ A6F~ AEF~ B6F~ BEF~ C6F~ CEF~ D6F~ DEF~ E59~ ED9~
F29~ 1049~ 1099~ 1371~ 17E9~ 17F9~ 1819~ 194F~ 19D9~ 1A89~ 1A99~ 1B59~ 1BB9~ 1C49~ 1C59~ 3029~
A629~ A8D9~ A909~ A9D9~ A9F9~ AA59~ ABF9~ 1010F~ 102E9~ 104A9~ 109C8~ 10D39~ 10E68~ 1105A~ 1106F~
110F9~ 1113F~ 111D9~ 111E9~ 112F9~ 11459~ 114D9~ 11659~ 116C9~ 11739~ 118E9~ 11959~ 11C59~ 11C62~
11D59~ 11DA9~ 11F59~ 12407~ 1240E~ 12414~ 1241D~ 1242B~ 12446+3~ 1246E~ 16A69~ 16AC9~ 16B59~
16E89~ 1D2E9~ 1D368~ 1E149~ 1E2F9~ 1E4F9~ 1E8CF~ 1E959~ 1EC79~ 1ECAB~ 1ED09~ F32~4 24FD~6 277E~6
2788~6 2792~6 61 363~4 1F150~C 1F170~1D 1D00 2C65 1D8F A7BB 1D01+1 AB31 250 251 1DE7~4 AB30 1D90
252 AB64 62 1DE8~4 1F151~C 1F171~1D 299 180 1D2F 1D03 1D6C A797 1D80 253 183 A7B5 1DE9~4 63 368~4
1F152~C 1F172~1D 1D04 23C A793+1 188 255 2184 A73F 64 369~4 1F153~C 1F1A5~1C 1F173~1D 1D05+1 A7C8
1D6D 1D81 256+1 1D91 18C 221 A771 1E9F 65 364~4 1F154~C 1F174~1D 1D07 AB32+1 247 1D92 AB34 2C78
1DD 2C7B 259 1DEA~4 1D95 25B 1D93 258 25A 25C 1D94 1D08 1D4C~14 25D+1 29A 264 66 1DEB~4 1F155~C
1F175~1D A730 AB35 A799 1D6E 1D82 192 214E A7FB 67 1DDA~4 1F156~C 1F176~1D 261 AB36 262 1DDB~4 1E5
1D83 260 29B 1D77 A77F 263 1A3 68 36A~4 1F157~C 1F177~1D 29C 195 A795 266 2C68 2C76 A7F6 A727 267
2BB 2BD 69 365~4 1F158~C 1F178~1D 131 26A A7FE A7F7 1D09 1D4E~14 268 1D7B 1D96 A7BD 269 1D7C 6A
1F159~C 1F179~1D 237 1D0A 249 29D 25F 284 6B 1DDC~4 1F15A~C 1F17A~1D 1D0B 1D84 199 2C6A A741 A743
A745 29E 6C 1DDD~4 1F15B~C 1F17B~1D 29F 1DDE~4 A747 1D0C A749 19A 2C61 26B AB38 1DEC~4 AB39 26C
AB37 1D85 26D A78E 234 A772 26E A781 19B 28E 6D 36B~4 1F15C~C 1F17C~1D 1D0D 1DDF~4 1D6F 1D86 271
AB3A A7FD A7FF A773 6E 1DE0~4 1F15D~C 1F17D~1D 274 1DE1~4 1D3B 1D0E 1D70 272 19E A791 1D87 273 235
AB3B A774 14B AB3C 6F 366~4 1F15E~C 1F17E~1D 1D0F 1D11 AB3D 276 1D14 AB41+1 AB40 AB43+1 1D13 AB3E
254 1D10 1D12 AB3F 1D97 AB62 A74D 1D16+1 2C7A 275 A74B 277 A7B7 223 1D15 70 1DEE~4 1F15F~C
1F17F~1D 1F18A~1D 1D18 1D7D A751 1D71 1D88 1A5 A753 A755 A7FC 278 2C77 71 1F160~C 1F180~1D A7AF
A757 A759 2A0 24B 138 72 36C~4 1DCA~4 1F161~C 1F181~1D AB45 280 1DE2~4 AB46 A75B 1DE3~4 1D19 24D
1D72 279 1D1A 27A 1D89 27B 2C79 27C+1 AB49 27E 1D73 27F AB47+1 AB4A+2 281 AB68 A775+1 A75D 73
1DE4~4 1F162~C 1F182~1D A731 A7CA 1D74 1D8A 282 23F 1E9C+1 283 1DEF~4 AB4D 1D8B 1AA 285 1D98 286
74 36D~4 1F163~C 1F183~1D 1D1B 167 2C66 1D75 1AB 1AD 288 236 A777 287 75 367~4 1F164~C 1F184~1D
1D1C AB4E 1D1D+1 1D6B AB50+1 289 AB4F A7B9 1D7E 1D99 AB52 A7BF 265 2AE+1 26F A7FA 1D1F 270 28A
1D7F 76 36E~4 1F165~C 1F185~1D 1D20 A75F 1D8C 28B 2C71 2C74 1EFD 28C 77 1ABF~4 1DF1~4 1F166~C
1F186~1D 1D21 A7C3 2C73 28D 1AC0~4 78 36F~4 1F167~C 1F187~1D 1D8D AB56+3 AB53+2 79 1F168~C
1F188~1D 28F 24F 1B4 1EFF AB5A 21D 7A 1DE6~4 1F169~C 1F189~1D 1D22 1B6 1D76 1D8E 225 290+1 240
2C6C A763 292 1D23 1B9 1D9A 1BA 293 FE A765 A767 1BF A769 AB60+1 AB63 A76B A76D A76F 1DD2~4 A778
1BB A72B A72D A72F 1A8 1BD 185 294 242 2C0 2BC 2EE 2BE A723 A78C A78F 295 2BF 2C1 1D24+1 A725
2A1+1 296 1C0+3 297+1 2AC+1 3B1+2 1D26 3B4+1 3DD 377 3DB 3B6 371 3B7+1 3B9 37A~4 3F3 3BA+1 1D27
3BC+4 1D28 3FB 3DF 3D9 3C1 1D29 3FC 3C3 3C2~19 37C 37B 37D 3C4+4 1D2A 3C9 AB65 3E1 373 3F8 2C81
2C83 2C85 2C87 2C89 2CB7 2C8B 2C8D 2C8F 2C91 2C93 2C95 2CB9 2C97 2C99 2C9B 2CBB 2CBD 2C9D 2C9F
2CA1 2CA3 2CA5 2CA7 2CA9 2CAB 2CAD 2CAF 2CB1 2CBF 2CC1 3E3 2CEC 2CC3 2CC5 2CC7 3E5 3E7 2CF3 2CC9
3E9 2CCB 2CCD 2CCF 2CD1 2CD3 2CD5 3EB 2CEE 2CD7 3ED 2CD9 2CDB 2CDD 3EF 2CB3 2CB5 2CDF 2CE1 2CE3
430 2DF6~4 4D9 4D5 431 2DE0~4 432 1C80~4 2DE1~4 433 2DE2~4 493 4FB 495 4F7 434 1C81~4 2DE3~4 501
A681 452 A663 503 499 435 2DF7~4 454 A674~4 436 2DE4~4 52B A685 497 437 2DE5~4 A641 505 511 A643
455 A645 4E1 A689 507 A683 438 A675~4 48B 456 A647 438.306 418.306~8 458 A649 2DF8~4 43A 2DE6~4
49B 4C4 4A1 49F 49D 51F 51B 43B 2DE7~4 1D2B 4C6 52F 513 521 459 A665 509 515 43C 2DE8~4 4CE A667
43D 2DE9~4 529 4CA 4A3 4C8 523 4A5 45A 50B 43E 1C82~4 2DEA~4 A669~4 A66B~4 A66D+1~4 A699~4 A69B~4
4E9 43F 2DEB~4 525 4A7 481 440 2DEC~4 48F 517 441 1C83~4 2DED~4 50D 4AB 442 1C84+1~4 2DEE~4 A68D
50F 4AD A68B 45B 443 A677~4 4AF 4B1 A64B 1C88~4 2DF9~4 479 444 A69E~4 445 2DEF~4 4FD 4FF 4B3 4BB
527 A695 461 A67B~4 47F A64D 47D 47B 446 2DF0~4 A661 A68F 4B5 A691 447 2DF1~4 52D A693 4B7 4CC 4B9
A687 4BD 4BF 45F 448 2DF2~4 A697 449 2DF3~4 A64F 2E2F A67F 44A 1C86~4 A678~4 A651 44B A679~4 44C
A67A~4 48D 463 1C87~4 2DFA~4 A653 44D 44E 2DFB~4 A655 A657 2DFC~4 44F 519 465 A69F~4 467 2DFD~4
A659 46B 2DFE~4 A65B 469 A65D 46D 2DFF~4 46F 471 473 2DF4~4 475 A65F 4A9 51D 4CF 2C30 1E000~4 2C31
1E001~4 2C32 1E002~4 2C33 1E003~4 2C34 1E004~4 2C35 1E005~4 2C36 1E006~4 2C37 2C38 1E008~4 2C39
1E009~4 2C3A 1E00A~4 2C3B 1E00B~4 2C3C 1E00C~4 2C3D 1E00D~4 2C3E 1E00E~4 2C3F 1E00F~4 2C40 1E010~4
2C41 1E011~4 2C42 1E012~4 2C43 1E013~4 2C44 1E014~4 2C45 1E015~4 2C46 1E016~4 2C47 1E017~4 2C48
1E018~4 2C49+1 2C4B 1E01B~4 2C4C 1E01C~4 2C4D 1E01D~4 2C4E 1E01E~4 2C4F 1E01F~4 2C50 1E020~4 2C51
1E021~4 2C52 2C53 1E023~4 2C54 1E024~4 2C55 2C56 1E026~4 2C57 1E027~4 2C58 1E028~4 2C59 1E029~4
2C5A 1E02A~4 2C5B+3 10350 10376~4 10351+1 10353 10377~4 10354+2 10357 10378~4 10358+4 1035D
10379~4 1035E+2 10361 1037A~4 10362+13 10D0 2D00 10D1 2D01 10D2 2D02 10D3 2D03 10D4 2D04 10D5 2D05
10D6 2D06 10F1 2D21 10D7 2D07 10D8 2D08 10D9 2D09 10DA 2D0A 10DB 2D0B 10DC 2D0C 10F2 2D22 10DD
2D0D 10DE 2D0E 10DF 2D0F 10E0 2D10 10E1 2D11 10E2 2D12 10F3 2D23 10E3 2D13 10E4 2D14 10E5 2D15
10E6 2D16 10E7 2D17 10E8 2D18 10E9 2D19 10EA 2D1A 10EB 2D1B 10EC 2D1C 10ED 2D1D 10EE 2D1E 10F4
2D24 10EF 2D1F 10F0 2D20 10F5 2D25 10F6+1 2D27 10F8+2 10FD 2D2D 10FE+1 561 560 562+13 588 576+10
559 5D0+9 5DB 5DA~19 5DC 5DE 5DD~19 5E0 5DF~19 5E1+1 5E4 5E3~19 5E6 5E5~19 5E7+3 10900+15 800+17
81A+1 621 674~4 627.653 627.654 672 671 648.654 627.655 673 773+1 64A.654 8A8+1 8AC 627 8AD~4 66E
628 67B 67E 680 750+5 8A0 756 8BE 8A1 8B6+1 629+2 679+1 67C+1 67F 8B8 8BF+1 62C 683+1 686 6BF 687
8A2 8C1 8C5+1 62D+1 681+1 685 757+1 76E+1 772 77C 62F+1 688+5 8AE 68E+2 6EE 759+1 631+1 691+8 6EF
75B 76B+1 771 8AA 8B2 8B9 633+1 69A+2 6FA 75C 76D 770 77D+1 635+1 69D 8AF 69E 6FB 637+1 69F 8A3
639+1 6A0 8C3 6FC 75D+2 8B3 641 6A1+1 8BB 6A3+1 8A4 6A5+1 760+1 66F 642 6A7 8BC 6A8 8C4 8A5 643
6A9+3 77F 6AD+1 8B4 6AF 8B0 6B0+4 762 63B+1 763+1 8C2 644 6B5+3 76A 8A6 8C7 645 765+1 8A7 646 6BA
8BD 6BB+2 6B9 767+2 647 6BE 6C1 6C3 6FF 6D5 648 6E5~4 6C4+7 8B1 6CF 778+1 8AB 649 64A 6E6~4 6CC+2
6D0+1 63D+2 620 775+2 8BA 6D2 77A+1 710 712+1 716 715 717+2 74D 71A+1 71D+2 74E 720+2 723 724~19
725+1 74F 728+4 860+A 840+18 780 799+1 781+2 79C 784+3 7A2+1 788 7A5 789+2 79B 78C 798 7A0+1 78D+1
7A4 78F+1 79D+2 791+6 7B1 7A6+A 7CA+1D 7F4+1 2D30+B 2D66 2D3C+17 2D67 2D54+11 2D6F 1200+F 2D80
1210+F 1380+3 2D81 1220+F 2D82 1230+7 2D83 AB01+5 1238+7 2D84 1240+8 124A+3 1250+6 1258 125A+3
1260+7 1384+3 2D85 1268+F 2D86 1278+7 2D87 1280+8 128A+3 1290+7 2D88 1298+7 2D89 12A0+7 2D8A
12A8+8 12B2+3 12B8+6 12C0 12C2+3 12C8+E 12D8+7 2D8B AB11+5 12E0+17 2D8C AB09+5 12F8+7 2D8D 1300+7
2D8E 1308+8 1312+3 1318+7 2D93+3 1320+7 2D8F 1328+7 2D90 AB20+6 1330+7 2D91 1338+7 AB28+6 1340+F
1388+3 1350+7 138C+3 2D92 1358+2 2DA0+6 2DA8+6 2DB0+6 2DB8+6 2DC0+6 2DC8+6 2DD0+6 2DD8+6 950 A8FD
972 904+2 973+4 907+4 960 90C 961 90D+3 A8FE 911+6 97B 918+4 979 97C 91D+3 978 921 97E 922+6 92A+2
97F 92D+2 97A 930 932+1 935+4 93D 97D 1CE9 1CEA+2~4 1CEE+3~4 1CFA~4 1CF5+1 A8F2 A8F3+4~4 A8FB 93E
93A+1 94F 956+1 93F+5 962+1 945 955 946+1 94E 948 A8FF 949+4 980 985+6 9E0 98C 9E1 98F+1 993+15
9AA+6 9F0 9B2 9F1 9B6+3 9BD+7 9E2+1 9C7+1 9C7.9BE 9C7.9D7 9CD 9D7 9FC A74 A73 A09+1 A13 A05+1 A10
A14 A72 A07+1 A0F A38+1 A51 A15+13 A2A+5 A75 A30 A32 A35 A5C A3E+4 A47+1 A4B+2 AD0 A85+6 AE0 A8C
AE1 A8D A8F+2 A93+9 AF9 A9D+B AAA+6 AB2 AB5+4 AB3 ABD+7 AE2+1 AC5 AC7+2 ACB+2 B05+6 B60 B0C B61
B0F+1 B13+15 B2A+5 B5F B30 B32+1 B35 B71 B36+3 B3D+7 B62+1 B47 B47.B56 B47.B3E B47.B57 B4D B56+1
BD0 B85+5 B8E+2 B92+1 B92.BD7 B83 B95 B99+1 B9E+1 BA3+1 BA8 BAA BAE+2 BB2 BB5 BB4 BB3 BB1 BA9 B9C
BB6+3 BBE+4 BC6+2 BC6.BBE BC7.BBE BC6.BD7 BCD BD7 C05+6 C60 C0C C61 C0E+2 C12+8 C58 C1B+1 C59
C1D+B C2A+8 C35+4 C33+1 C5A C3D+7 C62+1 C46+1 C46.C56 C4A+3 C55+1 C85+6 CE0 C8C CE1 C8E+2 C92+16
CAA+8 CB5+4 CB3 CDE CBD CF1+1 C80 CBE+1 CBF.CD5 CC1+3 CE2+1 CC6 CC6.CD5 CC6.CD6 CC6.CC2
CC6.CC2.CD5 CCC+1 CD5+1 D05+3 D5F D09+2 D60 D0C D61 D0E+2 D12+1E D32 D35+4 D33+1 D31 D3A D3D D04
D3E+6 D62+1 D46+2 D46.D3E D47.D3E D46.D57 D57 D4D D3B+1~4 D85+11 D9A+17 DB3+8 DBD DC0+6 DCF+5 DD6
DD8 DF2 DDF DF3 DD9 DD9.DCA DDB DD9.DCF DD9.DCF.DCA DD9.DDF DCA AAF2 ABC0+1A AAE0+A ABE3+7 AAEB+4
AAF5 ABDB+7 ABED AAF6 A800+6 A82C A807+3 A80C+1B A882+42 11083+16 1109B 1109D+D 110AC+D 11150+1F
11176 11170+2 111C4 111DA 11183+2F 111C1+2 111DC 111B3+9 111CE 111BD+3 11200+11 11213+20 11235
112B0+2E 112E0+8 112EA 11280+3 112A5+1 11284+2 11288 1128A+3 1128F+E 1129F+5 112A7+1 11350 11305+6
11360 1130C 11361 1130F+1 11313+15 1132A+6 11332+1 11335+4 1133D 1135E+1 1133E+6 11362+1 11347+1
11347.1133E 11347.11357 1134D 11357 1135D 11449+1 11400+34 11447 11460+1 11448 1145F 11435+D 114C7
11480+2F 114C4+1 114B0+A 114B9.114BA 114B9.114B0 114BD 114B9.114BD 114C2 11580+35 115B8+1
115B8.115AF 115B9.115AF 115BF 11600+3C 1163F 11644 11680+9 116A8 116A7 116A9 1168A+1 116B8
1168C+1A 116AA 116AD+9 11900+6 11909 1190C+4 1193F 11911+2 11915+1 11918+D 11940 11926 11941 11927
11942 11928+D 11937 11935.11930 1193D+1 119A0+7 119AA+26 119E1 119E3 119D1+6 119DA 119E4 119DB+2
119E0 11800+36 11839 11700+4 11706+F 11717+2 11720+B 1171D+2 11D00+6 11D08+1 11D0B+1A 11D26
11D46~17 11D47~19 11D27+F 11D3A 11D3C+1 11D3F 11D44+1 11D98 11D60+5 11D67+1 11D6A+24 11D90+1
11D93+1 11D97 1B83 1BBA~4 1B84+5 1B8A 1BBE~19 1BAE 1B8B+D 1BBD 1B99 1BBF~19 1BAC 1B9A 1BA1 1B9B
1BA2 1BBB 1B9C 1BA3 1BBC 1B9D 1BAD 1B9E+1 1BAF 1BA0 1BA4+7 11005+2E 11003+1 11034+12 1107F 10A00+3
10A05+1 10A0C 10A10 10A32 10A11+2 10A15+2 10A19+1 10A34 10A1B 10A33 10A1C+10 10A35 10A2D+4 10A3F
11C00+8 11C0A+24 11C40 11C2F+7 11C38+3 11C3F E01+31 E33 E4D.E32~ E34+6 E40+5 EDE E81+1 E84 E86+3
EAA E8A E8C E8E EDF E8D E8F+14 EA5 EA7+2 EAB+7 EB3 ECD.EB2~ EB4+9 EC0+4 AA80+3E AAC0 AAC2 AADB+1
F40 F90 F6B F41 F91 F42 F92 F44 F94 F45 F95 F46 F96 F47 F97 F49 F99 F4A F9A F4B F9B F4C F9C F4E
F9E F4F F9F F50 FA0 F51 FA1 F53 FA3 F54 FA4 F55 FA5 F56 FA6 F58 FA8 F59 FA9 F5A FAA F5B FAB F5D
FAD F5E FAE F5F FAF F60 FB0 F61 FB1 F62 FB2 F6C F63 FB3 F64 FB4 F65 FB5 F66 FB6 F67 FB7 F68 FB8
F88 F8D F89 F8E F8C F8F F8A+1 F71+1 F71.F72 F80 F71.F80 F74 F71.F74 FB2.F80 F77 FB2.F71.F80~
FB3.F80 F79 FB3.F71.F80~ F7A+3 F84 11A0B 11A32 11A0C+1D 11A2A 11A3B~19 11A2B 11A3A~17 11A3C~19
11A2C 11A3D~19 11A2D 11A3E~19 11A2E+3 11A00+A 11A34 11A47 11A50+3 11A59+1 11A54 11A56 11A55
11A57+1 11A5B 11A5C 11A8A~19 11A83 11A5D 11A8B~19 11A5E+1 11A60 11A8C~19 11A61+9 11A6B 11A8D~19
11A6C+2 11A6F 11A8E~19 11A70 11A8F~19 11A71+2 11A74 11A90~19 11A75+4 11A7A 11A95~19 11A7B 11A7C
11A86~17 11A91~19 11A7D 11A87~17 11A92~19 11A7E 11A7F 11A88~17 11A93~19 11A80 11A81 11A89~17
11A94~19 11A82 11A84+1 11A99 11A9D 11C72 11C92 11C73 11C93 11C74 11C94 11C75 11C95 11C76 11C96
11C77 11C97 11C78 11C98 11C79 11C99 11C7A 11C9A 11C7B 11C9B 11C7C 11C9C 11C7D 11C9D 11C7E 11C9E
11C7F 11C9F 11C80 11CA0 11C81 11CA1 11C82 11CA2 11C83 11CA3 11C84 11CA4 11C85 11CA5 11C86 11CA6
11C87 11CA7 11C88+1 11CA9 11C8A 11CAA 11C8B 11CAB 11C8C 11CAC 11C8D 11CAD 11C8E 11CAE 11C8F
11CAF+5 1C00+9 1C4D+2 1C0A+10 1C24 1C1B 1C25 1C1C+7 1C36 1C26+F A840+7 A869+3 A848+B A867 A854+3
A868 A86D A858 A871+1 A859+1 A86E A85B+1 A86F+1 A85D A862+3 A85E+3 A866 A873 1900+1C 1920+B 1930+8
1700+C 170E+6 1720+14 1740+13 1760+C 176E+2 1772+1 1A00+1B 11EE0+16 1BC0 1BC1~4 1BC2 1BC3+1~4 1BC5
1BC6~4 1BC7 1BC8~4 1BC9 1BCA~4 1BCB 1BCC+1~4 1BCE 1BCF~4 1BD0+1 1BD2 1BD3~4 1BD4 1BD5~4 1BD6
1BD7~4 1BD8 1BD9+1~4 1BDB 1BDC~4 1BDD 1BDE 1BDF~4 1BE0+5 1BE7 1BE8~4 1BE9 1BEA 1BEB~4 1BEC 1BED~4
1BEE 1BEF~4 1BF0+3 A930+23 A90A+20 1000 1075 1001 1076 1002 1077 AA60 A9E9 1003 A9E0 A9EA 1004
105A 1005 1078 AA61 1006 A9E1 AA62 AA7E 1007 AA63 A9EB 1079 AA72 1008 105B A9E2 AA64 A9EC 1061
AA7F 1009 107A AA65 A9E7 100A+1 AA66 100C AA67 100D AA68 A9ED 100E AA69 A9EE 100F 106E A9E3 A9EF
1010+2 107B A9FB 1013 AA6A A9FC 1014 107C AA6B 105E 1015+1 107D+1 AA6F 108E A9E8 1017 107F A9FD
1018 A9E4 A9FE 1019 105F 101A 103B 101B AA73 AA7A 103C 101C 1060 101D 103D 1082 1080 1050+1 1065
101E AA6C 101F 1081 AA6D 103E AA6E AA71 1020 A9FA 105C+1 106F+1 1066 1021+4 1025.102E 1052+3
1027+3 102C 102B~4 1083 1072 109C 102D 1071 102E 1033 102F 1073+1 1030 1056+3 1031 1084 1035 1085
1032 109D 1034 1062 1067+1 A9E5 1086 1039+1 1063+1 1069+4 1087 108B 1088 108C+1 1089+1 108F 109A+1
AA7B+2 AA74+2 10D00 10D1D+4 10D01+1B 10D22+1 11103+20 11147 11124+2 11144 11127+6 11131.11127
11132.11127 11130+2 11145+1 11133+1 1780+22 17DC 17A3+10 17B6+F 17D2 1950+1D 1970+4 1980+2B
19B0+19 1A20+5 1A26 1A58+1~4 1A27+13 1A3B 1A5A+1~4 1A3C+10 1A53 1A6B 1A55+2 1A5C+2 1A4D+5 1A61
1A6C 1A62 1A63 1A64~4 1A65+5 1A6E+1 1A73 1A70+2 1A6D 1A60 AA00+28 AA33+3 AA29+9 AA40+D 1B05
1B05.1B35 1B07 1B07.1B35 1B09 1B09.1B35 1B0B 1B0B.1B35 1B0D 1B0D.1B35 1B0F+2 1B11.1B35 1B13 1B45+1
1B14+E 1B47 1B23+4 1B48 1B28+7 1B49 1B30+2 1B4A+1 1B33 1B35+5 1B3A.1B35 1B3C 1B3C.1B35 1B3E+1
1B3E.1B35 1B3F.1B35 1B42 1B42.1B35 1B44 A984+26 A9BE A9AB A9AC~4 A9BF A9AD+5 A9B4 A9B5~4 A9BC
A9B6+3 A9BD A9BA+1 A9C0 1880+6 1843 1820 1887 1821 1844 185D 1822 1845 185E 1873 1888 185F 1823
1846 1824 1847 1861 1825 1848 1826 1849 1860 1827+2 184A 1862 188A 189B 182A 184B 182B 184C 1866
182C 184D 182D 184E 1864 189A 1865 182E 184F 182F+2 1867 189C+1 18A2 18A4+1 1832 1850 1868 1833
1851 1869 1834 1852 1871 1878 185C 188B 1835 1853 186A 1877 1836 1855 1872 1837 1875 1838 1856
1839 186B 1876 183A 1857 1863 1874 1889 183B+1 1854 186E 183D 186F 1858 186C 183E 1859 186D 183F+3
185A+1 1870 188C 189E 188D+1 189F 188F+1 1898 18A0 1891 18A1 1892+1 18A8 1894 18A3 1895 1899
1896+1 18A6+1 18AA 18A9 1C5A+23 AB70 13A0~8 AB71 13A1~8 AB72 13A2~8 AB73 13A3~8 AB74 13A4~8 AB75
13A5~8 AB76 13A6~8 AB77 13A7~8 AB78 13A8~8 AB79 13A9~8 AB7A 13AA~8 AB7B 13AB~8 AB7C 13AC~8 AB7D
13AD~8 AB7E 13AE~8 AB7F 13AF~8 AB80 13B0~8 AB81 13B1~8 AB82 13B2~8 AB83 13B3~8 AB84 13B4~8 AB85
13B5~8 AB86 13B6~8 AB87 13B7~8 AB88 13B8~8 AB89 13B9~8 AB8A 13BA~8 AB8B 13BB~8 AB8C 13BC~8 AB8D
13BD~8 AB8E 13BE~8 AB8F 13BF~8 AB90 13C0~8 AB91 13C1~8 AB92 13C2~8 AB93 13C3~8 AB94 13C4~8 AB95
13C5~8 AB96 13C6~8 AB97 13C7~8 AB98 13C8~8 AB99 13C9~8 AB9A 13CA~8 AB9B 13CB~8 AB9C 13CC~8 AB9D
13CD~8 AB9E 13CE~8 AB9F 13CF~8 ABA0 13D0~8 ABA1 13D1~8 ABA2 13D2~8 ABA3 13D3~8 ABA4 13D4~8 ABA5
13D5~8 ABA6 13D6~8 ABA7 13D7~8 ABA8 13D8~8 ABA9 13D9~8 ABAA 13DA~8 ABAB 13DB~8 ABAC 13DC~8 ABAD
13DD~8 ABAE 13DE~8 ABAF 13DF~8 ABB0 13E0~8 ABB1 13E1~8 ABB2 13E2~8 ABB3 13E3~8 ABB4 13E4~8 ABB5
13E5~8 ABB6 13E6~8 ABB7 13E7~8 ABB8 13E8~8 ABB9 13E9~8 ABBA 13EA~8 ABBB 13EB~8 ABBC 13EC~8 ABBD
13ED~8 ABBE 13EE~8 ABBF 13EF~8 13F8 13F0~8 13F9 13F1~8 13FA 13F2~8 13FB 13F3~8 13FC 13F4~8 13FD
13F5~8 104D8+23 1401+17A 157D 166F 157E+F 1670 158E+7 1671+5 1596+10 157C 15A7+C5 1677+8 18B0+45
1681+19 16A0 16A2 16A6 16A8 16F4 16AF+3 16F1 16B7 16B9+1 16BE 16C1 16F5 16C3 16C5 16C7+3 16F2 16CF
16D2 16D6 16F6 16D7 16DA 16DC 16DE+1 16F3 16AA 16F7 16AB 16F8 16A3 16E0 16E3 16B8 16E4 16E1+1
16E5+1 10CC0 10CC2+7 10CCC+4 10CD2+9 10CDD 10CE0+2 10CE4+6 10CEC 10CEE+4 10C00 10C02+1 10C05+2
10C09 10C0B 10C0D 10C0F 10C11 10C13+1 10C16 10C18 10C1A 10C1C 10C1E 10C20+4 10C26 10C28 10C2A
10C2C+1 10C2F+3 10C34 10C36 10C38 10C3A 10C3C+3 10C41 10C43 10C45 10C47+1 A500+57 A558 A610~4
A559+10 A56A A611~4 A56B+2 A56E A62A~4 A56F+17 A587 A612~4 A588+48 A5D1 A62B~4 A5D2+3A A6A0+4F
16800+238 16AD0+1D 1E800+C4 16E60+1F 1E922+21 1E94B 1100+5E A960+1C 115F+48 D7B0+16 11A8+57
D7CB+30 3041:D 3042~E 30A1~F 30A2~11 3043:D 3044~E 30A3~F 30A4~11 3045:D 3046~E 30A5~F 30A6~11
1B000:11 3047:D 3048~E 30A7~F 30A8~11 3049:D 304A~E 30A9~F 30AA~11 3095:D 304B~E 30F5~F 30AB~11
304D:E 30AD~11 304F:E 31F0~F 30AF~11 3096:D 3051~E 30F6~F 30B1~11 3053:E 30B3~11 3055:E 30B5~11
3057:E 31F1~F 30B7~11 3059:E 31F2~F 30B9~11 305B:E 30BB~11 305D:E 30BD~11 305F:E 30BF~11 3061:E
30C1~11 3063:D 3064~E 30C3~F 30C4~11 3066:E 30C6~11 3068:E 31F3~F 30C8~11 306A:E 30CA~11 306B:E
30CB~11 306C:E 31F4~F 30CC~11 306D:E 30CD~11 306E:E 30CE~11 306F:E 31F5~F 30CF~11 3072:E 31F6~F
30D2~11 3075:E 31F7~F 30D5~11 3078:E 31F8~F 30D8~11 307B:E 31F9~F 30DB~11 307E:E 30DE~11 307F:E
30DF~11 3080:E 31FA~F 30E0~11 3081:E 30E1~11 3082:E 30E2~11 3083:D 3084~E 30E3~F 30E4~11 3085:D
3086~E 30E5~F 30E6~11 3087:D 3088~E 30E7~F 30E8~11 3089:E 31FB~F 30E9~11 308A:E 31FC~F 30EA~11
308B:E 31FD~F 30EB~11 308C:E 31FE~F 30EC~11 308D:E 31FF~F 30ED~11 308E:D 308F~E 30EE~F 30EF~11
1B150:D 3090~E 1B164~F 30F0~11 1B151:D 3091~E 1B165~F 30F1~11 1B152:D 3092~E 1B166~F 30F2~11
3093:E 1B167~F 30F3~11 1B002+C 1B001 1B00F+10F 3105 3106 31B4~19 3107 31AC 3108 312A 3109 310A
31B5~19 310B 312F 310C 310D 31BB~19 310E 31B6~19 312B 31AD 310F 31B7~19 3110+2 312C 31BC+1 3113+6
31B8+2 311A+1 31A6 311C 312E~4 311D 31A4 311E+6 31B2 3125 31B0+1 3126+3 312D 31BE+1 A000+48C
A4F8+3 A4FD A4FC A4D0+19 A4EB A4ED A4EA A4EC 11FB0 A4EE+9 16F00+3 16F45 16F04 16F06~4 16F05
16F07+6 16F48 16F0E+1 16F4A 16F10 16F13~4 16F11+1 16F14+E 16F23 16F25~4 16F24 16F26+C 16F47 16F33
16F46 16F34+5 16F49 16F3A+2 16F3D 16F3F~4 16F3E 16F40+4 16F50+3 16F4F 16F54+4 16F81 16F59+3 16F83
16F5D+3 16F84 16F61+4 16F86 16F66+7 16F7F 16F87 16F6E+4 16F80 16F73+1 16F85 16F82 16F75+9 16F8F+10
118FF 118C0+1F 11AD5+6 11AC0+14 11ADC+1 11ADF+4 11ADE 11AE4 11AEF 11AF2 11AF1 11AE6 11AE9 11AE5
11AE8 11AF4 11AF7 11AF3 11AF6 11AEC 11AEE 11AEB 11AED 11AF5 11AF8 11AE7 11AEA 11AF0 16B00+2F
16B40+1 16B63+14 16B7D+12 1E100+2C 1E137+4 1E14E 1E2C0+2B 10280+1C 102A0+30 10920+19 10300+E 1031F
1030F+F 1032D+1D 10428+57 1BC00+6A 1BC70+C 1BC80+8 1BC90+9 10480+1D 10500+27 10530+33 110D0+18
16A40+1E 10000+B 1000D+19 10028+12 1003C+1 1003F+E 10050+D 10080+7A 10600+136 10740+15 10760+7
10800+5 10808 1080A+2B 10837+1 1083C 1083F 10A60+1C 10A80+1C 10B00+2D 10B2F+6 10860+C 1086E
1086D~19 1086F+7 10881 10880~19 10883 10882~19 10884+1 10887 10886~19 10888+3 1088D 1088C~19 1088F
1088E~19 10891 10890~19 10893 10892~19 10895 10894~19 10896+5 1089D 1089C~19 1089E 108E0+12
108F4+1 10840+15 10B40+15 10B60+12 10B80+11 10FE0+15 10AC0+7 10AC9+1B 10F00 10F01~19 10F02
10F03~19 10F04 10F05 10F06~19 10F07+6 10F0E 10F0F~19 10F11+1 10F14 10F15 10F16~19 10F18+1 10F1A
10F1B~19 10F30+14 10E80+20 10EB0 10EA1+7 10EB1 10EA9 10FB0+14 10380+1D 103A0+23 103C8+7 12000+262
122D4+1 12263+70 122D6+C3 12480+C3 13000+42E 109A0+F 109B1+6 109BE+1 1099E+1 14400+246
"

/-- The accents by weight. -/
def accents : String := "
=21 332 =22 313 486 2CF1 =23 314 485 2CF0 =24 301 954 =25 300 953 =26 306 =27 302 =28 30C =29 30A
=2A 342 =2B 308 =2C 30B =2D 303 =2E 307 =2F 338 =30 327 =31 328 =32 304 =33 30D-30E 312 315 31A
33D-33F 346 34A-34C 350-352 357 35B 35D-35E 484 487 741 745 B55 17CB-17D1 17DD 1AB0-1AB4 1ABB-1ABC
1DC0-1DC1 1DC3-1DC9 1DCB-1DCE 1DD1 1DF5-1DF8 1DFB 1DFE 20F0 2CEF A67C-A67D 10AE5 10D24-10D27
10F48-10F4A 10F4C 1BC9D =34 316-319 31C-320 329-32C 32F 333 33A-33C 347-349 34D-34E 353-356
359-35A 35C 35F 362 742 746 7FD 859-85B 1AB5-1ABA 1ABD 1DC2 1DCF-1DD0 1DF9 1DFC-1DFD 1DFF
20EC-20EF FE27 10A0D 10AE6 10F46-10F47 10F4B 10F4D-10F50 =35 336-337 20D8-20DA 20E5 20EA-20EB
1BC9E =36 1ABE 20DD-20E0 20E2-20E4 =37 3099 =38 309A =39 335 =3A 305 =3B 309 =3C 30F =3D 310 =3E
311 =3F 31B =40 321 =41 322 =42 323 =43 324 =44 325 =45 326 =46 32D =47 32E =48 330 =49 331 =4A
334 =4B 339 =4C 345 =4D 358 =4E 360 FE22 FE29 =4F 361 FE20 =50 483 FE2E =51 A66F =52 5B0 =53 5B1
=54 5B2 =55 5B3 =56 5B4 =57 5B5 =58 5B6 =59 5B7 =5A 5B8 5C7 =5B 5B9-5BA =5C 5BB =5D 5C2 =5E 5C1
=5F 5BC =60 5BF =61 FB1E =62 81C-81D =63 81E-820 =64 821-823 =65 824-825 =66 826-827 =67 828-82A
=68 82B =69 82C =6A 818 =6B 819 =6C 82D =6D 64B =6D~18 FE71 =6D~1A FE70 =6E 8F0 =6F 8E7 =70 64C
=70~1A FE72 =71 8F1 =72 8E8 =73 64D =73~1A FE74 =74 8F2 =75 8E9 =76 64E =76~18 FE77 =76~1A FE76
=77 8E4 =78 8F4 =79 8F5 =7A 64F =7A~18 FE79 =7A~1A FE78 =7B 8E5 =7C 8FE =7D 650 =7D~18 FE7B =7D~1A
FE7A =7E 8E6 =7F 8F6 =80 651 AFB 11237 =80~18 FE7D =80~1A FE7C =81 652 AFA 1123E =81~18 FE7F
=81~1A FE7E =82 653 AFC 10EAC =83 654 10EAB =84 655 =85 65F =86 656 =87 657 =88 658 =89 8FF =8A
659 =8B 65A =8C 65B =8D 65C =8E 65D =8F 65E =90 8E3 =91 8F7 =92 8F8 =93 8FD =94 8FB =95 8FC =96
8F9 =97 8FA =98 670 =99 711 =9A 730 =9B 731 =9C 732 =9D 733 =9E 734 =9F 735 =A0 736 =A1 737 =A2
738 =A3 739 =A4 73A =A5 73B =A6 73C =A7 73D =A8 73E =A9 73F =AA 7EB =AB 7EC =AC 7ED =AD 7EE =AE
7EF =AF 7F0 =B0 7F1 =B1 7F2 =B2 7F3 =B3 135F =B4 135E =B5 135D =B6 A6F0 =B7 A6F1 =B8 16AF0 =B9
16AF1 =BA 16AF2 =BB 16AF3 =BC 16AF4 =BD 1E944-1E946 =BE 1E94A =BF 1E947 =C0 1E948 =C1 1E949 =C2
93C 9BC A3C ABC AFD-AFF B3C CBC 1B34 1BE6 1C37 A9B3 110BA 11173 111CA 11236 112E9 1133B-1133C
11446 114C3 115C0 116B7 1183A 11943 11A33 11D42 =C3 900-901 981 A01 A81 B01 C00-C01 C81 D01 D81
1B00-1B01 A8C5 A980 11000 11080 11100 11180 111CF 11301 11443 114BF 115BC 11640 1193C 11A35-11A37
11C3C 11CB6 11D43 =C4 902 982 A02 A82 B02 B82 C02 C04 C82 D00 D02 D82 F7E 1036 17C6 1A74 1B02 1B80
1CED A80B A880 A981 10A0E 11001 11081 11101 11181 11234 112DF 11300 11302 11444 114C0 115BD 1163D
116AB 11837 1193B 119DE 11A38 11A96 11C3D 11CB5 11D40 11D95 =C5 903 983 A03 A83 B03 C03 C83 D03
D83 F7F 1038 17C7 1B04 1B82 1CF2-1CF3 A881 A983 10A0F 11002 11082 11102 11182 11303 11445 114C1
115BE 1163E 116AC 11838 119DF 11A39 11A97 11C3E 11D41 11D96 =C6 9FE 111C9 1145E =C7 A70 =C8 A71
=C9 1B03 =CA A982 =CB 1B81 =CC ABEC =CD 10A38 =CE 10A39 =CF 10A3A =D0 111CB =D1 111CC =D2 11A98
=D3 E4E =D4 E47 =D5 E48 =D6 E49 =D7 E4A =D8 E4B =D9 E4C =DA E4D =DB EC8 =DC EC9 =DD ECA =DE ECB
=DF ECC =E0 ECD =E1 AABF =E2 AAC1 =E3 F39 =E4 A92B =E5 A92C =E6 A92D =E7 1037 =E8 17C8 =E9 17C9
=EA 17CA =EB 1A75 =EC 1A76 =ED 1A77 =EE 1A78 =EF 1A79 =F0 1A7A =F1 1A7B =F2 1A7C =F3 1939 =F4 193A
=F5 193B =F6 16B30 1E131 =F7 16B31 1E136 =F8 16B32 1E132 =F9 16B33 1E133 =FA 16B34 1E130 =FB 16B35
1E134 =FC 16B36 1E135 =FD 1E2EC =FE 1E2ED =FF 1E2EE =100 1E2EF =101 302A =102 302B =103 302C =104
302D =105 302E =106 302F =107 16FF0 =108 16FF1 =109 20D0 =10A 20D1 =10B 20D2-20D3 =10C 20D4 =10D
20D5 =10E 20D6 =10F 20D7 =110 20DB =111 20DC =112 20E1 =113 20E6 =114 20E7 =115 20E8 =116 20E9
=117 101FD
"

/-- The characters that count as several letters. -/
def expansions : String := "
4C.B7: 6C~8 !118 6C.B7: 6C !118 DF: 73~4 !118~4 73~4 E6: 61~4 !118~4 65~4 F0: 64~4 !118~4 F8: 6F
!2F 111: 64 !39 127: 68 !39 13F: 6C~8 !118 140: 6C !118 142: 6C !39 153: 6F~4 !118~4 65~4 17F:
73~4 !119~4 18D: 7A~4 77~4 1BE: 74~4 73~4 238: 64~4 62~4 239: 71~4 70~4 2A3: 64~4 7A~4 2A4: 64~4
292~4 2A5: 64~4 291~4 2A6: 74~4 73~4 2A7: 74~4 283~4 2A8: 74~4 255~4 2A9: 66~4 14B~4 2AA: 6C~4
73~4 2AB: 6C~4 7A~4 3CF: 3BA~A 3B1~4 3B9~4 3D7: 3BA~4 3B1~4 3B9~4 491: 433~4 !119~4 5EF: 5D9~4
5D4~4 5D5~4 5D4~4 5F0: 5D5~4 5D5~4 5F1: 5D5~4 5D9~4 5F2: 5D9~4 5D9~4 6FD: 621~4 !119~4 6FE: 645~4
!119~4 714: 713~4 !119~4 71C: 71B~4 !119~4 727: 726~4 !119~4 72D: 712~4 !11A~4 72E: 713~4 !11A~4
72F: 715~4 !11A~4 7E8: 7D6~4 !118~4 7E9: 7D7~4 !118~4 7EA: 7D9~4 !118~4 9CE: 9A4~4 9CD~4 D4E:
D30~4 D4D~4 D54: D2E~4 D4D~4 D55: D2F~4 D4D~4 D56: D34~4 D4D~4 D7A: D23~4 D4D~4 D7B: D28~4 D4D~4
D7C: D30~4 D4D~4 D7D: D32~4 D4D~4 D7E: D33~4 D4D~4 D7F: D15~4 D4D~4 F00: F68~4 F7C~4 !C4~4 F6A:
F62~4 !119~4 FBA: FAD~4 !119~4 FBB: FB1~4 !119~4 FBC: FB2~4 !119~4 103F: 101E~4 1039~4 101E~4
16A1: 16A0~4 !118~4 16A4: 16A2~4 !118~4 16A5: 16A2~4 !119~4 16A7: 16A6~4 !118~4 16A9: 16A8~4
!118~4 16AC: 16A8~4 !119~4 16AD: 16A8~4 !11A~4 16AE: 16A8~4 !11B~4 16B3: 16B2~4 !118~4 16B4:
16B2~4 !119~4 16B5: 16B2~4 !11A~4 16B6: 16B2~4 !11B~4 16BB: 16BA~4 !118~4 16BC: 16BA~4 !119~4
16BD: 16BA~4 !11A~4 16BF: 16BE~4 !118~4 16C0: 16BE~4 !119~4 16C2: 16C1~4 !118~4 16C4: 16C3~4
!118~4 16C6: 16C5~4 !118~4 16CB: 16CA~4 !118~4 16CC: 16CA~4 !11A~4 16CD: 16CA~4 !11B~4 16CE:
16CA~4 !11C~4 16D0: 16CF~4 !118~4 16D1: 16CF~4 !119~4 16D3: 16D2~4 !118~4 16D4: 16D2~4 !119~4
16D5: 16C8~4 !118~4 16D8: 16D7~4 !118~4 16D9: 16D7~4 !119~4 16DB: 16DA~4 !118~4 16DD: 16DC~4
!118~4 16E7: 16E6~4 !118~4 16E8: 16E6~4 !119~4 16E9: 16B9~4 !118~4 16EA: 16CA~4 !119~4 16EE:
16C5~4 16DA~4 16EF: 16D7~4 !118~4 16D7~4 !118~4 16F0: 16A6~4 16A6~4 191D: 1908~4 1929~4 191E:
190B~4 192A~4 19DE: 199C~4 19B6~4 19DF: 199C~4 19B6~4 19C1~4 1A54: 1A46~4 1A60~4 1A46~4 1D79: 67~4
!119~4 1D7A: 74~4 !118~4 68~4 1DD3: 61~4 !118~4 1DD4: 61~4 !118~4 65~4 1DD5: 61~4 6F~4 1DD6: 61~4
76~4 1DD7: 63~4 !30~4 1DD8: 64~4 !119~4 1DD9: 64~4 !118~4 1DE5: 73~4 !119~4 1DED: 6F~4 !34~4 1DF0:
75~4 !34~4 1DF2: 61~4 !2B~4 1DF3: 6F~4 !2B~4 1DF4: 75~4 !2B~4 1E9E: 73~A !118~4 73~A 1EFB: 6C~4
6C~4 210F: 68 !39 2120: 73~14 6D~14 2122: 74~14 6D~14 214D: 61~A 2F~4 73~A 24EB: 31~6 31~6 24EC:
31~6 32~6 24ED: 31~6 33~6 24EE: 31~6 34~6 24EF: 31~6 35~6 24F0: 31~6 36~6 24F1: 31~6 37~6 24F2:
31~6 38~6 24F3: 31~6 39~6 24F4: 32~6 30~6 24FE: 31~6 30~6 277F: 31~6 30~6 2789: 31~6 30~6 2793:
31~6 30~6 2CE4: 2C95~4 2C81~4 2C93~4 2DF5: 441~4 442~4 2E80: 4E36~4 !118~4 2E81: 5382~4 !118~4
2E82: 4E5B~4 2E83: 4E5A~4 2E84: 4E59~4 !118~4 2E85: 4EBB~4 2E86: 5182~4 !118~4 2E87: 51E0~4 !118~4
2E88: 5200~4 !118~4 2E89: 5202~4 2E8A: 535C~4 !118~4 2E8B: 5369~4 !118~4 2E8C: 5C0F~4 !118~4 2E8D:
5C0F~4 !119~4 2E8E: 5C22~4 !118~4 2E8F: 5C23~4 2E90: 5C22~4 2E91: 5C23~4 !118~4 2E92: 5DF3~4 2E93:
5E7A~4 2E94: 5F51~4 2E95: 5F50~4 !118~4 2E96: 5FC4~4 2E97: 5FC3~4 !118~4 2E98: 624C~4 2E99: 6535~4
2E9B: 65E1~4 2E9C: 65E5~4 !118~4 2E9D: 6708~4 !118~4 2E9E: 6B7A~4 !118~4 2EA0: 6C11~4 2EA1: 6C35~4
2EA2: 6C3A~4 2EA3: 706C~4 2EA4: 722B~4 2EA5: 722B~4 !118~4 2EA6: 4E2C~4 2EA7: 725B~4 !118~4 2EA8:
72AD~4 2EA9: 738B~4 !118~4 2EAA: 758B~4 !118~4 2EAB: 76EE~4 !118~4 2EAC: 793A~4 !118~4 2EAD:
793B~4 2EAE: 7AF9~4 !118~4 2EAF: 7CF9~4 2EB0: 7E9F~4 2EB1: 7F53~4 2EB2: 7F52~4 2EB3: 7F53~4 !118~4
2EB4: 7F53~4 !119~4 2EB5: 7F52~4 !118~4 2EB6: 7F8A~4 !118~4 2EB7: 7F8A~4 !119~4 2EB8: 7F8B~4 2EB9:
8002~4 2EBA: 8080~4 2EBB: 807F~4 !118~4 2EBC: 8089~4 !118~4 2EBD: 81FC~4 !118~4 2EBE: 8279~4 2EBF:
8279~4 !118~4 2EC0: 8279~4 !119~4 2EC1: 864E~4 2EC2: 8864~4 2EC3: 8980~4 2EC4: 897F~4 2EC5: 89C1~4
2EC6: 89D2~4 2EC7: 89D2~4 !118~4 2EC8: 8BA0~4 2EC9: 8D1D~4 2ECA: 8DB3~4 !118~4 2ECB: 8F66~4 2ECC:
8FB6~4 2ECD: 8FB6~4 !118~4 2ECE: 8FB6~4 !119~4 2ECF: 9091~4 !118~4 2ED0: 9485~4 2ED1: 9577~4 2ED2:
9578~4 2ED3: 957F~4 2ED4: 95E8~4 2ED5: 961C~4 !118~4 2ED6: 961D~4 2ED7: 96E8~4 !118~4 2ED8: 9752~4
2ED9: 97E6~4 2EDA: 9875~4 2EDB: 98CE~4 2EDC: 98DE~4 2EDD: 98DF~4 2EDE: 98E0~4 !118~4 2EDF: 98E0~4
2EE0: 9963~4 2EE1: 9996~4 !118~4 2EE2: 9A6C~4 2EE3: 9AA8~4 !118~4 2EE4: 9B3C~4 !118~4 2EE5: 9C7C~4
2EE6: 9E1F~4 2EE7: 9E75~4 !118~4 2EE8: 9EA6~4 2EE9: 9EC4~4 2EEA: 9EFE~4 2EEB: 9F4A~4 !118~4 2EEC:
9F50~4 2EED: 9F52~4 !118~4 2EEE: 9F7F~4 2EEF: 9F8D~4 !118~4 2EF0: 9F99~4 2EF1: 9F9C~4 !118~4 2EF2:
9F9C~4 !119~4 3006: 3057~4 3081~4 3032: 3031 !37 3034: 3033 !37 303C: 307E~4 3059~4 31A0: 3105~4
!119~4 31A1: 3117~4 !119~4 31A2: 3110~4 !119~4 31A3: 310D~4 !119~4 31A5: 31A4~4 !119~4 31A7:
311B~4 !119~4 31A8: 3128~4 !11A~4 31A9: 311A~4 !119~4 31AA: 3127~4 !119~4 31AB: 3128~4 !119~4
31AE: 311E~4 !119~4 31AF: 3120~4 !119~4 31B3: 3127~16 !119~16 3248: 31~6 30~6 3249: 32~6 30~6
324A: 33~6 30~6 324B: 34~6 30~6 324C: 35~6 30~6 324D: 36~6 30~6 324E: 37~6 30~6 324F: 38~6 30~6
A613: A50C~4 A60B~4 A614: A51E~4 A60B~4 A615: A533~4 A60B~4 A616: A547~4 A60C~4 A617: A552~4
A60B~4 A618: A558~4 A60C~4 A619: A55A~4 A60C~4 A61A: A560~4 A60B~4 A61B: A585~4 A60B~4 A61C:
A5B4~4 A60B~4 A61D: A5CB~4 A60B~4 A61E: A5D1~4 A60C~4 A61F: A5D8~4 A60B~4 A676: 456~4 !2B~4 A728:
74~A 7A~4 A729: 74~4 7A~4 A733: 61~4 61~4 A735: 61~4 6F~4 A737: 61~4 75~4 A739: 61~4 76~4 A73B:
61~4 !118~4 76~4 A73D: 61~4 79~4 A74F: 6F~4 6F~4 A761: 76~4 79~4 A77A: 64~4 !119~4 A77C: 66~4
!119~4 A783: 72~4 !119~4 A785: 73~4 !119~4 A787: 74~4 !119~4 A79B: 61~4 !2B~4 A79D: 6F~4 !2B~4
A79F: 75~4 !2B~4 A7A1: 67~4 !35~4 A7A3: 6B~4 !35~4 A7A5: 6E~4 !35~4 A7A7: 72~4 !35~4 A7A9: 73~4
!35~4 A7F8: 68~14 !39~14 AB66: 64~4 290~4 AB67: 74~4 282~4 FC5E: !70~1A !80~1A FC5F: !73~1A !80~1A
FC60: !76~1A !80~1A FC61: !7A~1A !80~1A FC62: !7D~1A !80~1A FC63: !80~1A !98~1A FCF2: !76~18
!80~18 FCF3: !7A~18 !80~18 FCF4: !7D~18 !80~18 10980: 109A0~4 !118~4 10981: 109A1~4 !118~4 10982:
109A2~4 !118~4 10983: 109A3~4 !118~4 10984: 109A4~4 !118~4 10985: 109A5~4 !118~4 10986: 109A6~4
!118~4 10987: 109A6~4 !119~4 10988: 109A7~4 !118~4 10989: 109A8~4 !118~4 1098A: 109A9~4 !118~4
1098B: 109A9~4 !119~4 1098C: 109AA~4 !118~4 1098D: 109AA~4 !119~4 1098E: 109AB~4 !118~4 1098F:
109AB~4 !119~4 10990: 109AC~4 !118~4 10991: 109AD~4 !118~4 10992: 109AE~4 !118~4 10993: 109AF~4
!119~4 10994: 109AF~4 !11A~4 10995: 109B1~4 !118~4 10996: 109B2~4 !118~4 10997: 109B3~4 !118~4
10998: 109B4~4 !118~4 10999: 109B4~4 !119~4 1099A: 109B5~4 !118~4 1099B: 109B5~4 !119~4 1099C:
109B6~4 !118~4 1099D: 109B7~4 !118~4 109B0: 109AF~4 !118~4 10AC8: 10AC7~4 !119~4 10B2E: 10B2D~4
!118~4 10C01: 10C00~4 !118~4 10C04: 10C03~4 !118~4 10C08: 10C07~4 !118~4 10C0A: 10C09~4 !118~4
10C0C: 10C0B~4 !118~4 10C0E: 10C0D~4 !118~4 10C10: 10C0F~4 !118~4 10C12: 10C11~4 !118~4 10C15:
10C14~4 !118~4 10C17: 10C16~4 !118~4 10C19: 10C18~4 !118~4 10C1B: 10C1A~4 !118~4 10C1D: 10C1C~4
!118~4 10C1F: 10C1E~4 !118~4 10C25: 10C24~4 !118~4 10C27: 10C26~4 !118~4 10C29: 10C28~4 !118~4
10C2B: 10C2A~4 !118~4 10C2E: 10C2D~4 !118~4 10C33: 10C32~4 !118~4 10C35: 10C34~4 !118~4 10C37:
10C36~4 !118~4 10C39: 10C38~4 !118~4 10C3B: 10C3A~4 !118~4 10C40: 10C3F~4 !118~4 10C42: 10C41~4
!118~4 10C44: 10C43~4 !118~4 10C46: 10C45~4 !118~4 10CC1: 10CC0~4 !118~4 10CCA: 10CC9~4 !118~4
10CCB: 10CC9~4 !119~4 10CD1: 10CD0~4 !118~4 10CDC: 10CDB~4 !118~4 10CDE: 10CDD~4 !118~4 10CDF:
10CDD~4 !119~4 10CE3: 10CE2~4 !118~4 10CEB: 10CEA~4 !118~4 10CED: 10CEC~4 !118~4 10F10: 10F0E~4
!119~4 10F13: 10F12~4 !119~4 10F17: 10F15~4 !119~4 10F1C: 10F1A~4 !119~4 10F27: 10F12~4 10F18~4
10F45: 10F41~4 !119~4 10FF6: 10FE6~4 10FE9~4 115D8: 11582~4 !118~4 115D9: 11582~4 !119~4 115DA:
11583~4 !118~4 115DB: 11584~4 !118~4 115DC: 115B2~4 !118~4 115DD: 115B3~4 !118~4 11705: 11704~4
!118~4 11716: 11715~4 !118~4 1171A: 11708~4 !118~4 16E94: 31~4 !118~4 16E95: 32~4 !118~4 16E96: 33
!118 1ECB1: 31~4 !118~4 1ECB2: 32~4 !118~4 1ED2F: 32~4 !118~4 1ED30: 33~4 !118~4 1ED31: 34~4
!118~4 1ED32: 35~4 !118~4 1ED33: 36~4 !118~4 1ED34: 37~4 !118~4 1ED35: 38~4 !118~4 1ED36: 39~4
!118~4 1F16A: 6D~14 63~14 1F16B: 6D~14 64~14 1F16C: 6D~14 72~14 1F18B: 69~1D 63~1D 1F18C: 70~1D
61~1D 1F18D: 73~1D 61~1D 1F18E: 61~1D 62~1D 1F18F: 77~1D 63~1D 1F191: 63~1D 6C~1D 1F192: 63~1D
6F~1D 6F~1D 6C~1D 1F193: 66~1D 72~1D 65~1D 65~1D 1F194: 69~1D 64~1D 1F195: 6E~1D 65~1D 77~1D
1F196: 6E~1D 67~1D 1F197: 6F~1D 6B~1D 1F198: 73~1D 6F~1D 73~1D 1F199: 75~1D 70~1D 21~1C 1F19A:
76~1D 73~1D 1F19B: 33~1C 64~1D 1F19C: 32~1C 6E~1C 64~1C 20~1C 73~1D 63~1C 72~1C 1F19D: 32~1C 6B~1D
1F19E: 34~1C 6B~1D 1F19F: 38~1C 6B~1D 1F1A0: 35~1C 2E~1C 31~1C 1F1A1: 37~1C 2E~1C 31~1C 1F1A2:
32~1C 32~1C 2E~1C 32~1C 1F1A3: 36~1C 30~1C 70~1D 1F1A4: 31~1C 32~1C 30~1C 70~1D 1F1A6: 68~1D 63~1C
1F1A7: 68~1D 64~1C 72~1D 1F1A8: 68~1D 69~1C 20~1C 72~1D 65~1C 73~1C 1F1A9: 6C~1D 6F~1C 73~1C 73~1C
6C~1C 65~1C 73~1C 73~1C 1F1AA: 73~1D 68~1D 76~1D 1F1AB: 75~1D 68~1D 64~1D 1F1AC: 76~1D 6F~1D 64~1D
"

/-- The characters that do not count. -/
def unweighted : String := "
0-8 E-1F 7F-84 86-9F AD 34F 488-489 591-5AF 5BD 5C4-5C5 600-605 610-61A 61C 640 6D6-6DD 6DF-6E4
6E7-6E8 6EA-6ED 70F 740 743-744 747-74A 7FA 8D3-8E2 8EA-8EF 8F3 951-952 F18-F19 F35 F37 F3E-F3F
F82-F83 F86-F87 FC6 17B4-17B5 17D3 180A-180E 1A7F 1B6B-1B73 1CD0-1CE8 1CF4 1CF7-1CF9 200B-200F
202A-202E 2060-2064 2066-206F 2D7F A670-A672 A8E0-A8F1 FE00-FE0F FE21 FE23-FE26 FE28 FE2A-FE2D
FE2F FE73 FEFF FFF9-FFFB 102E0 110BD 110CD 11366-1136C 11370-11374 13430-13438 16FE4 1BCA0-1BCA3
1D165-1D169 1D16D-1D182 1D185-1D18B 1D1AA-1D1AD 1D242-1D244 1DA00-1DA36 1DA3B-1DA6C 1DA75 1DA84
1DA9B-1DA9F 1DAA1-1DAAF 1E8D0-1E8D6 E0001 E0020-E007F E0100-E01EF
"

end MagnumClient.Text.Collation
