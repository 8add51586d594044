import DocSite.Text.Basic

/-!
# The table of named characters

The names that HTML gives to characters, in groups by first letter. An entry is the rest of the
name, a colon, and the code points in hexadecimal with commas between them; between entries stands
a space.
-/

namespace DocSite.Html

/-- The named characters, by the first letter of the name. -/
def entityTable : List (Char × List String) := [
  ('A', [
    "Elig:c6 MP:26 acute:c1 breve:102 circ:c2 cy:410 fr:1d504 grave:c0 lpha:391 macr:100 nd:2a53",
    "ogon:104 opf:1d538 pplyFunction:2061 ring:c5 scr:1d49c ssign:2254 tilde:c3 uml:c4"]),
  ('B', [
    "ackslash:2216 arv:2ae7 arwed:2306 cy:411 ecause:2235 ernoullis:212c eta:392 fr:1d505",
    "opf:1d539 reve:2d8 scr:212c umpeq:224e"]),
  ('C', [
    "Hcy:427 OPY:a9 acute:106 ap:22d2 apitalDifferentialD:2145 ayleys:212d caron:10c cedil:c7",
    "circ:108 conint:2230 dot:10a edilla:b8 enterDot:b7 fr:212d hi:3a7 ircleDot:2299",
    "ircleMinus:2296 irclePlus:2295 ircleTimes:2297 lockwiseContourIntegral:2232",
    "loseCurlyDoubleQuote:201d loseCurlyQuote:2019 olon:2237 olone:2a74 ongruent:2261 onint:222f",
    "ontourIntegral:222e opf:2102 oproduct:2210 ounterClockwiseContourIntegral:2233 ross:2a2f",
    "scr:1d49e up:22d3 upCap:224d"]),
  ('D', [
    "D:2145 Dotrahd:2911 Jcy:402 Scy:405 Zcy:40f agger:2021 arr:21a1 ashv:2ae4 caron:10e cy:414",
    "el:2207 elta:394 fr:1d507 iacriticalAcute:b4 iacriticalDot:2d9 iacriticalDoubleAcute:2dd",
    "iacriticalGrave:60 iacriticalTilde:2dc iamond:22c4 ifferentialD:2146 opf:1d53b ot:a8",
    "otDot:20dc otEqual:2250 oubleContourIntegral:222f oubleDot:a8 oubleDownArrow:21d3",
    "oubleLeftArrow:21d0 oubleLeftRightArrow:21d4 oubleLeftTee:2ae4 oubleLongLeftArrow:27f8",
    "oubleLongLeftRightArrow:27fa oubleLongRightArrow:27f9 oubleRightArrow:21d2",
    "oubleRightTee:22a8 oubleUpArrow:21d1 oubleUpDownArrow:21d5 oubleVerticalBar:2225",
    "ownArrow:2193 ownArrowBar:2913 ownArrowUpArrow:21f5 ownBreve:311 ownLeftRightVector:2950",
    "ownLeftTeeVector:295e ownLeftVector:21bd ownLeftVectorBar:2956 ownRightTeeVector:295f",
    "ownRightVector:21c1 ownRightVectorBar:2957 ownTee:22a4 ownTeeArrow:21a7 ownarrow:21d3",
    "scr:1d49f strok:110"]),
  ('E', [
    "NG:14a TH:d0 acute:c9 caron:11a circ:ca cy:42d dot:116 fr:1d508 grave:c8 lement:2208",
    "macr:112 mptySmallSquare:25fb mptyVerySmallSquare:25ab ogon:118 opf:1d53c psilon:395",
    "qual:2a75 qualTilde:2242 quilibrium:21cc scr:2130 sim:2a73 ta:397 uml:cb xists:2203",
    "xponentialE:2147"]),
  ('F', [
    "cy:424 fr:1d509 illedSmallSquare:25fc illedVerySmallSquare:25aa opf:1d53d orAll:2200",
    "ouriertrf:2131 scr:2131"]),
  ('G', [
    "Jcy:403 T:3e amma:393 ammad:3dc breve:11e cedil:122 circ:11c cy:413 dot:120 fr:1d50a g:22d9",
    "opf:1d53e reaterEqual:2265 reaterEqualLess:22db reaterFullEqual:2267 reaterGreater:2aa2",
    "reaterLess:2277 reaterSlantEqual:2a7e reaterTilde:2273 scr:1d4a2 t:226b"]),
  ('H', [
    "ARDcy:42a acek:2c7 at:5e circ:124 fr:210c ilbertSpace:210b opf:210d orizontalLine:2500",
    "scr:210b strok:126 umpDownHump:224e umpEqual:224f"]),
  ('I', [
    "Ecy:415 Jlig:132 Ocy:401 acute:cd circ:ce cy:418 dot:130 fr:2111 grave:cc m:2111 macr:12a",
    "maginaryI:2148 mplies:21d2 nt:222c ntegral:222b ntersection:22c2 nvisibleComma:2063",
    "nvisibleTimes:2062 ogon:12e opf:1d540 ota:399 scr:2110 tilde:128 ukcy:406 uml:cf"]),
  ('J', [
    "circ:134 cy:419 fr:1d50d opf:1d541 scr:1d4a5 sercy:408 ukcy:404"]),
  ('K', [
    "Hcy:425 Jcy:40c appa:39a cedil:136 cy:41a fr:1d50e opf:1d542 scr:1d4a6"]),
  ('L', [
    "Jcy:409 T:3c acute:139 ambda:39b ang:27ea aplacetrf:2112 arr:219e caron:13d cedil:13b cy:41b",
    "eftAngleBracket:27e8 eftArrow:2190 eftArrowBar:21e4 eftArrowRightArrow:21c6 eftCeiling:2308",
    "eftDoubleBracket:27e6 eftDownTeeVector:2961 eftDownVector:21c3 eftDownVectorBar:2959",
    "eftFloor:230a eftRightArrow:2194 eftRightVector:294e eftTee:22a3 eftTeeArrow:21a4",
    "eftTeeVector:295a eftTriangle:22b2 eftTriangleBar:29cf eftTriangleEqual:22b4",
    "eftUpDownVector:2951 eftUpTeeVector:2960 eftUpVector:21bf eftUpVectorBar:2958 eftVector:21bc",
    "eftVectorBar:2952 eftarrow:21d0 eftrightarrow:21d4 essEqualGreater:22da essFullEqual:2266",
    "essGreater:2276 essLess:2aa1 essSlantEqual:2a7d essTilde:2272 fr:1d50f l:22d8 leftarrow:21da",
    "midot:13f ongLeftArrow:27f5 ongLeftRightArrow:27f7 ongRightArrow:27f6 ongleftarrow:27f8",
    "ongleftrightarrow:27fa ongrightarrow:27f9 opf:1d543 owerLeftArrow:2199 owerRightArrow:2198",
    "scr:2112 sh:21b0 strok:141 t:226a"]),
  ('M', [
    "ap:2905 cy:41c ediumSpace:205f ellintrf:2133 fr:1d510 inusPlus:2213 opf:1d544 scr:2133 u:39c"]),
  ('N', [
    "Jcy:40a acute:143 caron:147 cedil:145 cy:41d egativeMediumSpace:200b egativeThickSpace:200b",
    "egativeThinSpace:200b egativeVeryThinSpace:200b estedGreaterGreater:226b estedLessLess:226a",
    "ewLine:a fr:1d511 oBreak:2060 onBreakingSpace:a0 opf:2115 ot:2aec otCongruent:2262",
    "otCupCap:226d otDoubleVerticalBar:2226 otElement:2209 otEqual:2260 otEqualTilde:2242,338",
    "otExists:2204 otGreater:226f otGreaterEqual:2271 otGreaterFullEqual:2267,338",
    "otGreaterGreater:226b,338 otGreaterLess:2279 otGreaterSlantEqual:2a7e,338",
    "otGreaterTilde:2275 otHumpDownHump:224e,338 otHumpEqual:224f,338 otLeftTriangle:22ea",
    "otLeftTriangleBar:29cf,338 otLeftTriangleEqual:22ec otLess:226e otLessEqual:2270",
    "otLessGreater:2278 otLessLess:226a,338 otLessSlantEqual:2a7d,338 otLessTilde:2274",
    "otNestedGreaterGreater:2aa2,338 otNestedLessLess:2aa1,338 otPrecedes:2280",
    "otPrecedesEqual:2aaf,338 otPrecedesSlantEqual:22e0 otReverseElement:220c",
    "otRightTriangle:22eb otRightTriangleBar:29d0,338 otRightTriangleEqual:22ed",
    "otSquareSubset:228f,338 otSquareSubsetEqual:22e2 otSquareSuperset:2290,338",
    "otSquareSupersetEqual:22e3 otSubset:2282,20d2 otSubsetEqual:2288 otSucceeds:2281",
    "otSucceedsEqual:2ab0,338 otSucceedsSlantEqual:22e1 otSucceedsTilde:227f,338",
    "otSuperset:2283,20d2 otSupersetEqual:2289 otTilde:2241 otTildeEqual:2244",
    "otTildeFullEqual:2247 otTildeTilde:2249 otVerticalBar:2224 scr:1d4a9 tilde:d1 u:39d"]),
  ('O', [
    "Elig:152 acute:d3 circ:d4 cy:41e dblac:150 fr:1d512 grave:d2 macr:14c mega:3a9 micron:39f",
    "opf:1d546 penCurlyDoubleQuote:201c penCurlyQuote:2018 r:2a54 scr:1d4aa slash:d8 tilde:d5",
    "times:2a37 uml:d6 verBar:203e verBrace:23de verBracket:23b4 verParenthesis:23dc"]),
  ('P', [
    "artialD:2202 cy:41f fr:1d513 hi:3a6 i:3a0 lusMinus:b1 oincareplane:210c opf:2119 r:2abb",
    "recedes:227a recedesEqual:2aaf recedesSlantEqual:227c recedesTilde:227e rime:2033",
    "roduct:220f roportion:2237 roportional:221d scr:1d4ab si:3a8"]),
  ('Q', [
    "UOT:22 fr:1d514 opf:211a scr:1d4ac"]),
  ('R', [
    "Barr:2910 EG:ae acute:154 ang:27eb arr:21a0 arrtl:2916 caron:158 cedil:156 cy:420 e:211c",
    "everseElement:220b everseEquilibrium:21cb everseUpEquilibrium:296f fr:211c ho:3a1",
    "ightAngleBracket:27e9 ightArrow:2192 ightArrowBar:21e5 ightArrowLeftArrow:21c4",
    "ightCeiling:2309 ightDoubleBracket:27e7 ightDownTeeVector:295d ightDownVector:21c2",
    "ightDownVectorBar:2955 ightFloor:230b ightTee:22a2 ightTeeArrow:21a6 ightTeeVector:295b",
    "ightTriangle:22b3 ightTriangleBar:29d0 ightTriangleEqual:22b5 ightUpDownVector:294f",
    "ightUpTeeVector:295c ightUpVector:21be ightUpVectorBar:2954 ightVector:21c0",
    "ightVectorBar:2953 ightarrow:21d2 opf:211d oundImplies:2970 rightarrow:21db scr:211b sh:21b1",
    "uleDelayed:29f4"]),
  ('S', [
    "HCHcy:429 Hcy:428 OFTcy:42c acute:15a c:2abc caron:160 cedil:15e circ:15c cy:421 fr:1d516",
    "hortDownArrow:2193 hortLeftArrow:2190 hortRightArrow:2192 hortUpArrow:2191 igma:3a3",
    "mallCircle:2218 opf:1d54a qrt:221a quare:25a1 quareIntersection:2293 quareSubset:228f",
    "quareSubsetEqual:2291 quareSuperset:2290 quareSupersetEqual:2292 quareUnion:2294 scr:1d4ae",
    "tar:22c6 ub:22d0 ubset:22d0 ubsetEqual:2286 ucceeds:227b ucceedsEqual:2ab0",
    "ucceedsSlantEqual:227d ucceedsTilde:227f uchThat:220b um:2211 up:22d1 uperset:2283",
    "upersetEqual:2287 upset:22d1"]),
  ('T', [
    "HORN:de RADE:2122 SHcy:40b Scy:426 ab:9 au:3a4 caron:164 cedil:162 cy:422 fr:1d517",
    "herefore:2234 heta:398 hickSpace:205f,200a hinSpace:2009 ilde:223c ildeEqual:2243",
    "ildeFullEqual:2245 ildeTilde:2248 opf:1d54b ripleDot:20db scr:1d4af strok:166"]),
  ('U', [
    "acute:da arr:219f arrocir:2949 brcy:40e breve:16c circ:db cy:423 dblac:170 fr:1d518 grave:d9",
    "macr:16a nderBar:5f nderBrace:23df nderBracket:23b5 nderParenthesis:23dd nion:22c3",
    "nionPlus:228e ogon:172 opf:1d54c pArrow:2191 pArrowBar:2912 pArrowDownArrow:21c5",
    "pDownArrow:2195 pEquilibrium:296e pTee:22a5 pTeeArrow:21a5 parrow:21d1 pdownarrow:21d5",
    "pperLeftArrow:2196 pperRightArrow:2197 psi:3d2 psilon:3a5 ring:16e scr:1d4b0 tilde:168",
    "uml:dc"]),
  ('V', [
    "Dash:22ab bar:2aeb cy:412 dash:22a9 dashl:2ae6 ee:22c1 erbar:2016 ert:2016 erticalBar:2223",
    "erticalLine:7c erticalSeparator:2758 erticalTilde:2240 eryThinSpace:200a fr:1d519 opf:1d54d",
    "scr:1d4b1 vdash:22aa"]),
  ('W', [
    "circ:174 edge:22c0 fr:1d51a opf:1d54e scr:1d4b2"]),
  ('X', [
    "fr:1d51b i:39e opf:1d54f scr:1d4b3"]),
  ('Y', [
    "Acy:42f Icy:407 Ucy:42e acute:dd circ:176 cy:42b fr:1d51c opf:1d550 scr:1d4b4 uml:178"]),
  ('Z', [
    "Hcy:416 acute:179 caron:17d cy:417 dot:17b eroWidthSpace:200b eta:396 fr:2128 opf:2124",
    "scr:1d4b5"]),
  ('a', [
    "acute:e1 breve:103 c:223e cE:223e,333 cd:223f circ:e2 cute:b4 cy:430 elig:e6 f:2061 fr:1d51e",
    "grave:e0 lefsym:2135 leph:2135 lpha:3b1 macr:101 malg:2a3f mp:26 nd:2227 ndand:2a55 ndd:2a5c",
    "ndslope:2a58 ndv:2a5a ng:2220 nge:29a4 ngle:2220 ngmsd:2221 ngmsdaa:29a8 ngmsdab:29a9",
    "ngmsdac:29aa ngmsdad:29ab ngmsdae:29ac ngmsdaf:29ad ngmsdag:29ae ngmsdah:29af ngrt:221f",
    "ngrtvb:22be ngrtvbd:299d ngsph:2222 ngst:c5 ngzarr:237c ogon:105 opf:1d552 p:2248 pE:2a70",
    "pacir:2a6f pe:224a pid:224b pos:27 pprox:2248 pproxeq:224a ring:e5 scr:1d4b6 st:2a symp:2248",
    "sympeq:224d tilde:e3 uml:e4 wconint:2233 wint:2a11"]),
  ('b', [
    "Not:2aed ackcong:224c ackepsilon:3f6 ackprime:2035 acksim:223d acksimeq:22cd arvee:22bd",
    "arwed:2305 arwedge:2305 brk:23b5 brktbrk:23b6 cong:224c cy:431 dquo:201e ecaus:2235",
    "ecause:2235 emptyv:29b0 epsi:3f6 ernou:212c eta:3b2 eth:2136 etween:226c fr:1d51f igcap:22c2",
    "igcirc:25ef igcup:22c3 igodot:2a00 igoplus:2a01 igotimes:2a02 igsqcup:2a06 igstar:2605",
    "igtriangledown:25bd igtriangleup:25b3 iguplus:2a04 igvee:22c1 igwedge:22c0 karow:290d",
    "lacklozenge:29eb lacksquare:25aa lacktriangle:25b4 lacktriangledown:25be",
    "lacktriangleleft:25c2 lacktriangleright:25b8 lank:2423 lk12:2592 lk14:2591 lk34:2593",
    "lock:2588 ne:3d,20e5 nequiv:2261,20e5 not:2310 opf:1d553 ot:22a5 ottom:22a5 owtie:22c8",
    "oxDL:2557 oxDR:2554 oxDl:2556 oxDr:2553 oxH:2550 oxHD:2566 oxHU:2569 oxHd:2564 oxHu:2567",
    "oxUL:255d oxUR:255a oxUl:255c oxUr:2559 oxV:2551 oxVH:256c oxVL:2563 oxVR:2560 oxVh:256b",
    "oxVl:2562 oxVr:255f oxbox:29c9 oxdL:2555 oxdR:2552 oxdl:2510 oxdr:250c oxh:2500 oxhD:2565",
    "oxhU:2568 oxhd:252c oxhu:2534 oxminus:229f oxplus:229e oxtimes:22a0 oxuL:255b oxuR:2558",
    "oxul:2518 oxur:2514 oxv:2502 oxvH:256a oxvL:2561 oxvR:255e oxvh:253c oxvl:2524 oxvr:251c",
    "prime:2035 reve:2d8 rvbar:a6 scr:1d4b7 semi:204f sim:223d sime:22cd sol:5c solb:29c5",
    "solhsub:27c8 ull:2022 ullet:2022 ump:224e umpE:2aae umpe:224f umpeq:224f"]),
  ('c', [
    "acute:107 ap:2229 apand:2a44 apbrcup:2a49 apcap:2a4b apcup:2a47 apdot:2a40 aps:2229,fe00",
    "aret:2041 aron:2c7 caps:2a4d caron:10d cedil:e7 circ:109 cups:2a4c cupssm:2a50 dot:10b",
    "edil:b8 emptyv:29b2 ent:a2 enterdot:b7 fr:1d520 hcy:447 heck:2713 heckmark:2713 hi:3c7",
    "ir:25cb irE:29c3 irc:2c6 irceq:2257 irclearrowleft:21ba irclearrowright:21bb ircledR:ae",
    "ircledS:24c8 ircledast:229b ircledcirc:229a ircleddash:229d ire:2257 irfnint:2a10 irmid:2aef",
    "irscir:29c2 lubs:2663 lubsuit:2663 olon:3a olone:2254 oloneq:2254 omma:2c ommat:40 omp:2201",
    "ompfn:2218 omplement:2201 omplexes:2102 ong:2245 ongdot:2a6d onint:222e opf:1d554 oprod:2210",
    "opy:a9 opysr:2117 rarr:21b5 ross:2717 scr:1d4b8 sub:2acf sube:2ad1 sup:2ad0 supe:2ad2",
    "tdot:22ef udarrl:2938 udarrr:2935 uepr:22de uesc:22df ularr:21b6 ularrp:293d up:222a",
    "upbrcap:2a48 upcap:2a46 upcup:2a4a updot:228d upor:2a45 ups:222a,fe00 urarr:21b7 urarrm:293c",
    "urlyeqprec:22de urlyeqsucc:22df urlyvee:22ce urlywedge:22cf urren:a4 urvearrowleft:21b6",
    "urvearrowright:21b7 uvee:22ce uwed:22cf wconint:2232 wint:2231 ylcty:232d"]),
  ('d', [
    "Arr:21d3 Har:2965 agger:2020 aleth:2138 arr:2193 ash:2010 ashv:22a3 bkarow:290f blac:2dd",
    "caron:10f cy:434 d:2146 dagger:2021 darr:21ca dotseq:2a77 eg:b0 elta:3b4 emptyv:29b1",
    "fisht:297f fr:1d521 harl:21c3 harr:21c2 iam:22c4 iamond:22c4 iamondsuit:2666 iams:2666 ie:a8",
    "igamma:3dd isin:22f2 iv:f7 ivide:f7 ivideontimes:22c7 ivonx:22c7 jcy:452 lcorn:231e",
    "lcrop:230d ollar:24 opf:1d555 ot:2d9 oteq:2250 oteqdot:2251 otminus:2238 otplus:2214",
    "otsquare:22a1 oublebarwedge:2306 ownarrow:2193 owndownarrows:21ca ownharpoonleft:21c3",
    "ownharpoonright:21c2 rbkarow:2910 rcorn:231f rcrop:230c scr:1d4b9 scy:455 sol:29f6 strok:111",
    "tdot:22f1 tri:25bf trif:25be uarr:21f5 uhar:296f wangle:29a6 zcy:45f zigrarr:27ff"]),
  ('e', [
    "DDot:2a77 Dot:2251 acute:e9 aster:2a6e caron:11b cir:2256 circ:ea colon:2255 cy:44d dot:117",
    "e:2147 fDot:2252 fr:1d522 g:2a9a grave:e8 gs:2a96 gsdot:2a98 l:2a99 linters:23e7 ll:2113",
    "ls:2a95 lsdot:2a97 macr:113 mpty:2205 mptyset:2205 mptyv:2205 msp:2003 msp13:2004 msp14:2005",
    "ng:14b nsp:2002 ogon:119 opf:1d556 par:22d5 parsl:29e3 plus:2a71 psi:3b5 psilon:3b5 psiv:3f5",
    "qcirc:2256 qcolon:2255 qsim:2242 qslantgtr:2a96 qslantless:2a95 quals:3d quest:225f",
    "quiv:2261 quivDD:2a78 qvparsl:29e5 rDot:2253 rarr:2971 scr:212f sdot:2250 sim:2242 ta:3b7",
    "th:f0 uml:eb uro:20ac xcl:21 xist:2203 xpectation:2130 xponentiale:2147"]),
  ('f', [
    "allingdotseq:2252 cy:444 emale:2640 filig:fb03 flig:fb00 fllig:fb04 fr:1d523 ilig:fb01",
    "jlig:66,6a lat:266d llig:fb02 ltns:25b1 nof:192 opf:1d557 orall:2200 ork:22d4 orkv:2ad9",
    "partint:2a0d rac12:bd rac13:2153 rac14:bc rac15:2155 rac16:2159 rac18:215b rac23:2154",
    "rac25:2156 rac34:be rac35:2157 rac38:215c rac45:2158 rac56:215a rac58:215d rac78:215e",
    "rasl:2044 rown:2322 scr:1d4bb"]),
  ('g', [
    "E:2267 El:2a8c acute:1f5 amma:3b3 ammad:3dd ap:2a86 breve:11f circ:11d cy:433 dot:121 e:2265",
    "el:22db eq:2265 eqq:2267 eqslant:2a7e es:2a7e escc:2aa9 esdot:2a80 esdoto:2a82 esdotol:2a84",
    "esl:22db,fe00 esles:2a94 fr:1d524 g:226b gg:22d9 imel:2137 jcy:453 l:2277 lE:2a92 la:2aa5",
    "lj:2aa4 nE:2269 nap:2a8a napprox:2a8a ne:2a88 neq:2a88 neqq:2269 nsim:22e7 opf:1d558 rave:60",
    "scr:210a sim:2273 sime:2a8e siml:2a90 t:3e tcc:2aa7 tcir:2a7a tdot:22d7 tlPar:2995",
    "tquest:2a7c trapprox:2a86 trarr:2978 trdot:22d7 treqless:22db treqqless:2a8c trless:2277",
    "trsim:2273 vertneqq:2269,fe00 vnE:2269,fe00"]),
  ('h', [
    "Arr:21d4 airsp:200a alf:bd amilt:210b ardcy:44a arr:2194 arrcir:2948 arrw:21ad bar:210f",
    "circ:125 earts:2665 eartsuit:2665 ellip:2026 ercon:22b9 fr:1d525 ksearow:2925 kswarow:2926",
    "oarr:21ff omtht:223b ookleftarrow:21a9 ookrightarrow:21aa opf:1d559 orbar:2015 scr:1d4bd",
    "slash:210f strok:127 ybull:2043 yphen:2010"]),
  ('i', [
    "acute:ed c:2063 circ:ee cy:438 ecy:435 excl:a1 ff:21d4 fr:1d526 grave:ec i:2148 iiint:2a0c",
    "iint:222d infin:29dc iota:2129 jlig:133 macr:12b mage:2111 magline:2110 magpart:2111",
    "math:131 mof:22b7 mped:1b5 n:2208 ncare:2105 nfin:221e nfintie:29dd nodot:131 nt:222b",
    "ntcal:22ba ntegers:2124 ntercal:22ba ntlarhk:2a17 ntprod:2a3c ocy:451 ogon:12f opf:1d55a",
    "ota:3b9 prod:2a3c quest:bf scr:1d4be sin:2208 sinE:22f9 sindot:22f5 sins:22f4 sinsv:22f3",
    "sinv:2208 t:2062 tilde:129 ukcy:456 uml:ef"]),
  ('j', [
    "circ:135 cy:439 fr:1d527 math:237 opf:1d55b scr:1d4bf sercy:458 ukcy:454"]),
  ('k', [
    "appa:3ba appav:3f0 cedil:137 cy:43a fr:1d528 green:138 hcy:445 jcy:45c opf:1d55c scr:1d4c0"]),
  ('l', [
    "Aarr:21da Arr:21d0 Atail:291b Barr:290e E:2266 Eg:2a8b Har:2962 acute:13a aemptyv:29b4",
    "agran:2112 ambda:3bb ang:27e8 angd:2991 angle:27e8 ap:2a85 aquo:ab arr:2190 arrb:21e4",
    "arrbfs:291f arrfs:291d arrhk:21a9 arrlp:21ab arrpl:2939 arrsim:2973 arrtl:21a2 at:2aab",
    "atail:2919 ate:2aad ates:2aad,fe00 barr:290c bbrk:2772 brace:7b brack:5b brke:298b",
    "brksld:298f brkslu:298d caron:13e cedil:13c ceil:2308 cub:7b cy:43b dca:2936 dquo:201c",
    "dquor:201e drdhar:2967 drushar:294b dsh:21b2 e:2264 eftarrow:2190 eftarrowtail:21a2",
    "eftharpoondown:21bd eftharpoonup:21bc eftleftarrows:21c7 eftrightarrow:2194",
    "eftrightarrows:21c6 eftrightharpoons:21cb eftrightsquigarrow:21ad eftthreetimes:22cb eg:22da",
    "eq:2264 eqq:2266 eqslant:2a7d es:2a7d escc:2aa8 esdot:2a7f esdoto:2a81 esdotor:2a83",
    "esg:22da,fe00 esges:2a93 essapprox:2a85 essdot:22d6 esseqgtr:22da esseqqgtr:2a8b essgtr:2276",
    "esssim:2272 fisht:297c floor:230a fr:1d529 g:2276 gE:2a91 hard:21bd haru:21bc harul:296a",
    "hblk:2584 jcy:459 l:226a larr:21c7 lcorner:231e lhard:296b ltri:25fa midot:140 moust:23b0",
    "moustache:23b0 nE:2268 nap:2a89 napprox:2a89 ne:2a87 neq:2a87 neqq:2268 nsim:22e6 oang:27ec",
    "oarr:21fd obrk:27e6 ongleftarrow:27f5 ongleftrightarrow:27f7 ongmapsto:27fc",
    "ongrightarrow:27f6 ooparrowleft:21ab ooparrowright:21ac opar:2985 opf:1d55d oplus:2a2d",
    "otimes:2a34 owast:2217 owbar:5f oz:25ca ozenge:25ca ozf:29eb par:28 parlt:2993 rarr:21c6",
    "rcorner:231f rhar:21cb rhard:296d rm:200e rtri:22bf saquo:2039 scr:1d4c1 sh:21b0 sim:2272",
    "sime:2a8d simg:2a8f sqb:5b squo:2018 squor:201a strok:142 t:3c tcc:2aa6 tcir:2a79 tdot:22d6",
    "three:22cb times:22c9 tlarr:2976 tquest:2a7b trPar:2996 tri:25c3 trie:22b4 trif:25c2",
    "urdshar:294a uruhar:2966 vertneqq:2268,fe00 vnE:2268,fe00"]),
  ('m', [
    "DDot:223a acr:af ale:2642 alt:2720 altese:2720 ap:21a6 apsto:21a6 apstodown:21a7",
    "apstoleft:21a4 apstoup:21a5 arker:25ae comma:2a29 cy:43c dash:2014 easuredangle:2221",
    "fr:1d52a ho:2127 icro:b5 id:2223 idast:2a idcir:2af0 iddot:b7 inus:2212 inusb:229f",
    "inusd:2238 inusdu:2a2a lcp:2adb ldr:2026 nplus:2213 odels:22a7 opf:1d55e p:2213 scr:1d4c2",
    "stpos:223e u:3bc ultimap:22b8 umap:22b8"]),
  ('n', [
    "Gg:22d9,338 Gt:226b,20d2 Gtv:226b,338 Leftarrow:21cd Leftrightarrow:21ce Ll:22d8,338",
    "Lt:226a,20d2 Ltv:226a,338 Rightarrow:21cf VDash:22af Vdash:22ae abla:2207 acute:144",
    "ang:2220,20d2 ap:2249 apE:2a70,338 apid:224b,338 apos:149 approx:2249 atur:266e atural:266e",
    "aturals:2115 bsp:a0 bump:224e,338 bumpe:224f,338 cap:2a43 caron:148 cedil:146 cong:2247",
    "congdot:2a6d,338 cup:2a42 cy:43d dash:2013 e:2260 eArr:21d7 earhk:2924 earr:2197 earrow:2197",
    "edot:2250,338 equiv:2262 esear:2928 esim:2242,338 exist:2204 exists:2204 fr:1d52b",
    "gE:2267,338 ge:2271 geq:2271 geqq:2267,338 geqslant:2a7e,338 ges:2a7e,338 gsim:2275 gt:226f",
    "gtr:226f hArr:21ce harr:21ae hpar:2af2 i:220b is:22fc isd:22fa iv:220b jcy:45a lArr:21cd",
    "lE:2266,338 larr:219a ldr:2025 le:2270 leftarrow:219a leftrightarrow:21ae leq:2270",
    "leqq:2266,338 leqslant:2a7d,338 les:2a7d,338 less:226e lsim:2274 lt:226e ltri:22ea",
    "ltrie:22ec mid:2224 opf:1d55f ot:ac otin:2209 otinE:22f9,338 otindot:22f5,338 otinva:2209",
    "otinvb:22f7 otinvc:22f6 otni:220c otniva:220c otnivb:22fe otnivc:22fd par:2226 parallel:2226",
    "parsl:2afd,20e5 part:2202,338 polint:2a14 pr:2280 prcue:22e0 pre:2aaf,338 prec:2280",
    "preceq:2aaf,338 rArr:21cf rarr:219b rarrc:2933,338 rarrw:219d,338 rightarrow:219b rtri:22eb",
    "rtrie:22ed sc:2281 sccue:22e1 sce:2ab0,338 scr:1d4c3 shortmid:2224 shortparallel:2226",
    "sim:2241 sime:2244 simeq:2244 smid:2224 spar:2226 sqsube:22e2 sqsupe:22e3 sub:2284",
    "subE:2ac5,338 sube:2288 subset:2282,20d2 subseteq:2288 subseteqq:2ac5,338 succ:2281",
    "succeq:2ab0,338 sup:2285 supE:2ac6,338 supe:2289 supset:2283,20d2 supseteq:2289",
    "supseteqq:2ac6,338 tgl:2279 tilde:f1 tlg:2278 triangleleft:22ea trianglelefteq:22ec",
    "triangleright:22eb trianglerighteq:22ed u:3bd um:23 umero:2116 umsp:2007 vDash:22ad",
    "vHarr:2904 vap:224d,20d2 vdash:22ac vge:2265,20d2 vgt:3e,20d2 vinfin:29de vlArr:2902",
    "vle:2264,20d2 vlt:3c,20d2 vltrie:22b4,20d2 vrArr:2903 vrtrie:22b5,20d2 vsim:223c,20d2",
    "wArr:21d6 warhk:2923 warr:2196 warrow:2196 wnear:2927"]),
  ('o', [
    "S:24c8 acute:f3 ast:229b cir:229a circ:f4 cy:43e dash:229d dblac:151 div:2a38 dot:2299",
    "dsold:29bc elig:153 fcir:29bf fr:1d52c gon:2db grave:f2 gt:29c1 hbar:29b5 hm:3a9 int:222e",
    "larr:21ba lcir:29be lcross:29bb line:203e lt:29c0 macr:14d mega:3c9 micron:3bf mid:29b6",
    "minus:2296 opf:1d560 par:29b7 perp:29b9 plus:2295 r:2228 rarr:21bb rd:2a5d rder:2134",
    "rderof:2134 rdf:aa rdm:ba rigof:22b6 ror:2a56 rslope:2a57 rv:2a5b scr:2134 slash:f8 sol:2298",
    "tilde:f5 times:2297 timesas:2a36 uml:f6 vbar:233d"]),
  ('p', [
    "ar:2225 ara:b6 arallel:2225 arsim:2af3 arsl:2afd art:2202 cy:43f ercnt:25 eriod:2e",
    "ermil:2030 erp:22a5 ertenk:2031 fr:1d52d hi:3c6 hiv:3d5 hmmat:2133 hone:260e i:3c0",
    "itchfork:22d4 iv:3d6 lanck:210f lanckh:210e lankv:210f lus:2b lusacir:2a23 lusb:229e",
    "luscir:2a22 lusdo:2214 lusdu:2a25 luse:2a72 lusmn:b1 lussim:2a26 lustwo:2a27 m:b1",
    "ointint:2a15 opf:1d561 ound:a3 r:227a rE:2ab3 rap:2ab7 rcue:227c re:2aaf rec:227a",
    "recapprox:2ab7 reccurlyeq:227c receq:2aaf recnapprox:2ab9 recneqq:2ab5 recnsim:22e8",
    "recsim:227e rime:2032 rimes:2119 rnE:2ab5 rnap:2ab9 rnsim:22e8 rod:220f rofalar:232e",
    "rofline:2312 rofsurf:2313 rop:221d ropto:221d rsim:227e rurel:22b0 scr:1d4c5 si:3c8",
    "uncsp:2008"]),
  ('q', [
    "fr:1d52e int:2a0c opf:1d562 prime:2057 scr:1d4c6 uaternions:210d uatint:2a16 uest:3f",
    "uesteq:225f uot:22"]),
  ('r', [
    "Aarr:21db Arr:21d2 Atail:291c Barr:290f Har:2964 ace:223d,331 acute:155 adic:221a",
    "aemptyv:29b3 ang:27e9 angd:2992 ange:29a5 angle:27e9 aquo:bb arr:2192 arrap:2975 arrb:21e5",
    "arrbfs:2920 arrc:2933 arrfs:291e arrhk:21aa arrlp:21ac arrpl:2945 arrsim:2974 arrtl:21a3",
    "arrw:219d atail:291a atio:2236 ationals:211a barr:290d bbrk:2773 brace:7d brack:5d brke:298c",
    "brksld:298e brkslu:2990 caron:159 cedil:157 ceil:2309 cub:7d cy:440 dca:2937 dldhar:2969",
    "dquo:201d dquor:201d dsh:21b3 eal:211c ealine:211b ealpart:211c eals:211d ect:25ad eg:ae",
    "fisht:297d floor:230b fr:1d52f hard:21c1 haru:21c0 harul:296c ho:3c1 hov:3f1 ightarrow:2192",
    "ightarrowtail:21a3 ightharpoondown:21c1 ightharpoonup:21c0 ightleftarrows:21c4",
    "ightleftharpoons:21cc ightrightarrows:21c9 ightsquigarrow:219d ightthreetimes:22cc ing:2da",
    "isingdotseq:2253 larr:21c4 lhar:21cc lm:200f moust:23b1 moustache:23b1 nmid:2aee oang:27ed",
    "oarr:21fe obrk:27e7 opar:2986 opf:1d563 oplus:2a2e otimes:2a35 par:29 pargt:2994",
    "ppolint:2a12 rarr:21c9 saquo:203a scr:1d4c7 sh:21b1 sqb:5d squo:2019 squor:2019 three:22cc",
    "times:22ca tri:25b9 trie:22b5 trif:25b8 triltri:29ce uluhar:2968 x:211e"]),
  ('s', [
    "acute:15b bquo:201a c:227b cE:2ab4 cap:2ab8 caron:161 ccue:227d ce:2ab0 cedil:15f circ:15d",
    "cnE:2ab6 cnap:2aba cnsim:22e9 cpolint:2a13 csim:227f cy:441 dot:22c5 dotb:22a1 dote:2a66",
    "eArr:21d8 earhk:2925 earr:2198 earrow:2198 ect:a7 emi:3b eswar:2929 etminus:2216 etmn:2216",
    "ext:2736 fr:1d530 frown:2322 harp:266f hchcy:449 hcy:448 hortmid:2223 hortparallel:2225",
    "hy:ad igma:3c3 igmaf:3c2 igmav:3c2 im:223c imdot:2a6a ime:2243 imeq:2243 img:2a9e imgE:2aa0",
    "iml:2a9d imlE:2a9f imne:2246 implus:2a24 imrarr:2972 larr:2190 mallsetminus:2216 mashp:2a33",
    "meparsl:29e4 mid:2223 mile:2323 mt:2aaa mte:2aac mtes:2aac,fe00 oftcy:44c ol:2f olb:29c4",
    "olbar:233f opf:1d564 pades:2660 padesuit:2660 par:2225 qcap:2293 qcaps:2293,fe00 qcup:2294",
    "qcups:2294,fe00 qsub:228f qsube:2291 qsubset:228f qsubseteq:2291 qsup:2290 qsupe:2292",
    "qsupset:2290 qsupseteq:2292 qu:25a1 quare:25a1 quarf:25aa quf:25aa rarr:2192 scr:1d4c8",
    "setmn:2216 smile:2323 starf:22c6 tar:2606 tarf:2605 traightepsilon:3f5 traightphi:3d5",
    "trns:af ub:2282 ubE:2ac5 ubdot:2abd ube:2286 ubedot:2ac3 ubmult:2ac1 ubnE:2acb ubne:228a",
    "ubplus:2abf ubrarr:2979 ubset:2282 ubseteq:2286 ubseteqq:2ac5 ubsetneq:228a ubsetneqq:2acb",
    "ubsim:2ac7 ubsub:2ad5 ubsup:2ad3 ucc:227b uccapprox:2ab8 ucccurlyeq:227d ucceq:2ab0",
    "uccnapprox:2aba uccneqq:2ab6 uccnsim:22e9 uccsim:227f um:2211 ung:266a up:2283 up1:b9 up2:b2",
    "up3:b3 upE:2ac6 updot:2abe updsub:2ad8 upe:2287 upedot:2ac4 uphsol:27c9 uphsub:2ad7",
    "uplarr:297b upmult:2ac2 upnE:2acc upne:228b upplus:2ac0 upset:2283 upseteq:2287",
    "upseteqq:2ac6 upsetneq:228b upsetneqq:2acc upsim:2ac8 upsub:2ad4 upsup:2ad6 wArr:21d9",
    "warhk:2926 warr:2199 warrow:2199 wnwar:292a zlig:df"]),
  ('t', [
    "arget:2316 au:3c4 brk:23b4 caron:165 cedil:163 cy:442 dot:20db elrec:2315 fr:1d531",
    "here4:2234 herefore:2234 heta:3b8 hetasym:3d1 hetav:3d1 hickapprox:2248 hicksim:223c",
    "hinsp:2009 hkap:2248 hksim:223c horn:fe ilde:2dc imes:d7 imesb:22a0 imesbar:2a31 imesd:2a30",
    "int:222d oea:2928 op:22a4 opbot:2336 opcir:2af1 opf:1d565 opfork:2ada osa:2929 prime:2034",
    "rade:2122 riangle:25b5 riangledown:25bf riangleleft:25c3 rianglelefteq:22b4 riangleq:225c",
    "riangleright:25b9 rianglerighteq:22b5 ridot:25ec rie:225c riminus:2a3a riplus:2a39 risb:29cd",
    "ritime:2a3b rpezium:23e2 scr:1d4c9 scy:446 shcy:45b strok:167 wixt:226c woheadleftarrow:219e",
    "woheadrightarrow:21a0"]),
  ('u', [
    "Arr:21d1 Har:2963 acute:fa arr:2191 brcy:45e breve:16d circ:fb cy:443 darr:21c5 dblac:171",
    "dhar:296e fisht:297e fr:1d532 grave:f9 harl:21bf harr:21be hblk:2580 lcorn:231c lcorner:231c",
    "lcrop:230f ltri:25f8 macr:16b ml:a8 ogon:173 opf:1d566 parrow:2191 pdownarrow:2195",
    "pharpoonleft:21bf pharpoonright:21be plus:228e psi:3c5 psih:3d2 psilon:3c5 puparrows:21c8",
    "rcorn:231d rcorner:231d rcrop:230e ring:16f rtri:25f9 scr:1d4ca tdot:22f0 tilde:169 tri:25b5",
    "trif:25b4 uarr:21c8 uml:fc wangle:29a7"]),
  ('v', [
    "Arr:21d5 Bar:2ae8 Barv:2ae9 Dash:22a8 angrt:299c arepsilon:3f5 arkappa:3f0 arnothing:2205",
    "arphi:3d5 arpi:3d6 arpropto:221d arr:2195 arrho:3f1 arsigma:3c2 arsubsetneq:228a,fe00",
    "arsubsetneqq:2acb,fe00 arsupsetneq:228b,fe00 arsupsetneqq:2acc,fe00 artheta:3d1",
    "artriangleleft:22b2 artriangleright:22b3 cy:432 dash:22a2 ee:2228 eebar:22bb eeeq:225a",
    "ellip:22ee erbar:7c ert:7c fr:1d533 ltri:22b2 nsub:2282,20d2 nsup:2283,20d2 opf:1d567",
    "prop:221d rtri:22b3 scr:1d4cb subnE:2acb,fe00 subne:228a,fe00 supnE:2acc,fe00",
    "supne:228b,fe00 zigzag:299a"]),
  ('w', [
    "circ:175 edbar:2a5f edge:2227 edgeq:2259 eierp:2118 fr:1d534 opf:1d568 p:2118 r:2240",
    "reath:2240 scr:1d4cc"]),
  ('x', [
    "cap:22c2 circ:25ef cup:22c3 dtri:25bd fr:1d535 hArr:27fa harr:27f7 i:3be lArr:27f8 larr:27f5",
    "map:27fc nis:22fb odot:2a00 opf:1d569 oplus:2a01 otime:2a02 rArr:27f9 rarr:27f6 scr:1d4cd",
    "sqcup:2a06 uplus:2a04 utri:25b3 vee:22c1 wedge:22c0"]),
  ('y', [
    "acute:fd acy:44f circ:177 cy:44b en:a5 fr:1d536 icy:457 opf:1d56a scr:1d4ce ucy:44e uml:ff"]),
  ('z', [
    "acute:17a caron:17e cy:437 dot:17c eetrf:2128 eta:3b6 fr:1d537 hcy:436 igrarr:21dd opf:1d56b",
    "scr:1d4cf wj:200d wnj:200c"])]

end DocSite.Html
