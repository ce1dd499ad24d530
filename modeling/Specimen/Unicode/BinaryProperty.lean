import Specimen.Unicode.Category

/-!
# Properties that a character has or has not

Most of these properties are close to a union of general categories, so each is written as
the categories nearest to it together with the set of characters for which that guess is
wrong. The properties whose names begin with "Other" are the characters that a derived
property adds to the categories of its definition.
-/

namespace Specimen.Unicode

/-- The properties with their loose names. -/
def binaryNames : List (String × List String) := [
  ("Alphabetic", ["alpha", "alphabetic"]), ("ASCII_Hex_Digit", ["ahex", "asciihexdigit"]),
  ("Bidi_Control", ["bidic", "bidicontrol"]), ("Dash", ["dash"]),
  ("Default_Ignorable_Code_Point", ["di", "defaultignorablecodepoint"]),
  ("Deprecated", ["dep", "deprecated"]), ("Diacritic", ["dia", "diacritic"]),
  ("Extender", ["ext", "extender"]), ("Grapheme_Base", ["grbase", "graphemebase"]),
  ("Grapheme_Extend", ["grext", "graphemeextend"]),
  ("Grapheme_Link", ["grlink", "graphemelink"]), ("Hex_Digit", ["hex", "hexdigit"]),
  ("Hyphen", ["hyphen"]), ("ID_Continue", ["idc", "idcontinue"]),
  ("ID_Start", ["ids", "idstart"]), ("Ideographic", ["ideo", "ideographic"]),
  ("IDS_Binary_Operator", ["idsb", "idsbinaryoperator"]),
  ("IDS_Trinary_Operator", ["idst", "idstrinaryoperator"]),
  ("Join_Control", ["joinc", "joincontrol"]),
  ("Logical_Order_Exception", ["loe", "logicalorderexception"]),
  ("Lowercase", ["lower", "lowercase"]), ("Math", ["math"]),
  ("Noncharacter_Code_Point", ["nchar", "noncharactercodepoint"]),
  ("Quotation_Mark", ["qmark", "quotationmark"]), ("Radical", ["radical"]),
  ("Soft_Dotted", ["sd", "softdotted"]),
  ("Terminal_Punctuation", ["term", "terminalpunctuation"]),
  ("Unified_Ideograph", ["uideo", "unifiedideograph"]), ("Uppercase", ["upper", "uppercase"]),
  ("White_Space", ["wspace", "whitespace", "space"]), ("XID_Continue", ["xidc", "xidcontinue"]),
  ("XID_Start", ["xids", "xidstart"]), ("Sentence_Terminal", ["sterm", "sentenceterminal"]),
  ("Variation_Selector", ["vs", "variationselector"]),
  ("Pattern_Syntax", ["patsyn", "patternsyntax"]),
  ("Pattern_White_Space", ["patws", "patternwhitespace"]), ("Cased", ["cased"]),
  ("Case_Ignorable", ["ci", "caseignorable"]),
  ("Changes_When_Lowercased", ["cwl", "changeswhenlowercased"]),
  ("Changes_When_Uppercased", ["cwu", "changeswhenuppercased"]),
  ("Changes_When_Titlecased", ["cwt", "changeswhentitlecased"]),
  ("Changes_When_Casefolded", ["cwcf", "changeswhencasefolded"]),
  ("Changes_When_Casemapped", ["cwcm", "changeswhencasemapped"]), ("Emoji", ["emoji"]),
  ("Emoji_Presentation", ["epres", "emojipresentation"]),
  ("Emoji_Modifier", ["emod", "emojimodifier"]),
  ("Emoji_Modifier_Base", ["ebase", "emojimodifierbase"]),
  ("Emoji_Component", ["ecomp", "emojicomponent"]),
  ("Regional_Indicator", ["ri", "regionalindicator"]),
  ("Prepended_Concatenation_Mark", ["pcm", "prependedconcatenationmark"]),
  ("Extended_Pictographic", ["extpict", "extendedpictographic"]),
  ("IDS_Unary_Operator", ["idsu", "idsunaryoperator"]),
  ("ID_Compat_Math_Continue", ["idcompatmathcontinue"]),
  ("ID_Compat_Math_Start", ["idcompatmathstart"]),
  ("Modifier_Combining_Mark", ["mcm", "modifiercombiningmark"])]

/-- The properties: the categories nearest to each, and in alternating stretches the
characters for which these are wrong. -/
def binaryTable (_ : Unit) : List (String × List String × String) := [
  ("Alphabetic", ["Lu", "Ll", "Lt", "Lm", "Lo", "Mc", "Nl"],
    String.join [
      "837 1 29 13 576 14 1 1 1 2 1 2 1 1 72 11 48 13 1 7 16 1 101 7 4 4 2 2 4 1 35 1 30 16 102 ",
      "11 101 2 3 9 1 3 1 4 106 1 60 12 3 7 6 19 55 1 6 8 12 3 10 2 29 1 63 4 29 2 29 2 62 2 4 2 ",
      "2 2 4 1 30 2 3 1 11 2 62 5 1 2 25 2 22 3 4 1 61 1 1 4 17 1 11 2 30 1 61 1 63 1 3 1 57 3 5 ",
      "3 1 3 8 2 11 2 29 1 61 1 6 1 5 1 21 2 28 2 63 4 29 2 29 1 80 3 1 1 90 1 2 7 18 1 99 1 2 6 ",
      "1 2 16 1 112 2 49 14 1 4 9 11 1 36 112 4 1 5 6 2 25 2 4 3 16 4 13 1 2 2 6 1 15 1 1652 2 1 ",
      "1 28 3 29 2 30 2 67 7 8 1 190 2 34 1 118 3 4 2 9 1 228 2 2 1 58 1 1 7 3 1 2 8 6 2 74 2 11 ",
      "3 49 4 50 5 1 1 5 1 1 1 59 2 32 4 2 3 1 2 58 2 3 1 1 5 56 8 2 1 170 1 21 1 219 34 1729 52 ",
      "2294 32 558 2 30276 8 34 2 354 1 8 1 25 2 158 1 57 1 38 5 28 11 1 1 44 3 51 4 2 2 2 1 36 ",
      "1 67 6 2 2 2 2 12 1 8 1 47 1 51 1 1 3 2 2 5 1 45 2 247 1 2 1 3 1 18225 1 2135 5 1670 3 1 ",
      "2 5 4 788 4 65 1 321 2 79 1 260 1 54 14 45 2 11 2 49 4 11 1 61 3 36 5 1 6 77 2 52 9 1 1 ",
      "14 1 95 3 2 2 1 1 6 1 2 1 157 1 3 6 23 2 62 1 12 1 109 6 14 1 104 8 3 2 110 6 1 1 4 2 241 ",
      "4 6 2 30 2 85 8 2 1 2 1 106 1 1 1 2 7 102 1 1 1 2 4 1 4 260 9 259 3 150 4 2 2 37 10 42 4 ",
      "2 4 18 6 2 3 46 13 409 7 1 6 84 22 2 7 1 2 1 2 122 6 3 1 1 2 1 3 1 1 3 1 72 2 3 1 349 2 ",
      "11 2 52 5 5 2 16860 12 3 2 3616 1 63 4 19723 1 5318 2 6 6 3725 7 1 17 2 7 1 2 1 5 100 1 ",
      "2231 1 2024 26 6 26 6 26"]),
  ("ASCII_Hex_Digit", [],
    "48 10 7 6 26 6"),
  ("Bidi_Control", [],
    "1564 1 6641 2 26 5 55 4"),
  ("Dash", ["Pd"],
    "8275 1 39 1 15 1 390 1"),
  ("Default_Ignorable_Code_Point", [],
    String.join [
      "173 1 673 1 716 1 2882 2 1619 2 85 5 2043 5 26 5 49 16 4340 1 50331 16 239 1 160 1 79 9 ",
      "48295 4 5327 8 798341 4096"]),
  ("Deprecated", [],
    "329 1 1321 1 2307 1 1 1 2089 2 2245 6 697 2 906454 1"),
  ("Diacritic", ["Lm", "Sk"],
    String.join [
      "183 1 584 79 1 8 5 6 288 5 265 45 1 1 1 2 1 2 1 1 120 1 10 8 4 2 134 2 9 3 67 27 91 11 58 ",
      "9 6 1 29 3 9 1 3 1 95 1 15 8 42 9 16 28 61 1 16 1 3 4 103 1 16 1 110 1 16 1 110 1 16 1 47 ",
      "3 60 1 16 1 7 1 119 1 110 1 16 1 110 1 16 1 109 2 16 1 124 1 111 1 11 7 1 1 107 1 11 1 1 ",
      "5 75 2 27 1 1 1 1 1 4 2 66 3 1 2 62 1 112 1 1 2 40 2 4 5 25 7 1 1 10 2 96 1 608 3 948 2 ",
      "30 1 148 11 3 1 5 1 101 1 245 3 292 1 20 8 2 1 39 1 8 15 2 11 104 1 15 1 38 9 54 2 58 1 ",
      "11 2 66 2 152 25 4 1 6 1 2 3 126 1 70 1 4 12 37 11 625 1 13 1 16 13 3039 2 113 3 125 1 ",
      "661 1 36 6 1 5 5 1 93 2 2 2 94 2 28438 1 1250 6 270 1 98 1 12 2 114 2 126 1 129 3 17 1 37 ",
      "1 151 1 27 18 57 4 36 1 95 1 12 1 14 1 21 2 137 1 10 3 65 4 26 1 21 2 1 1 245 2 18224 1 ",
      "147 17 605 16 1200 1 1879 3 4 1 165 2 571 6 65 5 1 1 397 3 70 11 49 4 192 1 41 1 72 2 120 ",
      "2 62 1 76 1 9 3 104 2 178 2 80 2 16 1 24 7 3 5 89 3 1 2 13 2 95 1 3 1 123 2 251 2 126 1 ",
      "118 2 115 1 269 2 258 2 4 1 156 1 83 1 18 1 81 1 421 1 258 1 1 2 81 1 425 2 23 1 5356 15 ",
      "11481 1 2496 5 59 7 9 4 508 3 588 4 77 2 1 1 12 2 24334 46 2 23 544 3 3 6 8 8 2 7 30 4 ",
      "3970 14 368 1 61 4 507 1 258 2 736 7 109 3 1 4 2735 5"]),
  ("Extender", [],
    String.join [
      "183 1 536 2 878 1 441 1 630 1 137 1 89 1 752 1 127 1 2371 1 56 1 611 1 398 1 68 1 5001 1 ",
      "43 5 103 2 93 3 28438 1 1526 1 962 1 22 1 137 1 108 1 21 2 19579 1 2064 2 1483 1 27 1 4 1 ",
      "1223 1 293 1 116 2 498 3 1231 1 20649 2 1180 2 1 1 29016 2 1201 1 852 3"]),
  ("Grapheme_Base", ["Lu", "Ll", "Lt", "Lm", "Lo", "Mc", "Nd", "Nl", "No", "Zs", "Pd",
        "Ps", "Pe", "Pc", "Po", "Sm", "Sc", "Sk", "So", "Pi", "Pf"],
    String.join [
      "2494 1 24 1 358 1 24 1 102 1 24 1 232 1 1 1 4 2 1 2 9 2 103 1 24 1 119 1 15 1 2357 1 30 1 ",
      "1024 1 5 1 1 1 5 2 101 1 71 2 5178 2 31011 1 108 1 19933 2 4640 1 116 1 264 1 14 1 9 1 96 ",
      "1 9 1 2 1 1 3 5 1 224 1 12 1 241 1 262 1 633 1 12 1 1539 1 20654 2 24947 2 6 6"]),
  ("Grapheme_Extend", ["Mn", "Me", "Cf"],
    String.join [
      "173 1 1362 6 22 1 192 1 49 1 384 2 80 1 219 1 24 1 358 1 24 1 102 1 24 1 232 1 1 1 4 2 1 ",
      "2 9 2 103 1 24 1 119 1 15 1 2357 1 30 1 217 1 806 1 5 1 1 1 5 2 101 1 71 2 1047 1 1 3 26 ",
      "5 49 5 1 10 4030 2 31011 1 108 1 19774 1 158 2 89 3 4289 1 15 1 242 1 116 1 264 1 14 1 9 ",
      "1 96 1 9 1 2 1 1 3 5 1 224 1 12 1 241 1 262 1 633 1 12 1 1539 1 5358 16 15280 2 19630 4 ",
      "5313 2 6 14 798342 1"]),
  ("Grapheme_Link", [],
    String.join [
      "2381 1 127 1 127 1 127 1 127 1 127 1 127 1 127 1 109 2 16 1 124 1 111 1 127 1 201 1 180 2 ",
      "1753 2 30 1 157 1 653 1 227 1 101 2 70 2 4491 1 31366 1 37 1 151 1 142 1 108 1 309 1 246 ",
      "1 22097 1 1542 1 41 1 14 1 57 1 121 2 139 1 116 1 180 1 98 1 128 3 113 1 127 1 252 1 127 ",
      "1 118 1 116 1 269 1 259 2 161 1 83 1 18 1 81 1 421 1 260 2 81 1 425 2 16876 1"]),
  ("Hex_Digit", [],
    "48 10 7 6 26 6 63145 10 7 6 26 6"),
  ("Hyphen", [],
    "45 1 127 1 1244 1 4731 1 2057 2 3589 1 739 1 50535 1 169 1 87 1"),
  ("ID_Continue", ["Lu", "Ll", "Lt", "Lm", "Lo", "Mn", "Mc", "Nd", "Nl", "Pc"],
    "183 1 719 1 4065 9 1640 1 1585 2 266 1 21 1 3328 1 619 2 94 1 50793 1"),
  ("ID_Start", ["Lu", "Ll", "Lt", "Lm", "Lo", "Nl"],
    "6277 2 2193 1 21 1 3328 1 619 2"),
  ("Ideographic", [],
    String.join [
      "12294 2 25 9 14 3 965 6592 64 20992 20736 366 2 106 29962 1 27 6136 8 1238 41 10 9319 396 ",
      "19716 42720 32 4154 6 222 2 5762 14 7473 15 622 2466 542 1506 4939 5 4192"]),
  ("IDS_Binary_Operator", [],
    "12272 2 2 10 497 1"),
  ("IDS_Trinary_Operator", [],
    "12274 2"),
  ("Join_Control", [],
    "8204 2"),
  ("Logical_Order_Exception", [],
    "3648 5 123 5 2800 3 2 1 37114 2 2 1 1 2"),
  ("Lowercase", ["Ll", "Lm"],
    String.join [
      "170 1 15 1 510 7 6 12 26 1 1 1 86 1 46 1 484 1 230 1 164 2 269 2 4 1 31 1 9 1 3 1 160 1 ",
      "167 1 1236 1 127 1 2320 1 107 1 611 1 464 6 1266 16 848 26 2181 1 191 1 469 1 43 5 5 1 97 ",
      "2 93 3 28438 1 1250 6 270 1 114 1 151 9 104 1 582 1 22 1 137 1 108 1 21 2 19579 1 45 2 ",
      "2017 2 1483 1 32 1 24016 4 508 3 40 2 550 13 64 2 1 1 16396 4 1 7 1 2 12600 7 941 1 " ++
      "1119 1"]),
  ("Math", ["Sm"],
    String.join [
      "94 1 881 3 2 1 26 2 2 2 7200 1 27 3 11 1 32 4 24 2 14 2 65 13 4 1 3 2 4 5 18 1 4 1 2 10 1 ",
      "1 3 5 6 1 3 2 2 2 1 3 1 6 3 4 5 5 75 5 2 4 1 2 1 2 1 1 1 5 2 2 4 2 4 18 2 2 1 1 1 7 1 1 6 ",
      "2 290 4 168 2 1 1 24 1 17 1 445 2 12 9 5 5 5 2 2 2 3 5 14 1 1 1 2 6 24 2 57 1 1 1 29 4 9 ",
      "2 342 2 31 10 403 22 63 4 32 2 52323 1 1 1 4 1 211 1 1 1 54465 85 1 71 1 2 2 1 2 2 2 4 1 ",
      "12 1 1 1 7 1 65 1 4 2 8 1 7 1 28 1 4 1 5 1 1 3 7 1 340 2 25 1 25 1 31 1 25 1 31 1 25 1 31 ",
      "1 25 1 31 1 25 1 8 2 50 5632 4 1 27 1 2 1 1 2 1 1 10 1 4 1 1 1 1 6 1 4 1 1 1 1 1 1 3 1 2 ",
      "1 1 2 1 1 1 1 1 1 1 1 1 1 2 1 1 2 4 1 7 1 4 1 4 1 1 1 10 1 17 5 3 1 5 1 17"]),
  ("Noncharacter_Code_Point", [],
    String.join [
      "62928 32 526 2 65534 2 65534 2 65534 2 65534 2 65534 2 65534 2 65534 2 65534 2 65534 2 ",
      "65534 2 65534 2 65534 2 65534 2 65534 2 65534 2 65534 2"]),
  ("Quotation_Mark", [],
    "34 1 4 1 131 1 15 1 8028 8 25 2 3591 1 457 4 13 3 50721 4 189 1 4 1 90 2"),
  ("Radical", [],
    "11904 26 1 89 12 214"),
  ("Soft_Dotted", [],
    String.join [
      "105 2 196 1 281 1 30 1 52 1 20 1 320 1 98 1 1 1 6409 1 51 1 13 1 3 1 132 1 157 1 421 1 ",
      "214 2 2866 1 106405 2 50 2 50 2 50 2 50 2 50 2 50 2 50 2 50 2 50 2 50 2 50 2 50 2 2182 1 ",
      "305 2 26 1"]),
  ("Terminal_Punctuation", [],
    String.join [
      "33 1 10 1 1 1 11 2 3 1 830 1 8 1 513 1 57 1 72 1 14 1 1 3 180 1 43 11 1 1 235 2 54 6 1 8 ",
      "31 1 261 2 1268 2 172 1 4 6 311 2 789 8 773 1 124 3 71 2 157 3 3 1 39 4 2 2 314 2 354 4 ",
      "162 2 10 2 1 3 29 3 187 5 62 2 932 1 23 2 9 3 3247 3 306 1 13 1 4 1 10 1 1 2 3 2 428 2 ",
      "29947 2 269 3 227 5 382 2 86 2 95 1 151 3 147 3 127 1 16 2 249 1 18982 1 2 2 57 3 1 4 169 ",
      "1 10 1 1 1 11 2 3 1 65 1 2 1 1082 1 48 1 1158 1 199 1 310 2 152 6 68 6 89 4 952 5 44 4 ",
      "189 7 112 4 127 3 129 2 6 1 16 2 88 5 108 1 298 2 117 3 12 2 358 4 3 15 105 2 249 3 517 1 ",
      "1 1 251 2 87 2 4 2 414 3 45 1 645 2 74 2 1323 5 17913 2 133 1 65 3 10 1 553 2 295 2 19974 ",
      "1 7655 4"]),
  ("Unified_Ideograph", [],
    String.join [
      "13312 6592 64 20992 21006 2 1 1 1 2 10 1 1 1 1 2 2 3 67030 42720 32 4154 6 222 2 5762 14 ",
      "7473 15 622 4514 4939 5 4192"]),
  ("Uppercase", ["Lu"],
    "8544 16 838 26 115808 26 6 26 6 26"),
  ("White_Space", ["Zs", "Zl", "Zp"],
    "9 5 119 1"),
  ("XID_Continue", ["Lu", "Ll", "Lt", "Lm", "Lo", "Mn", "Mc", "Nd", "Nl", "Pc"],
    String.join [
      "183 1 706 1 12 1 4065 9 1640 1 1585 2 266 1 21 1 3328 1 715 1 50018 6 406 2 116 1 1 1 1 1 ",
      "1 1 1 1 1 1 1 1 1 1 230 1"]),
  ("XID_Start", ["Lu", "Ll", "Lt", "Lm", "Lo", "Nl"],
    String.join [
      "890 1 2744 1 127 1 2513 2 2193 1 21 1 3328 1 50734 6 406 2 116 1 1 1 1 1 1 1 1 1 1 1 1 1 ",
      "1 1 287 2"]),
  ("Sentence_Terminal", [],
    String.join [
      "33 1 12 1 16 1 1353 1 147 3 180 1 43 3 246 1 61 1 1 1 3 2 293 2 1764 2 790 1 4 2 773 1 ",
      "198 2 157 2 45 1 5 1 314 2 354 4 162 2 10 2 2 2 29 3 187 2 65 2 932 1 23 2 9 3 3247 3 306 ",
      "1 13 1 22 2 429 1 29948 1 270 2 227 1 3 1 382 2 86 2 95 1 152 2 147 3 144 2 249 1 18982 1 ",
      "2 2 59 1 3 2 169 1 12 1 16 1 65 1 2804 2 1277 5 44 4 189 2 117 4 127 3 129 2 6 1 16 2 88 ",
      "2 1 2 108 1 298 2 117 2 373 2 5 15 105 2 249 3 517 1 1 1 251 2 87 2 420 2 692 2 74 2 ",
      "19241 2 133 1 65 2 11 1 553 2 296 1 19974 1 7656 1"]),
  ("Variation_Selector", [],
    "6155 3 1 1 56816 16 852720 240"),
  ("Pattern_Syntax", [],
    String.join [
      "33 15 10 7 26 4 1 1 26 4 34 7 1 1 1 2 1 1 1 2 4 1 4 1 3 1 23 1 31 1 7960 24 8 15 2 19 1 ",
      "10 305 720 160 630 30 1132 512 128 385 3 4 25 15 1 50445 2 261 2"]),
  ("Pattern_White_Space", ["Zl", "Zp"],
    "9 5 18 1 100 1 8072 2"),
  ("Cased", ["Lu", "Ll", "Lt", "Lm"],
    String.join [
      "170 1 15 1 510 7 6 12 26 1 1 1 86 1 46 1 484 1 230 1 164 2 269 2 4 1 31 1 9 1 3 1 160 1 ",
      "167 1 1236 1 127 1 2320 1 107 1 611 1 464 6 1250 32 822 52 2181 1 191 1 469 1 43 5 5 1 97 ",
      "2 93 3 28438 1 1250 6 270 1 114 1 151 9 104 1 582 1 22 1 137 1 108 1 21 2 19579 1 45 2 ",
      "2017 2 1483 1 32 1 24016 4 508 3 40 2 550 13 64 2 1 1 16396 4 1 7 1 2 12600 7 941 1 1119 ",
      "1 2020 26 6 26 6 26"]),
  ("Case_Ignorable", ["Lm", "Mn", "Me", "Cf", "Sk"],
    "39 1 6 1 11 1 124 1 719 1 471 1 148 1 6691 2 10 1 2 1 54763 1 62 1 2 1 177 1 6 1 11 1"),
  ("Changes_When_Lowercased", ["Lu", "Lt"],
    String.join [
      "978 3 7469 1 4 1 3 3 2 3 2 1 3 5 6 1 3 1 3 2 2 2 1 1 10 2 5 1 26 16 838 26 108336 26 26 ",
      "26 26 26 26 1 1 2 2 1 2 2 2 4 1 8 26 26 26 2 1 4 2 8 1 7 27 2 1 4 1 5 1 1 3 7 27 26 26 26 ",
      "26 26 26 26 26 26 26 26 30 25 33 25 33 25 33 25 33 25 33 1"]),
  ("Changes_When_Uppercased", ["Ll", "Lt"],
    String.join [
      "312 1 84 1 28 2 14 1 3 1 98 1 18 6 27 1 2 1 1 1 2 3 2 1 4 1 5 2 1 1 2 2 1 7 1 2 1 1 2 3 6 ",
      "5 1 1 1 8 2 17 149 1 182 1 355 1 39 1 6007 44 63 13 2 3 1 16 1 12 257 2 1 1 618 1 3 2 3 1 ",
      "27 1 4 1 4 1 2 2 8 4 38 16 848 26 1927 1 2 1 2 5 104 1 31307 2 63 8 21 1 6 1 25 1 35 1 1 ",
      "1 36 1 821 35 1 7 5 9 73905 26 26 7 1 18 26 26 26 4 1 1 1 7 1 11 26 26 26 26 26 26 26 26 ",
      "26 26 26 26 26 26 26 26 26 28 28 25 1 6 26 25 1 6 26 25 1 6 26 25 1 6 26 25 1 6 1 1 1844 ",
      "10 1 20 6 6"]),
  ("Changes_When_Titlecased", ["Ll"],
    String.join [
      "312 1 84 1 28 2 14 1 3 1 5 1 2 1 2 1 38 1 47 1 18 6 27 1 2 1 1 1 2 3 2 1 4 1 5 2 1 1 2 2 ",
      "1 7 1 2 1 1 2 3 6 5 1 1 1 8 2 17 149 1 182 1 355 1 39 1 2887 43 2 3 3072 44 63 13 2 3 1 ",
      "16 1 12 257 2 1 1 618 1 3 2 3 1 27 1 4 1 4 1 2 2 8 4 38 16 848 26 1927 1 2 1 2 5 104 1 ",
      "31307 2 63 8 21 1 6 1 25 1 35 1 1 1 36 1 821 35 1 7 5 9 73905 26 26 7 1 18 26 26 26 4 1 1 ",
      "1 7 1 11 26 26 26 26 26 26 26 26 26 26 26 26 26 26 26 26 26 28 28 25 1 6 26 25 1 6 26 25 ",
      "1 6 26 25 1 6 26 25 1 6 1 1 1844 10 1 20 6 6"]),
  ("Changes_When_Casefolded", ["Lu", "Lt"],
    String.join [
      "181 1 41 1 105 1 53 1 453 1 124 1 13 7 25 2 3 1 401 1 3608 86 2 6 2178 9 529 2 228 8 8 8 ",
      "8 8 10 3 2 1 10 3 2 1 42 3 2 1 266 1 4 1 3 3 2 3 2 1 3 5 6 1 3 1 3 2 2 2 1 1 10 2 5 1 26 ",
      "16 838 26 34464 80 18240 7 12 5 55528 26 26 26 26 26 26 1 1 2 2 1 2 2 2 4 1 8 26 26 26 2 ",
      "1 4 2 8 1 7 27 2 1 4 1 5 1 1 3 7 27 26 26 26 26 26 26 26 26 26 26 26 30 25 33 25 33 25 33 ",
      "25 33 25 33 1"]),
  ("Changes_When_Casemapped", ["Lu", "Ll", "Lt"],
    String.join [
      "312 1 84 1 28 2 14 1 3 1 98 1 18 6 27 1 2 1 1 1 2 3 2 1 4 1 5 2 1 1 2 2 1 7 1 2 1 1 2 3 6 ",
      "5 1 1 1 8 2 17 149 1 140 3 39 1 355 1 39 1 6007 44 63 13 2 3 1 16 1 12 257 2 1 1 610 1 4 ",
      "1 2 10 1 1 3 5 6 1 3 1 3 2 1 3 1 2 4 1 2 4 5 5 22 32 822 52 1927 1 2 1 2 5 104 1 31307 2 ",
      "63 8 21 1 6 1 25 1 35 1 1 1 36 1 821 35 1 7 5 9 73879 85 1 71 1 2 2 1 2 2 2 4 1 12 1 1 1 ",
      "7 1 65 1 4 2 8 1 7 1 28 1 4 1 5 1 1 3 7 1 340 2 25 1 25 1 31 1 25 1 31 1 25 1 31 1 25 1 ",
      "31 1 25 1 8 1844 10 1 20 6 6"]),
  ("Emoji", [],
    String.join [
      "35 1 6 1 5 10 111 1 4 1 8077 1 12 1 216 1 22 1 90 6 15 2 367 2 12 1 166 1 25 11 4 3 199 1 ",
      "231 2 10 1 9 1 58 4 1 5 9 1 2 1 2 2 2 1 4 1 2 1 1 2 2 1 3 1 3 2 8 3 5 1 1 1 5 12 11 2 2 1 ",
      "1 2 1 1 18 1 2 2 18 6 1 1 1 2 3 2 5 1 2 2 4 2 11 2 5 2 2 1 5 2 1 1 1 2 20 2 5 6 1 4 2 1 4 ",
      "1 2 1 2 6 1 1 2 1 1 1 1 1 6 1 3 1 6 1 10 2 15 1 2 1 4 1 1 1 4 3 1 1 11 2 48 3 9 1 14 1 14 ",
      "1 372 2 463 3 19 2 51 1 4 1 1242 1 12 1 601 1 1 1 111978 1 202 1 160 2 12 2 14 1 2 10 75 ",
      "26 1 2 23 1 20 1 2 9 21 2 174 34 2 112 2 2 1 3 2 83 2 3 1 263 1 63 11 6 1 24 7 2 2 8 12 1 ",
      "2 4 2 1 4 2 13 2 2 1 8 2 9 1 5 3 12 3 8 3 2 1 1 1 4 1 6 1 3 1 6 86 48 70 5 8 2 3 4 10 3 1 ",
      "1 2 3 1 2 10 227 12 4 1 283 47 1 10 1 185 112 13 3 10 5 56 7 15 2 11 6 9"]),
  ("Emoji_Presentation", [],
    String.join [
      "8986 2 205 4 3 1 2 1 521 2 21 2 50 12 43 1 19 1 13 1 8 2 17 2 5 2 8 1 5 1 21 1 7 2 1 1 4 ",
      "1 2 1 7 1 4 2 28 1 35 1 1 1 4 3 1 1 61 3 24 1 14 1 859 2 51 1 4 1 113838 1 202 1 190 1 2 ",
      "10 75 26 1 1 24 1 20 1 2 5 1 3 21 2 174 33 12 9 1 70 1 22 12 43 4 5 12 17 3 1 3 71 1 1 1 ",
      "187 2 63 13 4 1 24 18 1 26 2 13 1 86 85 48 70 6 1 3 3 2 3 4 4 11 2 7 9 227 12 4 1 283 47 ",
      "1 10 1 185 112 13 3 10 5 56 7 15 2 11 6 9"]),
  ("Emoji_Modifier", [],
    "125947 5"),
  ("Emoji_Modifier_Base", [],
    String.join [
      "9757 1 219 1 16 4 115831 1 60 3 2 1 2 3 117 2 2 11 21 19 3 1 4 3 1 3 7 1 1 1 24 1 201 2 4 ",
      "1 21 1 4 2 174 3 3 5 83 1 16 3 9 1 11 1 575 1 2 1 8 8 6 1 9 10 2 3 56 1 61 2 1 2 1 1 17 3 ",
      "1 13 229 3 42 9"]),
  ("Emoji_Component", [],
    "35 1 6 1 5 10 8147 1 213 1 54571 1 62422 26 507 5 1456 4 788076 96"),
  ("Regional_Indicator", [],
    "125414 26"),
  ("Prepended_Concatenation_Mark", [],
    "1536 6 215 1 49 1 384 2 80 1 65498 1 15 1"),
  ("Extended_Pictographic", [],
    String.join [
      "169 1 4 1 8077 1 12 1 216 1 22 1 90 6 15 2 367 2 12 1 95 1 70 1 25 11 4 3 199 1 231 2 10 ",
      "1 9 1 58 4 1 6 1 12 1 114 10 118 2 11 1 1 1 1 6 1 3 1 6 1 10 2 15 1 2 1 4 1 1 1 4 3 1 1 ",
      "11 5 45 3 9 1 14 1 14 1 372 2 463 3 19 2 51 1 4 1 1242 1 12 1 601 1 1 1 111974 256 13 3 ",
      "31 1 60 6 12 2 14 1 2 10 18 57 27 15 10 1 20 1 2 9 1 4 9 434 5 318 8 266 48 128 116 12 85 ",
      "43 12 4 56 8 10 6 40 8 30 82 12 47 1 10 1 441 256 1022"]),
  ("IDS_Unary_Operator", [],
    "12286 2"),
  ("ID_Compat_Math_Continue", [],
    String.join [
      "178 2 5 1 8118 1 3 11 1 15 371 1 4 1 22 1 109730 1 25 1 31 1 25 1 31 1 25 1 31 1 25 1 31 ",
      "1 25 1"]),
  ("ID_Compat_Math_Start", [],
    "8706 1 4 1 22 1 109730 1 25 1 31 1 25 1 31 1 25 1 31 1 25 1 31 1 25 1"),
  ("Modifier_Combining_Mark", [],
    "1620 2 2 1 131 1 6 1 3 2 481 2 1 3 3 1 31 1")]

/-- The characters with a property of `binaryTable`. -/
def tabulated (property : String) : CodeSet :=
  match (binaryTable ()).find? fun row => row.1 = property with
  | some (_, categories, exceptions) =>
    (if categories.isEmpty then .empty else inCategories categories).symmDiff
      (alternating exceptions)
  | none => .empty

/-- The categories of letters, with the numbers that are written as letters. -/
def letterCategories : List String := ["Lu", "Ll", "Lt", "Lm", "Lo", "Nl"]

/-- What derived properties add to the categories of their definitions: loose names, the
derived property and the categories. -/
def additions : List (List String × String × List String) := [
  (["oalpha", "otheralphabetic"], "Alphabetic", letterCategories),
  (["ogrext", "othergraphemeextend"], "Grapheme_Extend", ["Me", "Mn"]),
  (["oidc", "otheridcontinue"], "ID_Continue",
    letterCategories ++ ["Mn", "Mc", "Nd", "Pc"]),
  (["oids", "otheridstart"], "ID_Start", letterCategories),
  (["olower", "otherlowercase"], "Lowercase", ["Ll"]),
  (["omath", "othermath"], "Math", ["Sm"]),
  (["oupper", "otheruppercase"], "Uppercase", ["Lu"])]

/-- The characters with the property of a loose name. -/
def binarySet? (name : String) : Option CodeSet :=
  match binaryNames.find? fun row => row.2.contains name with
  | some (property, _) => some (tabulated property)
  | none =>
    (additions.find? fun row => row.1.contains name).map fun (_, property, categories) =>
      (tabulated property).diff (inCategories categories)

/-- The characters of words: letters, marks, decimal digits, connectors and the two
joiners. -/
def wordCharacters : CodeSet :=
  ((tabulated "Alphabetic").union (inCategories ["Mn", "Mc", "Me", "Nd", "Pc"])).union
    (tabulated "Join_Control")

/-- The characters with the property `White_Space`. -/
def whiteSpace : CodeSet := tabulated "White_Space"

end Specimen.Unicode
