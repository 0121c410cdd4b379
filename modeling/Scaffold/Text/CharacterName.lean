/-
# Scaffold.Text.CharacterName -- names of characters

Which names the characters have, after Unicode 14, in upper or lower case. Han characters are named
after their code points and Hangul syllables after their sounds, both in upper case only. Of the
other names this holds those of control characters, of Latin, Greek and Cyrillic letters, of marks
between words and of the symbols from arrows to pictures; names of other scripts are not known here.
-/

import Scaffold.Text.Digit

namespace Scaffold.Text

/-! ## Names from tables

Each table pairs beginnings of names with the ways in which they go on, divided by bars. -/

/-- Names of control characters, and second names of others. -/
def controlNames : List (String × List String) :=
  [("", ["NULL|NUL|START OF HEADING|SOH|START OF TEXT|STX|END OF TEXT|ETX|END OF TRANSMISSION",
     "EOT|ENQUIRY|ENQ|ACKNOWLEDGE|ACK|ALERT|BEL|BACKSPACE|BS|CHARACTER TABULATION",
     "HORIZONTAL TABULATION|HT|TAB|LINE FEED|NEW LINE|END OF LINE|LF|NL|EOL|LINE TABULATION",
     "VERTICAL TABULATION|VT|FORM FEED|FF|CARRIAGE RETURN|CR|SHIFT OUT|LOCKING-SHIFT ONE|SO",
     "SHIFT IN|LOCKING-SHIFT ZERO|SI|DATA LINK ESCAPE|DLE|DEVICE CONTROL ONE|DC1",
     "DEVICE CONTROL TWO|DC2|DEVICE CONTROL THREE|DC3|DEVICE CONTROL FOUR|DC4",
     "NEGATIVE ACKNOWLEDGE|NAK|SYNCHRONOUS IDLE|SYN|END OF TRANSMISSION BLOCK|ETB|CANCEL|CAN",
     "END OF MEDIUM|EOM|SUBSTITUTE|SUB|ESCAPE|ESC|INFORMATION SEPARATOR FOUR|FILE SEPARATOR|FS",
     "INFORMATION SEPARATOR THREE|GROUP SEPARATOR|GS|INFORMATION SEPARATOR TWO|RECORD SEPARATOR",
     "RS|INFORMATION SEPARATOR ONE|UNIT SEPARATOR|US|SP|DELETE|DEL|PADDING CHARACTER|PAD",
     "HIGH OCTET PRESET|HOP|BREAK PERMITTED HERE|BPH|NO BREAK HERE|NBH|INDEX|IND|NEXT LINE|NEL",
     "START OF SELECTED AREA|SSA|END OF SELECTED AREA|ESA|CHARACTER TABULATION SET",
     "HORIZONTAL TABULATION SET|HTS|CHARACTER TABULATION WITH JUSTIFICATION",
     "HORIZONTAL TABULATION WITH JUSTIFICATION|HTJ|LINE TABULATION SET|VERTICAL TABULATION SET",
     "VTS|PARTIAL LINE FORWARD|PARTIAL LINE DOWN|PLD|PARTIAL LINE BACKWARD|PARTIAL LINE UP|PLU",
     "REVERSE LINE FEED|REVERSE INDEX|RI|SINGLE SHIFT TWO|SINGLE-SHIFT-2|SS2|SINGLE SHIFT THREE",
     "SINGLE-SHIFT-3|SS3|DEVICE CONTROL STRING|DCS|PRIVATE USE ONE|PRIVATE USE-1|PU1",
     "PRIVATE USE TWO|PRIVATE USE-2|PU2|SET TRANSMIT STATE|STS|CANCEL CHARACTER|CCH",
     "MESSAGE WAITING|MW|START OF GUARDED AREA|START OF PROTECTED AREA|SPA|END OF GUARDED AREA",
     "END OF PROTECTED AREA|EPA|START OF STRING|SOS|SINGLE GRAPHIC CHARACTER INTRODUCER|SGC",
     "SINGLE CHARACTER INTRODUCER|SCI|CONTROL SEQUENCE INTRODUCER|CSI|STRING TERMINATOR|ST",
     "OPERATING SYSTEM COMMAND|OSC|PRIVACY MESSAGE|PM|APPLICATION PROGRAM COMMAND|APC|NBSP|SHY",
     "ZWSP|ZWNJ|ZWJ|LRM|RLM|LRE|RLE|PDF|LRO|RLO|NNBSP|MMSP|WJ|LRI|RLI|FSI|PDI|BYTE ORDER MARK",
     "BOM|ZWNBSP|VS15|VS16|WEIERSTRASS ELLIPTIC FUNCTION|LATIN CAPITAL LETTER GHA",
     "LATIN SMALL LETTER GHA|CGJ"])]

/-- Signs, digits and letters of Latin script. -/
def latinNames : List (String × List String) :=
  [("", ["SPACE|EXCLAMATION MARK|QUOTATION MARK|NUMBER SIGN|DOLLAR SIGN|PERCENT SIGN|AMPERSAND",
     "APOSTROPHE|ASTERISK|PLUS SIGN|COMMA|HYPHEN-MINUS|FULL STOP|SOLIDUS|COLON|SEMICOLON",
     "LESS-THAN SIGN|EQUALS SIGN|GREATER-THAN SIGN|QUESTION MARK|COMMERCIAL AT|REVERSE SOLIDUS",
     "CIRCUMFLEX ACCENT|LOW LINE|GRAVE ACCENT|VERTICAL LINE|TILDE|NO-BREAK SPACE|CENT SIGN",
     "POUND SIGN|CURRENCY SIGN|YEN SIGN|BROKEN BAR|SECTION SIGN|DIAERESIS|COPYRIGHT SIGN",
     "FEMININE ORDINAL INDICATOR|LEFT-POINTING DOUBLE ANGLE QUOTATION MARK|NOT SIGN|SOFT HYPHEN",
     "REGISTERED SIGN|MACRON|DEGREE SIGN|PLUS-MINUS SIGN|ACUTE ACCENT|MICRO SIGN|PILCROW SIGN",
     "MIDDLE DOT|CEDILLA|MASCULINE ORDINAL INDICATOR|RIGHT-POINTING DOUBLE ANGLE QUOTATION MARK",
     "MULTIPLICATION SIGN|DIVISION SIGN"]),
   ("LEFT ", ["PARENTHESIS|SQUARE BRACKET|CURLY BRACKET"]),
   ("RIGHT ", ["PARENTHESIS|SQUARE BRACKET|CURLY BRACKET"]),
   ("DIGIT ", ["ZERO|ONE|TWO|THREE|FOUR|FIVE|SIX|SEVEN|EIGHT|NINE"]),
   ("LATIN CAPITAL ", ["LIGATURE IJ|LIGATURE OE"]),
   ("LATIN CAPITAL LETTER ", ["A|B|C|D|E|F|G|H|I|J|K|L|M|N|O|P|Q|R|S|T|U|V|W|X|Y|Z|AE",
     "C WITH CEDILLA|C WITH ACUTE|C WITH CIRCUMFLEX|C WITH DOT ABOVE|C WITH CARON|ETH",
     "N WITH TILDE|N WITH ACUTE|N WITH CEDILLA|N WITH CARON|Y WITH ACUTE|Y WITH CIRCUMFLEX",
     "Y WITH DIAERESIS|THORN|D WITH CARON|D WITH STROKE|G WITH CIRCUMFLEX|G WITH BREVE",
     "G WITH DOT ABOVE|G WITH CEDILLA|H WITH CIRCUMFLEX|H WITH STROKE|J WITH CIRCUMFLEX",
     "K WITH CEDILLA|L WITH ACUTE|L WITH CEDILLA|L WITH CARON|L WITH MIDDLE DOT|L WITH STROKE",
     "ENG|R WITH ACUTE|R WITH CEDILLA|R WITH CARON|S WITH ACUTE|S WITH CIRCUMFLEX|S WITH CEDILLA",
     "S WITH CARON|T WITH CEDILLA|T WITH CARON|T WITH STROKE|W WITH CIRCUMFLEX|Z WITH ACUTE",
     "Z WITH DOT ABOVE|Z WITH CARON"]),
   ("LATIN CAPITAL LETTER A WITH ", ["GRAVE|ACUTE|CIRCUMFLEX|TILDE|DIAERESIS|RING ABOVE|MACRON",
     "BREVE|OGONEK"]),
   ("LATIN CAPITAL LETTER E WITH ", ["GRAVE|ACUTE|CIRCUMFLEX|DIAERESIS|MACRON|BREVE|DOT ABOVE",
     "OGONEK|CARON"]),
   ("LATIN CAPITAL LETTER I WITH ", ["GRAVE|ACUTE|CIRCUMFLEX|DIAERESIS|TILDE|MACRON|BREVE|OGONEK",
     "DOT ABOVE"]),
   ("LATIN CAPITAL LETTER O WITH ", ["GRAVE|ACUTE|CIRCUMFLEX|TILDE|DIAERESIS|STROKE|MACRON|BREVE",
     "DOUBLE ACUTE"]),
   ("LATIN CAPITAL LETTER U WITH ", ["GRAVE|ACUTE|CIRCUMFLEX|DIAERESIS|TILDE|MACRON|BREVE",
     "RING ABOVE|DOUBLE ACUTE|OGONEK"]),
   ("LATIN SMALL ", ["LIGATURE IJ|LIGATURE OE"]),
   ("LATIN SMALL LETTER ", ["A|B|C|D|E|F|G|H|I|J|K|L|M|N|O|P|Q|R|S|T|U|V|W|X|Y|Z|SHARP S|AE",
     "C WITH CEDILLA|C WITH ACUTE|C WITH CIRCUMFLEX|C WITH DOT ABOVE|C WITH CARON|ETH",
     "N WITH TILDE|N WITH ACUTE|N WITH CEDILLA|N WITH CARON|N PRECEDED BY APOSTROPHE",
     "Y WITH ACUTE|Y WITH DIAERESIS|Y WITH CIRCUMFLEX|THORN|D WITH CARON|D WITH STROKE",
     "G WITH CIRCUMFLEX|G WITH BREVE|G WITH DOT ABOVE|G WITH CEDILLA|H WITH CIRCUMFLEX",
     "H WITH STROKE|DOTLESS I|J WITH CIRCUMFLEX|K WITH CEDILLA|KRA|L WITH ACUTE|L WITH CEDILLA",
     "L WITH CARON|L WITH MIDDLE DOT|L WITH STROKE|ENG|R WITH ACUTE|R WITH CEDILLA|R WITH CARON",
     "S WITH ACUTE|S WITH CIRCUMFLEX|S WITH CEDILLA|S WITH CARON|T WITH CEDILLA|T WITH CARON",
     "T WITH STROKE|W WITH CIRCUMFLEX|Z WITH ACUTE|Z WITH DOT ABOVE|Z WITH CARON|LONG S"]),
   ("LATIN SMALL LETTER A WITH ", ["GRAVE|ACUTE|CIRCUMFLEX|TILDE|DIAERESIS|RING ABOVE|MACRON",
     "BREVE|OGONEK"]),
   ("LATIN SMALL LETTER E WITH ", ["GRAVE|ACUTE|CIRCUMFLEX|DIAERESIS|MACRON|BREVE|DOT ABOVE",
     "OGONEK|CARON"]),
   ("LATIN SMALL LETTER I WITH ", ["GRAVE|ACUTE|CIRCUMFLEX|DIAERESIS|TILDE|MACRON|BREVE|OGONEK"]),
   ("LATIN SMALL LETTER O WITH ", ["GRAVE|ACUTE|CIRCUMFLEX|TILDE|DIAERESIS|STROKE|MACRON|BREVE",
     "DOUBLE ACUTE"]),
   ("LATIN SMALL LETTER U WITH ", ["GRAVE|ACUTE|CIRCUMFLEX|DIAERESIS|TILDE|MACRON|BREVE",
     "RING ABOVE|DOUBLE ACUTE|OGONEK"]),
   ("INVERTED ", ["EXCLAMATION MARK|QUESTION MARK"]),
   ("SUPERSCRIPT ", ["TWO|THREE|ONE"]),
   ("VULGAR FRACTION ", ["ONE QUARTER|ONE HALF|THREE QUARTERS"])]

/-- Letters and signs of Greek script. -/
def greekNames : List (String × List String) :=
  [("GREEK ", ["NUMERAL SIGN|LOWER NUMERAL SIGN|YPOGEGRAMMENI|QUESTION MARK|TONOS",
     "DIALYTIKA TONOS|ANO TELEIA|BETA SYMBOL|THETA SYMBOL|PHI SYMBOL|PI SYMBOL|KAI SYMBOL",
     "KAPPA SYMBOL|RHO SYMBOL|RHO WITH STROKE SYMBOL|LUNATE SIGMA SYMBOL|LUNATE EPSILON SYMBOL",
     "REVERSED LUNATE EPSILON SYMBOL"]),
   ("GREEK CAPITAL ", ["KAI SYMBOL|THETA SYMBOL|LUNATE SIGMA SYMBOL|REVERSED LUNATE SIGMA SYMBOL",
     "REVERSED DOTTED LUNATE SIGMA SYMBOL|DOTTED LUNATE SIGMA SYMBOL"]),
   ("GREEK CAPITAL LETTER ", ["HETA|ARCHAIC SAMPI|PAMPHYLIAN DIGAMMA|YOT|ALPHA WITH TONOS",
     "EPSILON WITH TONOS|ETA WITH TONOS|IOTA WITH TONOS|IOTA WITH DIALYTIKA|OMICRON WITH TONOS",
     "UPSILON WITH TONOS|UPSILON WITH DIALYTIKA|OMEGA WITH TONOS|ALPHA|BETA|GAMMA|DELTA|EPSILON",
     "ZETA|ETA|THETA|IOTA|KAPPA|LAMDA|MU|NU|XI|OMICRON|PI|RHO|SIGMA|TAU|UPSILON|PHI|CHI|PSI",
     "OMEGA|SHO|SAN"]),
   ("GREEK SMALL ", ["REVERSED LUNATE SIGMA SYMBOL|REVERSED DOTTED LUNATE SIGMA SYMBOL",
     "DOTTED LUNATE SIGMA SYMBOL"]),
   ("GREEK SMALL LETTER ", ["HETA|ARCHAIC SAMPI|ARCHAIC KOPPA|PAMPHYLIAN DIGAMMA",
     "IOTA WITH DIALYTIKA AND TONOS|IOTA WITH TONOS|IOTA WITH DIALYTIKA|ALPHA WITH TONOS",
     "EPSILON WITH TONOS|ETA WITH TONOS|UPSILON WITH DIALYTIKA AND TONOS|UPSILON WITH DIALYTIKA",
     "UPSILON WITH TONOS|ALPHA|BETA|GAMMA|DELTA|EPSILON|ZETA|ETA|THETA|IOTA|KAPPA|LAMDA|MU|NU|XI",
     "OMICRON|PI|RHO|FINAL SIGMA|SIGMA|TAU|UPSILON|PHI|CHI|PSI|OMEGA|OMICRON WITH TONOS",
     "OMEGA WITH TONOS|STIGMA|DIGAMMA|KOPPA|SAMPI|SHO|SAN"]),
   ("GREEK UPSILON ", ["WITH HOOK SYMBOL|WITH ACUTE AND HOOK SYMBOL",
     "WITH DIAERESIS AND HOOK SYMBOL"]),
   ("GREEK LETTER ", ["ARCHAIC KOPPA|STIGMA|DIGAMMA|KOPPA|SAMPI|YOT"]),
   ("COPTIC CAPITAL LETTER ", ["SHEI|FEI|KHEI|HORI|GANGIA|SHIMA|DEI"]),
   ("COPTIC SMALL LETTER ", ["SHEI|FEI|KHEI|HORI|GANGIA|SHIMA|DEI"])]

/-- Letters of Cyrillic script. -/
def cyrillicNames : List (String × List String) :=
  [("CYRILLIC CAPITAL LETTER ", ["IE WITH GRAVE|IO|DJE|GJE|UKRAINIAN IE|DZE",
     "BYELORUSSIAN-UKRAINIAN I|YI|JE|LJE|NJE|TSHE|KJE|I WITH GRAVE|SHORT U|SHORT I|DZHE|A|BE|VE",
     "GHE|DE|IE|ZHE|ZE|I|KA|EL|EM|EN|O|PE|ER|ES|TE|U|EF|HA|TSE|CHE|SHA|SHCHA|HARD SIGN|YERU",
     "SOFT SIGN|E|YU|YA"]),
   ("CYRILLIC SMALL LETTER ", ["A|BE|VE|GHE|DE|IE|ZHE|ZE|I|SHORT I|SHORT U|KA|EL|EM|EN|O|PE|ER",
     "ES|TE|U|EF|HA|TSE|CHE|SHA|SHCHA|HARD SIGN|YERU|SOFT SIGN|E|YU|YA|IE WITH GRAVE|IO|DJE|GJE",
     "UKRAINIAN IE|DZE|BYELORUSSIAN-UKRAINIAN I|YI|JE|LJE|NJE|TSHE|KJE|I WITH GRAVE|DZHE"])]

/-- Spaces, marks between words and signs of currencies. -/
def markNames : List (String × List String) :=
  [("", ["EN QUAD|EN SPACE|EN DASH|EM QUAD|EM SPACE|EM DASH|THREE-PER-EM SPACE|FOUR-PER-EM SPACE",
     "SIX-PER-EM SPACE|FIGURE SPACE|FIGURE DASH|PUNCTUATION SPACE|THIN SPACE|HAIR SPACE|HYPHEN",
     "NON-BREAKING HYPHEN|DAGGER|BULLET|TRIANGULAR BULLET|ONE DOT LEADER|TWO DOT LEADER",
     "TWO ASTERISKS ALIGNED VERTICALLY|TWO DOT PUNCTUATION|HYPHENATION POINT|LINE SEPARATOR",
     "PARAGRAPH SEPARATOR|POP DIRECTIONAL FORMATTING|POP DIRECTIONAL ISOLATE",
     "NARROW NO-BREAK SPACE|PER MILLE SIGN|PER TEN THOUSAND SIGN|PRIME|TRIPLE PRIME|CARET",
     "REFERENCE MARK|INTERROBANG|OVERLINE|UNDERTIE|CHARACTER TIE|CARET INSERTION POINT|ASTERISM",
     "HYPHEN BULLET|FRACTION SLASH|QUESTION EXCLAMATION MARK|EXCLAMATION QUESTION MARK",
     "TIRONIAN SIGN ET|BLACK LEFTWARDS BULLET|BLACK RIGHTWARDS BULLET|LOW ASTERISK|CLOSE UP",
     "COMMERCIAL MINUS SIGN|SWUNG DASH|INVERTED UNDERTIE|FLOWER PUNCTUATION MARK",
     "THREE DOT PUNCTUATION|QUADRUPLE PRIME|FOUR DOT PUNCTUATION|FOUR DOT MARK",
     "FIVE DOT PUNCTUATION|DOTTED CROSS|TRICOLON|VERTICAL FOUR DOTS|MEDIUM MATHEMATICAL SPACE",
     "WORD JOINER|FUNCTION APPLICATION|FIRST STRONG ISOLATE|INHIBIT SYMMETRIC SWAPPING",
     "INHIBIT ARABIC FORM SHAPING|NATIONAL DIGIT SHAPES|NOMINAL DIGIT SHAPES|EURO-CURRENCY SIGN",
     "COLON SIGN|CRUZEIRO SIGN|FRENCH FRANC SIGN|LIRA SIGN|MILL SIGN|NAIRA SIGN|PESETA SIGN",
     "RUPEE SIGN|WON SIGN|NEW SHEQEL SIGN|DONG SIGN|EURO SIGN|KIP SIGN|TUGRIK SIGN|DRACHMA SIGN",
     "GERMAN PENNY SIGN|PESO SIGN|GUARANI SIGN|AUSTRAL SIGN|HRYVNIA SIGN|CEDI SIGN",
     "LIVRE TOURNOIS SIGN|SPESMILO SIGN|TENGE SIGN|INDIAN RUPEE SIGN|TURKISH LIRA SIGN",
     "NORDIC MARK SIGN|MANAT SIGN|RUBLE SIGN|LARI SIGN|BITCOIN SIGN"]),
   ("ZERO ", ["WIDTH SPACE|WIDTH NON-JOINER|WIDTH JOINER"]),
   ("LEFT-TO-RIGHT ", ["MARK|EMBEDDING|OVERRIDE|ISOLATE"]),
   ("RIGHT-TO-LEFT ", ["MARK|EMBEDDING|OVERRIDE|ISOLATE"]),
   ("HORIZONTAL ", ["BAR|ELLIPSIS"]),
   ("DOUBLE ", ["VERTICAL LINE|LOW LINE|LOW-9 QUOTATION MARK|HIGH-REVERSED-9 QUOTATION MARK",
     "DAGGER|PRIME|EXCLAMATION MARK|QUESTION MARK"]),
   ("LEFT ", ["SINGLE QUOTATION MARK|DOUBLE QUOTATION MARK|SQUARE BRACKET WITH QUILL"]),
   ("RIGHT ", ["SINGLE QUOTATION MARK|DOUBLE QUOTATION MARK|SQUARE BRACKET WITH QUILL"]),
   ("SINGLE ", ["LOW-9 QUOTATION MARK|HIGH-REVERSED-9 QUOTATION MARK",
     "LEFT-POINTING ANGLE QUOTATION MARK|RIGHT-POINTING ANGLE QUOTATION MARK"]),
   ("REVERSED ", ["PRIME|DOUBLE PRIME|TRIPLE PRIME|PILCROW SIGN|SEMICOLON"]),
   ("INVISIBLE ", ["TIMES|SEPARATOR|PLUS"]),
   ("ACTIVATE ", ["SYMMETRIC SWAPPING|ARABIC FORM SHAPING"])]

/-- Signs made of letters. -/
def letterSignNames : List (String × List String) :=
  [("", ["ACCOUNT OF|ADDRESSED TO THE SUBJECT|DEGREE CELSIUS|DEGREE FAHRENHEIT",
     "CENTRE LINE SYMBOL|CARE OF|CADA UNA|EULER CONSTANT|SCRUPLE|PLANCK CONSTANT",
     "PLANCK CONSTANT OVER TWO PI|L B BAR SYMBOL|NUMERO SIGN|SOUND RECORDING COPYRIGHT",
     "PRESCRIPTION TAKE|RESPONSE|SERVICE MARK|TELEPHONE SIGN|TRADE MARK SIGN|VERSICLE|OUNCE SIGN",
     "OHM SIGN|INVERTED OHM SIGN|KELVIN SIGN|ANGSTROM SIGN|ESTIMATED SYMBOL|ALEF SYMBOL",
     "BET SYMBOL|GIMEL SYMBOL|DALET SYMBOL|INFORMATION SOURCE|ROTATED CAPITAL Q|FACSIMILE SIGN",
     "REVERSED SANS-SERIF CAPITAL L|PROPERTY LINE|PER SIGN|AKTIESELSKAB",
     "SYMBOL FOR SAMARITAN SOURCE"]),
   ("DOUBLE-STRUCK ", ["SMALL PI|SMALL GAMMA|N-ARY SUMMATION"]),
   ("DOUBLE-STRUCK CAPITAL ", ["C|H|N|P|Q|R|Z|GAMMA|PI"]),
   ("DOUBLE-STRUCK ITALIC ", ["CAPITAL D|SMALL D|SMALL E|SMALL I|SMALL J"]),
   ("SCRIPT SMALL ", ["G|L|E|O"]),
   ("SCRIPT CAPITAL ", ["H|I|L|P|R|B|E|F|M"]),
   ("BLACK-LETTER CAPITAL ", ["H|I|R|Z|C"]),
   ("TURNED ", ["GREEK SMALL LETTER IOTA|CAPITAL F|AMPERSAND|SMALL F"]),
   ("TURNED SANS-SERIF ", ["CAPITAL G|CAPITAL L|CAPITAL Y"])]

/-- Arrows. -/
def arrowNames : List (String × List String) :=
  [("", ["RIGHT ARROW WITH SMALL CIRCLE|THREE RIGHTWARDS ARROWS"]),
   ("LEFTWARDS ", ["ARROW|WAVE ARROW|TWO HEADED ARROW|HARPOON WITH BARB UPWARDS",
     "HARPOON WITH BARB DOWNWARDS|HARPOON OVER RIGHTWARDS HARPOON|PAIRED ARROWS",
     "DOUBLE ARROW WITH STROKE|DOUBLE ARROW|TRIPLE ARROW|SQUIGGLE ARROW|DASHED ARROW|WHITE ARROW",
     "OPEN-HEADED ARROW"]),
   ("LEFTWARDS ARROW ", ["FROM BAR|TO BAR OVER RIGHTWARDS ARROW TO BAR|TO BAR",
     "OVER RIGHTWARDS ARROW"]),
   ("LEFTWARDS ARROW WITH ", ["STROKE|TAIL|HOOK|LOOP|VERTICAL STROKE|DOUBLE VERTICAL STROKE"]),
   ("UPWARDS ", ["ARROW|TWO HEADED ARROW|HARPOON WITH BARB RIGHTWARDS",
     "HARPOON WITH BARB LEFTWARDS|PAIRED ARROWS|DOUBLE ARROW|DASHED ARROW"]),
   ("UPWARDS ARROW ", ["FROM BAR|WITH TIP LEFTWARDS|WITH TIP RIGHTWARDS|WITH DOUBLE STROKE",
     "LEFTWARDS OF DOWNWARDS ARROW"]),
   ("UPWARDS WHITE ", ["ARROW|ARROW FROM BAR|ARROW ON PEDESTAL",
     "ARROW ON PEDESTAL WITH HORIZONTAL BAR|ARROW ON PEDESTAL WITH VERTICAL BAR|DOUBLE ARROW",
     "DOUBLE ARROW ON PEDESTAL"]),
   ("RIGHTWARDS ", ["ARROW|WAVE ARROW|TWO HEADED ARROW|HARPOON WITH BARB UPWARDS",
     "HARPOON WITH BARB DOWNWARDS|HARPOON OVER LEFTWARDS HARPOON|PAIRED ARROWS",
     "DOUBLE ARROW WITH STROKE|DOUBLE ARROW|TRIPLE ARROW|SQUIGGLE ARROW|DASHED ARROW|WHITE ARROW",
     "WHITE ARROW FROM WALL|OPEN-HEADED ARROW"]),
   ("RIGHTWARDS ARROW ", ["FROM BAR|OVER LEFTWARDS ARROW|TO BAR"]),
   ("RIGHTWARDS ARROW WITH ", ["STROKE|TAIL|HOOK|LOOP|CORNER DOWNWARDS|VERTICAL STROKE",
     "DOUBLE VERTICAL STROKE"]),
   ("DOWNWARDS ", ["ARROW|TWO HEADED ARROW|ZIGZAG ARROW|HARPOON WITH BARB RIGHTWARDS",
     "HARPOON WITH BARB LEFTWARDS|PAIRED ARROWS|DOUBLE ARROW|DASHED ARROW|WHITE ARROW"]),
   ("DOWNWARDS ARROW ", ["FROM BAR|WITH TIP LEFTWARDS|WITH TIP RIGHTWARDS|WITH CORNER LEFTWARDS",
     "WITH DOUBLE STROKE|LEFTWARDS OF UPWARDS ARROW"]),
   ("LEFT RIGHT ", ["ARROW|WAVE ARROW|ARROW WITH STROKE|ARROW WITH VERTICAL STROKE",
     "ARROW WITH DOUBLE VERTICAL STROKE|DOUBLE ARROW WITH STROKE|DOUBLE ARROW|OPEN-HEADED ARROW"]),
   ("UP DOWN ", ["ARROW|ARROW WITH BASE|DOUBLE ARROW|WHITE ARROW"]),
   ("NORTH ", ["EAST ARROW|EAST DOUBLE ARROW"]),
   ("NORTH WEST ", ["ARROW|ARROW TO LONG BAR|ARROW TO CORNER|DOUBLE ARROW"]),
   ("SOUTH ", ["EAST ARROW|EAST DOUBLE ARROW|EAST ARROW TO CORNER|WEST ARROW|WEST DOUBLE ARROW"]),
   ("ANTICLOCKWISE ", ["TOP SEMICIRCLE ARROW|OPEN CIRCLE ARROW"]),
   ("CLOCKWISE ", ["TOP SEMICIRCLE ARROW|OPEN CIRCLE ARROW"])]

/-- Signs of mathematics. -/
def operatorNames : List (String × List String) :=
  [("", ["FOR ALL|COMPLEMENT|PARTIAL DIFFERENTIAL|THERE EXISTS|THERE DOES NOT EXIST|EMPTY SET",
     "INCREMENT|NABLA|END OF PROOF|MINUS SIGN|MINUS TILDE|MINUS-OR-PLUS SIGN|DOT PLUS|DOT MINUS",
     "DOT OPERATOR|SET MINUS|ASTERISK OPERATOR|BULLET OPERATOR|CUBE ROOT|FOURTH ROOT",
     "PROPORTIONAL TO|INFINITY|ANGLE|SPHERICAL ANGLE|DIVIDES|PARALLEL TO|LOGICAL AND|LOGICAL OR",
     "INTERSECTION|UNION|INTEGRAL|CONTOUR INTEGRAL|SURFACE INTEGRAL|VOLUME INTEGRAL",
     "ANTICLOCKWISE CONTOUR INTEGRAL|THEREFORE|BECAUSE|RATIO|PROPORTION|EXCESS",
     "GEOMETRIC PROPORTION|HOMOTHETIC|TILDE OPERATOR|INVERTED LAZY S|SINE WAVE|WREATH PRODUCT",
     "ASYMPTOTICALLY EQUAL TO|ALMOST EQUAL TO|ALMOST EQUAL OR EQUAL TO|ALL EQUAL TO",
     "EQUIVALENT TO|DIFFERENCE BETWEEN|APPROACHES THE LIMIT|IMAGE OF OR APPROXIMATELY EQUAL TO",
     "IMAGE OF|COLON EQUALS|EQUALS COLON|CORRESPONDS TO|ESTIMATES|EQUIANGULAR TO|STAR EQUALS",
     "STAR OPERATOR|DELTA EQUAL TO|QUESTIONED EQUAL TO|IDENTICAL TO|STRICTLY EQUIVALENT TO",
     "MUCH LESS-THAN|MUCH GREATER-THAN|BETWEEN|PRECEDES|SUCCEEDS|MULTISET|DOWN TACK",
     "DOWN RIGHT DIAGONAL ELLIPSIS|UP TACK|UP RIGHT DIAGONAL ELLIPSIS|ASSERTION|MODELS|TRUE",
     "FORCES|NEGATED DOUBLE VERTICAL BAR DOUBLE RIGHT TURNSTILE|NORMAL SUBGROUP OF",
     "NORMAL SUBGROUP OF OR EQUAL TO|ORIGINAL OF|MULTIMAP|HERMITIAN CONJUGATE MATRIX|INTERCALATE",
     "XOR|NAND|NOR|DIAMOND OPERATOR|BOWTIE|CURLY LOGICAL OR|CURLY LOGICAL AND|PITCHFORK",
     "VERY MUCH LESS-THAN|VERY MUCH GREATER-THAN|VERTICAL ELLIPSIS|MIDLINE HORIZONTAL ELLIPSIS",
     "Z NOTATION BAG MEMBERSHIP"]),
   ("ELEMENT ", ["OF"]),
   ("ELEMENT OF WITH ", ["LONG HORIZONTAL STROKE|VERTICAL BAR AT END OF HORIZONTAL STROKE",
     "DOT ABOVE|OVERBAR|UNDERBAR|TWO HORIZONTAL STROKES"]),
   ("NOT ", ["AN ELEMENT OF|PARALLEL TO|TILDE|ASYMPTOTICALLY EQUAL TO|ALMOST EQUAL TO|EQUAL TO",
     "IDENTICAL TO|EQUIVALENT TO|LESS-THAN|GREATER-THAN|A SUBSET OF|A SUPERSET OF|TRUE",
     "SQUARE IMAGE OF OR EQUAL TO|SQUARE ORIGINAL OF OR EQUAL TO|NORMAL SUBGROUP OF",
     "NORMAL SUBGROUP OF OR EQUAL TO"]),
   ("SMALL ELEMENT ", ["OF|OF WITH VERTICAL BAR AT END OF HORIZONTAL STROKE|OF WITH OVERBAR"]),
   ("SMALL CONTAINS ", ["AS MEMBER|WITH VERTICAL BAR AT END OF HORIZONTAL STROKE|WITH OVERBAR"]),
   ("CONTAINS ", ["AS MEMBER|AS NORMAL SUBGROUP|AS NORMAL SUBGROUP OR EQUAL TO",
     "WITH LONG HORIZONTAL STROKE|WITH VERTICAL BAR AT END OF HORIZONTAL STROKE|WITH OVERBAR"]),
   ("DOES NOT ", ["CONTAIN AS MEMBER|CONTAIN AS NORMAL SUBGROUP",
     "CONTAIN AS NORMAL SUBGROUP OR EQUAL|DIVIDE|PRECEDE|SUCCEED|PROVE|FORCE|PRECEDE OR EQUAL",
     "SUCCEED OR EQUAL"]),
   ("N-ARY ", ["PRODUCT|COPRODUCT|SUMMATION|LOGICAL AND|LOGICAL OR|INTERSECTION|UNION"]),
   ("DIVISION ", ["SLASH|TIMES"]),
   ("RING ", ["OPERATOR|IN EQUAL TO|EQUAL TO"]),
   ("SQUARE ", ["ROOT|IMAGE OF|IMAGE OF OR EQUAL TO|IMAGE OF OR NOT EQUAL TO|CAP|CUP"]),
   ("SQUARE ORIGINAL ", ["OF|OF OR EQUAL TO|OF OR NOT EQUAL TO"]),
   ("RIGHT ", ["ANGLE|TACK|ANGLE WITH ARC|TRIANGLE|NORMAL FACTOR SEMIDIRECT PRODUCT",
     "SEMIDIRECT PRODUCT"]),
   ("MEASURED ", ["ANGLE|BY"]),
   ("DOUBLE ", ["INTEGRAL|VERTICAL BAR DOUBLE RIGHT TURNSTILE|SUBSET|SUPERSET|INTERSECTION|UNION"]),
   ("TRIPLE ", ["INTEGRAL|TILDE|VERTICAL BAR RIGHT TURNSTILE"]),
   ("CLOCKWISE ", ["INTEGRAL|CONTOUR INTEGRAL"]),
   ("REVERSED ", ["TILDE|TILDE EQUALS"]),
   ("APPROXIMATELY ", ["EQUAL TO|EQUAL TO OR THE IMAGE OF|BUT NOT ACTUALLY EQUAL TO"]),
   ("NEITHER ", ["APPROXIMATELY NOR ACTUALLY EQUAL TO|A SUBSET OF NOR EQUAL TO",
     "A SUPERSET OF NOR EQUAL TO"]),
   ("NEITHER LESS-THAN ", ["NOR EQUAL TO|NOR EQUIVALENT TO|NOR GREATER-THAN"]),
   ("NEITHER GREATER-THAN ", ["NOR EQUAL TO|NOR EQUIVALENT TO|NOR LESS-THAN"]),
   ("GEOMETRICALLY ", ["EQUIVALENT TO|EQUAL TO"]),
   ("EQUAL ", ["TO BY DEFINITION|TO OR LESS-THAN|TO OR GREATER-THAN|TO OR PRECEDES",
     "TO OR SUCCEEDS|AND PARALLEL TO"]),
   ("LESS-THAN ", ["OR EQUAL TO|OR EQUIVALENT TO|OR GREATER-THAN|OVER EQUAL TO|BUT NOT EQUAL TO",
     "BUT NOT EQUIVALENT TO|WITH DOT|EQUAL TO OR GREATER-THAN"]),
   ("GREATER-THAN ", ["OR EQUAL TO|OR EQUIVALENT TO|OR LESS-THAN|OVER EQUAL TO|BUT NOT EQUAL TO",
     "BUT NOT EQUIVALENT TO|WITH DOT|EQUAL TO OR LESS-THAN"]),
   ("PRECEDES ", ["OR EQUAL TO|OR EQUIVALENT TO|UNDER RELATION|BUT NOT EQUIVALENT TO"]),
   ("SUCCEEDS ", ["OR EQUAL TO|OR EQUIVALENT TO|UNDER RELATION|BUT NOT EQUIVALENT TO"]),
   ("SUBSET ", ["OF|OF OR EQUAL TO|OF WITH NOT EQUAL TO"]),
   ("SUPERSET ", ["OF|OF OR EQUAL TO|OF WITH NOT EQUAL TO"]),
   ("MULTISET ", ["MULTIPLICATION|UNION"]),
   ("CIRCLED ", ["PLUS|MINUS|TIMES|DIVISION SLASH|DOT OPERATOR|RING OPERATOR|ASTERISK OPERATOR",
     "EQUALS|DASH"]),
   ("SQUARED ", ["PLUS|MINUS|TIMES|DOT OPERATOR"]),
   ("LEFT ", ["TACK|NORMAL FACTOR SEMIDIRECT PRODUCT|SEMIDIRECT PRODUCT"])]

/-- Blocks and shapes. -/
def shapeNames : List (String × List String) :=
  [("", ["FULL BLOCK|LIGHT SHADE|MEDIUM SHADE|DARK SHADE|FISHEYE|LOZENGE|DOTTED CIRCLE|BULLSEYE",
     "INVERSE BULLET|INVERSE WHITE CIRCLE|LARGE CIRCLE"]),
   ("UPPER ", ["HALF BLOCK|HALF INVERSE WHITE CIRCLE|HALF CIRCLE|ONE EIGHTH BLOCK",
     "LEFT QUADRANT CIRCULAR ARC|LEFT TRIANGLE|RIGHT QUADRANT CIRCULAR ARC|RIGHT TRIANGLE"]),
   ("LOWER ", ["ONE EIGHTH BLOCK|ONE QUARTER BLOCK|THREE EIGHTHS BLOCK|THREE QUARTERS BLOCK",
     "HALF BLOCK|HALF INVERSE WHITE CIRCLE|HALF CIRCLE|FIVE EIGHTHS BLOCK|SEVEN EIGHTHS BLOCK",
     "RIGHT QUADRANT CIRCULAR ARC|RIGHT TRIANGLE|LEFT QUADRANT CIRCULAR ARC|LEFT TRIANGLE"]),
   ("LEFT ", ["SEVEN EIGHTHS BLOCK|THREE QUARTERS BLOCK|THREE EIGHTHS BLOCK|FIVE EIGHTHS BLOCK",
     "HALF BLOCK|HALF BLACK CIRCLE|ONE QUARTER BLOCK|ONE EIGHTH BLOCK"]),
   ("RIGHT ", ["HALF BLOCK|HALF BLACK CIRCLE|ONE EIGHTH BLOCK"]),
   ("QUADRANT ", ["LOWER LEFT|LOWER RIGHT"]),
   ("QUADRANT UPPER ", ["LEFT|LEFT AND LOWER LEFT AND LOWER RIGHT|LEFT AND LOWER RIGHT",
     "LEFT AND UPPER RIGHT AND LOWER LEFT|LEFT AND UPPER RIGHT AND LOWER RIGHT|RIGHT",
     "RIGHT AND LOWER LEFT|RIGHT AND LOWER LEFT AND LOWER RIGHT"]),
   ("BLACK ", ["SQUARE|SMALL SQUARE|RECTANGLE|VERTICAL RECTANGLE|PARALLELOGRAM",
     "UP-POINTING TRIANGLE|UP-POINTING SMALL TRIANGLE|DOWN-POINTING TRIANGLE",
     "DOWN-POINTING SMALL TRIANGLE|DIAMOND|CIRCLE|LOWER RIGHT TRIANGLE|LOWER LEFT TRIANGLE",
     "UPPER LEFT TRIANGLE|UPPER RIGHT TRIANGLE|MEDIUM SQUARE|MEDIUM SMALL SQUARE"]),
   ("BLACK RIGHT-POINTING ", ["TRIANGLE|SMALL TRIANGLE|POINTER"]),
   ("BLACK LEFT-POINTING ", ["TRIANGLE|SMALL TRIANGLE|POINTER"]),
   ("WHITE ", ["SQUARE|SMALL SQUARE|RECTANGLE|VERTICAL RECTANGLE|PARALLELOGRAM",
     "DOWN-POINTING TRIANGLE|DOWN-POINTING SMALL TRIANGLE|DIAMOND",
     "DIAMOND CONTAINING BLACK SMALL DIAMOND|CIRCLE|BULLET|MEDIUM SQUARE|MEDIUM SMALL SQUARE"]),
   ("WHITE SQUARE ", ["CONTAINING BLACK SMALL SQUARE"]),
   ("WHITE SQUARE WITH ", ["ROUNDED CORNERS|VERTICAL BISECTING LINE|UPPER LEFT QUADRANT",
     "UPPER RIGHT QUADRANT|LOWER LEFT QUADRANT|LOWER RIGHT QUADRANT"]),
   ("WHITE UP-POINTING ", ["TRIANGLE|SMALL TRIANGLE|TRIANGLE WITH DOT"]),
   ("WHITE RIGHT-POINTING ", ["TRIANGLE|SMALL TRIANGLE|POINTER"]),
   ("WHITE LEFT-POINTING ", ["TRIANGLE|SMALL TRIANGLE|POINTER"]),
   ("WHITE CIRCLE ", ["WITH UPPER LEFT QUADRANT|WITH LOWER LEFT QUADRANT",
     "WITH LOWER RIGHT QUADRANT|WITH UPPER RIGHT QUADRANT"]),
   ("SQUARE WITH ", ["HORIZONTAL FILL|VERTICAL FILL|ORTHOGONAL CROSSHATCH FILL",
     "UPPER LEFT TO LOWER RIGHT FILL|UPPER RIGHT TO LOWER LEFT FILL",
     "UPPER LEFT DIAGONAL HALF BLACK|DIAGONAL CROSSHATCH FILL|LEFT HALF BLACK|RIGHT HALF BLACK",
     "LOWER RIGHT DIAGONAL HALF BLACK"]),
   ("CIRCLE WITH ", ["VERTICAL FILL|LEFT HALF BLACK|RIGHT HALF BLACK|LOWER HALF BLACK",
     "UPPER HALF BLACK|UPPER RIGHT QUADRANT BLACK|ALL BUT UPPER LEFT QUADRANT BLACK"]),
   ("UP-POINTING ", ["TRIANGLE WITH LEFT HALF BLACK|TRIANGLE WITH RIGHT HALF BLACK"])]

/-- Symbols and ornaments. -/
def symbolNames : List (String × List String) :=
  [("", ["CLOUD|UMBRELLA|SNOWMAN|COMET|LIGHTNING|THUNDERSTORM|SUN|ASCENDING NODE|DESCENDING NODE",
     "CONJUNCTION|OPPOSITION|SALTIRE|HOT BEVERAGE|HOT SPRINGS|SHAMROCK",
     "REVERSED ROTATED FLORAL HEART BULLET|SKULL AND CROSSBONES|CAUTION SIGN|RADIOACTIVE SIGN",
     "BIOHAZARD SIGN|CADUCEUS|ANKH|ORTHODOX CROSS|CHI RHO|STAR AND CRESCENT|STAR OF DAVID",
     "FARSI SYMBOL|ADI SHAKTI|HAMMER AND SICKLE|HAMMER AND PICK|PEACE SYMBOL|YIN YANG",
     "WHEEL OF DHARMA|FIRST QUARTER MOON|LAST QUARTER MOON|MERCURY|FEMALE SIGN|EARTH|JUPITER",
     "SATURN|URANUS|NEPTUNE|PLUTO|ARIES|TAURUS|GEMINI|CANCER|LEO|VIRGO|LIBRA|SCORPIUS",
     "SAGITTARIUS|CAPRICORN|AQUARIUS|PISCES|QUARTER NOTE|EIGHTH NOTE|BEAMED EIGHTH NOTES",
     "BEAMED SIXTEENTH NOTES|WEST SYRIAC CROSS|EAST SYRIAC CROSS|UNIVERSAL RECYCLING SYMBOL",
     "RECYCLED PAPER SYMBOL|PARTIALLY-RECYCLED PAPER SYMBOL|PERMANENT PAPER SIGN",
     "WHEELCHAIR SYMBOL|ANCHOR|CROSSED SWORDS|STAFF OF AESCULAPIUS|STAFF OF HERMES|SCALES",
     "ALEMBIC|FLOWER|GEAR|ATOM SYMBOL|FLEUR-DE-LIS|THREE LINES CONVERGING RIGHT",
     "THREE LINES CONVERGING LEFT|WARNING SIGN|HIGH VOLTAGE SIGN|DOUBLED FEMALE SIGN",
     "DOUBLED MALE SIGN|INTERLOCKED FEMALE AND MALE SIGN|VERTICAL MALE WITH STROKE SIGN",
     "HORIZONTAL MALE WITH STROKE SIGN|MARRIAGE SYMBOL|DIVORCE SYMBOL",
     "UNMARRIED PARTNERSHIP SYMBOL|COFFIN|FUNERAL URN|NEUTER|CERES|PALLAS|JUNO|VESTA|CHIRON",
     "SEXTILE|SEMISEXTILE|QUINCUNX|SESQUIQUADRATE|SOCCER BALL|BASEBALL|SQUARED KEY",
     "SQUARED SALTIRE|SNOWMAN WITHOUT SNOW|SUN BEHIND CLOUD|RAIN|THUNDER CLOUD AND RAIN",
     "TURNED WHITE SHOGI PIECE|TURNED BLACK SHOGI PIECE|CROSSING LANES|DISABLED CAR|OPHIUCHUS",
     "PICK|CAR SLIDING|HELMET WITH WHITE CROSS|CHAINS|NO ENTRY",
     "ALTERNATE ONE-WAY LEFT WAY TRAFFIC|DRIVE SLOW SIGN|LEFT CLOSED ENTRY",
     "FALLING DIAGONAL IN WHITE CIRCLE IN BLACK SQUARE|ASTRONOMICAL SYMBOL FOR URANUS|PENTAGRAM",
     "RIGHT-HANDED INTERLACED PENTAGRAM|LEFT-HANDED INTERLACED PENTAGRAM|INVERTED PENTAGRAM",
     "SHINTO SHRINE|CHURCH|CASTLE|HISTORIC SITE|GEAR WITHOUT HUB|GEAR WITH HANDLES",
     "MAP SYMBOL FOR LIGHTHOUSE|MOUNTAIN|FOUNTAIN|FLAG IN HOLE|FERRY|SAILBOAT",
     "SQUARE FOUR CORNERS|SKIER|ICE SKATE|PERSON WITH BALL|TENT|JAPANESE BANK SYMBOL",
     "HEADSTONE GRAVEYARD SYMBOL|FUEL PUMP|CUP ON BLACK SQUARE|TELEPHONE LOCATION SIGN",
     "TAPE DRIVE|AIRPLANE|ENVELOPE|RAISED FIST|RAISED HAND|VICTORY HAND|WRITING HAND|PENCIL",
     "CHECK MARK|MULTIPLICATION X|LATIN CROSS|MALTESE CROSS|SPARKLES|STRESS OUTLINED WHITE STAR",
     "PINWHEEL STAR|SIX POINTED BLACK STAR|SIX PETALLED BLACK AND WHITE FLORETTE",
     "TWELVE POINTED BLACK STAR|SIXTEEN POINTED ASTERISK|TEARDROP-SPOKED ASTERISK|SNOWFLAKE",
     "TIGHT TRIFOLIATE SNOWFLAKE|SPARKLE|BALLOON-SPOKED ASTERISK|NEGATIVE SQUARED CROSS MARK",
     "CURVED STEM PARAGRAPH SIGN ORNAMENT|ROTATED HEAVY BLACK HEART BULLET",
     "ROTATED FLORAL HEART BULLET|FLORAL HEART|DRAFTING POINT RIGHTWARDS ARROW",
     "TRIANGLE-HEADED RIGHTWARDS ARROW|DASHED TRIANGLE-HEADED RIGHTWARDS ARROW",
     "THREE-D TOP-LIGHTED RIGHTWARDS ARROWHEAD|THREE-D BOTTOM-LIGHTED RIGHTWARDS ARROWHEAD",
     "SQUAT BLACK RIGHTWARDS ARROW|RIGHT-SHADED WHITE RIGHTWARDS ARROW",
     "LEFT-SHADED WHITE RIGHTWARDS ARROW|BACK-TILTED SHADOWED WHITE RIGHTWARDS ARROW",
     "FRONT-TILTED SHADOWED WHITE RIGHTWARDS ARROW",
     "NOTCHED LOWER RIGHT-SHADOWED WHITE RIGHTWARDS ARROW",
     "NOTCHED UPPER RIGHT-SHADOWED WHITE RIGHTWARDS ARROW|CURLY LOOP",
     "WHITE-FEATHERED RIGHTWARDS ARROW|TEARDROP-BARBED RIGHTWARDS ARROW",
     "WEDGE-TAILED RIGHTWARDS ARROW|OPEN-OUTLINED RIGHTWARDS ARROW|DOUBLE CURLY LOOP"]),
   ("BLACK ", ["SUN WITH RAYS|STAR|TELEPHONE|SHOGI PIECE|LEFT POINTING INDEX|LEFT LANE MERGE",
     "RIGHT POINTING INDEX|SMILING FACE|SPADE SUIT|CLUB SUIT|HEART SUIT|DIAMOND SUIT",
     "DIAMOND MINUS WHITE X|UNIVERSAL RECYCLING SYMBOL|CIRCLE WITH WHITE DOT RIGHT",
     "CIRCLE WITH TWO WHITE DOTS|FLAG|MOON LILITH|DRAUGHTS MAN|DRAUGHTS KING|SNOWMAN",
     "TWO-WAY LEFT WAY TRAFFIC|TRUCK|CROSS ON SHIELD|SAFETY SCISSORS|SCISSORS|NIB",
     "FOUR POINTED STAR|CENTRE WHITE STAR|FLORETTE|QUESTION MARK ORNAMENT|RIGHTWARDS ARROW",
     "RIGHTWARDS ARROWHEAD"]),
   ("BLACK CHESS ", ["KING|QUEEN|ROOK|BISHOP|KNIGHT|PAWN"]),
   ("WHITE ", ["STAR|TELEPHONE|SHOGI PIECE|LEFT POINTING INDEX|LEFT LANE MERGE|UP POINTING INDEX",
     "RIGHT POINTING INDEX|DOWN POINTING INDEX|FROWNING FACE|SMILING FACE|SUN WITH RAYS",
     "HEART SUIT|DIAMOND SUIT|DIAMOND IN SQUARE|SPADE SUIT|CLUB SUIT|CIRCLE WITH DOT RIGHT",
     "CIRCLE WITH TWO DOTS|FLAG|DRAUGHTS MAN|DRAUGHTS KING|TWO-WAY LEFT WAY TRAFFIC",
     "FLAG WITH HORIZONTAL MIDDLE BLACK STRIPE|SCISSORS|HEAVY CHECK MARK|NIB|FOUR POINTED STAR",
     "FLORETTE|QUESTION MARK ORNAMENT|EXCLAMATION MARK ORNAMENT"]),
   ("WHITE CHESS ", ["KING|QUEEN|ROOK|BISHOP|KNIGHT|PAWN"]),
   ("BALLOT ", ["BOX|BOX WITH CHECK|BOX WITH X|X"]),
   ("UMBRELLA ", ["WITH RAIN DROPS|ON GROUND"]),
   ("CROSS ", ["OF LORRAINE|OF JERUSALEM|MARK"]),
   ("TRIGRAM FOR ", ["HEAVEN|LAKE|FIRE|THUNDER|WIND|WATER|MOUNTAIN|EARTH"]),
   ("MALE ", ["SIGN|AND FEMALE SIGN|WITH STROKE SIGN|WITH STROKE AND MALE AND FEMALE SIGN"]),
   ("MUSIC ", ["FLAT SIGN|NATURAL SIGN|SHARP SIGN"]),
   ("RECYCLING SYMBOL FOR ", ["TYPE-1 PLASTICS|TYPE-2 PLASTICS|TYPE-3 PLASTICS|TYPE-4 PLASTICS",
     "TYPE-5 PLASTICS|TYPE-6 PLASTICS|TYPE-7 PLASTICS|GENERIC MATERIALS"]),
   ("DIE ", ["FACE-1|FACE-2|FACE-3|FACE-4|FACE-5|FACE-6"]),
   ("MONOGRAM ", ["FOR YANG|FOR YIN"]),
   ("DIGRAM ", ["FOR GREATER YANG|FOR LESSER YIN|FOR LESSER YANG|FOR GREATER YIN"]),
   ("OUTLINED ", ["WHITE STAR|GREEK CROSS|LATIN CROSS|BLACK STAR"]),
   ("MEDIUM ", ["WHITE CIRCLE|BLACK CIRCLE|SMALL WHITE CIRCLE|VERTICAL BAR",
     "LEFT PARENTHESIS ORNAMENT|LEFT CURLY BRACKET ORNAMENT|RIGHT PARENTHESIS ORNAMENT",
     "RIGHT CURLY BRACKET ORNAMENT|FLATTENED LEFT PARENTHESIS ORNAMENT",
     "FLATTENED RIGHT PARENTHESIS ORNAMENT|LEFT-POINTING ANGLE BRACKET ORNAMENT",
     "RIGHT-POINTING ANGLE BRACKET ORNAMENT"]),
   ("CIRCLED ", ["CROSSING LANES|WHITE STAR|OPEN CENTRE EIGHT POINTED STAR",
     "HEAVY WHITE RIGHTWARDS ARROW"]),
   ("HEAVY ", ["WHITE DOWN-POINTING TRIANGLE|CIRCLE WITH STROKE AND TWO DOTS ABOVE|CHECK MARK",
     "MULTIPLICATION X|BALLOT X|GREEK CROSS|OPEN CENTRE CROSS|FOUR BALLOON-SPOKED ASTERISK",
     "OUTLINED BLACK STAR|ASTERISK|EIGHT POINTED RECTILINEAR BLACK STAR",
     "EIGHT TEARDROP-SPOKED PROPELLER ASTERISK|CHEVRON SNOWFLAKE|SPARKLE|EXCLAMATION MARK SYMBOL",
     "EXCLAMATION MARK ORNAMENT|VERTICAL BAR|SINGLE TURNED COMMA QUOTATION MARK ORNAMENT",
     "SINGLE COMMA QUOTATION MARK ORNAMENT|DOUBLE TURNED COMMA QUOTATION MARK ORNAMENT",
     "DOUBLE COMMA QUOTATION MARK ORNAMENT|LOW SINGLE COMMA QUOTATION MARK ORNAMENT",
     "LOW DOUBLE COMMA QUOTATION MARK ORNAMENT|HEART EXCLAMATION MARK ORNAMENT|BLACK HEART",
     "BLACK CURVED DOWNWARDS AND RIGHTWARDS ARROW|BLACK CURVED UPWARDS AND RIGHTWARDS ARROW",
     "LEFT-POINTING ANGLE QUOTATION MARK ORNAMENT|LEFT-POINTING ANGLE BRACKET ORNAMENT",
     "WIDE-HEADED RIGHTWARDS ARROW|PLUS SIGN|MINUS SIGN|DIVISION SIGN|SOUTH EAST ARROW",
     "RIGHTWARDS ARROW|NORTH EAST ARROW|ROUND-TIPPED RIGHTWARDS ARROW",
     "TRIANGLE-HEADED RIGHTWARDS ARROW|DASHED TRIANGLE-HEADED RIGHTWARDS ARROW",
     "CONCAVE-POINTED BLACK RIGHTWARDS ARROW|LOWER RIGHT-SHADOWED WHITE RIGHTWARDS ARROW",
     "UPPER RIGHT-SHADOWED WHITE RIGHTWARDS ARROW|TEARDROP-SHANKED RIGHTWARDS ARROW",
     "WEDGE-TAILED RIGHTWARDS ARROW"]),
   ("HEAVY TEARDROP-SPOKED ", ["ASTERISK|PINWHEEL ASTERISK"]),
   ("HEAVY RIGHT-POINTING ", ["ANGLE QUOTATION MARK ORNAMENT|ANGLE BRACKET ORNAMENT"]),
   ("HEAVY BLACK-FEATHERED ", ["SOUTH EAST ARROW|RIGHTWARDS ARROW|NORTH EAST ARROW"]),
   ("RESTRICTED ", ["LEFT ENTRY-1|LEFT ENTRY-2"]),
   ("UPPER ", ["BLADE SCISSORS|RIGHT PENCIL|RIGHT DROP-SHADOWED WHITE SQUARE",
     "RIGHT SHADOWED WHITE SQUARE"]),
   ("LOWER ", ["BLADE SCISSORS|RIGHT PENCIL|RIGHT DROP-SHADOWED WHITE SQUARE",
     "RIGHT SHADOWED WHITE SQUARE"]),
   ("OPEN CENTRE ", ["CROSS|BLACK STAR|ASTERISK|TEARDROP-SPOKED ASTERISK"]),
   ("SHADOWED ", ["WHITE LATIN CROSS|WHITE STAR|WHITE CIRCLE"]),
   ("FOUR ", ["TEARDROP-SPOKED ASTERISK|BALLOON-SPOKED ASTERISK|CLUB-SPOKED ASTERISK"]),
   ("EIGHT ", ["SPOKED ASTERISK|PETALLED OUTLINED BLACK FLORETTE",
     "TEARDROP-SPOKED PROPELLER ASTERISK"]),
   ("EIGHT POINTED ", ["BLACK STAR|PINWHEEL STAR|RECTILINEAR BLACK STAR"]),
   ("LIGHT ", ["VERTICAL BAR|LEFT TORTOISE SHELL BRACKET ORNAMENT",
     "RIGHT TORTOISE SHELL BRACKET ORNAMENT"]),
   ("DINGBAT NEGATIVE CIRCLED ", ["NUMBER TEN"]),
   ("DINGBAT NEGATIVE CIRCLED DIGIT ", ["ONE|TWO|THREE|FOUR|FIVE|SIX|SEVEN|EIGHT|NINE"]),
   ("DINGBAT NEGATIVE CIRCLED SANS-SERIF ", ["NUMBER TEN"]),
   ("DINGBAT NEGATIVE CIRCLED SANS-SERIF DIGIT ", ["ONE|TWO|THREE|FOUR|FIVE|SIX|SEVEN|EIGHT|NINE"]),
   ("DINGBAT CIRCLED SANS-SERIF ", ["NUMBER TEN"]),
   ("DINGBAT CIRCLED SANS-SERIF DIGIT ", ["ONE|TWO|THREE|FOUR|FIVE|SIX|SEVEN|EIGHT|NINE"]),
   ("BLACK-FEATHERED ", ["SOUTH EAST ARROW|RIGHTWARDS ARROW|NORTH EAST ARROW"])]

/-- Pictures. -/
def pictureNames : List (String × List String) :=
  [("", ["CYCLONE|FOGGY|NIGHT WITH STARS|SUNRISE OVER MOUNTAINS|SUNRISE|CITYSCAPE AT DUSK",
     "SUNSET OVER BUILDINGS|RAINBOW|BRIDGE AT NIGHT|VOLCANO|MILKY WAY|GLOBE WITH MERIDIANS",
     "NEW MOON SYMBOL|NEW MOON WITH FACE|WAXING CRESCENT MOON SYMBOL|WAXING GIBBOUS MOON SYMBOL",
     "FIRST QUARTER MOON SYMBOL|FIRST QUARTER MOON WITH FACE|FULL MOON SYMBOL",
     "FULL MOON WITH FACE|WANING GIBBOUS MOON SYMBOL|WANING CRESCENT MOON SYMBOL",
     "LAST QUARTER MOON SYMBOL|LAST QUARTER MOON WITH FACE|CRESCENT MOON|SUN WITH FACE",
     "GLOWING STAR|SHOOTING STAR|THERMOMETER|FOG|WIND BLOWING FACE|WIND CHIME|HOT DOG|HOT PEPPER",
     "TACO|BURRITO|CHESTNUT|SEEDLING|EVERGREEN TREE|DECIDUOUS TREE|PALM TREE|CACTUS|TULIP",
     "CHERRY BLOSSOM|ROSE|HIBISCUS|SUNFLOWER|BLOSSOM|EAR OF MAIZE|EAR OF RICE|HERB",
     "FOUR LEAF CLOVER|MAPLE LEAF|FALLEN LEAF|LEAF FLUTTERING IN WIND|MUSHROOM|TOMATO|AUBERGINE",
     "GRAPES|MELON|WATERMELON|TANGERINE|LEMON|BANANA|PINEAPPLE|RED APPLE|PEAR|PEACH|CHERRIES",
     "STRAWBERRY|HAMBURGER|SLICE OF PIZZA|MEAT ON BONE|POULTRY LEG|RICE CRACKER|RICE BALL",
     "COOKED RICE|CURRY AND RICE|STEAMING BOWL|SPAGHETTI|BREAD|FRENCH FRIES|ROASTED SWEET POTATO",
     "DANGO|ODEN|SUSHI|FRIED SHRIMP|FISH CAKE WITH SWIRL DESIGN|SOFT ICE CREAM",
     "SOFT SHELL FLOPPY DISK|SHAVED ICE|ICE CREAM|ICE HOCKEY STICK AND PUCK|DOUGHNUT|COOKIE",
     "CHOCOLATE BAR|CANDY|LOLLIPOP|CUSTARD|HONEY POT|SHORTCAKE|BENTO BOX|POT OF FOOD|COOKING",
     "FORK AND KNIFE|FORK AND KNIFE WITH PLATE|TEACUP WITHOUT HANDLE|SAKE BOTTLE AND CUP",
     "WINE GLASS|COCKTAIL GLASS|BEER MUG|CLINKING BEER MUGS|BOTTLE WITH POPPING CORK|POPCORN",
     "RIBBON|WRAPPED PRESENT|BIRTHDAY CAKE|JACK-O-LANTERN|CHRISTMAS TREE|FATHER CHRISTMAS",
     "FIREWORKS|FIREWORK SPARKLER|BALLOON|PARTY POPPER|CONFETTI BALL|TANABATA TREE|CROSSED FLAGS",
     "PINE DECORATION|CARP STREAMER|MOON VIEWING CEREMONY|SCHOOL SATCHEL|GRADUATION CAP",
     "BOUQUET OF FLOWERS|MILITARY MEDAL|REMINDER RIBBON|STUDIO MICROPHONE|LEVEL SLIDER",
     "CONTROL KNOBS|BEAMED ASCENDING MUSICAL NOTES|BEAMED DESCENDING MUSICAL NOTES|FILM FRAMES",
     "FILM PROJECTOR|ADMISSION TICKETS|CAROUSEL HORSE|FERRIS WHEEL|ROLLER COASTER|ROLLER SKATE",
     "FISHING POLE AND FISH|MICROPHONE|MOVIE CAMERA|CINEMA|HEADPHONE|ARTIST PALETTE|TOP HAT",
     "TOP WITH UPWARDS ARROW ABOVE|CIRCUS TENT|TICKET|CLAPPER BOARD|PERFORMING ARTS|VIDEO GAME",
     "VIDEO CAMERA|DIRECT HIT|SLOT MACHINE|BILLIARDS|GAME DIE|BOWLING|FLOWER PLAYING CARDS",
     "MULTIPLE MUSICAL NOTES|SAXOPHONE|GUITAR|TRUMPET|VIOLIN|RUNNING SHIRT WITH SASH",
     "TENNIS RACQUET AND BALL|SKI AND SKI BOOT|BASKETBALL AND HOOP|CHEQUERED FLAG|SNOWBOARDER",
     "RUNNER|SURFER|SPORTS MEDAL|TROPHY|HORSE RACING|HORSE FACE|AMERICAN FOOTBALL|RUGBY FOOTBALL",
     "SWIMMER|WEIGHT LIFTER|GOLFER|RACING MOTORCYCLE|RACING CAR|CRICKET BAT AND BALL|VOLLEYBALL",
     "FIELD HOCKEY STICK AND BALL|TABLE TENNIS PADDLE AND BALL|SNOW CAPPED MOUNTAIN|CAMPING",
     "BEACH WITH UMBRELLA|BUILDING CONSTRUCTION|CITYSCAPE|DERELICT HOUSE BUILDING",
     "CLASSICAL BUILDING|DESERT|DESERT ISLAND|NATIONAL PARK|STADIUM|OFFICE BUILDING|HOSPITAL",
     "BANK|AUTOMATED TELLER MACHINE|HOTEL|LOVE HOTEL|LOVE LETTER|CONVENIENCE STORE|SCHOOL",
     "DEPARTMENT STORE|FACTORY|IZAKAYA LANTERN|ROSETTE|LABEL|BADMINTON RACQUET AND SHUTTLECOCK",
     "BOW AND ARROW|AMPHORA|RAT|MOUSE|OX|COW|TIGER|LEOPARD|RABBIT|CAT|DRAGON|CROCODILE|WHALE",
     "SNAIL|SNAKE|HORSE|RAM|GOAT|SHEEP|MONKEY|ROOSTER|CHICKEN|DOG|PIG|BOAR|ELEPHANT|OCTOPUS|BUG",
     "ANT|HONEYBEE|LADY BEETLE|FISH|BLOWFISH|TURTLE|HATCHING CHICK|FRONT-FACING BABY CHICK|BIRD",
     "PENGUIN|KOALA|POODLE|DROMEDARY CAMEL|BACTRIAN CAMEL|DOLPHIN|MOUSE FACE|COW FACE|TIGER FACE",
     "RABBIT FACE|CAT FACE|CAT FACE WITH TEARS OF JOY|CAT FACE WITH WRY SMILE|DRAGON FACE",
     "SPOUTING WHALE|MONKEY FACE|DOG FACE|PIG FACE|PIG NOSE|FROG FACE|HAMSTER FACE|WOLF FACE",
     "BEAR FACE|PANDA FACE|PAW PRINTS|CHIPMUNK|EYES|EYE|EAR|NOSE|MOUTH|TONGUE|FISTED HAND SIGN",
     "OK HAND SIGN|THUMBS UP SIGN|THUMBS DOWN SIGN|CLAPPING HANDS SIGN|CROWN|EYEGLASSES|NECKTIE",
     "T-SHIRT|JEANS|DRESS|KIMONO|BIKINI|PURSE|HANDBAG|POUCH|MANS SHOE|ATHLETIC SHOE",
     "HIGH-HEELED SHOE|FOOTPRINTS|BUST IN SILHOUETTE|BUSTS IN SILHOUETTE|BOY|GIRL|MAN|WOMAN",
     "FAMILY|WOMAN WITH BUNNY EARS|BRIDE WITH VEIL|OLDER MAN|OLDER WOMAN|BABY|PRINCESS|GHOST",
     "EXTRATERRESTRIAL ALIEN|ALIEN MONSTER|IMP|SKULL|INFORMATION DESK PERSON|GUARDSMAN|DANCER",
     "LIPSTICK|NAIL POLISH|HAIRCUT|BARBER POLE|SYRINGE|PILL|KISS MARK|RING|GEM STONE|KISS",
     "BOUQUET|COUPLE WITH HEART|WEDDING|BEATING HEART|BROKEN HEART|SPARKLING HEART|GROWING HEART",
     "BLUE HEART|BLUE BOOK|YELLOW HEART|PURPLE HEART|REVOLVING HEARTS",
     "DIAMOND SHAPE WITH A DOT INSIDE|ANGER SYMBOL|BOMB|COLLISION SYMBOL|SPLASHING SWEAT SYMBOL",
     "DROPLET|DASH SYMBOL|PILE OF POO|FLEXED BICEPS|DIZZY SYMBOL|DIZZY FACE|SPEECH BALLOON",
     "THOUGHT BALLOON|HUNDRED POINTS SYMBOL|MONEY BAG|MONEY WITH WINGS|CURRENCY EXCHANGE",
     "HEAVY DOLLAR SIGN|HEAVY LATIN CROSS|CREDIT CARD|SEAT|PERSONAL COMPUTER|BRIEFCASE|MINIDISC",
     "FLOPPY DISK|OPTICAL DISC|OPTICAL DISC ICON|DVD|FILE FOLDER|FILE CABINET|CALENDAR",
     "TEAR-OFF CALENDAR|BAR CHART|CLIPBOARD|PUSHPIN|ROUND PUSHPIN|PAPERCLIP|STRAIGHT RULER",
     "BOOKMARK TABS|LEDGER|NOTEBOOK|NOTEBOOK WITH DECORATIVE COVER|ORANGE BOOK|BOOKS|NAME BADGE",
     "SCROLL|MEMO|PAGER|FAX MACHINE|FAX ICON|SATELLITE ANTENNA|PUBLIC ADDRESS LOUDSPEAKER",
     "CHEERING MEGAPHONE|OUTBOX TRAY|INBOX TRAY|PACKAGE|E-MAIL SYMBOL|INCOMING ENVELOPE|POSTBOX",
     "POSTAL HORN|NEWSPAPER|VIBRATION MODE|ANTENNA WITH BARS|CAMERA|CAMERA WITH FLASH|TELEVISION",
     "RADIO|VIDEOCASSETTE|PORTABLE STEREO|PRAYER BEADS|TWISTED RIGHTWARDS ARROWS",
     "ANTICLOCKWISE DOWNWARDS AND UPWARDS OPEN CIRCLE ARROWS|LOW BRIGHTNESS SYMBOL",
     "HIGH BRIGHTNESS SYMBOL|SPEAKER|BATTERY|LEFT-POINTING MAGNIFYING GLASS",
     "RIGHT-POINTING MAGNIFYING GLASS|LOCK WITH INK PEN|KEY|LOCK|BELL",
     "BELL WITH CANCELLATION STROKE|BOOKMARK|LINK SYMBOL|RADIO BUTTON",
     "BACK WITH LEFTWARDS ARROW ABOVE|BACK OF ENVELOPE|END WITH LEFTWARDS ARROW ABOVE",
     "ON WITH EXCLAMATION MARK WITH LEFT RIGHT ARROW ABOVE|SOON WITH RIGHTWARDS ARROW ABOVE",
     "KEYCAP TEN|FIRE|WRENCH|HAMMER|NUT AND BOLT|HOCHO|PISTOL|MICROSCOPE|TELESCOPE|CRYSTAL BALL",
     "SIX POINTED STAR WITH MIDDLE DOT|TRIDENT EMBLEM|UPPER RIGHT SHADOWED WHITE CIRCLE",
     "CIRCLED CROSS POMMEE|CIRCLED INFORMATION SOURCE|CROSS POMMEE WITH HALF-CIRCLE BELOW",
     "CROSS POMMEE|NOTCHED LEFT SEMICIRCLE WITH THREE DOTS",
     "NOTCHED RIGHT SEMICIRCLE WITH THREE DOTS|SYMBOL FOR MARKS CHAPTER|CELTIC CROSS|OM SYMBOL",
     "DOVE OF PEACE|KAABA|MOSQUE|SYNAGOGUE|MENORAH WITH NINE BRANCHES|BOWL OF HYGIEIA|BULLHORN",
     "BULLHORN WITH SOUND WAVES|RINGING BELL|BOOK|CANDLE|MANTELPIECE CLOCK|HOLE|SLEUTH OR SPY",
     "DARK SUNGLASSES|SPIDER|SPIDER WEB|JOYSTICK|CLAMSHELL MOBILE PHONE|STAMPED ENVELOPE",
     "FLYING ENVELOPE|FLYING SAUCER|PEN OVER STAMPED ENVELOPE|LINKED PAPERCLIPS",
     "TURNED OK HAND SIGN|RAISED HAND WITH FINGERS SPLAYED",
     "RAISED HAND WITH PART BETWEEN MIDDLE AND RING FINGERS|DESKTOP COMPUTER|DESKTOP WINDOW",
     "KEYBOARD AND MOUSE|PRINTER|POCKET CALCULATOR|TAPE CARTRIDGE|WIRED KEYBOARD",
     "ONE BUTTON MOUSE|TRACKBALL|OLD PERSONAL COMPUTER|OLD KEY|HARD DISK|SCREEN|PRINTER ICON",
     "FOLDER|NOTE|NOTE PAGE|NOTE PAD|DOCUMENT|PAGE|PAGES|WASTEBASKET|MINIMIZE|MAXIMIZE|OVERLAP",
     "CANCELLATION X|INCREASE FONT SIZE SYMBOL|DECREASE FONT SIZE SYMBOL|COMPRESSION",
     "ROLLED-UP NEWSPAPER|STOCK CHART|DAGGER KNIFE|LIPS|SPEAKING HEAD IN SILHOUETTE|MOOD BUBBLE",
     "LIGHT CHECK MARK|LIGHT RAIL|WORLD MAP|MOUNT FUJI|TOKYO TOWER|STATUE OF LIBERTY",
     "SILHOUETTE OF JAPAN|MOYAI|WINKING FACE|RELIEVED FACE|SMIRKING FACE|NEUTRAL FACE",
     "EXPRESSIONLESS FACE|UNAMUSED FACE|PENSIVE FACE|CONFUSED FACE|CONFOUNDED FACE|WORRIED FACE",
     "ANGRY FACE|POUTING FACE|POUTING CAT FACE|CRYING FACE|CRYING CAT FACE|PERSEVERING FACE",
     "FROWNING FACE WITH OPEN MOUTH|ANGUISHED FACE|FEARFUL FACE|WEARY FACE|WEARY CAT FACE",
     "SLEEPY FACE|TIRED FACE|GRIMACING FACE|LOUDLY CRYING FACE|HUSHED FACE|ASTONISHED FACE",
     "FLUSHED FACE|UPSIDE-DOWN FACE|SEE-NO-EVIL MONKEY|HEAR-NO-EVIL MONKEY|SPEAK-NO-EVIL MONKEY",
     "HAPPY PERSON RAISING ONE HAND|ROCKET|HELICOPTER|STEAM LOCOMOTIVE|RAILWAY CAR|RAILWAY TRACK",
     "TRAIN|METRO|STATION|TRAM|TRAM CAR|BUS|TROLLEYBUS|BUS STOP|MINIBUS|AMBULANCE|FIRE ENGINE",
     "TAXI|AUTOMOBILE|RECREATIONAL VEHICLE|DELIVERY TRUCK|ARTICULATED LORRY|TRACTOR|MONORAIL",
     "SUSPENSION RAILWAY|AERIAL TRAMWAY|SHIP|ROWBOAT|SPEEDBOAT|HORIZONTAL TRAFFIC LIGHT",
     "VERTICAL TRAFFIC LIGHT|DOOR|SMOKING SYMBOL|PUT LITTER IN ITS PLACE SYMBOL",
     "DO NOT LITTER SYMBOL|POTABLE WATER SYMBOL|NON-POTABLE WATER SYMBOL|BICYCLE|BICYCLIST",
     "PEDESTRIAN|CHILDREN CROSSING|MENS SYMBOL|WOMENS SYMBOL|RESTROOM|TOILET|SHOWER|BATH|BATHTUB",
     "PASSPORT CONTROL|CUSTOMS|BAGGAGE CLAIM|TRIANGLE WITH ROUNDED CORNERS|PROHIBITED SIGN",
     "BOYS SYMBOL|GIRLS SYMBOL|COUCH AND LAMP|BELLHOP BELL|BED|PLACE OF WORSHIP|OCTAGONAL SIGN",
     "STUPA|PAGODA|HINDU TEMPLE|HUT|ELEVATOR|PLAYGROUND SLIDE|WHEEL|RING BUOY|HAMMER AND WRENCH",
     "SHIELD|OIL DRUM|MOTORWAY|MOTOR BOAT|MOTOR SCOOTER|NORTHEAST-POINTING AIRPLANE|SATELLITE",
     "DIESEL LOCOMOTIVE|PASSENGER SHIP|SCOOTER|CANOE|SLED|SKATEBOARD|AUTO RICKSHAW|PICKUP TRUCK"]),
   ("CLOSED ", ["UMBRELLA|BOOK|MAILBOX WITH LOWERED FLAG|MAILBOX WITH RAISED FLAG|LOCK WITH KEY"]),
   ("WATER ", ["WAVE|BUFFALO|CLOSET"]),
   ("EARTH ", ["GLOBE EUROPE-AFRICA|GLOBE AMERICAS|GLOBE ASIA-AUSTRALIA"]),
   ("BLACK ", ["DROPLET|PENNANT|ROSETTE|SQUARE BUTTON|SKULL AND CROSSBONES|TOUCHTONE TELEPHONE",
     "PUSHPIN|LEFT POINTING BACKHAND INDEX|RIGHT POINTING BACKHAND INDEX",
     "UP POINTING BACKHAND INDEX|DOWN POINTING BACKHAND INDEX|HEART|HARD SHELL FLOPPY DISK",
     "FOLDER"]),
   ("WHITE ", ["SUN|SUN WITH SMALL CLOUD|SUN BEHIND CLOUD|SUN BEHIND CLOUD WITH RAIN|PENNANT",
     "UP POINTING BACKHAND INDEX|DOWN POINTING BACKHAND INDEX|DOWN POINTING LEFT HAND INDEX",
     "LEFT POINTING BACKHAND INDEX|RIGHT POINTING BACKHAND INDEX|FLOWER|SQUARE BUTTON",
     "LATIN CROSS|TOUCHTONE TELEPHONE|HARD SHELL FLOPPY DISK"]),
   ("CLOUD WITH ", ["RAIN|SNOW|LIGHTNING|TORNADO"]),
   ("GREEN ", ["APPLE|HEART|BOOK"]),
   ("TROPICAL ", ["DRINK|FISH"]),
   ("BABY ", ["BOTTLE|CHICK|ANGEL|SYMBOL"]),
   ("JAPANESE ", ["DOLLS|POST OFFICE|CASTLE|OGRE|GOBLIN|SYMBOL FOR BEGINNER"]),
   ("HEART ", ["WITH TIP ON THE LEFT|WITH ARROW|WITH RIBBON|DECORATION"]),
   ("MUSICAL ", ["KEYBOARD WITH JACKS|NOTE|KEYBOARD|SCORE"]),
   ("HOUSE ", ["BUILDINGS|BUILDING|WITH GARDEN"]),
   ("EUROPEAN ", ["POST OFFICE|CASTLE"]),
   ("WAVING ", ["WHITE FLAG|BLACK FLAG|HAND SIGN"]),
   ("EMOJI MODIFIER FITZPATRICK ", ["TYPE-1-2|TYPE-3|TYPE-4|TYPE-5|TYPE-6"]),
   ("SPIRAL ", ["SHELL|NOTE PAD|CALENDAR PAD"]),
   ("OPEN ", ["HANDS SIGN|FILE FOLDER|BOOK|MAILBOX WITH RAISED FLAG|MAILBOX WITH LOWERED FLAG",
     "LOCK|FOLDER"]),
   ("WOMANS ", ["HAT|CLOTHES|SANDAL|BOOTS"]),
   ("MAN ", ["AND WOMAN HOLDING HANDS|WITH GUA PI MAO|WITH TURBAN|IN BUSINESS SUIT LEVITATING",
     "DANCING"]),
   ("TWO ", ["MEN HOLDING HANDS|WOMEN HOLDING HANDS|HEARTS|BUTTON MOUSE|SPEECH BUBBLES"]),
   ("POLICE ", ["OFFICER|CAR|CARS REVOLVING LIGHT"]),
   ("PERSON ", ["WITH BLOND HAIR|WITH POUTING FACE|WITH FOLDED HANDS|BOWING DEEPLY",
     "RAISING BOTH HANDS IN CELEBRATION|FROWNING"]),
   ("CONSTRUCTION ", ["WORKER|SIGN"]),
   ("FACE ", ["MASSAGE|SAVOURING DELICIOUS FOOD|THROWING A KISS|SCREAMING IN FEAR|WITHOUT MOUTH"]),
   ("FACE WITH ", ["TEARS OF JOY|COLD SWEAT|LOOK OF TRIUMPH|OPEN MOUTH|OPEN MOUTH AND COLD SWEAT",
     "MEDICAL MASK|ROLLING EYES|NO GOOD GESTURE|OK GESTURE"]),
   ("FACE WITH STUCK-OUT ", ["TONGUE|TONGUE AND WINKING EYE|TONGUE AND TIGHTLY-CLOSED EYES"]),
   ("ELECTRIC ", ["LIGHT BULB|PLUG|TORCH"]),
   ("SLEEPING ", ["SYMBOL|FACE|ACCOMMODATION"]),
   ("BANKNOTE ", ["WITH YEN SIGN|WITH DOLLAR SIGN|WITH EURO SIGN|WITH POUND SIGN"]),
   ("CHART ", ["WITH UPWARDS TREND AND YEN SIGN|WITH UPWARDS TREND|WITH DOWNWARDS TREND"]),
   ("PAGE ", ["WITH CURL|WITH CIRCLED TEXT|FACING UP"]),
   ("CARD ", ["INDEX|INDEX DIVIDERS|FILE BOX"]),
   ("TRIANGULAR ", ["RULER|FLAG ON POST"]),
   ("TELEPHONE ", ["RECEIVER|RECEIVER WITH PAGE|ON TOP OF MODEM"]),
   ("ENVELOPE ", ["WITH DOWNWARDS ARROW ABOVE|WITH LIGHTNING"]),
   ("MOBILE ", ["PHONE|PHONE WITH RIGHTWARDS ARROW AT LEFT|PHONE OFF"]),
   ("NO ", ["MOBILE PHONES|ONE UNDER EIGHTEEN SYMBOL|PIRACY|ENTRY SIGN|SMOKING SYMBOL|BICYCLES",
     "PEDESTRIANS"]),
   ("CLOCKWISE ", ["RIGHTWARDS AND LEFTWARDS OPEN CIRCLE ARROWS",
     "RIGHTWARDS AND LEFTWARDS OPEN CIRCLE ARROWS WITH CIRCLED ONE OVERLAY",
     "DOWNWARDS AND UPWARDS OPEN CIRCLE ARROWS|RIGHT AND LEFT SEMICIRCLE ARROWS"]),
   ("SPEAKER ", ["WITH CANCELLATION STROKE|WITH ONE SOUND WAVE|WITH THREE SOUND WAVES"]),
   ("INPUT SYMBOL ", ["FOR LATIN CAPITAL LETTERS|FOR LATIN SMALL LETTERS|FOR NUMBERS|FOR SYMBOLS",
     "FOR LATIN LETTERS"]),
   ("LARGE ", ["RED CIRCLE|BLUE CIRCLE|BLUE DIAMOND|ORANGE DIAMOND"]),
   ("SMALL ", ["ORANGE DIAMOND|BLUE DIAMOND|AIRPLANE"]),
   ("UP-POINTING ", ["RED TRIANGLE|SMALL RED TRIANGLE|SMALL AIRPLANE|MILITARY AIRPLANE|AIRPLANE"]),
   ("DOWN-POINTING ", ["RED TRIANGLE|SMALL RED TRIANGLE"]),
   ("LOWER ", ["RIGHT SHADOWED WHITE CIRCLE"]),
   ("LOWER LEFT ", ["PENCIL|BALLPOINT PEN|FOUNTAIN PEN|PAINTBRUSH|CRAYON"]),
   ("CLOCK FACE ", ["ONE OCLOCK|TWO OCLOCK|THREE OCLOCK|FOUR OCLOCK|FIVE OCLOCK|SIX OCLOCK",
     "SEVEN OCLOCK|EIGHT OCLOCK|NINE OCLOCK|TEN OCLOCK|ELEVEN OCLOCK|TWELVE OCLOCK|ONE-THIRTY",
     "TWO-THIRTY|THREE-THIRTY|FOUR-THIRTY|FIVE-THIRTY|SIX-THIRTY|SEVEN-THIRTY|EIGHT-THIRTY",
     "NINE-THIRTY|TEN-THIRTY|ELEVEN-THIRTY|TWELVE-THIRTY"]),
   ("RIGHT ", ["SPEAKER|SPEAKER WITH ONE SOUND WAVE|SPEAKER WITH THREE SOUND WAVES",
     "HAND TELEPHONE RECEIVER|SPEECH BUBBLE|THOUGHT BUBBLE|ANGER BUBBLE"]),
   ("LEFT ", ["HAND TELEPHONE RECEIVER|WRITING HAND|SPEECH BUBBLE|THOUGHT BUBBLE|ANGER BUBBLE",
     "LUGGAGE"]),
   ("REVERSED ", ["RAISED HAND WITH FINGERS SPLAYED|THUMBS UP SIGN|THUMBS DOWN SIGN|VICTORY HAND",
     "HAND WITH MIDDLE FINGER EXTENDED"]),
   ("SIDEWAYS WHITE ", ["LEFT POINTING INDEX|RIGHT POINTING INDEX|UP POINTING INDEX",
     "DOWN POINTING INDEX"]),
   ("SIDEWAYS BLACK ", ["LEFT POINTING INDEX|RIGHT POINTING INDEX|UP POINTING INDEX",
     "DOWN POINTING INDEX"]),
   ("THREE ", ["NETWORKED COMPUTERS|BUTTON MOUSE|SPEECH BUBBLES"]),
   ("THREE RAYS ", ["ABOVE|BELOW|LEFT|RIGHT"]),
   ("DOCUMENT ", ["WITH TEXT|WITH TEXT AND PICTURE|WITH PICTURE"]),
   ("FRAME ", ["WITH PICTURE|WITH TILES|WITH AN X"]),
   ("EMPTY ", ["NOTE|NOTE PAGE|NOTE PAD|DOCUMENT|PAGE|PAGES"]),
   ("LIGHTNING ", ["MOOD BUBBLE|MOOD"]),
   ("BALLOT ", ["BOX WITH BALLOT|BOX WITH SCRIPT X|BOX WITH BOLD SCRIPT X|BOX WITH BOLD CHECK",
     "SCRIPT X|BOLD SCRIPT X"]),
   ("GRINNING ", ["FACE|FACE WITH SMILING EYES|CAT FACE WITH SMILING EYES"]),
   ("SMILING ", ["CAT FACE WITH OPEN MOUTH|CAT FACE WITH HEART-SHAPED EYES"]),
   ("SMILING FACE WITH ", ["OPEN MOUTH|OPEN MOUTH AND SMILING EYES|OPEN MOUTH AND COLD SWEAT",
     "OPEN MOUTH AND TIGHTLY-CLOSED EYES|HALO|HORNS|SMILING EYES|HEART-SHAPED EYES|SUNGLASSES"]),
   ("KISSING ", ["FACE|FACE WITH SMILING EYES|FACE WITH CLOSED EYES|CAT FACE WITH CLOSED EYES"]),
   ("DISAPPOINTED ", ["FACE|BUT RELIEVED FACE"]),
   ("SLIGHTLY ", ["FROWNING FACE|SMILING FACE"]),
   ("HIGH-SPEED ", ["TRAIN|TRAIN WITH BULLET NOSE"]),
   ("ONCOMING ", ["BUS|POLICE CAR|TAXI|AUTOMOBILE|FIRE ENGINE"]),
   ("MOUNTAIN ", ["RAILWAY|CABLEWAY|BICYCLIST"]),
   ("SHOPPING ", ["BAGS|TROLLEY"]),
   ("AIRPLANE ", ["DEPARTURE|ARRIVING"])]

/-- The names of all tables. -/
def tabledNames : List (String × List String) :=
  controlNames ++ latinNames ++ greekNames ++ cyrillicNames ++ markNames ++ letterSignNames ++
    arrowNames ++ operatorNames ++ shapeNames ++ symbolNames ++ pictureNames

/-- Whether a name in upper case stands in one of the tables. -/
def isTabledName (name : Text) : Bool :=
  tabledNames.any fun (beginning, endings) =>
    (dropBeginning? beginning.text name).any fun ending =>
      endings.any fun line => (split '|' line.text).contains ending

/-! ## Names from rules -/

/-- The consonants with which a Hangul syllable begins. -/
def hangulInitials : List String :=
  ["G", "GG", "N", "D", "DD", "R", "M", "B", "BB", "S", "SS", "", "J", "JJ", "C", "K", "T", "P",
   "H"]

/-- The vowels of a Hangul syllable. -/
def hangulMedials : List String :=
  ["A", "AE", "YA", "YAE", "EO", "E", "YEO", "YE", "O", "WA", "WAE", "OE", "YO", "U", "WEO", "WE",
   "WI", "YU", "EU", "YI", "I"]

/-- The consonants with which a Hangul syllable ends. -/
def hangulFinals : List String :=
  ["", "G", "GG", "GS", "N", "NJ", "NH", "D", "L", "LG", "LM", "LB", "LS", "LT", "LP", "LH", "M",
   "B", "BS", "S", "SS", "NG", "J", "C", "K", "T", "P", "H"]

/-- Whether a text spells a Hangul syllable. -/
def isHangulSyllable (s : Text) : Bool :=
  hangulInitials.any fun initial =>
    (dropBeginning? initial.text s).any fun s =>
      hangulMedials.any fun medial =>
        (dropBeginning? medial.text s).any fun s =>
          hangulFinals.any fun final => final.text = s

/-- The code points of the Han characters that are named after them. -/
def hanRanges : List (Nat × Nat) :=
  [(0x3400, 0x4DBF), (0x4E00, 0x9FFF), (0x20000, 0x2A6DF), (0x2A700, 0x2B738), (0x2B740, 0x2B81D),
   (0x2B820, 0x2CEA1), (0x2CEB0, 0x2EBE0), (0x30000, 0x3134A)]

/-- Whether four or five digits of base sixteen are the code point of a Han character. -/
def isHanCodePoint (s : Text) : Bool :=
  (s.length = 4 || s.length = 5) &&
    s.all (fun c => c.isDigit || ('A' ≤ c && c ≤ 'F')) &&
    inRanges hanRanges (numberInBase 16 s)

/-! ## Names -/

/-- Whether a text is the name of a character. -/
def namesCharacter (name : Text) : Bool :=
  isTabledName (name.map CodePoint.toUpper) ||
    (dropBeginning? "HANGUL SYLLABLE ".text name).any isHangulSyllable ||
    (dropBeginning? "CJK UNIFIED IDEOGRAPH-".text name).any isHanCodePoint

end Scaffold.Text
