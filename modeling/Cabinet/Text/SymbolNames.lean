/-!
The names of punctuation, signs, arrows and drawings.
-/

namespace Cabinet.Text

set_option maxRecDepth 20000 in
/-- Names and the code points they stand for. -/
def symbolNames : List (String × Nat) := [
    ("EN QUAD", 0x2000),
    ("EM QUAD", 0x2001),
    ("EN SPACE", 0x2002),
    ("EM SPACE", 0x2003),
    ("THREE-PER-EM SPACE", 0x2004),
    ("FOUR-PER-EM SPACE", 0x2005),
    ("SIX-PER-EM SPACE", 0x2006),
    ("FIGURE SPACE", 0x2007),
    ("PUNCTUATION SPACE", 0x2008),
    ("THIN SPACE", 0x2009),
    ("HAIR SPACE", 0x200A),
    ("ZERO WIDTH SPACE", 0x200B),
    ("ZERO WIDTH NON-JOINER", 0x200C),
    ("ZERO WIDTH JOINER", 0x200D),
    ("LEFT-TO-RIGHT MARK", 0x200E),
    ("RIGHT-TO-LEFT MARK", 0x200F),
    ("HYPHEN", 0x2010),
    ("NON-BREAKING HYPHEN", 0x2011),
    ("FIGURE DASH", 0x2012),
    ("EN DASH", 0x2013),
    ("EM DASH", 0x2014),
    ("HORIZONTAL BAR", 0x2015),
    ("DOUBLE VERTICAL LINE", 0x2016),
    ("DOUBLE LOW LINE", 0x2017),
    ("LEFT SINGLE QUOTATION MARK", 0x2018),
    ("RIGHT SINGLE QUOTATION MARK", 0x2019),
    ("SINGLE LOW-9 QUOTATION MARK", 0x201A),
    ("SINGLE HIGH-REVERSED-9 QUOTATION MARK", 0x201B),
    ("LEFT DOUBLE QUOTATION MARK", 0x201C),
    ("RIGHT DOUBLE QUOTATION MARK", 0x201D),
    ("DOUBLE LOW-9 QUOTATION MARK", 0x201E),
    ("DOUBLE HIGH-REVERSED-9 QUOTATION MARK", 0x201F),
    ("DAGGER", 0x2020),
    ("DOUBLE DAGGER", 0x2021),
    ("BULLET", 0x2022),
    ("TRIANGULAR BULLET", 0x2023),
    ("ONE DOT LEADER", 0x2024),
    ("TWO DOT LEADER", 0x2025),
    ("HORIZONTAL ELLIPSIS", 0x2026),
    ("HYPHENATION POINT", 0x2027),
    ("LINE SEPARATOR", 0x2028),
    ("PARAGRAPH SEPARATOR", 0x2029),
    ("LEFT-TO-RIGHT EMBEDDING", 0x202A),
    ("RIGHT-TO-LEFT EMBEDDING", 0x202B),
    ("POP DIRECTIONAL FORMATTING", 0x202C),
    ("LEFT-TO-RIGHT OVERRIDE", 0x202D),
    ("RIGHT-TO-LEFT OVERRIDE", 0x202E),
    ("NARROW NO-BREAK SPACE", 0x202F),
    ("PER MILLE SIGN", 0x2030),
    ("PER TEN THOUSAND SIGN", 0x2031),
    ("PRIME", 0x2032),
    ("DOUBLE PRIME", 0x2033),
    ("TRIPLE PRIME", 0x2034),
    ("REVERSED PRIME", 0x2035),
    ("REVERSED DOUBLE PRIME", 0x2036),
    ("REVERSED TRIPLE PRIME", 0x2037),
    ("CARET", 0x2038),
    ("SINGLE LEFT-POINTING ANGLE QUOTATION MARK", 0x2039),
    ("SINGLE RIGHT-POINTING ANGLE QUOTATION MARK", 0x203A),
    ("REFERENCE MARK", 0x203B),
    ("DOUBLE EXCLAMATION MARK", 0x203C),
    ("INTERROBANG", 0x203D),
    ("OVERLINE", 0x203E),
    ("UNDERTIE", 0x203F),
    ("CHARACTER TIE", 0x2040),
    ("CARET INSERTION POINT", 0x2041),
    ("ASTERISM", 0x2042),
    ("HYPHEN BULLET", 0x2043),
    ("FRACTION SLASH", 0x2044),
    ("LEFT SQUARE BRACKET WITH QUILL", 0x2045),
    ("RIGHT SQUARE BRACKET WITH QUILL", 0x2046),
    ("DOUBLE QUESTION MARK", 0x2047),
    ("QUESTION EXCLAMATION MARK", 0x2048),
    ("EXCLAMATION QUESTION MARK", 0x2049),
    ("TIRONIAN SIGN ET", 0x204A),
    ("REVERSED PILCROW SIGN", 0x204B),
    ("BLACK LEFTWARDS BULLET", 0x204C),
    ("BLACK RIGHTWARDS BULLET", 0x204D),
    ("LOW ASTERISK", 0x204E),
    ("REVERSED SEMICOLON", 0x204F),
    ("CLOSE UP", 0x2050),
    ("TWO ASTERISKS ALIGNED VERTICALLY", 0x2051),
    ("COMMERCIAL MINUS SIGN", 0x2052),
    ("SWUNG DASH", 0x2053),
    ("INVERTED UNDERTIE", 0x2054),
    ("FLOWER PUNCTUATION MARK", 0x2055),
    ("THREE DOT PUNCTUATION", 0x2056),
    ("QUADRUPLE PRIME", 0x2057),
    ("FOUR DOT PUNCTUATION", 0x2058),
    ("FIVE DOT PUNCTUATION", 0x2059),
    ("TWO DOT PUNCTUATION", 0x205A),
    ("FOUR DOT MARK", 0x205B),
    ("DOTTED CROSS", 0x205C),
    ("TRICOLON", 0x205D),
    ("VERTICAL FOUR DOTS", 0x205E),
    ("MEDIUM MATHEMATICAL SPACE", 0x205F),
    ("WORD JOINER", 0x2060),
    ("FUNCTION APPLICATION", 0x2061),
    ("INVISIBLE TIMES", 0x2062),
    ("INVISIBLE SEPARATOR", 0x2063),
    ("INVISIBLE PLUS", 0x2064),
    ("LEFT-TO-RIGHT ISOLATE", 0x2066),
    ("RIGHT-TO-LEFT ISOLATE", 0x2067),
    ("FIRST STRONG ISOLATE", 0x2068),
    ("POP DIRECTIONAL ISOLATE", 0x2069),
    ("INHIBIT SYMMETRIC SWAPPING", 0x206A),
    ("ACTIVATE SYMMETRIC SWAPPING", 0x206B),
    ("INHIBIT ARABIC FORM SHAPING", 0x206C),
    ("ACTIVATE ARABIC FORM SHAPING", 0x206D),
    ("NATIONAL DIGIT SHAPES", 0x206E),
    ("NOMINAL DIGIT SHAPES", 0x206F),
    ("SUPERSCRIPT ZERO", 0x2070),
    ("SUPERSCRIPT LATIN SMALL LETTER I", 0x2071),
    ("SUPERSCRIPT FOUR", 0x2074),
    ("SUPERSCRIPT FIVE", 0x2075),
    ("SUPERSCRIPT SIX", 0x2076),
    ("SUPERSCRIPT SEVEN", 0x2077),
    ("SUPERSCRIPT EIGHT", 0x2078),
    ("SUPERSCRIPT NINE", 0x2079),
    ("SUPERSCRIPT PLUS SIGN", 0x207A),
    ("SUPERSCRIPT MINUS", 0x207B),
    ("SUPERSCRIPT EQUALS SIGN", 0x207C),
    ("SUPERSCRIPT LEFT PARENTHESIS", 0x207D),
    ("SUPERSCRIPT RIGHT PARENTHESIS", 0x207E),
    ("SUPERSCRIPT LATIN SMALL LETTER N", 0x207F),
    ("SUBSCRIPT ZERO", 0x2080),
    ("SUBSCRIPT ONE", 0x2081),
    ("SUBSCRIPT TWO", 0x2082),
    ("SUBSCRIPT THREE", 0x2083),
    ("SUBSCRIPT FOUR", 0x2084),
    ("SUBSCRIPT FIVE", 0x2085),
    ("SUBSCRIPT SIX", 0x2086),
    ("SUBSCRIPT SEVEN", 0x2087),
    ("SUBSCRIPT EIGHT", 0x2088),
    ("SUBSCRIPT NINE", 0x2089),
    ("SUBSCRIPT PLUS SIGN", 0x208A),
    ("SUBSCRIPT MINUS", 0x208B),
    ("SUBSCRIPT EQUALS SIGN", 0x208C),
    ("SUBSCRIPT LEFT PARENTHESIS", 0x208D),
    ("SUBSCRIPT RIGHT PARENTHESIS", 0x208E),
    ("LATIN SUBSCRIPT SMALL LETTER A", 0x2090),
    ("LATIN SUBSCRIPT SMALL LETTER E", 0x2091),
    ("LATIN SUBSCRIPT SMALL LETTER O", 0x2092),
    ("LATIN SUBSCRIPT SMALL LETTER X", 0x2093),
    ("LATIN SUBSCRIPT SMALL LETTER SCHWA", 0x2094),
    ("LATIN SUBSCRIPT SMALL LETTER H", 0x2095),
    ("LATIN SUBSCRIPT SMALL LETTER K", 0x2096),
    ("LATIN SUBSCRIPT SMALL LETTER L", 0x2097),
    ("LATIN SUBSCRIPT SMALL LETTER M", 0x2098),
    ("LATIN SUBSCRIPT SMALL LETTER N", 0x2099),
    ("LATIN SUBSCRIPT SMALL LETTER P", 0x209A),
    ("LATIN SUBSCRIPT SMALL LETTER S", 0x209B),
    ("LATIN SUBSCRIPT SMALL LETTER T", 0x209C),
    ("EURO-CURRENCY SIGN", 0x20A0),
    ("COLON SIGN", 0x20A1),
    ("CRUZEIRO SIGN", 0x20A2),
    ("FRENCH FRANC SIGN", 0x20A3),
    ("LIRA SIGN", 0x20A4),
    ("MILL SIGN", 0x20A5),
    ("NAIRA SIGN", 0x20A6),
    ("PESETA SIGN", 0x20A7),
    ("RUPEE SIGN", 0x20A8),
    ("WON SIGN", 0x20A9),
    ("NEW SHEQEL SIGN", 0x20AA),
    ("DONG SIGN", 0x20AB),
    ("EURO SIGN", 0x20AC),
    ("KIP SIGN", 0x20AD),
    ("TUGRIK SIGN", 0x20AE),
    ("DRACHMA SIGN", 0x20AF),
    ("GERMAN PENNY SIGN", 0x20B0),
    ("PESO SIGN", 0x20B1),
    ("GUARANI SIGN", 0x20B2),
    ("AUSTRAL SIGN", 0x20B3),
    ("HRYVNIA SIGN", 0x20B4),
    ("CEDI SIGN", 0x20B5),
    ("LIVRE TOURNOIS SIGN", 0x20B6),
    ("SPESMILO SIGN", 0x20B7),
    ("TENGE SIGN", 0x20B8),
    ("INDIAN RUPEE SIGN", 0x20B9),
    ("TURKISH LIRA SIGN", 0x20BA),
    ("NORDIC MARK SIGN", 0x20BB),
    ("MANAT SIGN", 0x20BC),
    ("RUBLE SIGN", 0x20BD),
    ("LARI SIGN", 0x20BE),
    ("BITCOIN SIGN", 0x20BF),
    ("SOM SIGN", 0x20C0),
    ("ACCOUNT OF", 0x2100),
    ("ADDRESSED TO THE SUBJECT", 0x2101),
    ("DOUBLE-STRUCK CAPITAL C", 0x2102),
    ("DEGREE CELSIUS", 0x2103),
    ("CENTRE LINE SYMBOL", 0x2104),
    ("CARE OF", 0x2105),
    ("CADA UNA", 0x2106),
    ("EULER CONSTANT", 0x2107),
    ("SCRUPLE", 0x2108),
    ("DEGREE FAHRENHEIT", 0x2109),
    ("SCRIPT SMALL G", 0x210A),
    ("SCRIPT CAPITAL H", 0x210B),
    ("BLACK-LETTER CAPITAL H", 0x210C),
    ("DOUBLE-STRUCK CAPITAL H", 0x210D),
    ("PLANCK CONSTANT", 0x210E),
    ("PLANCK CONSTANT OVER TWO PI", 0x210F),
    ("SCRIPT CAPITAL I", 0x2110),
    ("BLACK-LETTER CAPITAL I", 0x2111),
    ("SCRIPT CAPITAL L", 0x2112),
    ("SCRIPT SMALL L", 0x2113),
    ("L B BAR SYMBOL", 0x2114),
    ("DOUBLE-STRUCK CAPITAL N", 0x2115),
    ("NUMERO SIGN", 0x2116),
    ("SOUND RECORDING COPYRIGHT", 0x2117),
    ("SCRIPT CAPITAL P", 0x2118),
    ("DOUBLE-STRUCK CAPITAL P", 0x2119),
    ("DOUBLE-STRUCK CAPITAL Q", 0x211A),
    ("SCRIPT CAPITAL R", 0x211B),
    ("BLACK-LETTER CAPITAL R", 0x211C),
    ("DOUBLE-STRUCK CAPITAL R", 0x211D),
    ("PRESCRIPTION TAKE", 0x211E),
    ("RESPONSE", 0x211F),
    ("SERVICE MARK", 0x2120),
    ("TELEPHONE SIGN", 0x2121),
    ("TRADE MARK SIGN", 0x2122),
    ("VERSICLE", 0x2123),
    ("DOUBLE-STRUCK CAPITAL Z", 0x2124),
    ("OUNCE SIGN", 0x2125),
    ("OHM SIGN", 0x2126),
    ("INVERTED OHM SIGN", 0x2127),
    ("BLACK-LETTER CAPITAL Z", 0x2128),
    ("TURNED GREEK SMALL LETTER IOTA", 0x2129),
    ("KELVIN SIGN", 0x212A),
    ("ANGSTROM SIGN", 0x212B),
    ("SCRIPT CAPITAL B", 0x212C),
    ("BLACK-LETTER CAPITAL C", 0x212D),
    ("ESTIMATED SYMBOL", 0x212E),
    ("SCRIPT SMALL E", 0x212F),
    ("SCRIPT CAPITAL E", 0x2130),
    ("SCRIPT CAPITAL F", 0x2131),
    ("TURNED CAPITAL F", 0x2132),
    ("SCRIPT CAPITAL M", 0x2133),
    ("SCRIPT SMALL O", 0x2134),
    ("ALEF SYMBOL", 0x2135),
    ("BET SYMBOL", 0x2136),
    ("GIMEL SYMBOL", 0x2137),
    ("DALET SYMBOL", 0x2138),
    ("INFORMATION SOURCE", 0x2139),
    ("ROTATED CAPITAL Q", 0x213A),
    ("FACSIMILE SIGN", 0x213B),
    ("DOUBLE-STRUCK SMALL PI", 0x213C),
    ("DOUBLE-STRUCK SMALL GAMMA", 0x213D),
    ("DOUBLE-STRUCK CAPITAL GAMMA", 0x213E),
    ("DOUBLE-STRUCK CAPITAL PI", 0x213F),
    ("DOUBLE-STRUCK N-ARY SUMMATION", 0x2140),
    ("TURNED SANS-SERIF CAPITAL G", 0x2141),
    ("TURNED SANS-SERIF CAPITAL L", 0x2142),
    ("REVERSED SANS-SERIF CAPITAL L", 0x2143),
    ("TURNED SANS-SERIF CAPITAL Y", 0x2144),
    ("DOUBLE-STRUCK ITALIC CAPITAL D", 0x2145),
    ("DOUBLE-STRUCK ITALIC SMALL D", 0x2146),
    ("DOUBLE-STRUCK ITALIC SMALL E", 0x2147),
    ("DOUBLE-STRUCK ITALIC SMALL I", 0x2148),
    ("DOUBLE-STRUCK ITALIC SMALL J", 0x2149),
    ("PROPERTY LINE", 0x214A),
    ("TURNED AMPERSAND", 0x214B),
    ("PER SIGN", 0x214C),
    ("AKTIESELSKAB", 0x214D),
    ("TURNED SMALL F", 0x214E),
    ("SYMBOL FOR SAMARITAN SOURCE", 0x214F),
    ("VULGAR FRACTION ONE SEVENTH", 0x2150),
    ("VULGAR FRACTION ONE NINTH", 0x2151),
    ("VULGAR FRACTION ONE TENTH", 0x2152),
    ("VULGAR FRACTION ONE THIRD", 0x2153),
    ("VULGAR FRACTION TWO THIRDS", 0x2154),
    ("VULGAR FRACTION ONE FIFTH", 0x2155),
    ("VULGAR FRACTION TWO FIFTHS", 0x2156),
    ("VULGAR FRACTION THREE FIFTHS", 0x2157),
    ("VULGAR FRACTION FOUR FIFTHS", 0x2158),
    ("VULGAR FRACTION ONE SIXTH", 0x2159),
    ("VULGAR FRACTION FIVE SIXTHS", 0x215A),
    ("VULGAR FRACTION ONE EIGHTH", 0x215B),
    ("VULGAR FRACTION THREE EIGHTHS", 0x215C),
    ("VULGAR FRACTION FIVE EIGHTHS", 0x215D),
    ("VULGAR FRACTION SEVEN EIGHTHS", 0x215E),
    ("FRACTION NUMERATOR ONE", 0x215F),
    ("ROMAN NUMERAL ONE", 0x2160),
    ("ROMAN NUMERAL TWO", 0x2161),
    ("ROMAN NUMERAL THREE", 0x2162),
    ("ROMAN NUMERAL FOUR", 0x2163),
    ("ROMAN NUMERAL FIVE", 0x2164),
    ("ROMAN NUMERAL SIX", 0x2165),
    ("ROMAN NUMERAL SEVEN", 0x2166),
    ("ROMAN NUMERAL EIGHT", 0x2167),
    ("ROMAN NUMERAL NINE", 0x2168),
    ("ROMAN NUMERAL TEN", 0x2169),
    ("ROMAN NUMERAL ELEVEN", 0x216A),
    ("ROMAN NUMERAL TWELVE", 0x216B),
    ("ROMAN NUMERAL FIFTY", 0x216C),
    ("ROMAN NUMERAL ONE HUNDRED", 0x216D),
    ("ROMAN NUMERAL FIVE HUNDRED", 0x216E),
    ("ROMAN NUMERAL ONE THOUSAND", 0x216F),
    ("SMALL ROMAN NUMERAL ONE", 0x2170),
    ("SMALL ROMAN NUMERAL TWO", 0x2171),
    ("SMALL ROMAN NUMERAL THREE", 0x2172),
    ("SMALL ROMAN NUMERAL FOUR", 0x2173),
    ("SMALL ROMAN NUMERAL FIVE", 0x2174),
    ("SMALL ROMAN NUMERAL SIX", 0x2175),
    ("SMALL ROMAN NUMERAL SEVEN", 0x2176),
    ("SMALL ROMAN NUMERAL EIGHT", 0x2177),
    ("SMALL ROMAN NUMERAL NINE", 0x2178),
    ("SMALL ROMAN NUMERAL TEN", 0x2179),
    ("SMALL ROMAN NUMERAL ELEVEN", 0x217A),
    ("SMALL ROMAN NUMERAL TWELVE", 0x217B),
    ("SMALL ROMAN NUMERAL FIFTY", 0x217C),
    ("SMALL ROMAN NUMERAL ONE HUNDRED", 0x217D),
    ("SMALL ROMAN NUMERAL FIVE HUNDRED", 0x217E),
    ("SMALL ROMAN NUMERAL ONE THOUSAND", 0x217F),
    ("ROMAN NUMERAL ONE THOUSAND C D", 0x2180),
    ("ROMAN NUMERAL FIVE THOUSAND", 0x2181),
    ("ROMAN NUMERAL TEN THOUSAND", 0x2182),
    ("ROMAN NUMERAL REVERSED ONE HUNDRED", 0x2183),
    ("LATIN SMALL LETTER REVERSED C", 0x2184),
    ("ROMAN NUMERAL SIX LATE FORM", 0x2185),
    ("ROMAN NUMERAL FIFTY EARLY FORM", 0x2186),
    ("ROMAN NUMERAL FIFTY THOUSAND", 0x2187),
    ("ROMAN NUMERAL ONE HUNDRED THOUSAND", 0x2188),
    ("VULGAR FRACTION ZERO THIRDS", 0x2189),
    ("TURNED DIGIT TWO", 0x218A),
    ("TURNED DIGIT THREE", 0x218B),
    ("LEFTWARDS ARROW", 0x2190),
    ("UPWARDS ARROW", 0x2191),
    ("RIGHTWARDS ARROW", 0x2192),
    ("DOWNWARDS ARROW", 0x2193),
    ("LEFT RIGHT ARROW", 0x2194),
    ("UP DOWN ARROW", 0x2195),
    ("NORTH WEST ARROW", 0x2196),
    ("NORTH EAST ARROW", 0x2197),
    ("SOUTH EAST ARROW", 0x2198),
    ("SOUTH WEST ARROW", 0x2199),
    ("LEFTWARDS ARROW WITH STROKE", 0x219A),
    ("RIGHTWARDS ARROW WITH STROKE", 0x219B),
    ("LEFTWARDS WAVE ARROW", 0x219C),
    ("RIGHTWARDS WAVE ARROW", 0x219D),
    ("LEFTWARDS TWO HEADED ARROW", 0x219E),
    ("UPWARDS TWO HEADED ARROW", 0x219F),
    ("RIGHTWARDS TWO HEADED ARROW", 0x21A0),
    ("DOWNWARDS TWO HEADED ARROW", 0x21A1),
    ("LEFTWARDS ARROW WITH TAIL", 0x21A2),
    ("RIGHTWARDS ARROW WITH TAIL", 0x21A3),
    ("LEFTWARDS ARROW FROM BAR", 0x21A4),
    ("UPWARDS ARROW FROM BAR", 0x21A5),
    ("RIGHTWARDS ARROW FROM BAR", 0x21A6),
    ("DOWNWARDS ARROW FROM BAR", 0x21A7),
    ("UP DOWN ARROW WITH BASE", 0x21A8),
    ("LEFTWARDS ARROW WITH HOOK", 0x21A9),
    ("RIGHTWARDS ARROW WITH HOOK", 0x21AA),
    ("LEFTWARDS ARROW WITH LOOP", 0x21AB),
    ("RIGHTWARDS ARROW WITH LOOP", 0x21AC),
    ("LEFT RIGHT WAVE ARROW", 0x21AD),
    ("LEFT RIGHT ARROW WITH STROKE", 0x21AE),
    ("DOWNWARDS ZIGZAG ARROW", 0x21AF),
    ("UPWARDS ARROW WITH TIP LEFTWARDS", 0x21B0),
    ("UPWARDS ARROW WITH TIP RIGHTWARDS", 0x21B1),
    ("DOWNWARDS ARROW WITH TIP LEFTWARDS", 0x21B2),
    ("DOWNWARDS ARROW WITH TIP RIGHTWARDS", 0x21B3),
    ("RIGHTWARDS ARROW WITH CORNER DOWNWARDS", 0x21B4),
    ("DOWNWARDS ARROW WITH CORNER LEFTWARDS", 0x21B5),
    ("ANTICLOCKWISE TOP SEMICIRCLE ARROW", 0x21B6),
    ("CLOCKWISE TOP SEMICIRCLE ARROW", 0x21B7),
    ("NORTH WEST ARROW TO LONG BAR", 0x21B8),
    ("LEFTWARDS ARROW TO BAR OVER RIGHTWARDS ARROW TO BAR", 0x21B9),
    ("ANTICLOCKWISE OPEN CIRCLE ARROW", 0x21BA),
    ("CLOCKWISE OPEN CIRCLE ARROW", 0x21BB),
    ("LEFTWARDS HARPOON WITH BARB UPWARDS", 0x21BC),
    ("LEFTWARDS HARPOON WITH BARB DOWNWARDS", 0x21BD),
    ("UPWARDS HARPOON WITH BARB RIGHTWARDS", 0x21BE),
    ("UPWARDS HARPOON WITH BARB LEFTWARDS", 0x21BF),
    ("RIGHTWARDS HARPOON WITH BARB UPWARDS", 0x21C0),
    ("RIGHTWARDS HARPOON WITH BARB DOWNWARDS", 0x21C1),
    ("DOWNWARDS HARPOON WITH BARB RIGHTWARDS", 0x21C2),
    ("DOWNWARDS HARPOON WITH BARB LEFTWARDS", 0x21C3),
    ("RIGHTWARDS ARROW OVER LEFTWARDS ARROW", 0x21C4),
    ("UPWARDS ARROW LEFTWARDS OF DOWNWARDS ARROW", 0x21C5),
    ("LEFTWARDS ARROW OVER RIGHTWARDS ARROW", 0x21C6),
    ("LEFTWARDS PAIRED ARROWS", 0x21C7),
    ("UPWARDS PAIRED ARROWS", 0x21C8),
    ("RIGHTWARDS PAIRED ARROWS", 0x21C9),
    ("DOWNWARDS PAIRED ARROWS", 0x21CA),
    ("LEFTWARDS HARPOON OVER RIGHTWARDS HARPOON", 0x21CB),
    ("RIGHTWARDS HARPOON OVER LEFTWARDS HARPOON", 0x21CC),
    ("LEFTWARDS DOUBLE ARROW WITH STROKE", 0x21CD),
    ("LEFT RIGHT DOUBLE ARROW WITH STROKE", 0x21CE),
    ("RIGHTWARDS DOUBLE ARROW WITH STROKE", 0x21CF),
    ("LEFTWARDS DOUBLE ARROW", 0x21D0),
    ("UPWARDS DOUBLE ARROW", 0x21D1),
    ("RIGHTWARDS DOUBLE ARROW", 0x21D2),
    ("DOWNWARDS DOUBLE ARROW", 0x21D3),
    ("LEFT RIGHT DOUBLE ARROW", 0x21D4),
    ("UP DOWN DOUBLE ARROW", 0x21D5),
    ("NORTH WEST DOUBLE ARROW", 0x21D6),
    ("NORTH EAST DOUBLE ARROW", 0x21D7),
    ("SOUTH EAST DOUBLE ARROW", 0x21D8),
    ("SOUTH WEST DOUBLE ARROW", 0x21D9),
    ("LEFTWARDS TRIPLE ARROW", 0x21DA),
    ("RIGHTWARDS TRIPLE ARROW", 0x21DB),
    ("LEFTWARDS SQUIGGLE ARROW", 0x21DC),
    ("RIGHTWARDS SQUIGGLE ARROW", 0x21DD),
    ("UPWARDS ARROW WITH DOUBLE STROKE", 0x21DE),
    ("DOWNWARDS ARROW WITH DOUBLE STROKE", 0x21DF),
    ("LEFTWARDS DASHED ARROW", 0x21E0),
    ("UPWARDS DASHED ARROW", 0x21E1),
    ("RIGHTWARDS DASHED ARROW", 0x21E2),
    ("DOWNWARDS DASHED ARROW", 0x21E3),
    ("LEFTWARDS ARROW TO BAR", 0x21E4),
    ("RIGHTWARDS ARROW TO BAR", 0x21E5),
    ("LEFTWARDS WHITE ARROW", 0x21E6),
    ("UPWARDS WHITE ARROW", 0x21E7),
    ("RIGHTWARDS WHITE ARROW", 0x21E8),
    ("DOWNWARDS WHITE ARROW", 0x21E9),
    ("UPWARDS WHITE ARROW FROM BAR", 0x21EA),
    ("UPWARDS WHITE ARROW ON PEDESTAL", 0x21EB),
    ("UPWARDS WHITE ARROW ON PEDESTAL WITH HORIZONTAL BAR", 0x21EC),
    ("UPWARDS WHITE ARROW ON PEDESTAL WITH VERTICAL BAR", 0x21ED),
    ("UPWARDS WHITE DOUBLE ARROW", 0x21EE),
    ("UPWARDS WHITE DOUBLE ARROW ON PEDESTAL", 0x21EF),
    ("RIGHTWARDS WHITE ARROW FROM WALL", 0x21F0),
    ("NORTH WEST ARROW TO CORNER", 0x21F1),
    ("SOUTH EAST ARROW TO CORNER", 0x21F2),
    ("UP DOWN WHITE ARROW", 0x21F3),
    ("RIGHT ARROW WITH SMALL CIRCLE", 0x21F4),
    ("DOWNWARDS ARROW LEFTWARDS OF UPWARDS ARROW", 0x21F5),
    ("THREE RIGHTWARDS ARROWS", 0x21F6),
    ("LEFTWARDS ARROW WITH VERTICAL STROKE", 0x21F7),
    ("RIGHTWARDS ARROW WITH VERTICAL STROKE", 0x21F8),
    ("LEFT RIGHT ARROW WITH VERTICAL STROKE", 0x21F9),
    ("LEFTWARDS ARROW WITH DOUBLE VERTICAL STROKE", 0x21FA),
    ("RIGHTWARDS ARROW WITH DOUBLE VERTICAL STROKE", 0x21FB),
    ("LEFT RIGHT ARROW WITH DOUBLE VERTICAL STROKE", 0x21FC),
    ("LEFTWARDS OPEN-HEADED ARROW", 0x21FD),
    ("RIGHTWARDS OPEN-HEADED ARROW", 0x21FE),
    ("LEFT RIGHT OPEN-HEADED ARROW", 0x21FF),
    ("FOR ALL", 0x2200),
    ("COMPLEMENT", 0x2201),
    ("PARTIAL DIFFERENTIAL", 0x2202),
    ("THERE EXISTS", 0x2203),
    ("THERE DOES NOT EXIST", 0x2204),
    ("EMPTY SET", 0x2205),
    ("INCREMENT", 0x2206),
    ("NABLA", 0x2207),
    ("ELEMENT OF", 0x2208),
    ("NOT AN ELEMENT OF", 0x2209),
    ("SMALL ELEMENT OF", 0x220A),
    ("CONTAINS AS MEMBER", 0x220B),
    ("DOES NOT CONTAIN AS MEMBER", 0x220C),
    ("SMALL CONTAINS AS MEMBER", 0x220D),
    ("END OF PROOF", 0x220E),
    ("N-ARY PRODUCT", 0x220F),
    ("N-ARY COPRODUCT", 0x2210),
    ("N-ARY SUMMATION", 0x2211),
    ("MINUS SIGN", 0x2212),
    ("MINUS-OR-PLUS SIGN", 0x2213),
    ("DOT PLUS", 0x2214),
    ("DIVISION SLASH", 0x2215),
    ("SET MINUS", 0x2216),
    ("ASTERISK OPERATOR", 0x2217),
    ("RING OPERATOR", 0x2218),
    ("BULLET OPERATOR", 0x2219),
    ("SQUARE ROOT", 0x221A),
    ("CUBE ROOT", 0x221B),
    ("FOURTH ROOT", 0x221C),
    ("PROPORTIONAL TO", 0x221D),
    ("INFINITY", 0x221E),
    ("RIGHT ANGLE", 0x221F),
    ("ANGLE", 0x2220),
    ("MEASURED ANGLE", 0x2221),
    ("SPHERICAL ANGLE", 0x2222),
    ("DIVIDES", 0x2223),
    ("DOES NOT DIVIDE", 0x2224),
    ("PARALLEL TO", 0x2225),
    ("NOT PARALLEL TO", 0x2226),
    ("LOGICAL AND", 0x2227),
    ("LOGICAL OR", 0x2228),
    ("INTERSECTION", 0x2229),
    ("UNION", 0x222A),
    ("INTEGRAL", 0x222B),
    ("DOUBLE INTEGRAL", 0x222C),
    ("TRIPLE INTEGRAL", 0x222D),
    ("CONTOUR INTEGRAL", 0x222E),
    ("SURFACE INTEGRAL", 0x222F),
    ("VOLUME INTEGRAL", 0x2230),
    ("CLOCKWISE INTEGRAL", 0x2231),
    ("CLOCKWISE CONTOUR INTEGRAL", 0x2232),
    ("ANTICLOCKWISE CONTOUR INTEGRAL", 0x2233),
    ("THEREFORE", 0x2234),
    ("BECAUSE", 0x2235),
    ("RATIO", 0x2236),
    ("PROPORTION", 0x2237),
    ("DOT MINUS", 0x2238),
    ("EXCESS", 0x2239),
    ("GEOMETRIC PROPORTION", 0x223A),
    ("HOMOTHETIC", 0x223B),
    ("TILDE OPERATOR", 0x223C),
    ("REVERSED TILDE", 0x223D),
    ("INVERTED LAZY S", 0x223E),
    ("SINE WAVE", 0x223F),
    ("WREATH PRODUCT", 0x2240),
    ("NOT TILDE", 0x2241),
    ("MINUS TILDE", 0x2242),
    ("ASYMPTOTICALLY EQUAL TO", 0x2243),
    ("NOT ASYMPTOTICALLY EQUAL TO", 0x2244),
    ("APPROXIMATELY EQUAL TO", 0x2245),
    ("APPROXIMATELY BUT NOT ACTUALLY EQUAL TO", 0x2246),
    ("NEITHER APPROXIMATELY NOR ACTUALLY EQUAL TO", 0x2247),
    ("ALMOST EQUAL TO", 0x2248),
    ("NOT ALMOST EQUAL TO", 0x2249),
    ("ALMOST EQUAL OR EQUAL TO", 0x224A),
    ("TRIPLE TILDE", 0x224B),
    ("ALL EQUAL TO", 0x224C),
    ("EQUIVALENT TO", 0x224D),
    ("GEOMETRICALLY EQUIVALENT TO", 0x224E),
    ("DIFFERENCE BETWEEN", 0x224F),
    ("APPROACHES THE LIMIT", 0x2250),
    ("GEOMETRICALLY EQUAL TO", 0x2251),
    ("APPROXIMATELY EQUAL TO OR THE IMAGE OF", 0x2252),
    ("IMAGE OF OR APPROXIMATELY EQUAL TO", 0x2253),
    ("COLON EQUALS", 0x2254),
    ("EQUALS COLON", 0x2255),
    ("RING IN EQUAL TO", 0x2256),
    ("RING EQUAL TO", 0x2257),
    ("CORRESPONDS TO", 0x2258),
    ("ESTIMATES", 0x2259),
    ("EQUIANGULAR TO", 0x225A),
    ("STAR EQUALS", 0x225B),
    ("DELTA EQUAL TO", 0x225C),
    ("EQUAL TO BY DEFINITION", 0x225D),
    ("MEASURED BY", 0x225E),
    ("QUESTIONED EQUAL TO", 0x225F),
    ("NOT EQUAL TO", 0x2260),
    ("IDENTICAL TO", 0x2261),
    ("NOT IDENTICAL TO", 0x2262),
    ("STRICTLY EQUIVALENT TO", 0x2263),
    ("LESS-THAN OR EQUAL TO", 0x2264),
    ("GREATER-THAN OR EQUAL TO", 0x2265),
    ("LESS-THAN OVER EQUAL TO", 0x2266),
    ("GREATER-THAN OVER EQUAL TO", 0x2267),
    ("LESS-THAN BUT NOT EQUAL TO", 0x2268),
    ("GREATER-THAN BUT NOT EQUAL TO", 0x2269),
    ("MUCH LESS-THAN", 0x226A),
    ("MUCH GREATER-THAN", 0x226B),
    ("BETWEEN", 0x226C),
    ("NOT EQUIVALENT TO", 0x226D),
    ("NOT LESS-THAN", 0x226E),
    ("NOT GREATER-THAN", 0x226F),
    ("NEITHER LESS-THAN NOR EQUAL TO", 0x2270),
    ("NEITHER GREATER-THAN NOR EQUAL TO", 0x2271),
    ("LESS-THAN OR EQUIVALENT TO", 0x2272),
    ("GREATER-THAN OR EQUIVALENT TO", 0x2273),
    ("NEITHER LESS-THAN NOR EQUIVALENT TO", 0x2274),
    ("NEITHER GREATER-THAN NOR EQUIVALENT TO", 0x2275),
    ("LESS-THAN OR GREATER-THAN", 0x2276),
    ("GREATER-THAN OR LESS-THAN", 0x2277),
    ("NEITHER LESS-THAN NOR GREATER-THAN", 0x2278),
    ("NEITHER GREATER-THAN NOR LESS-THAN", 0x2279),
    ("PRECEDES", 0x227A),
    ("SUCCEEDS", 0x227B),
    ("PRECEDES OR EQUAL TO", 0x227C),
    ("SUCCEEDS OR EQUAL TO", 0x227D),
    ("PRECEDES OR EQUIVALENT TO", 0x227E),
    ("SUCCEEDS OR EQUIVALENT TO", 0x227F),
    ("DOES NOT PRECEDE", 0x2280),
    ("DOES NOT SUCCEED", 0x2281),
    ("SUBSET OF", 0x2282),
    ("SUPERSET OF", 0x2283),
    ("NOT A SUBSET OF", 0x2284),
    ("NOT A SUPERSET OF", 0x2285),
    ("SUBSET OF OR EQUAL TO", 0x2286),
    ("SUPERSET OF OR EQUAL TO", 0x2287),
    ("NEITHER A SUBSET OF NOR EQUAL TO", 0x2288),
    ("NEITHER A SUPERSET OF NOR EQUAL TO", 0x2289),
    ("SUBSET OF WITH NOT EQUAL TO", 0x228A),
    ("SUPERSET OF WITH NOT EQUAL TO", 0x228B),
    ("MULTISET", 0x228C),
    ("MULTISET MULTIPLICATION", 0x228D),
    ("MULTISET UNION", 0x228E),
    ("SQUARE IMAGE OF", 0x228F),
    ("SQUARE IMAGE OF OR EQUAL TO", 0x2291),
    ("SQUARE CAP", 0x2293),
    ("SQUARE CUP", 0x2294),
    ("CIRCLED PLUS", 0x2295),
    ("CIRCLED MINUS", 0x2296),
    ("CIRCLED TIMES", 0x2297),
    ("CIRCLED DIVISION SLASH", 0x2298),
    ("CIRCLED DOT OPERATOR", 0x2299),
    ("CIRCLED RING OPERATOR", 0x229A),
    ("CIRCLED ASTERISK OPERATOR", 0x229B),
    ("CIRCLED EQUALS", 0x229C),
    ("CIRCLED DASH", 0x229D),
    ("SQUARED PLUS", 0x229E),
    ("SQUARED MINUS", 0x229F),
    ("SQUARED TIMES", 0x22A0),
    ("SQUARED DOT OPERATOR", 0x22A1),
    ("RIGHT TACK", 0x22A2),
    ("LEFT TACK", 0x22A3),
    ("DOWN TACK", 0x22A4),
    ("UP TACK", 0x22A5),
    ("ASSERTION", 0x22A6),
    ("MODELS", 0x22A7),
    ("TRUE", 0x22A8),
    ("FORCES", 0x22A9),
    ("TRIPLE VERTICAL BAR RIGHT TURNSTILE", 0x22AA),
    ("DOUBLE VERTICAL BAR DOUBLE RIGHT TURNSTILE", 0x22AB),
    ("DOES NOT PROVE", 0x22AC),
    ("NOT TRUE", 0x22AD),
    ("DOES NOT FORCE", 0x22AE),
    ("NEGATED DOUBLE VERTICAL BAR DOUBLE RIGHT TURNSTILE", 0x22AF),
    ("PRECEDES UNDER RELATION", 0x22B0),
    ("SUCCEEDS UNDER RELATION", 0x22B1),
    ("NORMAL SUBGROUP OF", 0x22B2),
    ("CONTAINS AS NORMAL SUBGROUP", 0x22B3),
    ("NORMAL SUBGROUP OF OR EQUAL TO", 0x22B4),
    ("CONTAINS AS NORMAL SUBGROUP OR EQUAL TO", 0x22B5),
    ("IMAGE OF", 0x22B7),
    ("MULTIMAP", 0x22B8),
    ("HERMITIAN CONJUGATE MATRIX", 0x22B9),
    ("INTERCALATE", 0x22BA),
    ("XOR", 0x22BB),
    ("NAND", 0x22BC),
    ("NOR", 0x22BD),
    ("RIGHT ANGLE WITH ARC", 0x22BE),
    ("RIGHT TRIANGLE", 0x22BF),
    ("N-ARY LOGICAL AND", 0x22C0),
    ("N-ARY LOGICAL OR", 0x22C1),
    ("N-ARY INTERSECTION", 0x22C2),
    ("N-ARY UNION", 0x22C3),
    ("DIAMOND OPERATOR", 0x22C4),
    ("DOT OPERATOR", 0x22C5),
    ("STAR OPERATOR", 0x22C6),
    ("DIVISION TIMES", 0x22C7),
    ("BOWTIE", 0x22C8),
    ("LEFT NORMAL FACTOR SEMIDIRECT PRODUCT", 0x22C9),
    ("RIGHT NORMAL FACTOR SEMIDIRECT PRODUCT", 0x22CA),
    ("LEFT SEMIDIRECT PRODUCT", 0x22CB),
    ("RIGHT SEMIDIRECT PRODUCT", 0x22CC),
    ("REVERSED TILDE EQUALS", 0x22CD),
    ("CURLY LOGICAL OR", 0x22CE),
    ("CURLY LOGICAL AND", 0x22CF),
    ("DOUBLE SUBSET", 0x22D0),
    ("DOUBLE SUPERSET", 0x22D1),
    ("DOUBLE INTERSECTION", 0x22D2),
    ("DOUBLE UNION", 0x22D3),
    ("PITCHFORK", 0x22D4),
    ("EQUAL AND PARALLEL TO", 0x22D5),
    ("LESS-THAN WITH DOT", 0x22D6),
    ("GREATER-THAN WITH DOT", 0x22D7),
    ("VERY MUCH LESS-THAN", 0x22D8),
    ("VERY MUCH GREATER-THAN", 0x22D9),
    ("LESS-THAN EQUAL TO OR GREATER-THAN", 0x22DA),
    ("GREATER-THAN EQUAL TO OR LESS-THAN", 0x22DB),
    ("EQUAL TO OR LESS-THAN", 0x22DC),
    ("EQUAL TO OR GREATER-THAN", 0x22DD),
    ("EQUAL TO OR PRECEDES", 0x22DE),
    ("EQUAL TO OR SUCCEEDS", 0x22DF),
    ("DOES NOT PRECEDE OR EQUAL", 0x22E0),
    ("DOES NOT SUCCEED OR EQUAL", 0x22E1),
    ("NOT SQUARE IMAGE OF OR EQUAL TO", 0x22E2),
    ("SQUARE IMAGE OF OR NOT EQUAL TO", 0x22E4),
    ("LESS-THAN BUT NOT EQUIVALENT TO", 0x22E6),
    ("GREATER-THAN BUT NOT EQUIVALENT TO", 0x22E7),
    ("PRECEDES BUT NOT EQUIVALENT TO", 0x22E8),
    ("SUCCEEDS BUT NOT EQUIVALENT TO", 0x22E9),
    ("NOT NORMAL SUBGROUP OF", 0x22EA),
    ("DOES NOT CONTAIN AS NORMAL SUBGROUP", 0x22EB),
    ("NOT NORMAL SUBGROUP OF OR EQUAL TO", 0x22EC),
    ("DOES NOT CONTAIN AS NORMAL SUBGROUP OR EQUAL", 0x22ED),
    ("VERTICAL ELLIPSIS", 0x22EE),
    ("MIDLINE HORIZONTAL ELLIPSIS", 0x22EF),
    ("UP RIGHT DIAGONAL ELLIPSIS", 0x22F0),
    ("DOWN RIGHT DIAGONAL ELLIPSIS", 0x22F1),
    ("ELEMENT OF WITH LONG HORIZONTAL STROKE", 0x22F2),
    ("ELEMENT OF WITH VERTICAL BAR AT END OF HORIZONTAL STROKE", 0x22F3),
    ("SMALL ELEMENT OF WITH VERTICAL BAR AT END OF HORIZONTAL STROKE", 0x22F4),
    ("ELEMENT OF WITH DOT ABOVE", 0x22F5),
    ("ELEMENT OF WITH OVERBAR", 0x22F6),
    ("SMALL ELEMENT OF WITH OVERBAR", 0x22F7),
    ("ELEMENT OF WITH UNDERBAR", 0x22F8),
    ("ELEMENT OF WITH TWO HORIZONTAL STROKES", 0x22F9),
    ("CONTAINS WITH LONG HORIZONTAL STROKE", 0x22FA),
    ("CONTAINS WITH VERTICAL BAR AT END OF HORIZONTAL STROKE", 0x22FB),
    ("SMALL CONTAINS WITH VERTICAL BAR AT END OF HORIZONTAL STROKE", 0x22FC),
    ("CONTAINS WITH OVERBAR", 0x22FD),
    ("SMALL CONTAINS WITH OVERBAR", 0x22FE),
    ("Z NOTATION BAG MEMBERSHIP", 0x22FF),
    ("DIAMETER SIGN", 0x2300),
    ("ELECTRIC ARROW", 0x2301),
    ("HOUSE", 0x2302),
    ("UP ARROWHEAD", 0x2303),
    ("DOWN ARROWHEAD", 0x2304),
    ("PROJECTIVE", 0x2305),
    ("PERSPECTIVE", 0x2306),
    ("WAVY LINE", 0x2307),
    ("LEFT CEILING", 0x2308),
    ("RIGHT CEILING", 0x2309),
    ("LEFT FLOOR", 0x230A),
    ("RIGHT FLOOR", 0x230B),
    ("BOTTOM RIGHT CROP", 0x230C),
    ("BOTTOM LEFT CROP", 0x230D),
    ("TOP RIGHT CROP", 0x230E),
    ("TOP LEFT CROP", 0x230F),
    ("REVERSED NOT SIGN", 0x2310),
    ("SQUARE LOZENGE", 0x2311),
    ("ARC", 0x2312),
    ("SEGMENT", 0x2313),
    ("SECTOR", 0x2314),
    ("TELEPHONE RECORDER", 0x2315),
    ("POSITION INDICATOR", 0x2316),
    ("VIEWDATA SQUARE", 0x2317),
    ("PLACE OF INTEREST SIGN", 0x2318),
    ("TURNED NOT SIGN", 0x2319),
    ("WATCH", 0x231A),
    ("HOURGLASS", 0x231B),
    ("TOP LEFT CORNER", 0x231C),
    ("TOP RIGHT CORNER", 0x231D),
    ("BOTTOM LEFT CORNER", 0x231E),
    ("BOTTOM RIGHT CORNER", 0x231F),
    ("TOP HALF INTEGRAL", 0x2320),
    ("BOTTOM HALF INTEGRAL", 0x2321),
    ("FROWN", 0x2322),
    ("SMILE", 0x2323),
    ("UP ARROWHEAD BETWEEN TWO HORIZONTAL BARS", 0x2324),
    ("OPTION KEY", 0x2325),
    ("ERASE TO THE RIGHT", 0x2326),
    ("X IN A RECTANGLE BOX", 0x2327),
    ("KEYBOARD", 0x2328),
    ("LEFT-POINTING ANGLE BRACKET", 0x2329),
    ("RIGHT-POINTING ANGLE BRACKET", 0x232A),
    ("ERASE TO THE LEFT", 0x232B),
    ("BENZENE RING", 0x232C),
    ("CYLINDRICITY", 0x232D),
    ("ALL AROUND-PROFILE", 0x232E),
    ("SYMMETRY", 0x232F),
    ("TOTAL RUNOUT", 0x2330),
    ("DIMENSION ORIGIN", 0x2331),
    ("CONICAL TAPER", 0x2332),
    ("SLOPE", 0x2333),
    ("COUNTERBORE", 0x2334),
    ("COUNTERSINK", 0x2335),
    ("APL FUNCTIONAL SYMBOL I-BEAM", 0x2336),
    ("APL FUNCTIONAL SYMBOL SQUISH QUAD", 0x2337),
    ("APL FUNCTIONAL SYMBOL QUAD EQUAL", 0x2338),
    ("APL FUNCTIONAL SYMBOL QUAD DIVIDE", 0x2339),
    ("APL FUNCTIONAL SYMBOL QUAD DIAMOND", 0x233A),
    ("APL FUNCTIONAL SYMBOL QUAD JOT", 0x233B),
    ("APL FUNCTIONAL SYMBOL QUAD CIRCLE", 0x233C),
    ("APL FUNCTIONAL SYMBOL CIRCLE STILE", 0x233D),
    ("APL FUNCTIONAL SYMBOL CIRCLE JOT", 0x233E),
    ("APL FUNCTIONAL SYMBOL SLASH BAR", 0x233F),
    ("APL FUNCTIONAL SYMBOL BACKSLASH BAR", 0x2340),
    ("APL FUNCTIONAL SYMBOL QUAD SLASH", 0x2341),
    ("APL FUNCTIONAL SYMBOL QUAD BACKSLASH", 0x2342),
    ("APL FUNCTIONAL SYMBOL QUAD LESS-THAN", 0x2343),
    ("APL FUNCTIONAL SYMBOL QUAD GREATER-THAN", 0x2344),
    ("APL FUNCTIONAL SYMBOL LEFTWARDS VANE", 0x2345),
    ("APL FUNCTIONAL SYMBOL RIGHTWARDS VANE", 0x2346),
    ("APL FUNCTIONAL SYMBOL QUAD LEFTWARDS ARROW", 0x2347),
    ("APL FUNCTIONAL SYMBOL QUAD RIGHTWARDS ARROW", 0x2348),
    ("APL FUNCTIONAL SYMBOL CIRCLE BACKSLASH", 0x2349),
    ("APL FUNCTIONAL SYMBOL DOWN TACK UNDERBAR", 0x234A),
    ("APL FUNCTIONAL SYMBOL DELTA STILE", 0x234B),
    ("APL FUNCTIONAL SYMBOL QUAD DOWN CARET", 0x234C),
    ("APL FUNCTIONAL SYMBOL QUAD DELTA", 0x234D),
    ("APL FUNCTIONAL SYMBOL DOWN TACK JOT", 0x234E),
    ("APL FUNCTIONAL SYMBOL UPWARDS VANE", 0x234F),
    ("APL FUNCTIONAL SYMBOL QUAD UPWARDS ARROW", 0x2350),
    ("APL FUNCTIONAL SYMBOL UP TACK OVERBAR", 0x2351),
    ("APL FUNCTIONAL SYMBOL DEL STILE", 0x2352),
    ("APL FUNCTIONAL SYMBOL QUAD UP CARET", 0x2353),
    ("APL FUNCTIONAL SYMBOL QUAD DEL", 0x2354),
    ("APL FUNCTIONAL SYMBOL UP TACK JOT", 0x2355),
    ("APL FUNCTIONAL SYMBOL DOWNWARDS VANE", 0x2356),
    ("APL FUNCTIONAL SYMBOL QUAD DOWNWARDS ARROW", 0x2357),
    ("APL FUNCTIONAL SYMBOL QUOTE UNDERBAR", 0x2358),
    ("APL FUNCTIONAL SYMBOL DELTA UNDERBAR", 0x2359),
    ("APL FUNCTIONAL SYMBOL DIAMOND UNDERBAR", 0x235A),
    ("APL FUNCTIONAL SYMBOL JOT UNDERBAR", 0x235B),
    ("APL FUNCTIONAL SYMBOL CIRCLE UNDERBAR", 0x235C),
    ("APL FUNCTIONAL SYMBOL UP SHOE JOT", 0x235D),
    ("APL FUNCTIONAL SYMBOL QUOTE QUAD", 0x235E),
    ("APL FUNCTIONAL SYMBOL CIRCLE STAR", 0x235F),
    ("APL FUNCTIONAL SYMBOL QUAD COLON", 0x2360),
    ("APL FUNCTIONAL SYMBOL UP TACK DIAERESIS", 0x2361),
    ("APL FUNCTIONAL SYMBOL DEL DIAERESIS", 0x2362),
    ("APL FUNCTIONAL SYMBOL STAR DIAERESIS", 0x2363),
    ("APL FUNCTIONAL SYMBOL JOT DIAERESIS", 0x2364),
    ("APL FUNCTIONAL SYMBOL CIRCLE DIAERESIS", 0x2365),
    ("APL FUNCTIONAL SYMBOL DOWN SHOE STILE", 0x2366),
    ("APL FUNCTIONAL SYMBOL LEFT SHOE STILE", 0x2367),
    ("APL FUNCTIONAL SYMBOL TILDE DIAERESIS", 0x2368),
    ("APL FUNCTIONAL SYMBOL GREATER-THAN DIAERESIS", 0x2369),
    ("APL FUNCTIONAL SYMBOL COMMA BAR", 0x236A),
    ("APL FUNCTIONAL SYMBOL DEL TILDE", 0x236B),
    ("APL FUNCTIONAL SYMBOL ZILDE", 0x236C),
    ("APL FUNCTIONAL SYMBOL STILE TILDE", 0x236D),
    ("APL FUNCTIONAL SYMBOL SEMICOLON UNDERBAR", 0x236E),
    ("APL FUNCTIONAL SYMBOL QUAD NOT EQUAL", 0x236F),
    ("APL FUNCTIONAL SYMBOL QUAD QUESTION", 0x2370),
    ("APL FUNCTIONAL SYMBOL DOWN CARET TILDE", 0x2371),
    ("APL FUNCTIONAL SYMBOL UP CARET TILDE", 0x2372),
    ("APL FUNCTIONAL SYMBOL IOTA", 0x2373),
    ("APL FUNCTIONAL SYMBOL RHO", 0x2374),
    ("APL FUNCTIONAL SYMBOL OMEGA", 0x2375),
    ("APL FUNCTIONAL SYMBOL ALPHA UNDERBAR", 0x2376),
    ("APL FUNCTIONAL SYMBOL EPSILON UNDERBAR", 0x2377),
    ("APL FUNCTIONAL SYMBOL IOTA UNDERBAR", 0x2378),
    ("APL FUNCTIONAL SYMBOL OMEGA UNDERBAR", 0x2379),
    ("APL FUNCTIONAL SYMBOL ALPHA", 0x237A),
    ("NOT CHECK MARK", 0x237B),
    ("RIGHT ANGLE WITH DOWNWARDS ZIGZAG ARROW", 0x237C),
    ("SHOULDERED OPEN BOX", 0x237D),
    ("BELL SYMBOL", 0x237E),
    ("VERTICAL LINE WITH MIDDLE DOT", 0x237F),
    ("INSERTION SYMBOL", 0x2380),
    ("CONTINUOUS UNDERLINE SYMBOL", 0x2381),
    ("DISCONTINUOUS UNDERLINE SYMBOL", 0x2382),
    ("EMPHASIS SYMBOL", 0x2383),
    ("COMPOSITION SYMBOL", 0x2384),
    ("WHITE SQUARE WITH CENTRE VERTICAL LINE", 0x2385),
    ("ENTER SYMBOL", 0x2386),
    ("ALTERNATIVE KEY SYMBOL", 0x2387),
    ("HELM SYMBOL", 0x2388),
    ("CIRCLED HORIZONTAL BAR WITH NOTCH", 0x2389),
    ("CIRCLED TRIANGLE DOWN", 0x238A),
    ("BROKEN CIRCLE WITH NORTHWEST ARROW", 0x238B),
    ("UNDO SYMBOL", 0x238C),
    ("MONOSTABLE SYMBOL", 0x238D),
    ("HYSTERESIS SYMBOL", 0x238E),
    ("OPEN-CIRCUIT-OUTPUT H-TYPE SYMBOL", 0x238F),
    ("OPEN-CIRCUIT-OUTPUT L-TYPE SYMBOL", 0x2390),
    ("PASSIVE-PULL-DOWN-OUTPUT SYMBOL", 0x2391),
    ("PASSIVE-PULL-UP-OUTPUT SYMBOL", 0x2392),
    ("DIRECT CURRENT SYMBOL FORM TWO", 0x2393),
    ("SOFTWARE-FUNCTION SYMBOL", 0x2394),
    ("APL FUNCTIONAL SYMBOL QUAD", 0x2395),
    ("DECIMAL SEPARATOR KEY SYMBOL", 0x2396),
    ("PREVIOUS PAGE", 0x2397),
    ("NEXT PAGE", 0x2398),
    ("PRINT SCREEN SYMBOL", 0x2399),
    ("CLEAR SCREEN SYMBOL", 0x239A),
    ("LEFT PARENTHESIS UPPER HOOK", 0x239B),
    ("LEFT PARENTHESIS EXTENSION", 0x239C),
    ("LEFT PARENTHESIS LOWER HOOK", 0x239D),
    ("RIGHT PARENTHESIS UPPER HOOK", 0x239E),
    ("RIGHT PARENTHESIS EXTENSION", 0x239F),
    ("RIGHT PARENTHESIS LOWER HOOK", 0x23A0),
    ("LEFT SQUARE BRACKET UPPER CORNER", 0x23A1),
    ("LEFT SQUARE BRACKET EXTENSION", 0x23A2),
    ("LEFT SQUARE BRACKET LOWER CORNER", 0x23A3),
    ("RIGHT SQUARE BRACKET UPPER CORNER", 0x23A4),
    ("RIGHT SQUARE BRACKET EXTENSION", 0x23A5),
    ("RIGHT SQUARE BRACKET LOWER CORNER", 0x23A6),
    ("LEFT CURLY BRACKET UPPER HOOK", 0x23A7),
    ("LEFT CURLY BRACKET MIDDLE PIECE", 0x23A8),
    ("LEFT CURLY BRACKET LOWER HOOK", 0x23A9),
    ("CURLY BRACKET EXTENSION", 0x23AA),
    ("RIGHT CURLY BRACKET UPPER HOOK", 0x23AB),
    ("RIGHT CURLY BRACKET MIDDLE PIECE", 0x23AC),
    ("RIGHT CURLY BRACKET LOWER HOOK", 0x23AD),
    ("INTEGRAL EXTENSION", 0x23AE),
    ("HORIZONTAL LINE EXTENSION", 0x23AF),
    ("UPPER LEFT OR LOWER RIGHT CURLY BRACKET SECTION", 0x23B0),
    ("UPPER RIGHT OR LOWER LEFT CURLY BRACKET SECTION", 0x23B1),
    ("SUMMATION TOP", 0x23B2),
    ("SUMMATION BOTTOM", 0x23B3),
    ("TOP SQUARE BRACKET", 0x23B4),
    ("BOTTOM SQUARE BRACKET", 0x23B5),
    ("BOTTOM SQUARE BRACKET OVER TOP SQUARE BRACKET", 0x23B6),
    ("RADICAL SYMBOL BOTTOM", 0x23B7),
    ("LEFT VERTICAL BOX LINE", 0x23B8),
    ("RIGHT VERTICAL BOX LINE", 0x23B9),
    ("HORIZONTAL SCAN LINE-1", 0x23BA),
    ("HORIZONTAL SCAN LINE-3", 0x23BB),
    ("HORIZONTAL SCAN LINE-7", 0x23BC),
    ("HORIZONTAL SCAN LINE-9", 0x23BD),
    ("DENTISTRY SYMBOL LIGHT VERTICAL AND TOP RIGHT", 0x23BE),
    ("DENTISTRY SYMBOL LIGHT VERTICAL AND BOTTOM RIGHT", 0x23BF),
    ("DENTISTRY SYMBOL LIGHT VERTICAL WITH CIRCLE", 0x23C0),
    ("DENTISTRY SYMBOL LIGHT DOWN AND HORIZONTAL WITH CIRCLE", 0x23C1),
    ("DENTISTRY SYMBOL LIGHT UP AND HORIZONTAL WITH CIRCLE", 0x23C2),
    ("DENTISTRY SYMBOL LIGHT VERTICAL WITH TRIANGLE", 0x23C3),
    ("DENTISTRY SYMBOL LIGHT DOWN AND HORIZONTAL WITH TRIANGLE", 0x23C4),
    ("DENTISTRY SYMBOL LIGHT UP AND HORIZONTAL WITH TRIANGLE", 0x23C5),
    ("DENTISTRY SYMBOL LIGHT VERTICAL AND WAVE", 0x23C6),
    ("DENTISTRY SYMBOL LIGHT DOWN AND HORIZONTAL WITH WAVE", 0x23C7),
    ("DENTISTRY SYMBOL LIGHT UP AND HORIZONTAL WITH WAVE", 0x23C8),
    ("DENTISTRY SYMBOL LIGHT DOWN AND HORIZONTAL", 0x23C9),
    ("DENTISTRY SYMBOL LIGHT UP AND HORIZONTAL", 0x23CA),
    ("DENTISTRY SYMBOL LIGHT VERTICAL AND TOP LEFT", 0x23CB),
    ("DENTISTRY SYMBOL LIGHT VERTICAL AND BOTTOM LEFT", 0x23CC),
    ("SQUARE FOOT", 0x23CD),
    ("RETURN SYMBOL", 0x23CE),
    ("EJECT SYMBOL", 0x23CF),
    ("VERTICAL LINE EXTENSION", 0x23D0),
    ("METRICAL BREVE", 0x23D1),
    ("METRICAL LONG OVER SHORT", 0x23D2),
    ("METRICAL SHORT OVER LONG", 0x23D3),
    ("METRICAL LONG OVER TWO SHORTS", 0x23D4),
    ("METRICAL TWO SHORTS OVER LONG", 0x23D5),
    ("METRICAL TWO SHORTS JOINED", 0x23D6),
    ("METRICAL TRISEME", 0x23D7),
    ("METRICAL TETRASEME", 0x23D8),
    ("METRICAL PENTASEME", 0x23D9),
    ("EARTH GROUND", 0x23DA),
    ("FUSE", 0x23DB),
    ("TOP PARENTHESIS", 0x23DC),
    ("BOTTOM PARENTHESIS", 0x23DD),
    ("TOP CURLY BRACKET", 0x23DE),
    ("BOTTOM CURLY BRACKET", 0x23DF),
    ("TOP TORTOISE SHELL BRACKET", 0x23E0),
    ("BOTTOM TORTOISE SHELL BRACKET", 0x23E1),
    ("WHITE TRAPEZIUM", 0x23E2),
    ("BENZENE RING WITH CIRCLE", 0x23E3),
    ("STRAIGHTNESS", 0x23E4),
    ("FLATNESS", 0x23E5),
    ("AC CURRENT", 0x23E6),
    ("ELECTRICAL INTERSECTION", 0x23E7),
    ("DECIMAL EXPONENT SYMBOL", 0x23E8),
    ("BLACK RIGHT-POINTING DOUBLE TRIANGLE", 0x23E9),
    ("BLACK LEFT-POINTING DOUBLE TRIANGLE", 0x23EA),
    ("BLACK UP-POINTING DOUBLE TRIANGLE", 0x23EB),
    ("BLACK DOWN-POINTING DOUBLE TRIANGLE", 0x23EC),
    ("BLACK RIGHT-POINTING DOUBLE TRIANGLE WITH VERTICAL BAR", 0x23ED),
    ("BLACK LEFT-POINTING DOUBLE TRIANGLE WITH VERTICAL BAR", 0x23EE),
    ("BLACK RIGHT-POINTING TRIANGLE WITH DOUBLE VERTICAL BAR", 0x23EF),
    ("ALARM CLOCK", 0x23F0),
    ("STOPWATCH", 0x23F1),
    ("TIMER CLOCK", 0x23F2),
    ("HOURGLASS WITH FLOWING SAND", 0x23F3),
    ("BLACK MEDIUM LEFT-POINTING TRIANGLE", 0x23F4),
    ("BLACK MEDIUM RIGHT-POINTING TRIANGLE", 0x23F5),
    ("BLACK MEDIUM UP-POINTING TRIANGLE", 0x23F6),
    ("BLACK MEDIUM DOWN-POINTING TRIANGLE", 0x23F7),
    ("DOUBLE VERTICAL BAR", 0x23F8),
    ("BLACK SQUARE FOR STOP", 0x23F9),
    ("BLACK CIRCLE FOR RECORD", 0x23FA),
    ("POWER SYMBOL", 0x23FB),
    ("POWER ON-OFF SYMBOL", 0x23FC),
    ("POWER ON SYMBOL", 0x23FD),
    ("POWER SLEEP SYMBOL", 0x23FE),
    ("OBSERVER EYE SYMBOL", 0x23FF),
    ("CIRCLED DIGIT ONE", 0x2460),
    ("CIRCLED DIGIT TWO", 0x2461),
    ("CIRCLED DIGIT THREE", 0x2462),
    ("CIRCLED DIGIT FOUR", 0x2463),
    ("CIRCLED DIGIT FIVE", 0x2464),
    ("CIRCLED DIGIT SIX", 0x2465),
    ("CIRCLED DIGIT SEVEN", 0x2466),
    ("CIRCLED DIGIT EIGHT", 0x2467),
    ("CIRCLED DIGIT NINE", 0x2468),
    ("CIRCLED NUMBER TEN", 0x2469),
    ("CIRCLED NUMBER ELEVEN", 0x246A),
    ("CIRCLED NUMBER TWELVE", 0x246B),
    ("CIRCLED NUMBER THIRTEEN", 0x246C),
    ("CIRCLED NUMBER FOURTEEN", 0x246D),
    ("CIRCLED NUMBER FIFTEEN", 0x246E),
    ("CIRCLED NUMBER SIXTEEN", 0x246F),
    ("CIRCLED NUMBER SEVENTEEN", 0x2470),
    ("CIRCLED NUMBER EIGHTEEN", 0x2471),
    ("CIRCLED NUMBER NINETEEN", 0x2472),
    ("CIRCLED NUMBER TWENTY", 0x2473),
    ("PARENTHESIZED DIGIT ONE", 0x2474),
    ("PARENTHESIZED DIGIT TWO", 0x2475),
    ("PARENTHESIZED DIGIT THREE", 0x2476),
    ("PARENTHESIZED DIGIT FOUR", 0x2477),
    ("PARENTHESIZED DIGIT FIVE", 0x2478),
    ("PARENTHESIZED DIGIT SIX", 0x2479),
    ("PARENTHESIZED DIGIT SEVEN", 0x247A),
    ("PARENTHESIZED DIGIT EIGHT", 0x247B),
    ("PARENTHESIZED DIGIT NINE", 0x247C),
    ("PARENTHESIZED NUMBER TEN", 0x247D),
    ("PARENTHESIZED NUMBER ELEVEN", 0x247E),
    ("PARENTHESIZED NUMBER TWELVE", 0x247F),
    ("PARENTHESIZED NUMBER THIRTEEN", 0x2480),
    ("PARENTHESIZED NUMBER FOURTEEN", 0x2481),
    ("PARENTHESIZED NUMBER FIFTEEN", 0x2482),
    ("PARENTHESIZED NUMBER SIXTEEN", 0x2483),
    ("PARENTHESIZED NUMBER SEVENTEEN", 0x2484),
    ("PARENTHESIZED NUMBER EIGHTEEN", 0x2485),
    ("PARENTHESIZED NUMBER NINETEEN", 0x2486),
    ("PARENTHESIZED NUMBER TWENTY", 0x2487),
    ("DIGIT ONE FULL STOP", 0x2488),
    ("DIGIT TWO FULL STOP", 0x2489),
    ("DIGIT THREE FULL STOP", 0x248A),
    ("DIGIT FOUR FULL STOP", 0x248B),
    ("DIGIT FIVE FULL STOP", 0x248C),
    ("DIGIT SIX FULL STOP", 0x248D),
    ("DIGIT SEVEN FULL STOP", 0x248E),
    ("DIGIT EIGHT FULL STOP", 0x248F),
    ("DIGIT NINE FULL STOP", 0x2490),
    ("NUMBER TEN FULL STOP", 0x2491),
    ("NUMBER ELEVEN FULL STOP", 0x2492),
    ("NUMBER TWELVE FULL STOP", 0x2493),
    ("NUMBER THIRTEEN FULL STOP", 0x2494),
    ("NUMBER FOURTEEN FULL STOP", 0x2495),
    ("NUMBER FIFTEEN FULL STOP", 0x2496),
    ("NUMBER SIXTEEN FULL STOP", 0x2497),
    ("NUMBER SEVENTEEN FULL STOP", 0x2498),
    ("NUMBER EIGHTEEN FULL STOP", 0x2499),
    ("NUMBER NINETEEN FULL STOP", 0x249A),
    ("NUMBER TWENTY FULL STOP", 0x249B),
    ("PARENTHESIZED LATIN SMALL LETTER A", 0x249C),
    ("PARENTHESIZED LATIN SMALL LETTER B", 0x249D),
    ("PARENTHESIZED LATIN SMALL LETTER C", 0x249E),
    ("PARENTHESIZED LATIN SMALL LETTER D", 0x249F),
    ("PARENTHESIZED LATIN SMALL LETTER E", 0x24A0),
    ("PARENTHESIZED LATIN SMALL LETTER F", 0x24A1),
    ("PARENTHESIZED LATIN SMALL LETTER G", 0x24A2),
    ("PARENTHESIZED LATIN SMALL LETTER H", 0x24A3),
    ("PARENTHESIZED LATIN SMALL LETTER I", 0x24A4),
    ("PARENTHESIZED LATIN SMALL LETTER J", 0x24A5),
    ("PARENTHESIZED LATIN SMALL LETTER K", 0x24A6),
    ("PARENTHESIZED LATIN SMALL LETTER L", 0x24A7),
    ("PARENTHESIZED LATIN SMALL LETTER M", 0x24A8),
    ("PARENTHESIZED LATIN SMALL LETTER N", 0x24A9),
    ("PARENTHESIZED LATIN SMALL LETTER O", 0x24AA),
    ("PARENTHESIZED LATIN SMALL LETTER P", 0x24AB),
    ("PARENTHESIZED LATIN SMALL LETTER Q", 0x24AC),
    ("PARENTHESIZED LATIN SMALL LETTER R", 0x24AD),
    ("PARENTHESIZED LATIN SMALL LETTER S", 0x24AE),
    ("PARENTHESIZED LATIN SMALL LETTER T", 0x24AF),
    ("PARENTHESIZED LATIN SMALL LETTER U", 0x24B0),
    ("PARENTHESIZED LATIN SMALL LETTER V", 0x24B1),
    ("PARENTHESIZED LATIN SMALL LETTER W", 0x24B2),
    ("PARENTHESIZED LATIN SMALL LETTER X", 0x24B3),
    ("PARENTHESIZED LATIN SMALL LETTER Y", 0x24B4),
    ("PARENTHESIZED LATIN SMALL LETTER Z", 0x24B5),
    ("CIRCLED LATIN CAPITAL LETTER A", 0x24B6),
    ("CIRCLED LATIN CAPITAL LETTER B", 0x24B7),
    ("CIRCLED LATIN CAPITAL LETTER C", 0x24B8),
    ("CIRCLED LATIN CAPITAL LETTER D", 0x24B9),
    ("CIRCLED LATIN CAPITAL LETTER E", 0x24BA),
    ("CIRCLED LATIN CAPITAL LETTER F", 0x24BB),
    ("CIRCLED LATIN CAPITAL LETTER G", 0x24BC),
    ("CIRCLED LATIN CAPITAL LETTER H", 0x24BD),
    ("CIRCLED LATIN CAPITAL LETTER I", 0x24BE),
    ("CIRCLED LATIN CAPITAL LETTER J", 0x24BF),
    ("CIRCLED LATIN CAPITAL LETTER K", 0x24C0),
    ("CIRCLED LATIN CAPITAL LETTER L", 0x24C1),
    ("CIRCLED LATIN CAPITAL LETTER M", 0x24C2),
    ("CIRCLED LATIN CAPITAL LETTER N", 0x24C3),
    ("CIRCLED LATIN CAPITAL LETTER O", 0x24C4),
    ("CIRCLED LATIN CAPITAL LETTER P", 0x24C5),
    ("CIRCLED LATIN CAPITAL LETTER Q", 0x24C6),
    ("CIRCLED LATIN CAPITAL LETTER R", 0x24C7),
    ("CIRCLED LATIN CAPITAL LETTER S", 0x24C8),
    ("CIRCLED LATIN CAPITAL LETTER T", 0x24C9),
    ("CIRCLED LATIN CAPITAL LETTER U", 0x24CA),
    ("CIRCLED LATIN CAPITAL LETTER V", 0x24CB),
    ("CIRCLED LATIN CAPITAL LETTER W", 0x24CC),
    ("CIRCLED LATIN CAPITAL LETTER X", 0x24CD),
    ("CIRCLED LATIN CAPITAL LETTER Y", 0x24CE),
    ("CIRCLED LATIN CAPITAL LETTER Z", 0x24CF),
    ("CIRCLED LATIN SMALL LETTER A", 0x24D0),
    ("CIRCLED LATIN SMALL LETTER B", 0x24D1),
    ("CIRCLED LATIN SMALL LETTER C", 0x24D2),
    ("CIRCLED LATIN SMALL LETTER D", 0x24D3),
    ("CIRCLED LATIN SMALL LETTER E", 0x24D4),
    ("CIRCLED LATIN SMALL LETTER F", 0x24D5),
    ("CIRCLED LATIN SMALL LETTER G", 0x24D6),
    ("CIRCLED LATIN SMALL LETTER H", 0x24D7),
    ("CIRCLED LATIN SMALL LETTER I", 0x24D8),
    ("CIRCLED LATIN SMALL LETTER J", 0x24D9),
    ("CIRCLED LATIN SMALL LETTER K", 0x24DA),
    ("CIRCLED LATIN SMALL LETTER L", 0x24DB),
    ("CIRCLED LATIN SMALL LETTER M", 0x24DC),
    ("CIRCLED LATIN SMALL LETTER N", 0x24DD),
    ("CIRCLED LATIN SMALL LETTER O", 0x24DE),
    ("CIRCLED LATIN SMALL LETTER P", 0x24DF),
    ("CIRCLED LATIN SMALL LETTER Q", 0x24E0),
    ("CIRCLED LATIN SMALL LETTER R", 0x24E1),
    ("CIRCLED LATIN SMALL LETTER S", 0x24E2),
    ("CIRCLED LATIN SMALL LETTER T", 0x24E3),
    ("CIRCLED LATIN SMALL LETTER U", 0x24E4),
    ("CIRCLED LATIN SMALL LETTER V", 0x24E5),
    ("CIRCLED LATIN SMALL LETTER W", 0x24E6),
    ("CIRCLED LATIN SMALL LETTER X", 0x24E7),
    ("CIRCLED LATIN SMALL LETTER Y", 0x24E8),
    ("CIRCLED LATIN SMALL LETTER Z", 0x24E9),
    ("CIRCLED DIGIT ZERO", 0x24EA),
    ("NEGATIVE CIRCLED NUMBER ELEVEN", 0x24EB),
    ("NEGATIVE CIRCLED NUMBER TWELVE", 0x24EC),
    ("NEGATIVE CIRCLED NUMBER THIRTEEN", 0x24ED),
    ("NEGATIVE CIRCLED NUMBER FOURTEEN", 0x24EE),
    ("NEGATIVE CIRCLED NUMBER FIFTEEN", 0x24EF),
    ("NEGATIVE CIRCLED NUMBER SIXTEEN", 0x24F0),
    ("NEGATIVE CIRCLED NUMBER SEVENTEEN", 0x24F1),
    ("NEGATIVE CIRCLED NUMBER EIGHTEEN", 0x24F2),
    ("NEGATIVE CIRCLED NUMBER NINETEEN", 0x24F3),
    ("NEGATIVE CIRCLED NUMBER TWENTY", 0x24F4),
    ("DOUBLE CIRCLED DIGIT ONE", 0x24F5),
    ("DOUBLE CIRCLED DIGIT TWO", 0x24F6),
    ("DOUBLE CIRCLED DIGIT THREE", 0x24F7),
    ("DOUBLE CIRCLED DIGIT FOUR", 0x24F8),
    ("DOUBLE CIRCLED DIGIT FIVE", 0x24F9),
    ("DOUBLE CIRCLED DIGIT SIX", 0x24FA),
    ("DOUBLE CIRCLED DIGIT SEVEN", 0x24FB),
    ("DOUBLE CIRCLED DIGIT EIGHT", 0x24FC),
    ("DOUBLE CIRCLED DIGIT NINE", 0x24FD),
    ("DOUBLE CIRCLED NUMBER TEN", 0x24FE),
    ("NEGATIVE CIRCLED DIGIT ZERO", 0x24FF),
    ("BOX DRAWINGS LIGHT HORIZONTAL", 0x2500),
    ("BOX DRAWINGS HEAVY HORIZONTAL", 0x2501),
    ("BOX DRAWINGS LIGHT VERTICAL", 0x2502),
    ("BOX DRAWINGS HEAVY VERTICAL", 0x2503),
    ("BOX DRAWINGS LIGHT TRIPLE DASH HORIZONTAL", 0x2504),
    ("BOX DRAWINGS HEAVY TRIPLE DASH HORIZONTAL", 0x2505),
    ("BOX DRAWINGS LIGHT TRIPLE DASH VERTICAL", 0x2506),
    ("BOX DRAWINGS HEAVY TRIPLE DASH VERTICAL", 0x2507),
    ("BOX DRAWINGS LIGHT QUADRUPLE DASH HORIZONTAL", 0x2508),
    ("BOX DRAWINGS HEAVY QUADRUPLE DASH HORIZONTAL", 0x2509),
    ("BOX DRAWINGS LIGHT QUADRUPLE DASH VERTICAL", 0x250A),
    ("BOX DRAWINGS HEAVY QUADRUPLE DASH VERTICAL", 0x250B),
    ("BOX DRAWINGS LIGHT DOWN AND RIGHT", 0x250C),
    ("BOX DRAWINGS DOWN LIGHT AND RIGHT HEAVY", 0x250D),
    ("BOX DRAWINGS DOWN HEAVY AND RIGHT LIGHT", 0x250E),
    ("BOX DRAWINGS HEAVY DOWN AND RIGHT", 0x250F),
    ("BOX DRAWINGS LIGHT DOWN AND LEFT", 0x2510),
    ("BOX DRAWINGS DOWN LIGHT AND LEFT HEAVY", 0x2511),
    ("BOX DRAWINGS DOWN HEAVY AND LEFT LIGHT", 0x2512),
    ("BOX DRAWINGS HEAVY DOWN AND LEFT", 0x2513),
    ("BOX DRAWINGS LIGHT UP AND RIGHT", 0x2514),
    ("BOX DRAWINGS UP LIGHT AND RIGHT HEAVY", 0x2515),
    ("BOX DRAWINGS UP HEAVY AND RIGHT LIGHT", 0x2516),
    ("BOX DRAWINGS HEAVY UP AND RIGHT", 0x2517),
    ("BOX DRAWINGS LIGHT UP AND LEFT", 0x2518),
    ("BOX DRAWINGS UP LIGHT AND LEFT HEAVY", 0x2519),
    ("BOX DRAWINGS UP HEAVY AND LEFT LIGHT", 0x251A),
    ("BOX DRAWINGS HEAVY UP AND LEFT", 0x251B),
    ("BOX DRAWINGS LIGHT VERTICAL AND RIGHT", 0x251C),
    ("BOX DRAWINGS VERTICAL LIGHT AND RIGHT HEAVY", 0x251D),
    ("BOX DRAWINGS UP HEAVY AND RIGHT DOWN LIGHT", 0x251E),
    ("BOX DRAWINGS DOWN HEAVY AND RIGHT UP LIGHT", 0x251F),
    ("BOX DRAWINGS VERTICAL HEAVY AND RIGHT LIGHT", 0x2520),
    ("BOX DRAWINGS DOWN LIGHT AND RIGHT UP HEAVY", 0x2521),
    ("BOX DRAWINGS UP LIGHT AND RIGHT DOWN HEAVY", 0x2522),
    ("BOX DRAWINGS HEAVY VERTICAL AND RIGHT", 0x2523),
    ("BOX DRAWINGS LIGHT VERTICAL AND LEFT", 0x2524),
    ("BOX DRAWINGS VERTICAL LIGHT AND LEFT HEAVY", 0x2525),
    ("BOX DRAWINGS UP HEAVY AND LEFT DOWN LIGHT", 0x2526),
    ("BOX DRAWINGS DOWN HEAVY AND LEFT UP LIGHT", 0x2527),
    ("BOX DRAWINGS VERTICAL HEAVY AND LEFT LIGHT", 0x2528),
    ("BOX DRAWINGS DOWN LIGHT AND LEFT UP HEAVY", 0x2529),
    ("BOX DRAWINGS UP LIGHT AND LEFT DOWN HEAVY", 0x252A),
    ("BOX DRAWINGS HEAVY VERTICAL AND LEFT", 0x252B),
    ("BOX DRAWINGS LIGHT DOWN AND HORIZONTAL", 0x252C),
    ("BOX DRAWINGS LEFT HEAVY AND RIGHT DOWN LIGHT", 0x252D),
    ("BOX DRAWINGS RIGHT HEAVY AND LEFT DOWN LIGHT", 0x252E),
    ("BOX DRAWINGS DOWN LIGHT AND HORIZONTAL HEAVY", 0x252F),
    ("BOX DRAWINGS DOWN HEAVY AND HORIZONTAL LIGHT", 0x2530),
    ("BOX DRAWINGS RIGHT LIGHT AND LEFT DOWN HEAVY", 0x2531),
    ("BOX DRAWINGS LEFT LIGHT AND RIGHT DOWN HEAVY", 0x2532),
    ("BOX DRAWINGS HEAVY DOWN AND HORIZONTAL", 0x2533),
    ("BOX DRAWINGS LIGHT UP AND HORIZONTAL", 0x2534),
    ("BOX DRAWINGS LEFT HEAVY AND RIGHT UP LIGHT", 0x2535),
    ("BOX DRAWINGS RIGHT HEAVY AND LEFT UP LIGHT", 0x2536),
    ("BOX DRAWINGS UP LIGHT AND HORIZONTAL HEAVY", 0x2537),
    ("BOX DRAWINGS UP HEAVY AND HORIZONTAL LIGHT", 0x2538),
    ("BOX DRAWINGS RIGHT LIGHT AND LEFT UP HEAVY", 0x2539),
    ("BOX DRAWINGS LEFT LIGHT AND RIGHT UP HEAVY", 0x253A),
    ("BOX DRAWINGS HEAVY UP AND HORIZONTAL", 0x253B),
    ("BOX DRAWINGS LIGHT VERTICAL AND HORIZONTAL", 0x253C),
    ("BOX DRAWINGS LEFT HEAVY AND RIGHT VERTICAL LIGHT", 0x253D),
    ("BOX DRAWINGS RIGHT HEAVY AND LEFT VERTICAL LIGHT", 0x253E),
    ("BOX DRAWINGS VERTICAL LIGHT AND HORIZONTAL HEAVY", 0x253F),
    ("BOX DRAWINGS UP HEAVY AND DOWN HORIZONTAL LIGHT", 0x2540),
    ("BOX DRAWINGS DOWN HEAVY AND UP HORIZONTAL LIGHT", 0x2541),
    ("BOX DRAWINGS VERTICAL HEAVY AND HORIZONTAL LIGHT", 0x2542),
    ("BOX DRAWINGS LEFT UP HEAVY AND RIGHT DOWN LIGHT", 0x2543),
    ("BOX DRAWINGS RIGHT UP HEAVY AND LEFT DOWN LIGHT", 0x2544),
    ("BOX DRAWINGS LEFT DOWN HEAVY AND RIGHT UP LIGHT", 0x2545),
    ("BOX DRAWINGS RIGHT DOWN HEAVY AND LEFT UP LIGHT", 0x2546),
    ("BOX DRAWINGS DOWN LIGHT AND UP HORIZONTAL HEAVY", 0x2547),
    ("BOX DRAWINGS UP LIGHT AND DOWN HORIZONTAL HEAVY", 0x2548),
    ("BOX DRAWINGS RIGHT LIGHT AND LEFT VERTICAL HEAVY", 0x2549),
    ("BOX DRAWINGS LEFT LIGHT AND RIGHT VERTICAL HEAVY", 0x254A),
    ("BOX DRAWINGS HEAVY VERTICAL AND HORIZONTAL", 0x254B),
    ("BOX DRAWINGS LIGHT DOUBLE DASH HORIZONTAL", 0x254C),
    ("BOX DRAWINGS HEAVY DOUBLE DASH HORIZONTAL", 0x254D),
    ("BOX DRAWINGS LIGHT DOUBLE DASH VERTICAL", 0x254E),
    ("BOX DRAWINGS HEAVY DOUBLE DASH VERTICAL", 0x254F),
    ("BOX DRAWINGS DOUBLE HORIZONTAL", 0x2550),
    ("BOX DRAWINGS DOUBLE VERTICAL", 0x2551),
    ("BOX DRAWINGS DOWN SINGLE AND RIGHT DOUBLE", 0x2552),
    ("BOX DRAWINGS DOWN DOUBLE AND RIGHT SINGLE", 0x2553),
    ("BOX DRAWINGS DOUBLE DOWN AND RIGHT", 0x2554),
    ("BOX DRAWINGS DOWN SINGLE AND LEFT DOUBLE", 0x2555),
    ("BOX DRAWINGS DOWN DOUBLE AND LEFT SINGLE", 0x2556),
    ("BOX DRAWINGS DOUBLE DOWN AND LEFT", 0x2557),
    ("BOX DRAWINGS UP SINGLE AND RIGHT DOUBLE", 0x2558),
    ("BOX DRAWINGS UP DOUBLE AND RIGHT SINGLE", 0x2559),
    ("BOX DRAWINGS DOUBLE UP AND RIGHT", 0x255A),
    ("BOX DRAWINGS UP SINGLE AND LEFT DOUBLE", 0x255B),
    ("BOX DRAWINGS UP DOUBLE AND LEFT SINGLE", 0x255C),
    ("BOX DRAWINGS DOUBLE UP AND LEFT", 0x255D),
    ("BOX DRAWINGS VERTICAL SINGLE AND RIGHT DOUBLE", 0x255E),
    ("BOX DRAWINGS VERTICAL DOUBLE AND RIGHT SINGLE", 0x255F),
    ("BOX DRAWINGS DOUBLE VERTICAL AND RIGHT", 0x2560),
    ("BOX DRAWINGS VERTICAL SINGLE AND LEFT DOUBLE", 0x2561),
    ("BOX DRAWINGS VERTICAL DOUBLE AND LEFT SINGLE", 0x2562),
    ("BOX DRAWINGS DOUBLE VERTICAL AND LEFT", 0x2563),
    ("BOX DRAWINGS DOWN SINGLE AND HORIZONTAL DOUBLE", 0x2564),
    ("BOX DRAWINGS DOWN DOUBLE AND HORIZONTAL SINGLE", 0x2565),
    ("BOX DRAWINGS DOUBLE DOWN AND HORIZONTAL", 0x2566),
    ("BOX DRAWINGS UP SINGLE AND HORIZONTAL DOUBLE", 0x2567),
    ("BOX DRAWINGS UP DOUBLE AND HORIZONTAL SINGLE", 0x2568),
    ("BOX DRAWINGS DOUBLE UP AND HORIZONTAL", 0x2569),
    ("BOX DRAWINGS VERTICAL SINGLE AND HORIZONTAL DOUBLE", 0x256A),
    ("BOX DRAWINGS VERTICAL DOUBLE AND HORIZONTAL SINGLE", 0x256B),
    ("BOX DRAWINGS DOUBLE VERTICAL AND HORIZONTAL", 0x256C),
    ("BOX DRAWINGS LIGHT ARC DOWN AND RIGHT", 0x256D),
    ("BOX DRAWINGS LIGHT ARC DOWN AND LEFT", 0x256E),
    ("BOX DRAWINGS LIGHT ARC UP AND LEFT", 0x256F),
    ("BOX DRAWINGS LIGHT ARC UP AND RIGHT", 0x2570),
    ("BOX DRAWINGS LIGHT DIAGONAL UPPER RIGHT TO LOWER LEFT", 0x2571),
    ("BOX DRAWINGS LIGHT DIAGONAL UPPER LEFT TO LOWER RIGHT", 0x2572),
    ("BOX DRAWINGS LIGHT DIAGONAL CROSS", 0x2573),
    ("BOX DRAWINGS LIGHT LEFT", 0x2574),
    ("BOX DRAWINGS LIGHT UP", 0x2575),
    ("BOX DRAWINGS LIGHT RIGHT", 0x2576),
    ("BOX DRAWINGS LIGHT DOWN", 0x2577),
    ("BOX DRAWINGS HEAVY LEFT", 0x2578),
    ("BOX DRAWINGS HEAVY UP", 0x2579),
    ("BOX DRAWINGS HEAVY RIGHT", 0x257A),
    ("BOX DRAWINGS HEAVY DOWN", 0x257B),
    ("BOX DRAWINGS LIGHT LEFT AND HEAVY RIGHT", 0x257C),
    ("BOX DRAWINGS LIGHT UP AND HEAVY DOWN", 0x257D),
    ("BOX DRAWINGS HEAVY LEFT AND LIGHT RIGHT", 0x257E),
    ("BOX DRAWINGS HEAVY UP AND LIGHT DOWN", 0x257F),
    ("UPPER HALF BLOCK", 0x2580),
    ("LOWER ONE EIGHTH BLOCK", 0x2581),
    ("LOWER ONE QUARTER BLOCK", 0x2582),
    ("LOWER THREE EIGHTHS BLOCK", 0x2583),
    ("LOWER HALF BLOCK", 0x2584),
    ("LOWER FIVE EIGHTHS BLOCK", 0x2585),
    ("LOWER THREE QUARTERS BLOCK", 0x2586),
    ("LOWER SEVEN EIGHTHS BLOCK", 0x2587),
    ("FULL BLOCK", 0x2588),
    ("LEFT SEVEN EIGHTHS BLOCK", 0x2589),
    ("LEFT THREE QUARTERS BLOCK", 0x258A),
    ("LEFT FIVE EIGHTHS BLOCK", 0x258B),
    ("LEFT HALF BLOCK", 0x258C),
    ("LEFT THREE EIGHTHS BLOCK", 0x258D),
    ("LEFT ONE QUARTER BLOCK", 0x258E),
    ("LEFT ONE EIGHTH BLOCK", 0x258F),
    ("RIGHT HALF BLOCK", 0x2590),
    ("LIGHT SHADE", 0x2591),
    ("MEDIUM SHADE", 0x2592),
    ("DARK SHADE", 0x2593),
    ("UPPER ONE EIGHTH BLOCK", 0x2594),
    ("RIGHT ONE EIGHTH BLOCK", 0x2595),
    ("QUADRANT LOWER LEFT", 0x2596),
    ("QUADRANT LOWER RIGHT", 0x2597),
    ("QUADRANT UPPER LEFT", 0x2598),
    ("QUADRANT UPPER LEFT AND LOWER LEFT AND LOWER RIGHT", 0x2599),
    ("QUADRANT UPPER LEFT AND LOWER RIGHT", 0x259A),
    ("QUADRANT UPPER LEFT AND UPPER RIGHT AND LOWER LEFT", 0x259B),
    ("QUADRANT UPPER LEFT AND UPPER RIGHT AND LOWER RIGHT", 0x259C),
    ("QUADRANT UPPER RIGHT", 0x259D),
    ("QUADRANT UPPER RIGHT AND LOWER LEFT", 0x259E),
    ("QUADRANT UPPER RIGHT AND LOWER LEFT AND LOWER RIGHT", 0x259F),
    ("BLACK SQUARE", 0x25A0),
    ("WHITE SQUARE", 0x25A1),
    ("WHITE SQUARE WITH ROUNDED CORNERS", 0x25A2),
    ("WHITE SQUARE CONTAINING BLACK SMALL SQUARE", 0x25A3),
    ("SQUARE WITH HORIZONTAL FILL", 0x25A4),
    ("SQUARE WITH VERTICAL FILL", 0x25A5),
    ("SQUARE WITH ORTHOGONAL CROSSHATCH FILL", 0x25A6),
    ("SQUARE WITH UPPER LEFT TO LOWER RIGHT FILL", 0x25A7),
    ("SQUARE WITH UPPER RIGHT TO LOWER LEFT FILL", 0x25A8),
    ("SQUARE WITH DIAGONAL CROSSHATCH FILL", 0x25A9),
    ("BLACK SMALL SQUARE", 0x25AA),
    ("WHITE SMALL SQUARE", 0x25AB),
    ("BLACK RECTANGLE", 0x25AC),
    ("WHITE RECTANGLE", 0x25AD),
    ("BLACK VERTICAL RECTANGLE", 0x25AE),
    ("WHITE VERTICAL RECTANGLE", 0x25AF),
    ("BLACK PARALLELOGRAM", 0x25B0),
    ("WHITE PARALLELOGRAM", 0x25B1),
    ("BLACK UP-POINTING TRIANGLE", 0x25B2),
    ("WHITE UP-POINTING TRIANGLE", 0x25B3),
    ("BLACK UP-POINTING SMALL TRIANGLE", 0x25B4),
    ("WHITE UP-POINTING SMALL TRIANGLE", 0x25B5),
    ("BLACK RIGHT-POINTING TRIANGLE", 0x25B6),
    ("WHITE RIGHT-POINTING TRIANGLE", 0x25B7),
    ("BLACK RIGHT-POINTING SMALL TRIANGLE", 0x25B8),
    ("WHITE RIGHT-POINTING SMALL TRIANGLE", 0x25B9),
    ("BLACK RIGHT-POINTING POINTER", 0x25BA),
    ("WHITE RIGHT-POINTING POINTER", 0x25BB),
    ("BLACK DOWN-POINTING TRIANGLE", 0x25BC),
    ("WHITE DOWN-POINTING TRIANGLE", 0x25BD),
    ("BLACK DOWN-POINTING SMALL TRIANGLE", 0x25BE),
    ("WHITE DOWN-POINTING SMALL TRIANGLE", 0x25BF),
    ("BLACK LEFT-POINTING TRIANGLE", 0x25C0),
    ("WHITE LEFT-POINTING TRIANGLE", 0x25C1),
    ("BLACK LEFT-POINTING SMALL TRIANGLE", 0x25C2),
    ("WHITE LEFT-POINTING SMALL TRIANGLE", 0x25C3),
    ("BLACK LEFT-POINTING POINTER", 0x25C4),
    ("WHITE LEFT-POINTING POINTER", 0x25C5),
    ("BLACK DIAMOND", 0x25C6),
    ("WHITE DIAMOND", 0x25C7),
    ("WHITE DIAMOND CONTAINING BLACK SMALL DIAMOND", 0x25C8),
    ("FISHEYE", 0x25C9),
    ("LOZENGE", 0x25CA),
    ("WHITE CIRCLE", 0x25CB),
    ("DOTTED CIRCLE", 0x25CC),
    ("CIRCLE WITH VERTICAL FILL", 0x25CD),
    ("BULLSEYE", 0x25CE),
    ("BLACK CIRCLE", 0x25CF),
    ("CIRCLE WITH LEFT HALF BLACK", 0x25D0),
    ("CIRCLE WITH RIGHT HALF BLACK", 0x25D1),
    ("CIRCLE WITH LOWER HALF BLACK", 0x25D2),
    ("CIRCLE WITH UPPER HALF BLACK", 0x25D3),
    ("CIRCLE WITH UPPER RIGHT QUADRANT BLACK", 0x25D4),
    ("CIRCLE WITH ALL BUT UPPER LEFT QUADRANT BLACK", 0x25D5),
    ("LEFT HALF BLACK CIRCLE", 0x25D6),
    ("RIGHT HALF BLACK CIRCLE", 0x25D7),
    ("INVERSE BULLET", 0x25D8),
    ("INVERSE WHITE CIRCLE", 0x25D9),
    ("UPPER HALF INVERSE WHITE CIRCLE", 0x25DA),
    ("LOWER HALF INVERSE WHITE CIRCLE", 0x25DB),
    ("UPPER LEFT QUADRANT CIRCULAR ARC", 0x25DC),
    ("UPPER RIGHT QUADRANT CIRCULAR ARC", 0x25DD),
    ("LOWER RIGHT QUADRANT CIRCULAR ARC", 0x25DE),
    ("LOWER LEFT QUADRANT CIRCULAR ARC", 0x25DF),
    ("UPPER HALF CIRCLE", 0x25E0),
    ("LOWER HALF CIRCLE", 0x25E1),
    ("BLACK LOWER RIGHT TRIANGLE", 0x25E2),
    ("BLACK LOWER LEFT TRIANGLE", 0x25E3),
    ("BLACK UPPER LEFT TRIANGLE", 0x25E4),
    ("BLACK UPPER RIGHT TRIANGLE", 0x25E5),
    ("WHITE BULLET", 0x25E6),
    ("SQUARE WITH LEFT HALF BLACK", 0x25E7),
    ("SQUARE WITH RIGHT HALF BLACK", 0x25E8),
    ("SQUARE WITH UPPER LEFT DIAGONAL HALF BLACK", 0x25E9),
    ("SQUARE WITH LOWER RIGHT DIAGONAL HALF BLACK", 0x25EA),
    ("WHITE SQUARE WITH VERTICAL BISECTING LINE", 0x25EB),
    ("WHITE UP-POINTING TRIANGLE WITH DOT", 0x25EC),
    ("UP-POINTING TRIANGLE WITH LEFT HALF BLACK", 0x25ED),
    ("UP-POINTING TRIANGLE WITH RIGHT HALF BLACK", 0x25EE),
    ("LARGE CIRCLE", 0x25EF),
    ("WHITE SQUARE WITH UPPER LEFT QUADRANT", 0x25F0),
    ("WHITE SQUARE WITH LOWER LEFT QUADRANT", 0x25F1),
    ("WHITE SQUARE WITH LOWER RIGHT QUADRANT", 0x25F2),
    ("WHITE SQUARE WITH UPPER RIGHT QUADRANT", 0x25F3),
    ("WHITE CIRCLE WITH UPPER LEFT QUADRANT", 0x25F4),
    ("WHITE CIRCLE WITH LOWER LEFT QUADRANT", 0x25F5),
    ("WHITE CIRCLE WITH LOWER RIGHT QUADRANT", 0x25F6),
    ("WHITE CIRCLE WITH UPPER RIGHT QUADRANT", 0x25F7),
    ("UPPER LEFT TRIANGLE", 0x25F8),
    ("UPPER RIGHT TRIANGLE", 0x25F9),
    ("LOWER LEFT TRIANGLE", 0x25FA),
    ("WHITE MEDIUM SQUARE", 0x25FB),
    ("BLACK MEDIUM SQUARE", 0x25FC),
    ("WHITE MEDIUM SMALL SQUARE", 0x25FD),
    ("BLACK MEDIUM SMALL SQUARE", 0x25FE),
    ("LOWER RIGHT TRIANGLE", 0x25FF),
    ("BLACK SUN WITH RAYS", 0x2600),
    ("CLOUD", 0x2601),
    ("UMBRELLA", 0x2602),
    ("SNOWMAN", 0x2603),
    ("COMET", 0x2604),
    ("BLACK STAR", 0x2605),
    ("WHITE STAR", 0x2606),
    ("LIGHTNING", 0x2607),
    ("THUNDERSTORM", 0x2608),
    ("SUN", 0x2609),
    ("ASCENDING NODE", 0x260A),
    ("DESCENDING NODE", 0x260B),
    ("CONJUNCTION", 0x260C),
    ("OPPOSITION", 0x260D),
    ("BLACK TELEPHONE", 0x260E),
    ("WHITE TELEPHONE", 0x260F),
    ("BALLOT BOX", 0x2610),
    ("BALLOT BOX WITH CHECK", 0x2611),
    ("BALLOT BOX WITH X", 0x2612),
    ("SALTIRE", 0x2613),
    ("UMBRELLA WITH RAIN DROPS", 0x2614),
    ("HOT BEVERAGE", 0x2615),
    ("WHITE SHOGI PIECE", 0x2616),
    ("BLACK SHOGI PIECE", 0x2617),
    ("SHAMROCK", 0x2618),
    ("REVERSED ROTATED FLORAL HEART BULLET", 0x2619),
    ("BLACK LEFT POINTING INDEX", 0x261A),
    ("BLACK RIGHT POINTING INDEX", 0x261B),
    ("WHITE LEFT POINTING INDEX", 0x261C),
    ("WHITE UP POINTING INDEX", 0x261D),
    ("WHITE RIGHT POINTING INDEX", 0x261E),
    ("WHITE DOWN POINTING INDEX", 0x261F),
    ("SKULL AND CROSSBONES", 0x2620),
    ("CAUTION SIGN", 0x2621),
    ("RADIOACTIVE SIGN", 0x2622),
    ("BIOHAZARD SIGN", 0x2623),
    ("CADUCEUS", 0x2624),
    ("ANKH", 0x2625),
    ("ORTHODOX CROSS", 0x2626),
    ("CHI RHO", 0x2627),
    ("CROSS OF LORRAINE", 0x2628),
    ("CROSS OF JERUSALEM", 0x2629),
    ("STAR AND CRESCENT", 0x262A),
    ("FARSI SYMBOL", 0x262B),
    ("ADI SHAKTI", 0x262C),
    ("HAMMER AND SICKLE", 0x262D),
    ("PEACE SYMBOL", 0x262E),
    ("YIN YANG", 0x262F),
    ("TRIGRAM FOR HEAVEN", 0x2630),
    ("TRIGRAM FOR LAKE", 0x2631),
    ("TRIGRAM FOR FIRE", 0x2632),
    ("TRIGRAM FOR THUNDER", 0x2633),
    ("TRIGRAM FOR WIND", 0x2634),
    ("TRIGRAM FOR WATER", 0x2635),
    ("TRIGRAM FOR MOUNTAIN", 0x2636),
    ("TRIGRAM FOR EARTH", 0x2637),
    ("WHEEL OF DHARMA", 0x2638),
    ("WHITE FROWNING FACE", 0x2639),
    ("WHITE SMILING FACE", 0x263A),
    ("BLACK SMILING FACE", 0x263B),
    ("WHITE SUN WITH RAYS", 0x263C),
    ("FIRST QUARTER MOON", 0x263D),
    ("LAST QUARTER MOON", 0x263E),
    ("MERCURY", 0x263F),
    ("FEMALE SIGN", 0x2640),
    ("EARTH", 0x2641),
    ("MALE SIGN", 0x2642),
    ("JUPITER", 0x2643),
    ("SATURN", 0x2644),
    ("URANUS", 0x2645),
    ("NEPTUNE", 0x2646),
    ("PLUTO", 0x2647),
    ("ARIES", 0x2648),
    ("TAURUS", 0x2649),
    ("GEMINI", 0x264A),
    ("CANCER", 0x264B),
    ("LEO", 0x264C),
    ("VIRGO", 0x264D),
    ("LIBRA", 0x264E),
    ("SCORPIUS", 0x264F),
    ("SAGITTARIUS", 0x2650),
    ("CAPRICORN", 0x2651),
    ("AQUARIUS", 0x2652),
    ("PISCES", 0x2653),
    ("WHITE CHESS KING", 0x2654),
    ("WHITE CHESS QUEEN", 0x2655),
    ("WHITE CHESS ROOK", 0x2656),
    ("WHITE CHESS BISHOP", 0x2657),
    ("WHITE CHESS KNIGHT", 0x2658),
    ("WHITE CHESS PAWN", 0x2659),
    ("BLACK CHESS KING", 0x265A),
    ("BLACK CHESS QUEEN", 0x265B),
    ("BLACK CHESS ROOK", 0x265C),
    ("BLACK CHESS BISHOP", 0x265D),
    ("BLACK CHESS KNIGHT", 0x265E),
    ("BLACK CHESS PAWN", 0x265F),
    ("BLACK SPADE SUIT", 0x2660),
    ("WHITE HEART SUIT", 0x2661),
    ("WHITE DIAMOND SUIT", 0x2662),
    ("BLACK CLUB SUIT", 0x2663),
    ("WHITE SPADE SUIT", 0x2664),
    ("BLACK HEART SUIT", 0x2665),
    ("BLACK DIAMOND SUIT", 0x2666),
    ("WHITE CLUB SUIT", 0x2667),
    ("HOT SPRINGS", 0x2668),
    ("QUARTER NOTE", 0x2669),
    ("EIGHTH NOTE", 0x266A),
    ("BEAMED EIGHTH NOTES", 0x266B),
    ("BEAMED SIXTEENTH NOTES", 0x266C),
    ("MUSIC FLAT SIGN", 0x266D),
    ("MUSIC NATURAL SIGN", 0x266E),
    ("MUSIC SHARP SIGN", 0x266F),
    ("WEST SYRIAC CROSS", 0x2670),
    ("EAST SYRIAC CROSS", 0x2671),
    ("UNIVERSAL RECYCLING SYMBOL", 0x2672),
    ("RECYCLING SYMBOL FOR TYPE-1 PLASTICS", 0x2673),
    ("RECYCLING SYMBOL FOR TYPE-2 PLASTICS", 0x2674),
    ("RECYCLING SYMBOL FOR TYPE-3 PLASTICS", 0x2675),
    ("RECYCLING SYMBOL FOR TYPE-4 PLASTICS", 0x2676),
    ("RECYCLING SYMBOL FOR TYPE-5 PLASTICS", 0x2677),
    ("RECYCLING SYMBOL FOR TYPE-6 PLASTICS", 0x2678),
    ("RECYCLING SYMBOL FOR TYPE-7 PLASTICS", 0x2679),
    ("RECYCLING SYMBOL FOR GENERIC MATERIALS", 0x267A),
    ("BLACK UNIVERSAL RECYCLING SYMBOL", 0x267B),
    ("RECYCLED PAPER SYMBOL", 0x267C),
    ("PARTIALLY-RECYCLED PAPER SYMBOL", 0x267D),
    ("PERMANENT PAPER SIGN", 0x267E),
    ("WHEELCHAIR SYMBOL", 0x267F),
    ("DIE FACE-1", 0x2680),
    ("DIE FACE-2", 0x2681),
    ("DIE FACE-3", 0x2682),
    ("DIE FACE-4", 0x2683),
    ("DIE FACE-5", 0x2684),
    ("DIE FACE-6", 0x2685),
    ("WHITE CIRCLE WITH DOT RIGHT", 0x2686),
    ("WHITE CIRCLE WITH TWO DOTS", 0x2687),
    ("BLACK CIRCLE WITH WHITE DOT RIGHT", 0x2688),
    ("BLACK CIRCLE WITH TWO WHITE DOTS", 0x2689),
    ("MONOGRAM FOR YANG", 0x268A),
    ("MONOGRAM FOR YIN", 0x268B),
    ("DIGRAM FOR GREATER YANG", 0x268C),
    ("DIGRAM FOR LESSER YIN", 0x268D),
    ("DIGRAM FOR LESSER YANG", 0x268E),
    ("DIGRAM FOR GREATER YIN", 0x268F),
    ("WHITE FLAG", 0x2690),
    ("BLACK FLAG", 0x2691),
    ("HAMMER AND PICK", 0x2692),
    ("ANCHOR", 0x2693),
    ("CROSSED SWORDS", 0x2694),
    ("STAFF OF AESCULAPIUS", 0x2695),
    ("SCALES", 0x2696),
    ("ALEMBIC", 0x2697),
    ("FLOWER", 0x2698),
    ("GEAR", 0x2699),
    ("STAFF OF HERMES", 0x269A),
    ("ATOM SYMBOL", 0x269B),
    ("FLEUR-DE-LIS", 0x269C),
    ("OUTLINED WHITE STAR", 0x269D),
    ("THREE LINES CONVERGING RIGHT", 0x269E),
    ("THREE LINES CONVERGING LEFT", 0x269F),
    ("WARNING SIGN", 0x26A0),
    ("HIGH VOLTAGE SIGN", 0x26A1),
    ("DOUBLED FEMALE SIGN", 0x26A2),
    ("DOUBLED MALE SIGN", 0x26A3),
    ("INTERLOCKED FEMALE AND MALE SIGN", 0x26A4),
    ("MALE AND FEMALE SIGN", 0x26A5),
    ("MALE WITH STROKE SIGN", 0x26A6),
    ("MALE WITH STROKE AND MALE AND FEMALE SIGN", 0x26A7),
    ("VERTICAL MALE WITH STROKE SIGN", 0x26A8),
    ("HORIZONTAL MALE WITH STROKE SIGN", 0x26A9),
    ("MEDIUM WHITE CIRCLE", 0x26AA),
    ("MEDIUM BLACK CIRCLE", 0x26AB),
    ("MEDIUM SMALL WHITE CIRCLE", 0x26AC),
    ("MARRIAGE SYMBOL", 0x26AD),
    ("DIVORCE SYMBOL", 0x26AE),
    ("UNMARRIED PARTNERSHIP SYMBOL", 0x26AF),
    ("COFFIN", 0x26B0),
    ("FUNERAL URN", 0x26B1),
    ("NEUTER", 0x26B2),
    ("CERES", 0x26B3),
    ("PALLAS", 0x26B4),
    ("JUNO", 0x26B5),
    ("VESTA", 0x26B6),
    ("CHIRON", 0x26B7),
    ("BLACK MOON LILITH", 0x26B8),
    ("SEXTILE", 0x26B9),
    ("SEMISEXTILE", 0x26BA),
    ("QUINCUNX", 0x26BB),
    ("SESQUIQUADRATE", 0x26BC),
    ("SOCCER BALL", 0x26BD),
    ("BASEBALL", 0x26BE),
    ("SQUARED KEY", 0x26BF),
    ("WHITE DRAUGHTS MAN", 0x26C0),
    ("WHITE DRAUGHTS KING", 0x26C1),
    ("BLACK DRAUGHTS MAN", 0x26C2),
    ("BLACK DRAUGHTS KING", 0x26C3),
    ("SNOWMAN WITHOUT SNOW", 0x26C4),
    ("SUN BEHIND CLOUD", 0x26C5),
    ("RAIN", 0x26C6),
    ("BLACK SNOWMAN", 0x26C7),
    ("THUNDER CLOUD AND RAIN", 0x26C8),
    ("TURNED WHITE SHOGI PIECE", 0x26C9),
    ("TURNED BLACK SHOGI PIECE", 0x26CA),
    ("WHITE DIAMOND IN SQUARE", 0x26CB),
    ("CROSSING LANES", 0x26CC),
    ("DISABLED CAR", 0x26CD),
    ("OPHIUCHUS", 0x26CE),
    ("PICK", 0x26CF),
    ("CAR SLIDING", 0x26D0),
    ("HELMET WITH WHITE CROSS", 0x26D1),
    ("CIRCLED CROSSING LANES", 0x26D2),
    ("CHAINS", 0x26D3),
    ("NO ENTRY", 0x26D4),
    ("ALTERNATE ONE-WAY LEFT WAY TRAFFIC", 0x26D5),
    ("BLACK TWO-WAY LEFT WAY TRAFFIC", 0x26D6),
    ("WHITE TWO-WAY LEFT WAY TRAFFIC", 0x26D7),
    ("BLACK LEFT LANE MERGE", 0x26D8),
    ("WHITE LEFT LANE MERGE", 0x26D9),
    ("DRIVE SLOW SIGN", 0x26DA),
    ("HEAVY WHITE DOWN-POINTING TRIANGLE", 0x26DB),
    ("LEFT CLOSED ENTRY", 0x26DC),
    ("SQUARED SALTIRE", 0x26DD),
    ("FALLING DIAGONAL IN WHITE CIRCLE IN BLACK SQUARE", 0x26DE),
    ("BLACK TRUCK", 0x26DF),
    ("RESTRICTED LEFT ENTRY-1", 0x26E0),
    ("RESTRICTED LEFT ENTRY-2", 0x26E1),
    ("ASTRONOMICAL SYMBOL FOR URANUS", 0x26E2),
    ("HEAVY CIRCLE WITH STROKE AND TWO DOTS ABOVE", 0x26E3),
    ("PENTAGRAM", 0x26E4),
    ("RIGHT-HANDED INTERLACED PENTAGRAM", 0x26E5),
    ("LEFT-HANDED INTERLACED PENTAGRAM", 0x26E6),
    ("INVERTED PENTAGRAM", 0x26E7),
    ("BLACK CROSS ON SHIELD", 0x26E8),
    ("SHINTO SHRINE", 0x26E9),
    ("CHURCH", 0x26EA),
    ("CASTLE", 0x26EB),
    ("HISTORIC SITE", 0x26EC),
    ("GEAR WITHOUT HUB", 0x26ED),
    ("GEAR WITH HANDLES", 0x26EE),
    ("MAP SYMBOL FOR LIGHTHOUSE", 0x26EF),
    ("MOUNTAIN", 0x26F0),
    ("UMBRELLA ON GROUND", 0x26F1),
    ("FOUNTAIN", 0x26F2),
    ("FLAG IN HOLE", 0x26F3),
    ("FERRY", 0x26F4),
    ("SAILBOAT", 0x26F5),
    ("SQUARE FOUR CORNERS", 0x26F6),
    ("SKIER", 0x26F7),
    ("ICE SKATE", 0x26F8),
    ("PERSON WITH BALL", 0x26F9),
    ("TENT", 0x26FA),
    ("JAPANESE BANK SYMBOL", 0x26FB),
    ("HEADSTONE GRAVEYARD SYMBOL", 0x26FC),
    ("FUEL PUMP", 0x26FD),
    ("CUP ON BLACK SQUARE", 0x26FE),
    ("WHITE FLAG WITH HORIZONTAL MIDDLE BLACK STRIPE", 0x26FF),
    ("BLACK SAFETY SCISSORS", 0x2700),
    ("UPPER BLADE SCISSORS", 0x2701),
    ("BLACK SCISSORS", 0x2702),
    ("LOWER BLADE SCISSORS", 0x2703),
    ("WHITE SCISSORS", 0x2704),
    ("WHITE HEAVY CHECK MARK", 0x2705),
    ("TELEPHONE LOCATION SIGN", 0x2706),
    ("TAPE DRIVE", 0x2707),
    ("AIRPLANE", 0x2708),
    ("ENVELOPE", 0x2709),
    ("RAISED FIST", 0x270A),
    ("RAISED HAND", 0x270B),
    ("VICTORY HAND", 0x270C),
    ("WRITING HAND", 0x270D),
    ("LOWER RIGHT PENCIL", 0x270E),
    ("PENCIL", 0x270F),
    ("UPPER RIGHT PENCIL", 0x2710),
    ("WHITE NIB", 0x2711),
    ("BLACK NIB", 0x2712),
    ("CHECK MARK", 0x2713),
    ("HEAVY CHECK MARK", 0x2714),
    ("MULTIPLICATION X", 0x2715),
    ("HEAVY MULTIPLICATION X", 0x2716),
    ("BALLOT X", 0x2717),
    ("HEAVY BALLOT X", 0x2718),
    ("OUTLINED GREEK CROSS", 0x2719),
    ("HEAVY GREEK CROSS", 0x271A),
    ("OPEN CENTRE CROSS", 0x271B),
    ("HEAVY OPEN CENTRE CROSS", 0x271C),
    ("LATIN CROSS", 0x271D),
    ("SHADOWED WHITE LATIN CROSS", 0x271E),
    ("OUTLINED LATIN CROSS", 0x271F),
    ("MALTESE CROSS", 0x2720),
    ("STAR OF DAVID", 0x2721),
    ("FOUR TEARDROP-SPOKED ASTERISK", 0x2722),
    ("FOUR BALLOON-SPOKED ASTERISK", 0x2723),
    ("HEAVY FOUR BALLOON-SPOKED ASTERISK", 0x2724),
    ("FOUR CLUB-SPOKED ASTERISK", 0x2725),
    ("BLACK FOUR POINTED STAR", 0x2726),
    ("WHITE FOUR POINTED STAR", 0x2727),
    ("SPARKLES", 0x2728),
    ("STRESS OUTLINED WHITE STAR", 0x2729),
    ("CIRCLED WHITE STAR", 0x272A),
    ("OPEN CENTRE BLACK STAR", 0x272B),
    ("BLACK CENTRE WHITE STAR", 0x272C),
    ("OUTLINED BLACK STAR", 0x272D),
    ("HEAVY OUTLINED BLACK STAR", 0x272E),
    ("PINWHEEL STAR", 0x272F),
    ("SHADOWED WHITE STAR", 0x2730),
    ("HEAVY ASTERISK", 0x2731),
    ("OPEN CENTRE ASTERISK", 0x2732),
    ("EIGHT SPOKED ASTERISK", 0x2733),
    ("EIGHT POINTED BLACK STAR", 0x2734),
    ("EIGHT POINTED PINWHEEL STAR", 0x2735),
    ("SIX POINTED BLACK STAR", 0x2736),
    ("EIGHT POINTED RECTILINEAR BLACK STAR", 0x2737),
    ("HEAVY EIGHT POINTED RECTILINEAR BLACK STAR", 0x2738),
    ("TWELVE POINTED BLACK STAR", 0x2739),
    ("SIXTEEN POINTED ASTERISK", 0x273A),
    ("TEARDROP-SPOKED ASTERISK", 0x273B),
    ("OPEN CENTRE TEARDROP-SPOKED ASTERISK", 0x273C),
    ("HEAVY TEARDROP-SPOKED ASTERISK", 0x273D),
    ("SIX PETALLED BLACK AND WHITE FLORETTE", 0x273E),
    ("BLACK FLORETTE", 0x273F),
    ("WHITE FLORETTE", 0x2740),
    ("EIGHT PETALLED OUTLINED BLACK FLORETTE", 0x2741),
    ("CIRCLED OPEN CENTRE EIGHT POINTED STAR", 0x2742),
    ("HEAVY TEARDROP-SPOKED PINWHEEL ASTERISK", 0x2743),
    ("SNOWFLAKE", 0x2744),
    ("TIGHT TRIFOLIATE SNOWFLAKE", 0x2745),
    ("HEAVY CHEVRON SNOWFLAKE", 0x2746),
    ("SPARKLE", 0x2747),
    ("HEAVY SPARKLE", 0x2748),
    ("BALLOON-SPOKED ASTERISK", 0x2749),
    ("EIGHT TEARDROP-SPOKED PROPELLER ASTERISK", 0x274A),
    ("HEAVY EIGHT TEARDROP-SPOKED PROPELLER ASTERISK", 0x274B),
    ("CROSS MARK", 0x274C),
    ("SHADOWED WHITE CIRCLE", 0x274D),
    ("NEGATIVE SQUARED CROSS MARK", 0x274E),
    ("LOWER RIGHT DROP-SHADOWED WHITE SQUARE", 0x274F),
    ("UPPER RIGHT DROP-SHADOWED WHITE SQUARE", 0x2750),
    ("LOWER RIGHT SHADOWED WHITE SQUARE", 0x2751),
    ("UPPER RIGHT SHADOWED WHITE SQUARE", 0x2752),
    ("BLACK QUESTION MARK ORNAMENT", 0x2753),
    ("WHITE QUESTION MARK ORNAMENT", 0x2754),
    ("WHITE EXCLAMATION MARK ORNAMENT", 0x2755),
    ("BLACK DIAMOND MINUS WHITE X", 0x2756),
    ("HEAVY EXCLAMATION MARK SYMBOL", 0x2757),
    ("LIGHT VERTICAL BAR", 0x2758),
    ("MEDIUM VERTICAL BAR", 0x2759),
    ("HEAVY VERTICAL BAR", 0x275A),
    ("HEAVY SINGLE TURNED COMMA QUOTATION MARK ORNAMENT", 0x275B),
    ("HEAVY SINGLE COMMA QUOTATION MARK ORNAMENT", 0x275C),
    ("HEAVY DOUBLE TURNED COMMA QUOTATION MARK ORNAMENT", 0x275D),
    ("HEAVY DOUBLE COMMA QUOTATION MARK ORNAMENT", 0x275E),
    ("HEAVY LOW SINGLE COMMA QUOTATION MARK ORNAMENT", 0x275F),
    ("HEAVY LOW DOUBLE COMMA QUOTATION MARK ORNAMENT", 0x2760),
    ("CURVED STEM PARAGRAPH SIGN ORNAMENT", 0x2761),
    ("HEAVY EXCLAMATION MARK ORNAMENT", 0x2762),
    ("HEAVY HEART EXCLAMATION MARK ORNAMENT", 0x2763),
    ("HEAVY BLACK HEART", 0x2764),
    ("ROTATED HEAVY BLACK HEART BULLET", 0x2765),
    ("FLORAL HEART", 0x2766),
    ("ROTATED FLORAL HEART BULLET", 0x2767),
    ("MEDIUM LEFT PARENTHESIS ORNAMENT", 0x2768),
    ("MEDIUM RIGHT PARENTHESIS ORNAMENT", 0x2769),
    ("MEDIUM FLATTENED LEFT PARENTHESIS ORNAMENT", 0x276A),
    ("MEDIUM FLATTENED RIGHT PARENTHESIS ORNAMENT", 0x276B),
    ("MEDIUM LEFT-POINTING ANGLE BRACKET ORNAMENT", 0x276C),
    ("MEDIUM RIGHT-POINTING ANGLE BRACKET ORNAMENT", 0x276D),
    ("HEAVY LEFT-POINTING ANGLE QUOTATION MARK ORNAMENT", 0x276E),
    ("HEAVY RIGHT-POINTING ANGLE QUOTATION MARK ORNAMENT", 0x276F),
    ("HEAVY LEFT-POINTING ANGLE BRACKET ORNAMENT", 0x2770),
    ("HEAVY RIGHT-POINTING ANGLE BRACKET ORNAMENT", 0x2771),
    ("LIGHT LEFT TORTOISE SHELL BRACKET ORNAMENT", 0x2772),
    ("LIGHT RIGHT TORTOISE SHELL BRACKET ORNAMENT", 0x2773),
    ("MEDIUM LEFT CURLY BRACKET ORNAMENT", 0x2774),
    ("MEDIUM RIGHT CURLY BRACKET ORNAMENT", 0x2775),
    ("DINGBAT NEGATIVE CIRCLED DIGIT ONE", 0x2776),
    ("DINGBAT NEGATIVE CIRCLED DIGIT TWO", 0x2777),
    ("DINGBAT NEGATIVE CIRCLED DIGIT THREE", 0x2778),
    ("DINGBAT NEGATIVE CIRCLED DIGIT FOUR", 0x2779),
    ("DINGBAT NEGATIVE CIRCLED DIGIT FIVE", 0x277A),
    ("DINGBAT NEGATIVE CIRCLED DIGIT SIX", 0x277B),
    ("DINGBAT NEGATIVE CIRCLED DIGIT SEVEN", 0x277C),
    ("DINGBAT NEGATIVE CIRCLED DIGIT EIGHT", 0x277D),
    ("DINGBAT NEGATIVE CIRCLED DIGIT NINE", 0x277E),
    ("DINGBAT NEGATIVE CIRCLED NUMBER TEN", 0x277F),
    ("DINGBAT CIRCLED SANS-SERIF DIGIT ONE", 0x2780),
    ("DINGBAT CIRCLED SANS-SERIF DIGIT TWO", 0x2781),
    ("DINGBAT CIRCLED SANS-SERIF DIGIT THREE", 0x2782),
    ("DINGBAT CIRCLED SANS-SERIF DIGIT FOUR", 0x2783),
    ("DINGBAT CIRCLED SANS-SERIF DIGIT FIVE", 0x2784),
    ("DINGBAT CIRCLED SANS-SERIF DIGIT SIX", 0x2785),
    ("DINGBAT CIRCLED SANS-SERIF DIGIT SEVEN", 0x2786),
    ("DINGBAT CIRCLED SANS-SERIF DIGIT EIGHT", 0x2787),
    ("DINGBAT CIRCLED SANS-SERIF DIGIT NINE", 0x2788),
    ("DINGBAT CIRCLED SANS-SERIF NUMBER TEN", 0x2789),
    ("DINGBAT NEGATIVE CIRCLED SANS-SERIF DIGIT ONE", 0x278A),
    ("DINGBAT NEGATIVE CIRCLED SANS-SERIF DIGIT TWO", 0x278B),
    ("DINGBAT NEGATIVE CIRCLED SANS-SERIF DIGIT THREE", 0x278C),
    ("DINGBAT NEGATIVE CIRCLED SANS-SERIF DIGIT FOUR", 0x278D),
    ("DINGBAT NEGATIVE CIRCLED SANS-SERIF DIGIT FIVE", 0x278E),
    ("DINGBAT NEGATIVE CIRCLED SANS-SERIF DIGIT SIX", 0x278F),
    ("DINGBAT NEGATIVE CIRCLED SANS-SERIF DIGIT SEVEN", 0x2790),
    ("DINGBAT NEGATIVE CIRCLED SANS-SERIF DIGIT EIGHT", 0x2791),
    ("DINGBAT NEGATIVE CIRCLED SANS-SERIF DIGIT NINE", 0x2792),
    ("DINGBAT NEGATIVE CIRCLED SANS-SERIF NUMBER TEN", 0x2793),
    ("HEAVY WIDE-HEADED RIGHTWARDS ARROW", 0x2794),
    ("HEAVY PLUS SIGN", 0x2795),
    ("HEAVY MINUS SIGN", 0x2796),
    ("HEAVY DIVISION SIGN", 0x2797),
    ("HEAVY SOUTH EAST ARROW", 0x2798),
    ("HEAVY RIGHTWARDS ARROW", 0x2799),
    ("HEAVY NORTH EAST ARROW", 0x279A),
    ("DRAFTING POINT RIGHTWARDS ARROW", 0x279B),
    ("HEAVY ROUND-TIPPED RIGHTWARDS ARROW", 0x279C),
    ("TRIANGLE-HEADED RIGHTWARDS ARROW", 0x279D),
    ("HEAVY TRIANGLE-HEADED RIGHTWARDS ARROW", 0x279E),
    ("DASHED TRIANGLE-HEADED RIGHTWARDS ARROW", 0x279F),
    ("HEAVY DASHED TRIANGLE-HEADED RIGHTWARDS ARROW", 0x27A0),
    ("BLACK RIGHTWARDS ARROW", 0x27A1),
    ("THREE-D TOP-LIGHTED RIGHTWARDS ARROWHEAD", 0x27A2),
    ("THREE-D BOTTOM-LIGHTED RIGHTWARDS ARROWHEAD", 0x27A3),
    ("BLACK RIGHTWARDS ARROWHEAD", 0x27A4),
    ("HEAVY BLACK CURVED DOWNWARDS AND RIGHTWARDS ARROW", 0x27A5),
    ("HEAVY BLACK CURVED UPWARDS AND RIGHTWARDS ARROW", 0x27A6),
    ("SQUAT BLACK RIGHTWARDS ARROW", 0x27A7),
    ("HEAVY CONCAVE-POINTED BLACK RIGHTWARDS ARROW", 0x27A8),
    ("RIGHT-SHADED WHITE RIGHTWARDS ARROW", 0x27A9),
    ("LEFT-SHADED WHITE RIGHTWARDS ARROW", 0x27AA),
    ("BACK-TILTED SHADOWED WHITE RIGHTWARDS ARROW", 0x27AB),
    ("FRONT-TILTED SHADOWED WHITE RIGHTWARDS ARROW", 0x27AC),
    ("HEAVY LOWER RIGHT-SHADOWED WHITE RIGHTWARDS ARROW", 0x27AD),
    ("HEAVY UPPER RIGHT-SHADOWED WHITE RIGHTWARDS ARROW", 0x27AE),
    ("NOTCHED LOWER RIGHT-SHADOWED WHITE RIGHTWARDS ARROW", 0x27AF),
    ("CURLY LOOP", 0x27B0),
    ("NOTCHED UPPER RIGHT-SHADOWED WHITE RIGHTWARDS ARROW", 0x27B1),
    ("CIRCLED HEAVY WHITE RIGHTWARDS ARROW", 0x27B2),
    ("WHITE-FEATHERED RIGHTWARDS ARROW", 0x27B3),
    ("BLACK-FEATHERED SOUTH EAST ARROW", 0x27B4),
    ("BLACK-FEATHERED RIGHTWARDS ARROW", 0x27B5),
    ("BLACK-FEATHERED NORTH EAST ARROW", 0x27B6),
    ("HEAVY BLACK-FEATHERED SOUTH EAST ARROW", 0x27B7),
    ("HEAVY BLACK-FEATHERED RIGHTWARDS ARROW", 0x27B8),
    ("HEAVY BLACK-FEATHERED NORTH EAST ARROW", 0x27B9),
    ("TEARDROP-BARBED RIGHTWARDS ARROW", 0x27BA),
    ("HEAVY TEARDROP-SHANKED RIGHTWARDS ARROW", 0x27BB),
    ("WEDGE-TAILED RIGHTWARDS ARROW", 0x27BC),
    ("HEAVY WEDGE-TAILED RIGHTWARDS ARROW", 0x27BD),
    ("OPEN-OUTLINED RIGHTWARDS ARROW", 0x27BE),
    ("DOUBLE CURLY LOOP", 0x27BF)]

end Cabinet.Text
