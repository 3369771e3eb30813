/-!
The names of the Latin, Greek, Cyrillic and Hebrew letters, and of marks.
-/

namespace Cabinet.Text

set_option maxRecDepth 20000 in
/-- Names and the code points they stand for. -/
def latinNames : List (String × Nat) := [
    ("SPACE", 0x20),
    ("EXCLAMATION MARK", 0x21),
    ("QUOTATION MARK", 0x22),
    ("NUMBER SIGN", 0x23),
    ("DOLLAR SIGN", 0x24),
    ("PERCENT SIGN", 0x25),
    ("AMPERSAND", 0x26),
    ("APOSTROPHE", 0x27),
    ("LEFT PARENTHESIS", 0x28),
    ("RIGHT PARENTHESIS", 0x29),
    ("ASTERISK", 0x2A),
    ("PLUS SIGN", 0x2B),
    ("COMMA", 0x2C),
    ("HYPHEN-MINUS", 0x2D),
    ("FULL STOP", 0x2E),
    ("SOLIDUS", 0x2F),
    ("DIGIT ZERO", 0x30),
    ("DIGIT ONE", 0x31),
    ("DIGIT TWO", 0x32),
    ("DIGIT THREE", 0x33),
    ("DIGIT FOUR", 0x34),
    ("DIGIT FIVE", 0x35),
    ("DIGIT SIX", 0x36),
    ("DIGIT SEVEN", 0x37),
    ("DIGIT EIGHT", 0x38),
    ("DIGIT NINE", 0x39),
    ("COLON", 0x3A),
    ("SEMICOLON", 0x3B),
    ("LESS-THAN SIGN", 0x3C),
    ("EQUALS SIGN", 0x3D),
    ("GREATER-THAN SIGN", 0x3E),
    ("QUESTION MARK", 0x3F),
    ("COMMERCIAL AT", 0x40),
    ("LATIN CAPITAL LETTER A", 0x41),
    ("LATIN CAPITAL LETTER B", 0x42),
    ("LATIN CAPITAL LETTER C", 0x43),
    ("LATIN CAPITAL LETTER D", 0x44),
    ("LATIN CAPITAL LETTER E", 0x45),
    ("LATIN CAPITAL LETTER F", 0x46),
    ("LATIN CAPITAL LETTER G", 0x47),
    ("LATIN CAPITAL LETTER H", 0x48),
    ("LATIN CAPITAL LETTER I", 0x49),
    ("LATIN CAPITAL LETTER J", 0x4A),
    ("LATIN CAPITAL LETTER K", 0x4B),
    ("LATIN CAPITAL LETTER L", 0x4C),
    ("LATIN CAPITAL LETTER M", 0x4D),
    ("LATIN CAPITAL LETTER N", 0x4E),
    ("LATIN CAPITAL LETTER O", 0x4F),
    ("LATIN CAPITAL LETTER P", 0x50),
    ("LATIN CAPITAL LETTER Q", 0x51),
    ("LATIN CAPITAL LETTER R", 0x52),
    ("LATIN CAPITAL LETTER S", 0x53),
    ("LATIN CAPITAL LETTER T", 0x54),
    ("LATIN CAPITAL LETTER U", 0x55),
    ("LATIN CAPITAL LETTER V", 0x56),
    ("LATIN CAPITAL LETTER W", 0x57),
    ("LATIN CAPITAL LETTER X", 0x58),
    ("LATIN CAPITAL LETTER Y", 0x59),
    ("LATIN CAPITAL LETTER Z", 0x5A),
    ("LEFT SQUARE BRACKET", 0x5B),
    ("REVERSE SOLIDUS", 0x5C),
    ("RIGHT SQUARE BRACKET", 0x5D),
    ("CIRCUMFLEX ACCENT", 0x5E),
    ("LOW LINE", 0x5F),
    ("GRAVE ACCENT", 0x60),
    ("LATIN SMALL LETTER A", 0x61),
    ("LATIN SMALL LETTER B", 0x62),
    ("LATIN SMALL LETTER C", 0x63),
    ("LATIN SMALL LETTER D", 0x64),
    ("LATIN SMALL LETTER E", 0x65),
    ("LATIN SMALL LETTER F", 0x66),
    ("LATIN SMALL LETTER G", 0x67),
    ("LATIN SMALL LETTER H", 0x68),
    ("LATIN SMALL LETTER I", 0x69),
    ("LATIN SMALL LETTER J", 0x6A),
    ("LATIN SMALL LETTER K", 0x6B),
    ("LATIN SMALL LETTER L", 0x6C),
    ("LATIN SMALL LETTER M", 0x6D),
    ("LATIN SMALL LETTER N", 0x6E),
    ("LATIN SMALL LETTER O", 0x6F),
    ("LATIN SMALL LETTER P", 0x70),
    ("LATIN SMALL LETTER Q", 0x71),
    ("LATIN SMALL LETTER R", 0x72),
    ("LATIN SMALL LETTER S", 0x73),
    ("LATIN SMALL LETTER T", 0x74),
    ("LATIN SMALL LETTER U", 0x75),
    ("LATIN SMALL LETTER V", 0x76),
    ("LATIN SMALL LETTER W", 0x77),
    ("LATIN SMALL LETTER X", 0x78),
    ("LATIN SMALL LETTER Y", 0x79),
    ("LATIN SMALL LETTER Z", 0x7A),
    ("LEFT CURLY BRACKET", 0x7B),
    ("VERTICAL LINE", 0x7C),
    ("RIGHT CURLY BRACKET", 0x7D),
    ("TILDE", 0x7E),
    ("NO-BREAK SPACE", 0xA0),
    ("INVERTED EXCLAMATION MARK", 0xA1),
    ("CENT SIGN", 0xA2),
    ("POUND SIGN", 0xA3),
    ("CURRENCY SIGN", 0xA4),
    ("YEN SIGN", 0xA5),
    ("BROKEN BAR", 0xA6),
    ("SECTION SIGN", 0xA7),
    ("DIAERESIS", 0xA8),
    ("COPYRIGHT SIGN", 0xA9),
    ("FEMININE ORDINAL INDICATOR", 0xAA),
    ("LEFT-POINTING DOUBLE ANGLE QUOTATION MARK", 0xAB),
    ("NOT SIGN", 0xAC),
    ("SOFT HYPHEN", 0xAD),
    ("REGISTERED SIGN", 0xAE),
    ("MACRON", 0xAF),
    ("DEGREE SIGN", 0xB0),
    ("PLUS-MINUS SIGN", 0xB1),
    ("SUPERSCRIPT TWO", 0xB2),
    ("SUPERSCRIPT THREE", 0xB3),
    ("ACUTE ACCENT", 0xB4),
    ("MICRO SIGN", 0xB5),
    ("PILCROW SIGN", 0xB6),
    ("MIDDLE DOT", 0xB7),
    ("CEDILLA", 0xB8),
    ("SUPERSCRIPT ONE", 0xB9),
    ("MASCULINE ORDINAL INDICATOR", 0xBA),
    ("RIGHT-POINTING DOUBLE ANGLE QUOTATION MARK", 0xBB),
    ("VULGAR FRACTION ONE QUARTER", 0xBC),
    ("VULGAR FRACTION ONE HALF", 0xBD),
    ("VULGAR FRACTION THREE QUARTERS", 0xBE),
    ("INVERTED QUESTION MARK", 0xBF),
    ("LATIN CAPITAL LETTER A WITH GRAVE", 0xC0),
    ("LATIN CAPITAL LETTER A WITH ACUTE", 0xC1),
    ("LATIN CAPITAL LETTER A WITH CIRCUMFLEX", 0xC2),
    ("LATIN CAPITAL LETTER A WITH TILDE", 0xC3),
    ("LATIN CAPITAL LETTER A WITH DIAERESIS", 0xC4),
    ("LATIN CAPITAL LETTER A WITH RING ABOVE", 0xC5),
    ("LATIN CAPITAL LETTER AE", 0xC6),
    ("LATIN CAPITAL LETTER C WITH CEDILLA", 0xC7),
    ("LATIN CAPITAL LETTER E WITH GRAVE", 0xC8),
    ("LATIN CAPITAL LETTER E WITH ACUTE", 0xC9),
    ("LATIN CAPITAL LETTER E WITH CIRCUMFLEX", 0xCA),
    ("LATIN CAPITAL LETTER E WITH DIAERESIS", 0xCB),
    ("LATIN CAPITAL LETTER I WITH GRAVE", 0xCC),
    ("LATIN CAPITAL LETTER I WITH ACUTE", 0xCD),
    ("LATIN CAPITAL LETTER I WITH CIRCUMFLEX", 0xCE),
    ("LATIN CAPITAL LETTER I WITH DIAERESIS", 0xCF),
    ("LATIN CAPITAL LETTER ETH", 0xD0),
    ("LATIN CAPITAL LETTER N WITH TILDE", 0xD1),
    ("LATIN CAPITAL LETTER O WITH GRAVE", 0xD2),
    ("LATIN CAPITAL LETTER O WITH ACUTE", 0xD3),
    ("LATIN CAPITAL LETTER O WITH CIRCUMFLEX", 0xD4),
    ("LATIN CAPITAL LETTER O WITH TILDE", 0xD5),
    ("LATIN CAPITAL LETTER O WITH DIAERESIS", 0xD6),
    ("MULTIPLICATION SIGN", 0xD7),
    ("LATIN CAPITAL LETTER O WITH STROKE", 0xD8),
    ("LATIN CAPITAL LETTER U WITH GRAVE", 0xD9),
    ("LATIN CAPITAL LETTER U WITH ACUTE", 0xDA),
    ("LATIN CAPITAL LETTER U WITH CIRCUMFLEX", 0xDB),
    ("LATIN CAPITAL LETTER U WITH DIAERESIS", 0xDC),
    ("LATIN CAPITAL LETTER Y WITH ACUTE", 0xDD),
    ("LATIN CAPITAL LETTER THORN", 0xDE),
    ("LATIN SMALL LETTER SHARP S", 0xDF),
    ("LATIN SMALL LETTER A WITH GRAVE", 0xE0),
    ("LATIN SMALL LETTER A WITH ACUTE", 0xE1),
    ("LATIN SMALL LETTER A WITH CIRCUMFLEX", 0xE2),
    ("LATIN SMALL LETTER A WITH TILDE", 0xE3),
    ("LATIN SMALL LETTER A WITH DIAERESIS", 0xE4),
    ("LATIN SMALL LETTER A WITH RING ABOVE", 0xE5),
    ("LATIN SMALL LETTER AE", 0xE6),
    ("LATIN SMALL LETTER C WITH CEDILLA", 0xE7),
    ("LATIN SMALL LETTER E WITH GRAVE", 0xE8),
    ("LATIN SMALL LETTER E WITH ACUTE", 0xE9),
    ("LATIN SMALL LETTER E WITH CIRCUMFLEX", 0xEA),
    ("LATIN SMALL LETTER E WITH DIAERESIS", 0xEB),
    ("LATIN SMALL LETTER I WITH GRAVE", 0xEC),
    ("LATIN SMALL LETTER I WITH ACUTE", 0xED),
    ("LATIN SMALL LETTER I WITH CIRCUMFLEX", 0xEE),
    ("LATIN SMALL LETTER I WITH DIAERESIS", 0xEF),
    ("LATIN SMALL LETTER ETH", 0xF0),
    ("LATIN SMALL LETTER N WITH TILDE", 0xF1),
    ("LATIN SMALL LETTER O WITH GRAVE", 0xF2),
    ("LATIN SMALL LETTER O WITH ACUTE", 0xF3),
    ("LATIN SMALL LETTER O WITH CIRCUMFLEX", 0xF4),
    ("LATIN SMALL LETTER O WITH TILDE", 0xF5),
    ("LATIN SMALL LETTER O WITH DIAERESIS", 0xF6),
    ("DIVISION SIGN", 0xF7),
    ("LATIN SMALL LETTER O WITH STROKE", 0xF8),
    ("LATIN SMALL LETTER U WITH GRAVE", 0xF9),
    ("LATIN SMALL LETTER U WITH ACUTE", 0xFA),
    ("LATIN SMALL LETTER U WITH CIRCUMFLEX", 0xFB),
    ("LATIN SMALL LETTER U WITH DIAERESIS", 0xFC),
    ("LATIN SMALL LETTER Y WITH ACUTE", 0xFD),
    ("LATIN SMALL LETTER THORN", 0xFE),
    ("LATIN SMALL LETTER Y WITH DIAERESIS", 0xFF),
    ("LATIN CAPITAL LETTER A WITH MACRON", 0x100),
    ("LATIN SMALL LETTER A WITH MACRON", 0x101),
    ("LATIN CAPITAL LETTER A WITH BREVE", 0x102),
    ("LATIN SMALL LETTER A WITH BREVE", 0x103),
    ("LATIN CAPITAL LETTER A WITH OGONEK", 0x104),
    ("LATIN SMALL LETTER A WITH OGONEK", 0x105),
    ("LATIN CAPITAL LETTER C WITH ACUTE", 0x106),
    ("LATIN SMALL LETTER C WITH ACUTE", 0x107),
    ("LATIN CAPITAL LETTER C WITH CIRCUMFLEX", 0x108),
    ("LATIN SMALL LETTER C WITH CIRCUMFLEX", 0x109),
    ("LATIN CAPITAL LETTER C WITH DOT ABOVE", 0x10A),
    ("LATIN SMALL LETTER C WITH DOT ABOVE", 0x10B),
    ("LATIN CAPITAL LETTER C WITH CARON", 0x10C),
    ("LATIN SMALL LETTER C WITH CARON", 0x10D),
    ("LATIN CAPITAL LETTER D WITH CARON", 0x10E),
    ("LATIN SMALL LETTER D WITH CARON", 0x10F),
    ("LATIN CAPITAL LETTER D WITH STROKE", 0x110),
    ("LATIN SMALL LETTER D WITH STROKE", 0x111),
    ("LATIN CAPITAL LETTER E WITH MACRON", 0x112),
    ("LATIN SMALL LETTER E WITH MACRON", 0x113),
    ("LATIN CAPITAL LETTER E WITH BREVE", 0x114),
    ("LATIN SMALL LETTER E WITH BREVE", 0x115),
    ("LATIN CAPITAL LETTER E WITH DOT ABOVE", 0x116),
    ("LATIN SMALL LETTER E WITH DOT ABOVE", 0x117),
    ("LATIN CAPITAL LETTER E WITH OGONEK", 0x118),
    ("LATIN SMALL LETTER E WITH OGONEK", 0x119),
    ("LATIN CAPITAL LETTER E WITH CARON", 0x11A),
    ("LATIN SMALL LETTER E WITH CARON", 0x11B),
    ("LATIN CAPITAL LETTER G WITH CIRCUMFLEX", 0x11C),
    ("LATIN SMALL LETTER G WITH CIRCUMFLEX", 0x11D),
    ("LATIN CAPITAL LETTER G WITH BREVE", 0x11E),
    ("LATIN SMALL LETTER G WITH BREVE", 0x11F),
    ("LATIN CAPITAL LETTER G WITH DOT ABOVE", 0x120),
    ("LATIN SMALL LETTER G WITH DOT ABOVE", 0x121),
    ("LATIN CAPITAL LETTER G WITH CEDILLA", 0x122),
    ("LATIN SMALL LETTER G WITH CEDILLA", 0x123),
    ("LATIN CAPITAL LETTER H WITH CIRCUMFLEX", 0x124),
    ("LATIN SMALL LETTER H WITH CIRCUMFLEX", 0x125),
    ("LATIN CAPITAL LETTER H WITH STROKE", 0x126),
    ("LATIN SMALL LETTER H WITH STROKE", 0x127),
    ("LATIN CAPITAL LETTER I WITH TILDE", 0x128),
    ("LATIN SMALL LETTER I WITH TILDE", 0x129),
    ("LATIN CAPITAL LETTER I WITH MACRON", 0x12A),
    ("LATIN SMALL LETTER I WITH MACRON", 0x12B),
    ("LATIN CAPITAL LETTER I WITH BREVE", 0x12C),
    ("LATIN SMALL LETTER I WITH BREVE", 0x12D),
    ("LATIN CAPITAL LETTER I WITH OGONEK", 0x12E),
    ("LATIN SMALL LETTER I WITH OGONEK", 0x12F),
    ("LATIN CAPITAL LETTER I WITH DOT ABOVE", 0x130),
    ("LATIN SMALL LETTER DOTLESS I", 0x131),
    ("LATIN CAPITAL LIGATURE IJ", 0x132),
    ("LATIN SMALL LIGATURE IJ", 0x133),
    ("LATIN CAPITAL LETTER J WITH CIRCUMFLEX", 0x134),
    ("LATIN SMALL LETTER J WITH CIRCUMFLEX", 0x135),
    ("LATIN CAPITAL LETTER K WITH CEDILLA", 0x136),
    ("LATIN SMALL LETTER K WITH CEDILLA", 0x137),
    ("LATIN SMALL LETTER KRA", 0x138),
    ("LATIN CAPITAL LETTER L WITH ACUTE", 0x139),
    ("LATIN SMALL LETTER L WITH ACUTE", 0x13A),
    ("LATIN CAPITAL LETTER L WITH CEDILLA", 0x13B),
    ("LATIN SMALL LETTER L WITH CEDILLA", 0x13C),
    ("LATIN CAPITAL LETTER L WITH CARON", 0x13D),
    ("LATIN SMALL LETTER L WITH CARON", 0x13E),
    ("LATIN CAPITAL LETTER L WITH MIDDLE DOT", 0x13F),
    ("LATIN SMALL LETTER L WITH MIDDLE DOT", 0x140),
    ("LATIN CAPITAL LETTER L WITH STROKE", 0x141),
    ("LATIN SMALL LETTER L WITH STROKE", 0x142),
    ("LATIN CAPITAL LETTER N WITH ACUTE", 0x143),
    ("LATIN SMALL LETTER N WITH ACUTE", 0x144),
    ("LATIN CAPITAL LETTER N WITH CEDILLA", 0x145),
    ("LATIN SMALL LETTER N WITH CEDILLA", 0x146),
    ("LATIN CAPITAL LETTER N WITH CARON", 0x147),
    ("LATIN SMALL LETTER N WITH CARON", 0x148),
    ("LATIN SMALL LETTER N PRECEDED BY APOSTROPHE", 0x149),
    ("LATIN CAPITAL LETTER ENG", 0x14A),
    ("LATIN SMALL LETTER ENG", 0x14B),
    ("LATIN CAPITAL LETTER O WITH MACRON", 0x14C),
    ("LATIN SMALL LETTER O WITH MACRON", 0x14D),
    ("LATIN CAPITAL LETTER O WITH BREVE", 0x14E),
    ("LATIN SMALL LETTER O WITH BREVE", 0x14F),
    ("LATIN CAPITAL LETTER O WITH DOUBLE ACUTE", 0x150),
    ("LATIN SMALL LETTER O WITH DOUBLE ACUTE", 0x151),
    ("LATIN CAPITAL LIGATURE OE", 0x152),
    ("LATIN SMALL LIGATURE OE", 0x153),
    ("LATIN CAPITAL LETTER R WITH ACUTE", 0x154),
    ("LATIN SMALL LETTER R WITH ACUTE", 0x155),
    ("LATIN CAPITAL LETTER R WITH CEDILLA", 0x156),
    ("LATIN SMALL LETTER R WITH CEDILLA", 0x157),
    ("LATIN CAPITAL LETTER R WITH CARON", 0x158),
    ("LATIN SMALL LETTER R WITH CARON", 0x159),
    ("LATIN CAPITAL LETTER S WITH ACUTE", 0x15A),
    ("LATIN SMALL LETTER S WITH ACUTE", 0x15B),
    ("LATIN CAPITAL LETTER S WITH CIRCUMFLEX", 0x15C),
    ("LATIN SMALL LETTER S WITH CIRCUMFLEX", 0x15D),
    ("LATIN CAPITAL LETTER S WITH CEDILLA", 0x15E),
    ("LATIN SMALL LETTER S WITH CEDILLA", 0x15F),
    ("LATIN CAPITAL LETTER S WITH CARON", 0x160),
    ("LATIN SMALL LETTER S WITH CARON", 0x161),
    ("LATIN CAPITAL LETTER T WITH CEDILLA", 0x162),
    ("LATIN SMALL LETTER T WITH CEDILLA", 0x163),
    ("LATIN CAPITAL LETTER T WITH CARON", 0x164),
    ("LATIN SMALL LETTER T WITH CARON", 0x165),
    ("LATIN CAPITAL LETTER T WITH STROKE", 0x166),
    ("LATIN SMALL LETTER T WITH STROKE", 0x167),
    ("LATIN CAPITAL LETTER U WITH TILDE", 0x168),
    ("LATIN SMALL LETTER U WITH TILDE", 0x169),
    ("LATIN CAPITAL LETTER U WITH MACRON", 0x16A),
    ("LATIN SMALL LETTER U WITH MACRON", 0x16B),
    ("LATIN CAPITAL LETTER U WITH BREVE", 0x16C),
    ("LATIN SMALL LETTER U WITH BREVE", 0x16D),
    ("LATIN CAPITAL LETTER U WITH RING ABOVE", 0x16E),
    ("LATIN SMALL LETTER U WITH RING ABOVE", 0x16F),
    ("LATIN CAPITAL LETTER U WITH DOUBLE ACUTE", 0x170),
    ("LATIN SMALL LETTER U WITH DOUBLE ACUTE", 0x171),
    ("LATIN CAPITAL LETTER U WITH OGONEK", 0x172),
    ("LATIN SMALL LETTER U WITH OGONEK", 0x173),
    ("LATIN CAPITAL LETTER W WITH CIRCUMFLEX", 0x174),
    ("LATIN SMALL LETTER W WITH CIRCUMFLEX", 0x175),
    ("LATIN CAPITAL LETTER Y WITH CIRCUMFLEX", 0x176),
    ("LATIN SMALL LETTER Y WITH CIRCUMFLEX", 0x177),
    ("LATIN CAPITAL LETTER Y WITH DIAERESIS", 0x178),
    ("LATIN CAPITAL LETTER Z WITH ACUTE", 0x179),
    ("LATIN SMALL LETTER Z WITH ACUTE", 0x17A),
    ("LATIN CAPITAL LETTER Z WITH DOT ABOVE", 0x17B),
    ("LATIN SMALL LETTER Z WITH DOT ABOVE", 0x17C),
    ("LATIN CAPITAL LETTER Z WITH CARON", 0x17D),
    ("LATIN SMALL LETTER Z WITH CARON", 0x17E),
    ("LATIN SMALL LETTER LONG S", 0x17F),
    ("LATIN SMALL LETTER B WITH STROKE", 0x180),
    ("LATIN CAPITAL LETTER B WITH HOOK", 0x181),
    ("LATIN CAPITAL LETTER B WITH TOPBAR", 0x182),
    ("LATIN SMALL LETTER B WITH TOPBAR", 0x183),
    ("LATIN CAPITAL LETTER TONE SIX", 0x184),
    ("LATIN SMALL LETTER TONE SIX", 0x185),
    ("LATIN CAPITAL LETTER OPEN O", 0x186),
    ("LATIN CAPITAL LETTER C WITH HOOK", 0x187),
    ("LATIN SMALL LETTER C WITH HOOK", 0x188),
    ("LATIN CAPITAL LETTER AFRICAN D", 0x189),
    ("LATIN CAPITAL LETTER D WITH HOOK", 0x18A),
    ("LATIN CAPITAL LETTER D WITH TOPBAR", 0x18B),
    ("LATIN SMALL LETTER D WITH TOPBAR", 0x18C),
    ("LATIN SMALL LETTER TURNED DELTA", 0x18D),
    ("LATIN CAPITAL LETTER REVERSED E", 0x18E),
    ("LATIN CAPITAL LETTER SCHWA", 0x18F),
    ("LATIN CAPITAL LETTER OPEN E", 0x190),
    ("LATIN CAPITAL LETTER F WITH HOOK", 0x191),
    ("LATIN SMALL LETTER F WITH HOOK", 0x192),
    ("LATIN CAPITAL LETTER G WITH HOOK", 0x193),
    ("LATIN CAPITAL LETTER GAMMA", 0x194),
    ("LATIN SMALL LETTER HV", 0x195),
    ("LATIN CAPITAL LETTER IOTA", 0x196),
    ("LATIN CAPITAL LETTER I WITH STROKE", 0x197),
    ("LATIN CAPITAL LETTER K WITH HOOK", 0x198),
    ("LATIN SMALL LETTER K WITH HOOK", 0x199),
    ("LATIN SMALL LETTER L WITH BAR", 0x19A),
    ("LATIN SMALL LETTER LAMBDA WITH STROKE", 0x19B),
    ("LATIN CAPITAL LETTER TURNED M", 0x19C),
    ("LATIN CAPITAL LETTER N WITH LEFT HOOK", 0x19D),
    ("LATIN SMALL LETTER N WITH LONG RIGHT LEG", 0x19E),
    ("LATIN CAPITAL LETTER O WITH MIDDLE TILDE", 0x19F),
    ("LATIN CAPITAL LETTER O WITH HORN", 0x1A0),
    ("LATIN SMALL LETTER O WITH HORN", 0x1A1),
    ("LATIN CAPITAL LETTER OI", 0x1A2),
    ("LATIN SMALL LETTER OI", 0x1A3),
    ("LATIN CAPITAL LETTER P WITH HOOK", 0x1A4),
    ("LATIN SMALL LETTER P WITH HOOK", 0x1A5),
    ("LATIN LETTER YR", 0x1A6),
    ("LATIN CAPITAL LETTER TONE TWO", 0x1A7),
    ("LATIN SMALL LETTER TONE TWO", 0x1A8),
    ("LATIN CAPITAL LETTER ESH", 0x1A9),
    ("LATIN LETTER REVERSED ESH LOOP", 0x1AA),
    ("LATIN SMALL LETTER T WITH PALATAL HOOK", 0x1AB),
    ("LATIN CAPITAL LETTER T WITH HOOK", 0x1AC),
    ("LATIN SMALL LETTER T WITH HOOK", 0x1AD),
    ("LATIN CAPITAL LETTER T WITH RETROFLEX HOOK", 0x1AE),
    ("LATIN CAPITAL LETTER U WITH HORN", 0x1AF),
    ("LATIN SMALL LETTER U WITH HORN", 0x1B0),
    ("LATIN CAPITAL LETTER UPSILON", 0x1B1),
    ("LATIN CAPITAL LETTER V WITH HOOK", 0x1B2),
    ("LATIN CAPITAL LETTER Y WITH HOOK", 0x1B3),
    ("LATIN SMALL LETTER Y WITH HOOK", 0x1B4),
    ("LATIN CAPITAL LETTER Z WITH STROKE", 0x1B5),
    ("LATIN SMALL LETTER Z WITH STROKE", 0x1B6),
    ("LATIN CAPITAL LETTER EZH", 0x1B7),
    ("LATIN CAPITAL LETTER EZH REVERSED", 0x1B8),
    ("LATIN SMALL LETTER EZH REVERSED", 0x1B9),
    ("LATIN SMALL LETTER EZH WITH TAIL", 0x1BA),
    ("LATIN LETTER TWO WITH STROKE", 0x1BB),
    ("LATIN CAPITAL LETTER TONE FIVE", 0x1BC),
    ("LATIN SMALL LETTER TONE FIVE", 0x1BD),
    ("LATIN LETTER INVERTED GLOTTAL STOP WITH STROKE", 0x1BE),
    ("LATIN LETTER WYNN", 0x1BF),
    ("LATIN LETTER DENTAL CLICK", 0x1C0),
    ("LATIN LETTER LATERAL CLICK", 0x1C1),
    ("LATIN LETTER ALVEOLAR CLICK", 0x1C2),
    ("LATIN LETTER RETROFLEX CLICK", 0x1C3),
    ("LATIN CAPITAL LETTER DZ WITH CARON", 0x1C4),
    ("LATIN CAPITAL LETTER D WITH SMALL LETTER Z WITH CARON", 0x1C5),
    ("LATIN SMALL LETTER DZ WITH CARON", 0x1C6),
    ("LATIN CAPITAL LETTER LJ", 0x1C7),
    ("LATIN CAPITAL LETTER L WITH SMALL LETTER J", 0x1C8),
    ("LATIN SMALL LETTER LJ", 0x1C9),
    ("LATIN CAPITAL LETTER NJ", 0x1CA),
    ("LATIN CAPITAL LETTER N WITH SMALL LETTER J", 0x1CB),
    ("LATIN SMALL LETTER NJ", 0x1CC),
    ("LATIN CAPITAL LETTER A WITH CARON", 0x1CD),
    ("LATIN SMALL LETTER A WITH CARON", 0x1CE),
    ("LATIN CAPITAL LETTER I WITH CARON", 0x1CF),
    ("LATIN SMALL LETTER I WITH CARON", 0x1D0),
    ("LATIN CAPITAL LETTER O WITH CARON", 0x1D1),
    ("LATIN SMALL LETTER O WITH CARON", 0x1D2),
    ("LATIN CAPITAL LETTER U WITH CARON", 0x1D3),
    ("LATIN SMALL LETTER U WITH CARON", 0x1D4),
    ("LATIN CAPITAL LETTER U WITH DIAERESIS AND MACRON", 0x1D5),
    ("LATIN SMALL LETTER U WITH DIAERESIS AND MACRON", 0x1D6),
    ("LATIN CAPITAL LETTER U WITH DIAERESIS AND ACUTE", 0x1D7),
    ("LATIN SMALL LETTER U WITH DIAERESIS AND ACUTE", 0x1D8),
    ("LATIN CAPITAL LETTER U WITH DIAERESIS AND CARON", 0x1D9),
    ("LATIN SMALL LETTER U WITH DIAERESIS AND CARON", 0x1DA),
    ("LATIN CAPITAL LETTER U WITH DIAERESIS AND GRAVE", 0x1DB),
    ("LATIN SMALL LETTER U WITH DIAERESIS AND GRAVE", 0x1DC),
    ("LATIN SMALL LETTER TURNED E", 0x1DD),
    ("LATIN CAPITAL LETTER A WITH DIAERESIS AND MACRON", 0x1DE),
    ("LATIN SMALL LETTER A WITH DIAERESIS AND MACRON", 0x1DF),
    ("LATIN CAPITAL LETTER A WITH DOT ABOVE AND MACRON", 0x1E0),
    ("LATIN SMALL LETTER A WITH DOT ABOVE AND MACRON", 0x1E1),
    ("LATIN CAPITAL LETTER AE WITH MACRON", 0x1E2),
    ("LATIN SMALL LETTER AE WITH MACRON", 0x1E3),
    ("LATIN CAPITAL LETTER G WITH STROKE", 0x1E4),
    ("LATIN SMALL LETTER G WITH STROKE", 0x1E5),
    ("LATIN CAPITAL LETTER G WITH CARON", 0x1E6),
    ("LATIN SMALL LETTER G WITH CARON", 0x1E7),
    ("LATIN CAPITAL LETTER K WITH CARON", 0x1E8),
    ("LATIN SMALL LETTER K WITH CARON", 0x1E9),
    ("LATIN CAPITAL LETTER O WITH OGONEK", 0x1EA),
    ("LATIN SMALL LETTER O WITH OGONEK", 0x1EB),
    ("LATIN CAPITAL LETTER O WITH OGONEK AND MACRON", 0x1EC),
    ("LATIN SMALL LETTER O WITH OGONEK AND MACRON", 0x1ED),
    ("LATIN CAPITAL LETTER EZH WITH CARON", 0x1EE),
    ("LATIN SMALL LETTER EZH WITH CARON", 0x1EF),
    ("LATIN SMALL LETTER J WITH CARON", 0x1F0),
    ("LATIN CAPITAL LETTER DZ", 0x1F1),
    ("LATIN CAPITAL LETTER D WITH SMALL LETTER Z", 0x1F2),
    ("LATIN SMALL LETTER DZ", 0x1F3),
    ("LATIN CAPITAL LETTER G WITH ACUTE", 0x1F4),
    ("LATIN SMALL LETTER G WITH ACUTE", 0x1F5),
    ("LATIN CAPITAL LETTER HWAIR", 0x1F6),
    ("LATIN CAPITAL LETTER WYNN", 0x1F7),
    ("LATIN CAPITAL LETTER N WITH GRAVE", 0x1F8),
    ("LATIN SMALL LETTER N WITH GRAVE", 0x1F9),
    ("LATIN CAPITAL LETTER A WITH RING ABOVE AND ACUTE", 0x1FA),
    ("LATIN SMALL LETTER A WITH RING ABOVE AND ACUTE", 0x1FB),
    ("LATIN CAPITAL LETTER AE WITH ACUTE", 0x1FC),
    ("LATIN SMALL LETTER AE WITH ACUTE", 0x1FD),
    ("LATIN CAPITAL LETTER O WITH STROKE AND ACUTE", 0x1FE),
    ("LATIN SMALL LETTER O WITH STROKE AND ACUTE", 0x1FF),
    ("LATIN CAPITAL LETTER A WITH DOUBLE GRAVE", 0x200),
    ("LATIN SMALL LETTER A WITH DOUBLE GRAVE", 0x201),
    ("LATIN CAPITAL LETTER A WITH INVERTED BREVE", 0x202),
    ("LATIN SMALL LETTER A WITH INVERTED BREVE", 0x203),
    ("LATIN CAPITAL LETTER E WITH DOUBLE GRAVE", 0x204),
    ("LATIN SMALL LETTER E WITH DOUBLE GRAVE", 0x205),
    ("LATIN CAPITAL LETTER E WITH INVERTED BREVE", 0x206),
    ("LATIN SMALL LETTER E WITH INVERTED BREVE", 0x207),
    ("LATIN CAPITAL LETTER I WITH DOUBLE GRAVE", 0x208),
    ("LATIN SMALL LETTER I WITH DOUBLE GRAVE", 0x209),
    ("LATIN CAPITAL LETTER I WITH INVERTED BREVE", 0x20A),
    ("LATIN SMALL LETTER I WITH INVERTED BREVE", 0x20B),
    ("LATIN CAPITAL LETTER O WITH DOUBLE GRAVE", 0x20C),
    ("LATIN SMALL LETTER O WITH DOUBLE GRAVE", 0x20D),
    ("LATIN CAPITAL LETTER O WITH INVERTED BREVE", 0x20E),
    ("LATIN SMALL LETTER O WITH INVERTED BREVE", 0x20F),
    ("LATIN CAPITAL LETTER R WITH DOUBLE GRAVE", 0x210),
    ("LATIN SMALL LETTER R WITH DOUBLE GRAVE", 0x211),
    ("LATIN CAPITAL LETTER R WITH INVERTED BREVE", 0x212),
    ("LATIN SMALL LETTER R WITH INVERTED BREVE", 0x213),
    ("LATIN CAPITAL LETTER U WITH DOUBLE GRAVE", 0x214),
    ("LATIN SMALL LETTER U WITH DOUBLE GRAVE", 0x215),
    ("LATIN CAPITAL LETTER U WITH INVERTED BREVE", 0x216),
    ("LATIN SMALL LETTER U WITH INVERTED BREVE", 0x217),
    ("LATIN CAPITAL LETTER S WITH COMMA BELOW", 0x218),
    ("LATIN SMALL LETTER S WITH COMMA BELOW", 0x219),
    ("LATIN CAPITAL LETTER T WITH COMMA BELOW", 0x21A),
    ("LATIN SMALL LETTER T WITH COMMA BELOW", 0x21B),
    ("LATIN CAPITAL LETTER YOGH", 0x21C),
    ("LATIN SMALL LETTER YOGH", 0x21D),
    ("LATIN CAPITAL LETTER H WITH CARON", 0x21E),
    ("LATIN SMALL LETTER H WITH CARON", 0x21F),
    ("LATIN CAPITAL LETTER N WITH LONG RIGHT LEG", 0x220),
    ("LATIN SMALL LETTER D WITH CURL", 0x221),
    ("LATIN CAPITAL LETTER OU", 0x222),
    ("LATIN SMALL LETTER OU", 0x223),
    ("LATIN CAPITAL LETTER Z WITH HOOK", 0x224),
    ("LATIN SMALL LETTER Z WITH HOOK", 0x225),
    ("LATIN CAPITAL LETTER A WITH DOT ABOVE", 0x226),
    ("LATIN SMALL LETTER A WITH DOT ABOVE", 0x227),
    ("LATIN CAPITAL LETTER E WITH CEDILLA", 0x228),
    ("LATIN SMALL LETTER E WITH CEDILLA", 0x229),
    ("LATIN CAPITAL LETTER O WITH DIAERESIS AND MACRON", 0x22A),
    ("LATIN SMALL LETTER O WITH DIAERESIS AND MACRON", 0x22B),
    ("LATIN CAPITAL LETTER O WITH TILDE AND MACRON", 0x22C),
    ("LATIN SMALL LETTER O WITH TILDE AND MACRON", 0x22D),
    ("LATIN CAPITAL LETTER O WITH DOT ABOVE", 0x22E),
    ("LATIN SMALL LETTER O WITH DOT ABOVE", 0x22F),
    ("LATIN CAPITAL LETTER O WITH DOT ABOVE AND MACRON", 0x230),
    ("LATIN SMALL LETTER O WITH DOT ABOVE AND MACRON", 0x231),
    ("LATIN CAPITAL LETTER Y WITH MACRON", 0x232),
    ("LATIN SMALL LETTER Y WITH MACRON", 0x233),
    ("LATIN SMALL LETTER L WITH CURL", 0x234),
    ("LATIN SMALL LETTER N WITH CURL", 0x235),
    ("LATIN SMALL LETTER T WITH CURL", 0x236),
    ("LATIN SMALL LETTER DOTLESS J", 0x237),
    ("LATIN SMALL LETTER DB DIGRAPH", 0x238),
    ("LATIN SMALL LETTER QP DIGRAPH", 0x239),
    ("LATIN CAPITAL LETTER A WITH STROKE", 0x23A),
    ("LATIN CAPITAL LETTER C WITH STROKE", 0x23B),
    ("LATIN SMALL LETTER C WITH STROKE", 0x23C),
    ("LATIN CAPITAL LETTER L WITH BAR", 0x23D),
    ("LATIN CAPITAL LETTER T WITH DIAGONAL STROKE", 0x23E),
    ("LATIN SMALL LETTER S WITH SWASH TAIL", 0x23F),
    ("LATIN SMALL LETTER Z WITH SWASH TAIL", 0x240),
    ("LATIN CAPITAL LETTER GLOTTAL STOP", 0x241),
    ("LATIN SMALL LETTER GLOTTAL STOP", 0x242),
    ("LATIN CAPITAL LETTER B WITH STROKE", 0x243),
    ("LATIN CAPITAL LETTER U BAR", 0x244),
    ("LATIN CAPITAL LETTER TURNED V", 0x245),
    ("LATIN CAPITAL LETTER E WITH STROKE", 0x246),
    ("LATIN SMALL LETTER E WITH STROKE", 0x247),
    ("LATIN CAPITAL LETTER J WITH STROKE", 0x248),
    ("LATIN SMALL LETTER J WITH STROKE", 0x249),
    ("LATIN CAPITAL LETTER SMALL Q WITH HOOK TAIL", 0x24A),
    ("LATIN SMALL LETTER Q WITH HOOK TAIL", 0x24B),
    ("LATIN CAPITAL LETTER R WITH STROKE", 0x24C),
    ("LATIN SMALL LETTER R WITH STROKE", 0x24D),
    ("LATIN CAPITAL LETTER Y WITH STROKE", 0x24E),
    ("LATIN SMALL LETTER Y WITH STROKE", 0x24F),
    ("MODIFIER LETTER SMALL H", 0x2B0),
    ("MODIFIER LETTER SMALL H WITH HOOK", 0x2B1),
    ("MODIFIER LETTER SMALL J", 0x2B2),
    ("MODIFIER LETTER SMALL R", 0x2B3),
    ("MODIFIER LETTER SMALL TURNED R", 0x2B4),
    ("MODIFIER LETTER SMALL TURNED R WITH HOOK", 0x2B5),
    ("MODIFIER LETTER SMALL CAPITAL INVERTED R", 0x2B6),
    ("MODIFIER LETTER SMALL W", 0x2B7),
    ("MODIFIER LETTER SMALL Y", 0x2B8),
    ("MODIFIER LETTER PRIME", 0x2B9),
    ("MODIFIER LETTER DOUBLE PRIME", 0x2BA),
    ("MODIFIER LETTER TURNED COMMA", 0x2BB),
    ("MODIFIER LETTER APOSTROPHE", 0x2BC),
    ("MODIFIER LETTER REVERSED COMMA", 0x2BD),
    ("MODIFIER LETTER RIGHT HALF RING", 0x2BE),
    ("MODIFIER LETTER LEFT HALF RING", 0x2BF),
    ("MODIFIER LETTER GLOTTAL STOP", 0x2C0),
    ("MODIFIER LETTER REVERSED GLOTTAL STOP", 0x2C1),
    ("MODIFIER LETTER LEFT ARROWHEAD", 0x2C2),
    ("MODIFIER LETTER RIGHT ARROWHEAD", 0x2C3),
    ("MODIFIER LETTER UP ARROWHEAD", 0x2C4),
    ("MODIFIER LETTER DOWN ARROWHEAD", 0x2C5),
    ("MODIFIER LETTER CIRCUMFLEX ACCENT", 0x2C6),
    ("CARON", 0x2C7),
    ("MODIFIER LETTER VERTICAL LINE", 0x2C8),
    ("MODIFIER LETTER MACRON", 0x2C9),
    ("MODIFIER LETTER ACUTE ACCENT", 0x2CA),
    ("MODIFIER LETTER GRAVE ACCENT", 0x2CB),
    ("MODIFIER LETTER LOW VERTICAL LINE", 0x2CC),
    ("MODIFIER LETTER LOW MACRON", 0x2CD),
    ("MODIFIER LETTER LOW GRAVE ACCENT", 0x2CE),
    ("MODIFIER LETTER LOW ACUTE ACCENT", 0x2CF),
    ("MODIFIER LETTER TRIANGULAR COLON", 0x2D0),
    ("MODIFIER LETTER HALF TRIANGULAR COLON", 0x2D1),
    ("MODIFIER LETTER CENTRED RIGHT HALF RING", 0x2D2),
    ("MODIFIER LETTER CENTRED LEFT HALF RING", 0x2D3),
    ("MODIFIER LETTER UP TACK", 0x2D4),
    ("MODIFIER LETTER DOWN TACK", 0x2D5),
    ("MODIFIER LETTER PLUS SIGN", 0x2D6),
    ("MODIFIER LETTER MINUS SIGN", 0x2D7),
    ("BREVE", 0x2D8),
    ("DOT ABOVE", 0x2D9),
    ("RING ABOVE", 0x2DA),
    ("OGONEK", 0x2DB),
    ("SMALL TILDE", 0x2DC),
    ("DOUBLE ACUTE ACCENT", 0x2DD),
    ("MODIFIER LETTER RHOTIC HOOK", 0x2DE),
    ("MODIFIER LETTER CROSS ACCENT", 0x2DF),
    ("MODIFIER LETTER SMALL GAMMA", 0x2E0),
    ("MODIFIER LETTER SMALL L", 0x2E1),
    ("MODIFIER LETTER SMALL S", 0x2E2),
    ("MODIFIER LETTER SMALL X", 0x2E3),
    ("MODIFIER LETTER SMALL REVERSED GLOTTAL STOP", 0x2E4),
    ("MODIFIER LETTER EXTRA-HIGH TONE BAR", 0x2E5),
    ("MODIFIER LETTER HIGH TONE BAR", 0x2E6),
    ("MODIFIER LETTER MID TONE BAR", 0x2E7),
    ("MODIFIER LETTER LOW TONE BAR", 0x2E8),
    ("MODIFIER LETTER EXTRA-LOW TONE BAR", 0x2E9),
    ("MODIFIER LETTER YIN DEPARTING TONE MARK", 0x2EA),
    ("MODIFIER LETTER YANG DEPARTING TONE MARK", 0x2EB),
    ("MODIFIER LETTER VOICING", 0x2EC),
    ("MODIFIER LETTER UNASPIRATED", 0x2ED),
    ("MODIFIER LETTER DOUBLE APOSTROPHE", 0x2EE),
    ("MODIFIER LETTER LOW DOWN ARROWHEAD", 0x2EF),
    ("MODIFIER LETTER LOW UP ARROWHEAD", 0x2F0),
    ("MODIFIER LETTER LOW LEFT ARROWHEAD", 0x2F1),
    ("MODIFIER LETTER LOW RIGHT ARROWHEAD", 0x2F2),
    ("MODIFIER LETTER LOW RING", 0x2F3),
    ("MODIFIER LETTER MIDDLE GRAVE ACCENT", 0x2F4),
    ("MODIFIER LETTER MIDDLE DOUBLE GRAVE ACCENT", 0x2F5),
    ("MODIFIER LETTER MIDDLE DOUBLE ACUTE ACCENT", 0x2F6),
    ("MODIFIER LETTER LOW TILDE", 0x2F7),
    ("MODIFIER LETTER RAISED COLON", 0x2F8),
    ("MODIFIER LETTER BEGIN HIGH TONE", 0x2F9),
    ("MODIFIER LETTER END HIGH TONE", 0x2FA),
    ("MODIFIER LETTER BEGIN LOW TONE", 0x2FB),
    ("MODIFIER LETTER END LOW TONE", 0x2FC),
    ("MODIFIER LETTER SHELF", 0x2FD),
    ("MODIFIER LETTER OPEN SHELF", 0x2FE),
    ("MODIFIER LETTER LOW LEFT ARROW", 0x2FF),
    ("COMBINING GRAVE ACCENT", 0x300),
    ("COMBINING ACUTE ACCENT", 0x301),
    ("COMBINING CIRCUMFLEX ACCENT", 0x302),
    ("COMBINING TILDE", 0x303),
    ("COMBINING MACRON", 0x304),
    ("COMBINING OVERLINE", 0x305),
    ("COMBINING BREVE", 0x306),
    ("COMBINING DOT ABOVE", 0x307),
    ("COMBINING DIAERESIS", 0x308),
    ("COMBINING HOOK ABOVE", 0x309),
    ("COMBINING RING ABOVE", 0x30A),
    ("COMBINING DOUBLE ACUTE ACCENT", 0x30B),
    ("COMBINING CARON", 0x30C),
    ("COMBINING VERTICAL LINE ABOVE", 0x30D),
    ("COMBINING DOUBLE VERTICAL LINE ABOVE", 0x30E),
    ("COMBINING DOUBLE GRAVE ACCENT", 0x30F),
    ("COMBINING CANDRABINDU", 0x310),
    ("COMBINING INVERTED BREVE", 0x311),
    ("COMBINING TURNED COMMA ABOVE", 0x312),
    ("COMBINING COMMA ABOVE", 0x313),
    ("COMBINING REVERSED COMMA ABOVE", 0x314),
    ("COMBINING COMMA ABOVE RIGHT", 0x315),
    ("COMBINING GRAVE ACCENT BELOW", 0x316),
    ("COMBINING ACUTE ACCENT BELOW", 0x317),
    ("COMBINING LEFT TACK BELOW", 0x318),
    ("COMBINING RIGHT TACK BELOW", 0x319),
    ("COMBINING LEFT ANGLE ABOVE", 0x31A),
    ("COMBINING HORN", 0x31B),
    ("COMBINING LEFT HALF RING BELOW", 0x31C),
    ("COMBINING UP TACK BELOW", 0x31D),
    ("COMBINING DOWN TACK BELOW", 0x31E),
    ("COMBINING PLUS SIGN BELOW", 0x31F),
    ("COMBINING MINUS SIGN BELOW", 0x320),
    ("COMBINING PALATALIZED HOOK BELOW", 0x321),
    ("COMBINING RETROFLEX HOOK BELOW", 0x322),
    ("COMBINING DOT BELOW", 0x323),
    ("COMBINING DIAERESIS BELOW", 0x324),
    ("COMBINING RING BELOW", 0x325),
    ("COMBINING COMMA BELOW", 0x326),
    ("COMBINING CEDILLA", 0x327),
    ("COMBINING OGONEK", 0x328),
    ("COMBINING VERTICAL LINE BELOW", 0x329),
    ("COMBINING BRIDGE BELOW", 0x32A),
    ("COMBINING INVERTED DOUBLE ARCH BELOW", 0x32B),
    ("COMBINING CARON BELOW", 0x32C),
    ("COMBINING CIRCUMFLEX ACCENT BELOW", 0x32D),
    ("COMBINING BREVE BELOW", 0x32E),
    ("COMBINING INVERTED BREVE BELOW", 0x32F),
    ("COMBINING TILDE BELOW", 0x330),
    ("COMBINING MACRON BELOW", 0x331),
    ("COMBINING LOW LINE", 0x332),
    ("COMBINING DOUBLE LOW LINE", 0x333),
    ("COMBINING TILDE OVERLAY", 0x334),
    ("COMBINING SHORT STROKE OVERLAY", 0x335),
    ("COMBINING LONG STROKE OVERLAY", 0x336),
    ("COMBINING SHORT SOLIDUS OVERLAY", 0x337),
    ("COMBINING LONG SOLIDUS OVERLAY", 0x338),
    ("COMBINING RIGHT HALF RING BELOW", 0x339),
    ("COMBINING INVERTED BRIDGE BELOW", 0x33A),
    ("COMBINING SQUARE BELOW", 0x33B),
    ("COMBINING SEAGULL BELOW", 0x33C),
    ("COMBINING X ABOVE", 0x33D),
    ("COMBINING VERTICAL TILDE", 0x33E),
    ("COMBINING DOUBLE OVERLINE", 0x33F),
    ("COMBINING GRAVE TONE MARK", 0x340),
    ("COMBINING ACUTE TONE MARK", 0x341),
    ("COMBINING GREEK PERISPOMENI", 0x342),
    ("COMBINING GREEK KORONIS", 0x343),
    ("COMBINING GREEK DIALYTIKA TONOS", 0x344),
    ("COMBINING GREEK YPOGEGRAMMENI", 0x345),
    ("COMBINING BRIDGE ABOVE", 0x346),
    ("COMBINING EQUALS SIGN BELOW", 0x347),
    ("COMBINING DOUBLE VERTICAL LINE BELOW", 0x348),
    ("COMBINING LEFT ANGLE BELOW", 0x349),
    ("COMBINING NOT TILDE ABOVE", 0x34A),
    ("COMBINING HOMOTHETIC ABOVE", 0x34B),
    ("COMBINING ALMOST EQUAL TO ABOVE", 0x34C),
    ("COMBINING LEFT RIGHT ARROW BELOW", 0x34D),
    ("COMBINING UPWARDS ARROW BELOW", 0x34E),
    ("COMBINING GRAPHEME JOINER", 0x34F),
    ("COMBINING RIGHT ARROWHEAD ABOVE", 0x350),
    ("COMBINING LEFT HALF RING ABOVE", 0x351),
    ("COMBINING FERMATA", 0x352),
    ("COMBINING X BELOW", 0x353),
    ("COMBINING LEFT ARROWHEAD BELOW", 0x354),
    ("COMBINING RIGHT ARROWHEAD BELOW", 0x355),
    ("COMBINING RIGHT ARROWHEAD AND UP ARROWHEAD BELOW", 0x356),
    ("COMBINING RIGHT HALF RING ABOVE", 0x357),
    ("COMBINING DOT ABOVE RIGHT", 0x358),
    ("COMBINING ASTERISK BELOW", 0x359),
    ("COMBINING DOUBLE RING BELOW", 0x35A),
    ("COMBINING ZIGZAG ABOVE", 0x35B),
    ("COMBINING DOUBLE BREVE BELOW", 0x35C),
    ("COMBINING DOUBLE BREVE", 0x35D),
    ("COMBINING DOUBLE MACRON", 0x35E),
    ("COMBINING DOUBLE MACRON BELOW", 0x35F),
    ("COMBINING DOUBLE TILDE", 0x360),
    ("COMBINING DOUBLE INVERTED BREVE", 0x361),
    ("COMBINING DOUBLE RIGHTWARDS ARROW BELOW", 0x362),
    ("COMBINING LATIN SMALL LETTER A", 0x363),
    ("COMBINING LATIN SMALL LETTER E", 0x364),
    ("COMBINING LATIN SMALL LETTER I", 0x365),
    ("COMBINING LATIN SMALL LETTER O", 0x366),
    ("COMBINING LATIN SMALL LETTER U", 0x367),
    ("COMBINING LATIN SMALL LETTER C", 0x368),
    ("COMBINING LATIN SMALL LETTER D", 0x369),
    ("COMBINING LATIN SMALL LETTER H", 0x36A),
    ("COMBINING LATIN SMALL LETTER M", 0x36B),
    ("COMBINING LATIN SMALL LETTER R", 0x36C),
    ("COMBINING LATIN SMALL LETTER T", 0x36D),
    ("COMBINING LATIN SMALL LETTER V", 0x36E),
    ("COMBINING LATIN SMALL LETTER X", 0x36F),
    ("GREEK CAPITAL LETTER HETA", 0x370),
    ("GREEK SMALL LETTER HETA", 0x371),
    ("GREEK CAPITAL LETTER ARCHAIC SAMPI", 0x372),
    ("GREEK SMALL LETTER ARCHAIC SAMPI", 0x373),
    ("GREEK NUMERAL SIGN", 0x374),
    ("GREEK LOWER NUMERAL SIGN", 0x375),
    ("GREEK CAPITAL LETTER PAMPHYLIAN DIGAMMA", 0x376),
    ("GREEK SMALL LETTER PAMPHYLIAN DIGAMMA", 0x377),
    ("GREEK YPOGEGRAMMENI", 0x37A),
    ("GREEK SMALL REVERSED LUNATE SIGMA SYMBOL", 0x37B),
    ("GREEK SMALL DOTTED LUNATE SIGMA SYMBOL", 0x37C),
    ("GREEK SMALL REVERSED DOTTED LUNATE SIGMA SYMBOL", 0x37D),
    ("GREEK QUESTION MARK", 0x37E),
    ("GREEK CAPITAL LETTER YOT", 0x37F),
    ("GREEK TONOS", 0x384),
    ("GREEK DIALYTIKA TONOS", 0x385),
    ("GREEK CAPITAL LETTER ALPHA WITH TONOS", 0x386),
    ("GREEK ANO TELEIA", 0x387),
    ("GREEK CAPITAL LETTER EPSILON WITH TONOS", 0x388),
    ("GREEK CAPITAL LETTER ETA WITH TONOS", 0x389),
    ("GREEK CAPITAL LETTER IOTA WITH TONOS", 0x38A),
    ("GREEK CAPITAL LETTER OMICRON WITH TONOS", 0x38C),
    ("GREEK CAPITAL LETTER UPSILON WITH TONOS", 0x38E),
    ("GREEK CAPITAL LETTER OMEGA WITH TONOS", 0x38F),
    ("GREEK SMALL LETTER IOTA WITH DIALYTIKA AND TONOS", 0x390),
    ("GREEK CAPITAL LETTER ALPHA", 0x391),
    ("GREEK CAPITAL LETTER BETA", 0x392),
    ("GREEK CAPITAL LETTER GAMMA", 0x393),
    ("GREEK CAPITAL LETTER DELTA", 0x394),
    ("GREEK CAPITAL LETTER EPSILON", 0x395),
    ("GREEK CAPITAL LETTER ZETA", 0x396),
    ("GREEK CAPITAL LETTER ETA", 0x397),
    ("GREEK CAPITAL LETTER THETA", 0x398),
    ("GREEK CAPITAL LETTER IOTA", 0x399),
    ("GREEK CAPITAL LETTER KAPPA", 0x39A),
    ("GREEK CAPITAL LETTER LAMDA", 0x39B),
    ("GREEK CAPITAL LETTER MU", 0x39C),
    ("GREEK CAPITAL LETTER NU", 0x39D),
    ("GREEK CAPITAL LETTER XI", 0x39E),
    ("GREEK CAPITAL LETTER OMICRON", 0x39F),
    ("GREEK CAPITAL LETTER PI", 0x3A0),
    ("GREEK CAPITAL LETTER RHO", 0x3A1),
    ("GREEK CAPITAL LETTER SIGMA", 0x3A3),
    ("GREEK CAPITAL LETTER TAU", 0x3A4),
    ("GREEK CAPITAL LETTER UPSILON", 0x3A5),
    ("GREEK CAPITAL LETTER PHI", 0x3A6),
    ("GREEK CAPITAL LETTER CHI", 0x3A7),
    ("GREEK CAPITAL LETTER PSI", 0x3A8),
    ("GREEK CAPITAL LETTER OMEGA", 0x3A9),
    ("GREEK CAPITAL LETTER IOTA WITH DIALYTIKA", 0x3AA),
    ("GREEK CAPITAL LETTER UPSILON WITH DIALYTIKA", 0x3AB),
    ("GREEK SMALL LETTER ALPHA WITH TONOS", 0x3AC),
    ("GREEK SMALL LETTER EPSILON WITH TONOS", 0x3AD),
    ("GREEK SMALL LETTER ETA WITH TONOS", 0x3AE),
    ("GREEK SMALL LETTER IOTA WITH TONOS", 0x3AF),
    ("GREEK SMALL LETTER UPSILON WITH DIALYTIKA AND TONOS", 0x3B0),
    ("GREEK SMALL LETTER ALPHA", 0x3B1),
    ("GREEK SMALL LETTER BETA", 0x3B2),
    ("GREEK SMALL LETTER GAMMA", 0x3B3),
    ("GREEK SMALL LETTER DELTA", 0x3B4),
    ("GREEK SMALL LETTER EPSILON", 0x3B5),
    ("GREEK SMALL LETTER ZETA", 0x3B6),
    ("GREEK SMALL LETTER ETA", 0x3B7),
    ("GREEK SMALL LETTER THETA", 0x3B8),
    ("GREEK SMALL LETTER IOTA", 0x3B9),
    ("GREEK SMALL LETTER KAPPA", 0x3BA),
    ("GREEK SMALL LETTER LAMDA", 0x3BB),
    ("GREEK SMALL LETTER MU", 0x3BC),
    ("GREEK SMALL LETTER NU", 0x3BD),
    ("GREEK SMALL LETTER XI", 0x3BE),
    ("GREEK SMALL LETTER OMICRON", 0x3BF),
    ("GREEK SMALL LETTER PI", 0x3C0),
    ("GREEK SMALL LETTER RHO", 0x3C1),
    ("GREEK SMALL LETTER FINAL SIGMA", 0x3C2),
    ("GREEK SMALL LETTER SIGMA", 0x3C3),
    ("GREEK SMALL LETTER TAU", 0x3C4),
    ("GREEK SMALL LETTER UPSILON", 0x3C5),
    ("GREEK SMALL LETTER PHI", 0x3C6),
    ("GREEK SMALL LETTER CHI", 0x3C7),
    ("GREEK SMALL LETTER PSI", 0x3C8),
    ("GREEK SMALL LETTER OMEGA", 0x3C9),
    ("GREEK SMALL LETTER IOTA WITH DIALYTIKA", 0x3CA),
    ("GREEK SMALL LETTER UPSILON WITH DIALYTIKA", 0x3CB),
    ("GREEK SMALL LETTER OMICRON WITH TONOS", 0x3CC),
    ("GREEK SMALL LETTER UPSILON WITH TONOS", 0x3CD),
    ("GREEK SMALL LETTER OMEGA WITH TONOS", 0x3CE),
    ("GREEK CAPITAL KAI SYMBOL", 0x3CF),
    ("GREEK BETA SYMBOL", 0x3D0),
    ("GREEK THETA SYMBOL", 0x3D1),
    ("GREEK UPSILON WITH HOOK SYMBOL", 0x3D2),
    ("GREEK UPSILON WITH ACUTE AND HOOK SYMBOL", 0x3D3),
    ("GREEK UPSILON WITH DIAERESIS AND HOOK SYMBOL", 0x3D4),
    ("GREEK PHI SYMBOL", 0x3D5),
    ("GREEK PI SYMBOL", 0x3D6),
    ("GREEK KAI SYMBOL", 0x3D7),
    ("GREEK LETTER ARCHAIC KOPPA", 0x3D8),
    ("GREEK SMALL LETTER ARCHAIC KOPPA", 0x3D9),
    ("GREEK LETTER STIGMA", 0x3DA),
    ("GREEK SMALL LETTER STIGMA", 0x3DB),
    ("GREEK LETTER DIGAMMA", 0x3DC),
    ("GREEK SMALL LETTER DIGAMMA", 0x3DD),
    ("GREEK LETTER KOPPA", 0x3DE),
    ("GREEK SMALL LETTER KOPPA", 0x3DF),
    ("GREEK LETTER SAMPI", 0x3E0),
    ("GREEK SMALL LETTER SAMPI", 0x3E1),
    ("COPTIC CAPITAL LETTER SHEI", 0x3E2),
    ("COPTIC SMALL LETTER SHEI", 0x3E3),
    ("COPTIC CAPITAL LETTER FEI", 0x3E4),
    ("COPTIC SMALL LETTER FEI", 0x3E5),
    ("COPTIC CAPITAL LETTER KHEI", 0x3E6),
    ("COPTIC SMALL LETTER KHEI", 0x3E7),
    ("COPTIC CAPITAL LETTER HORI", 0x3E8),
    ("COPTIC SMALL LETTER HORI", 0x3E9),
    ("COPTIC CAPITAL LETTER GANGIA", 0x3EA),
    ("COPTIC SMALL LETTER GANGIA", 0x3EB),
    ("COPTIC CAPITAL LETTER SHIMA", 0x3EC),
    ("COPTIC SMALL LETTER SHIMA", 0x3ED),
    ("COPTIC CAPITAL LETTER DEI", 0x3EE),
    ("COPTIC SMALL LETTER DEI", 0x3EF),
    ("GREEK KAPPA SYMBOL", 0x3F0),
    ("GREEK RHO SYMBOL", 0x3F1),
    ("GREEK LUNATE SIGMA SYMBOL", 0x3F2),
    ("GREEK LETTER YOT", 0x3F3),
    ("GREEK CAPITAL THETA SYMBOL", 0x3F4),
    ("GREEK LUNATE EPSILON SYMBOL", 0x3F5),
    ("GREEK REVERSED LUNATE EPSILON SYMBOL", 0x3F6),
    ("GREEK CAPITAL LETTER SHO", 0x3F7),
    ("GREEK SMALL LETTER SHO", 0x3F8),
    ("GREEK CAPITAL LUNATE SIGMA SYMBOL", 0x3F9),
    ("GREEK CAPITAL LETTER SAN", 0x3FA),
    ("GREEK SMALL LETTER SAN", 0x3FB),
    ("GREEK RHO WITH STROKE SYMBOL", 0x3FC),
    ("GREEK CAPITAL REVERSED LUNATE SIGMA SYMBOL", 0x3FD),
    ("GREEK CAPITAL DOTTED LUNATE SIGMA SYMBOL", 0x3FE),
    ("GREEK CAPITAL REVERSED DOTTED LUNATE SIGMA SYMBOL", 0x3FF),
    ("CYRILLIC CAPITAL LETTER IE WITH GRAVE", 0x400),
    ("CYRILLIC CAPITAL LETTER IO", 0x401),
    ("CYRILLIC CAPITAL LETTER DJE", 0x402),
    ("CYRILLIC CAPITAL LETTER GJE", 0x403),
    ("CYRILLIC CAPITAL LETTER UKRAINIAN IE", 0x404),
    ("CYRILLIC CAPITAL LETTER DZE", 0x405),
    ("CYRILLIC CAPITAL LETTER BYELORUSSIAN-UKRAINIAN I", 0x406),
    ("CYRILLIC CAPITAL LETTER YI", 0x407),
    ("CYRILLIC CAPITAL LETTER JE", 0x408),
    ("CYRILLIC CAPITAL LETTER LJE", 0x409),
    ("CYRILLIC CAPITAL LETTER NJE", 0x40A),
    ("CYRILLIC CAPITAL LETTER TSHE", 0x40B),
    ("CYRILLIC CAPITAL LETTER KJE", 0x40C),
    ("CYRILLIC CAPITAL LETTER I WITH GRAVE", 0x40D),
    ("CYRILLIC CAPITAL LETTER SHORT U", 0x40E),
    ("CYRILLIC CAPITAL LETTER DZHE", 0x40F),
    ("CYRILLIC CAPITAL LETTER A", 0x410),
    ("CYRILLIC CAPITAL LETTER BE", 0x411),
    ("CYRILLIC CAPITAL LETTER VE", 0x412),
    ("CYRILLIC CAPITAL LETTER GHE", 0x413),
    ("CYRILLIC CAPITAL LETTER DE", 0x414),
    ("CYRILLIC CAPITAL LETTER IE", 0x415),
    ("CYRILLIC CAPITAL LETTER ZHE", 0x416),
    ("CYRILLIC CAPITAL LETTER ZE", 0x417),
    ("CYRILLIC CAPITAL LETTER I", 0x418),
    ("CYRILLIC CAPITAL LETTER SHORT I", 0x419),
    ("CYRILLIC CAPITAL LETTER KA", 0x41A),
    ("CYRILLIC CAPITAL LETTER EL", 0x41B),
    ("CYRILLIC CAPITAL LETTER EM", 0x41C),
    ("CYRILLIC CAPITAL LETTER EN", 0x41D),
    ("CYRILLIC CAPITAL LETTER O", 0x41E),
    ("CYRILLIC CAPITAL LETTER PE", 0x41F),
    ("CYRILLIC CAPITAL LETTER ER", 0x420),
    ("CYRILLIC CAPITAL LETTER ES", 0x421),
    ("CYRILLIC CAPITAL LETTER TE", 0x422),
    ("CYRILLIC CAPITAL LETTER U", 0x423),
    ("CYRILLIC CAPITAL LETTER EF", 0x424),
    ("CYRILLIC CAPITAL LETTER HA", 0x425),
    ("CYRILLIC CAPITAL LETTER TSE", 0x426),
    ("CYRILLIC CAPITAL LETTER CHE", 0x427),
    ("CYRILLIC CAPITAL LETTER SHA", 0x428),
    ("CYRILLIC CAPITAL LETTER SHCHA", 0x429),
    ("CYRILLIC CAPITAL LETTER HARD SIGN", 0x42A),
    ("CYRILLIC CAPITAL LETTER YERU", 0x42B),
    ("CYRILLIC CAPITAL LETTER SOFT SIGN", 0x42C),
    ("CYRILLIC CAPITAL LETTER E", 0x42D),
    ("CYRILLIC CAPITAL LETTER YU", 0x42E),
    ("CYRILLIC CAPITAL LETTER YA", 0x42F),
    ("CYRILLIC SMALL LETTER A", 0x430),
    ("CYRILLIC SMALL LETTER BE", 0x431),
    ("CYRILLIC SMALL LETTER VE", 0x432),
    ("CYRILLIC SMALL LETTER GHE", 0x433),
    ("CYRILLIC SMALL LETTER DE", 0x434),
    ("CYRILLIC SMALL LETTER IE", 0x435),
    ("CYRILLIC SMALL LETTER ZHE", 0x436),
    ("CYRILLIC SMALL LETTER ZE", 0x437),
    ("CYRILLIC SMALL LETTER I", 0x438),
    ("CYRILLIC SMALL LETTER SHORT I", 0x439),
    ("CYRILLIC SMALL LETTER KA", 0x43A),
    ("CYRILLIC SMALL LETTER EL", 0x43B),
    ("CYRILLIC SMALL LETTER EM", 0x43C),
    ("CYRILLIC SMALL LETTER EN", 0x43D),
    ("CYRILLIC SMALL LETTER O", 0x43E),
    ("CYRILLIC SMALL LETTER PE", 0x43F),
    ("CYRILLIC SMALL LETTER ER", 0x440),
    ("CYRILLIC SMALL LETTER ES", 0x441),
    ("CYRILLIC SMALL LETTER TE", 0x442),
    ("CYRILLIC SMALL LETTER U", 0x443),
    ("CYRILLIC SMALL LETTER EF", 0x444),
    ("CYRILLIC SMALL LETTER HA", 0x445),
    ("CYRILLIC SMALL LETTER TSE", 0x446),
    ("CYRILLIC SMALL LETTER CHE", 0x447),
    ("CYRILLIC SMALL LETTER SHA", 0x448),
    ("CYRILLIC SMALL LETTER SHCHA", 0x449),
    ("CYRILLIC SMALL LETTER HARD SIGN", 0x44A),
    ("CYRILLIC SMALL LETTER YERU", 0x44B),
    ("CYRILLIC SMALL LETTER SOFT SIGN", 0x44C),
    ("CYRILLIC SMALL LETTER E", 0x44D),
    ("CYRILLIC SMALL LETTER YU", 0x44E),
    ("CYRILLIC SMALL LETTER YA", 0x44F),
    ("CYRILLIC SMALL LETTER IE WITH GRAVE", 0x450),
    ("CYRILLIC SMALL LETTER IO", 0x451),
    ("CYRILLIC SMALL LETTER DJE", 0x452),
    ("CYRILLIC SMALL LETTER GJE", 0x453),
    ("CYRILLIC SMALL LETTER UKRAINIAN IE", 0x454),
    ("CYRILLIC SMALL LETTER DZE", 0x455),
    ("CYRILLIC SMALL LETTER BYELORUSSIAN-UKRAINIAN I", 0x456),
    ("CYRILLIC SMALL LETTER YI", 0x457),
    ("CYRILLIC SMALL LETTER JE", 0x458),
    ("CYRILLIC SMALL LETTER LJE", 0x459),
    ("CYRILLIC SMALL LETTER NJE", 0x45A),
    ("CYRILLIC SMALL LETTER TSHE", 0x45B),
    ("CYRILLIC SMALL LETTER KJE", 0x45C),
    ("CYRILLIC SMALL LETTER I WITH GRAVE", 0x45D),
    ("CYRILLIC SMALL LETTER SHORT U", 0x45E),
    ("CYRILLIC SMALL LETTER DZHE", 0x45F),
    ("HEBREW LETTER ALEF", 0x5D0),
    ("HEBREW LETTER BET", 0x5D1),
    ("HEBREW LETTER GIMEL", 0x5D2),
    ("HEBREW LETTER DALET", 0x5D3),
    ("HEBREW LETTER HE", 0x5D4),
    ("HEBREW LETTER VAV", 0x5D5),
    ("HEBREW LETTER ZAYIN", 0x5D6),
    ("HEBREW LETTER HET", 0x5D7),
    ("HEBREW LETTER TET", 0x5D8),
    ("HEBREW LETTER YOD", 0x5D9),
    ("HEBREW LETTER FINAL KAF", 0x5DA),
    ("HEBREW LETTER KAF", 0x5DB),
    ("HEBREW LETTER LAMED", 0x5DC),
    ("HEBREW LETTER FINAL MEM", 0x5DD),
    ("HEBREW LETTER MEM", 0x5DE),
    ("HEBREW LETTER FINAL NUN", 0x5DF),
    ("HEBREW LETTER NUN", 0x5E0),
    ("HEBREW LETTER SAMEKH", 0x5E1),
    ("HEBREW LETTER AYIN", 0x5E2),
    ("HEBREW LETTER FINAL PE", 0x5E3),
    ("HEBREW LETTER PE", 0x5E4),
    ("HEBREW LETTER FINAL TSADI", 0x5E5),
    ("HEBREW LETTER TSADI", 0x5E6),
    ("HEBREW LETTER QOF", 0x5E7),
    ("HEBREW LETTER RESH", 0x5E8),
    ("HEBREW LETTER SHIN", 0x5E9),
    ("HEBREW LETTER TAV", 0x5EA),
    ("LATIN SMALL LIGATURE FF", 0xFB00),
    ("LATIN SMALL LIGATURE FI", 0xFB01),
    ("LATIN SMALL LIGATURE FL", 0xFB02),
    ("LATIN SMALL LIGATURE FFI", 0xFB03),
    ("LATIN SMALL LIGATURE FFL", 0xFB04),
    ("LATIN SMALL LIGATURE LONG S T", 0xFB05),
    ("LATIN SMALL LIGATURE ST", 0xFB06),
    ("ZERO WIDTH NO-BREAK SPACE", 0xFEFF),
    ("OBJECT REPLACEMENT CHARACTER", 0xFFFC),
    ("REPLACEMENT CHARACTER", 0xFFFD),
    ("NULL", 0x0),
    ("START OF HEADING", 0x1),
    ("START OF TEXT", 0x2),
    ("END OF TEXT", 0x3),
    ("END OF TRANSMISSION", 0x4),
    ("ENQUIRY", 0x5),
    ("ACKNOWLEDGE", 0x6),
    ("ALERT", 0x7),
    ("BACKSPACE", 0x8),
    ("CHARACTER TABULATION", 0x9),
    ("HORIZONTAL TABULATION", 0x9),
    ("LINE FEED", 0xA),
    ("NEW LINE", 0xA),
    ("END OF LINE", 0xA),
    ("LINE TABULATION", 0xB),
    ("VERTICAL TABULATION", 0xB),
    ("FORM FEED", 0xC),
    ("CARRIAGE RETURN", 0xD),
    ("SHIFT OUT", 0xE),
    ("SHIFT IN", 0xF),
    ("CANCEL", 0x18),
    ("SUBSTITUTE", 0x1A),
    ("ESCAPE", 0x1B),
    ("DELETE", 0x7F),
    ("NEXT LINE", 0x85),
    ("NUL", 0x0),
    ("SOH", 0x1),
    ("STX", 0x2),
    ("ETX", 0x3),
    ("EOT", 0x4),
    ("ENQ", 0x5),
    ("ACK", 0x6),
    ("BEL", 0x7),
    ("BS", 0x8),
    ("HT", 0x9),
    ("TAB", 0x9),
    ("LF", 0xA),
    ("NL", 0xA),
    ("EOL", 0xA),
    ("VT", 0xB),
    ("FF", 0xC),
    ("CR", 0xD),
    ("SO", 0xE),
    ("SI", 0xF),
    ("DLE", 0x10),
    ("NAK", 0x15),
    ("SYN", 0x16),
    ("ETB", 0x17),
    ("CAN", 0x18),
    ("SUB", 0x1A),
    ("ESC", 0x1B),
    ("FS", 0x1C),
    ("GS", 0x1D),
    ("RS", 0x1E),
    ("US", 0x1F),
    ("SP", 0x20),
    ("DEL", 0x7F),
    ("NEL", 0x85),
    ("NBSP", 0xA0),
    ("SHY", 0xAD),
    ("ZWSP", 0x200B),
    ("ZWNJ", 0x200C),
    ("ZWJ", 0x200D),
    ("LRM", 0x200E),
    ("RLM", 0x200F),
    ("BOM", 0xFEFF),
    ("ZWNBSP", 0xFEFF),
    ("BYTE ORDER MARK", 0xFEFF),
    ("INFORMATION SEPARATOR FOUR", 0x1C),
    ("FILE SEPARATOR", 0x1C),
    ("GROUP SEPARATOR", 0x1D),
    ("RECORD SEPARATOR", 0x1E),
    ("UNIT SEPARATOR", 0x1F)]

end Cabinet.Text
