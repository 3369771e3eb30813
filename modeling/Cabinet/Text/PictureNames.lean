/-!
The names of kana, their punctuation, and pictures.
-/

namespace Cabinet.Text

set_option maxRecDepth 20000 in
/-- Names and the code points they stand for. -/
def pictureNames : List (String × Nat) := [
    ("IDEOGRAPHIC SPACE", 0x3000),
    ("IDEOGRAPHIC COMMA", 0x3001),
    ("IDEOGRAPHIC FULL STOP", 0x3002),
    ("DITTO MARK", 0x3003),
    ("JAPANESE INDUSTRIAL STANDARD SYMBOL", 0x3004),
    ("IDEOGRAPHIC ITERATION MARK", 0x3005),
    ("IDEOGRAPHIC CLOSING MARK", 0x3006),
    ("IDEOGRAPHIC NUMBER ZERO", 0x3007),
    ("LEFT ANGLE BRACKET", 0x3008),
    ("RIGHT ANGLE BRACKET", 0x3009),
    ("LEFT DOUBLE ANGLE BRACKET", 0x300A),
    ("RIGHT DOUBLE ANGLE BRACKET", 0x300B),
    ("LEFT CORNER BRACKET", 0x300C),
    ("RIGHT CORNER BRACKET", 0x300D),
    ("LEFT WHITE CORNER BRACKET", 0x300E),
    ("RIGHT WHITE CORNER BRACKET", 0x300F),
    ("LEFT BLACK LENTICULAR BRACKET", 0x3010),
    ("RIGHT BLACK LENTICULAR BRACKET", 0x3011),
    ("POSTAL MARK", 0x3012),
    ("GETA MARK", 0x3013),
    ("LEFT TORTOISE SHELL BRACKET", 0x3014),
    ("RIGHT TORTOISE SHELL BRACKET", 0x3015),
    ("LEFT WHITE LENTICULAR BRACKET", 0x3016),
    ("RIGHT WHITE LENTICULAR BRACKET", 0x3017),
    ("LEFT WHITE TORTOISE SHELL BRACKET", 0x3018),
    ("RIGHT WHITE TORTOISE SHELL BRACKET", 0x3019),
    ("LEFT WHITE SQUARE BRACKET", 0x301A),
    ("RIGHT WHITE SQUARE BRACKET", 0x301B),
    ("WAVE DASH", 0x301C),
    ("REVERSED DOUBLE PRIME QUOTATION MARK", 0x301D),
    ("DOUBLE PRIME QUOTATION MARK", 0x301E),
    ("LOW DOUBLE PRIME QUOTATION MARK", 0x301F),
    ("POSTAL MARK FACE", 0x3020),
    ("HANGZHOU NUMERAL ONE", 0x3021),
    ("HANGZHOU NUMERAL TWO", 0x3022),
    ("HANGZHOU NUMERAL THREE", 0x3023),
    ("HANGZHOU NUMERAL FOUR", 0x3024),
    ("HANGZHOU NUMERAL FIVE", 0x3025),
    ("HANGZHOU NUMERAL SIX", 0x3026),
    ("HANGZHOU NUMERAL SEVEN", 0x3027),
    ("HANGZHOU NUMERAL EIGHT", 0x3028),
    ("HANGZHOU NUMERAL NINE", 0x3029),
    ("IDEOGRAPHIC LEVEL TONE MARK", 0x302A),
    ("IDEOGRAPHIC RISING TONE MARK", 0x302B),
    ("IDEOGRAPHIC DEPARTING TONE MARK", 0x302C),
    ("IDEOGRAPHIC ENTERING TONE MARK", 0x302D),
    ("HANGUL SINGLE DOT TONE MARK", 0x302E),
    ("HANGUL DOUBLE DOT TONE MARK", 0x302F),
    ("WAVY DASH", 0x3030),
    ("VERTICAL KANA REPEAT MARK", 0x3031),
    ("VERTICAL KANA REPEAT WITH VOICED SOUND MARK", 0x3032),
    ("VERTICAL KANA REPEAT MARK UPPER HALF", 0x3033),
    ("VERTICAL KANA REPEAT WITH VOICED SOUND MARK UPPER HALF", 0x3034),
    ("VERTICAL KANA REPEAT MARK LOWER HALF", 0x3035),
    ("CIRCLED POSTAL MARK", 0x3036),
    ("IDEOGRAPHIC TELEGRAPH LINE FEED SEPARATOR SYMBOL", 0x3037),
    ("HANGZHOU NUMERAL TEN", 0x3038),
    ("HANGZHOU NUMERAL TWENTY", 0x3039),
    ("HANGZHOU NUMERAL THIRTY", 0x303A),
    ("VERTICAL IDEOGRAPHIC ITERATION MARK", 0x303B),
    ("MASU MARK", 0x303C),
    ("PART ALTERNATION MARK", 0x303D),
    ("IDEOGRAPHIC VARIATION INDICATOR", 0x303E),
    ("IDEOGRAPHIC HALF FILL SPACE", 0x303F),
    ("HIRAGANA LETTER SMALL A", 0x3041),
    ("HIRAGANA LETTER A", 0x3042),
    ("HIRAGANA LETTER SMALL I", 0x3043),
    ("HIRAGANA LETTER I", 0x3044),
    ("HIRAGANA LETTER SMALL U", 0x3045),
    ("HIRAGANA LETTER U", 0x3046),
    ("HIRAGANA LETTER SMALL E", 0x3047),
    ("HIRAGANA LETTER E", 0x3048),
    ("HIRAGANA LETTER SMALL O", 0x3049),
    ("HIRAGANA LETTER O", 0x304A),
    ("HIRAGANA LETTER KA", 0x304B),
    ("HIRAGANA LETTER GA", 0x304C),
    ("HIRAGANA LETTER KI", 0x304D),
    ("HIRAGANA LETTER GI", 0x304E),
    ("HIRAGANA LETTER KU", 0x304F),
    ("HIRAGANA LETTER GU", 0x3050),
    ("HIRAGANA LETTER KE", 0x3051),
    ("HIRAGANA LETTER GE", 0x3052),
    ("HIRAGANA LETTER KO", 0x3053),
    ("HIRAGANA LETTER GO", 0x3054),
    ("HIRAGANA LETTER SA", 0x3055),
    ("HIRAGANA LETTER ZA", 0x3056),
    ("HIRAGANA LETTER SI", 0x3057),
    ("HIRAGANA LETTER ZI", 0x3058),
    ("HIRAGANA LETTER SU", 0x3059),
    ("HIRAGANA LETTER ZU", 0x305A),
    ("HIRAGANA LETTER SE", 0x305B),
    ("HIRAGANA LETTER ZE", 0x305C),
    ("HIRAGANA LETTER SO", 0x305D),
    ("HIRAGANA LETTER ZO", 0x305E),
    ("HIRAGANA LETTER TA", 0x305F),
    ("HIRAGANA LETTER DA", 0x3060),
    ("HIRAGANA LETTER TI", 0x3061),
    ("HIRAGANA LETTER DI", 0x3062),
    ("HIRAGANA LETTER SMALL TU", 0x3063),
    ("HIRAGANA LETTER TU", 0x3064),
    ("HIRAGANA LETTER DU", 0x3065),
    ("HIRAGANA LETTER TE", 0x3066),
    ("HIRAGANA LETTER DE", 0x3067),
    ("HIRAGANA LETTER TO", 0x3068),
    ("HIRAGANA LETTER DO", 0x3069),
    ("HIRAGANA LETTER NA", 0x306A),
    ("HIRAGANA LETTER NI", 0x306B),
    ("HIRAGANA LETTER NU", 0x306C),
    ("HIRAGANA LETTER NE", 0x306D),
    ("HIRAGANA LETTER NO", 0x306E),
    ("HIRAGANA LETTER HA", 0x306F),
    ("HIRAGANA LETTER BA", 0x3070),
    ("HIRAGANA LETTER PA", 0x3071),
    ("HIRAGANA LETTER HI", 0x3072),
    ("HIRAGANA LETTER BI", 0x3073),
    ("HIRAGANA LETTER PI", 0x3074),
    ("HIRAGANA LETTER HU", 0x3075),
    ("HIRAGANA LETTER BU", 0x3076),
    ("HIRAGANA LETTER PU", 0x3077),
    ("HIRAGANA LETTER HE", 0x3078),
    ("HIRAGANA LETTER BE", 0x3079),
    ("HIRAGANA LETTER PE", 0x307A),
    ("HIRAGANA LETTER HO", 0x307B),
    ("HIRAGANA LETTER BO", 0x307C),
    ("HIRAGANA LETTER PO", 0x307D),
    ("HIRAGANA LETTER MA", 0x307E),
    ("HIRAGANA LETTER MI", 0x307F),
    ("HIRAGANA LETTER MU", 0x3080),
    ("HIRAGANA LETTER ME", 0x3081),
    ("HIRAGANA LETTER MO", 0x3082),
    ("HIRAGANA LETTER SMALL YA", 0x3083),
    ("HIRAGANA LETTER YA", 0x3084),
    ("HIRAGANA LETTER SMALL YU", 0x3085),
    ("HIRAGANA LETTER YU", 0x3086),
    ("HIRAGANA LETTER SMALL YO", 0x3087),
    ("HIRAGANA LETTER YO", 0x3088),
    ("HIRAGANA LETTER RA", 0x3089),
    ("HIRAGANA LETTER RI", 0x308A),
    ("HIRAGANA LETTER RU", 0x308B),
    ("HIRAGANA LETTER RE", 0x308C),
    ("HIRAGANA LETTER RO", 0x308D),
    ("HIRAGANA LETTER SMALL WA", 0x308E),
    ("HIRAGANA LETTER WA", 0x308F),
    ("HIRAGANA LETTER WI", 0x3090),
    ("HIRAGANA LETTER WE", 0x3091),
    ("HIRAGANA LETTER WO", 0x3092),
    ("HIRAGANA LETTER N", 0x3093),
    ("HIRAGANA LETTER VU", 0x3094),
    ("HIRAGANA LETTER SMALL KA", 0x3095),
    ("HIRAGANA LETTER SMALL KE", 0x3096),
    ("COMBINING KATAKANA-HIRAGANA VOICED SOUND MARK", 0x3099),
    ("COMBINING KATAKANA-HIRAGANA SEMI-VOICED SOUND MARK", 0x309A),
    ("KATAKANA-HIRAGANA VOICED SOUND MARK", 0x309B),
    ("KATAKANA-HIRAGANA SEMI-VOICED SOUND MARK", 0x309C),
    ("HIRAGANA ITERATION MARK", 0x309D),
    ("HIRAGANA VOICED ITERATION MARK", 0x309E),
    ("HIRAGANA DIGRAPH YORI", 0x309F),
    ("KATAKANA-HIRAGANA DOUBLE HYPHEN", 0x30A0),
    ("KATAKANA LETTER SMALL A", 0x30A1),
    ("KATAKANA LETTER A", 0x30A2),
    ("KATAKANA LETTER SMALL I", 0x30A3),
    ("KATAKANA LETTER I", 0x30A4),
    ("KATAKANA LETTER SMALL U", 0x30A5),
    ("KATAKANA LETTER U", 0x30A6),
    ("KATAKANA LETTER SMALL E", 0x30A7),
    ("KATAKANA LETTER E", 0x30A8),
    ("KATAKANA LETTER SMALL O", 0x30A9),
    ("KATAKANA LETTER O", 0x30AA),
    ("KATAKANA LETTER KA", 0x30AB),
    ("KATAKANA LETTER GA", 0x30AC),
    ("KATAKANA LETTER KI", 0x30AD),
    ("KATAKANA LETTER GI", 0x30AE),
    ("KATAKANA LETTER KU", 0x30AF),
    ("KATAKANA LETTER GU", 0x30B0),
    ("KATAKANA LETTER KE", 0x30B1),
    ("KATAKANA LETTER GE", 0x30B2),
    ("KATAKANA LETTER KO", 0x30B3),
    ("KATAKANA LETTER GO", 0x30B4),
    ("KATAKANA LETTER SA", 0x30B5),
    ("KATAKANA LETTER ZA", 0x30B6),
    ("KATAKANA LETTER SI", 0x30B7),
    ("KATAKANA LETTER ZI", 0x30B8),
    ("KATAKANA LETTER SU", 0x30B9),
    ("KATAKANA LETTER ZU", 0x30BA),
    ("KATAKANA LETTER SE", 0x30BB),
    ("KATAKANA LETTER ZE", 0x30BC),
    ("KATAKANA LETTER SO", 0x30BD),
    ("KATAKANA LETTER ZO", 0x30BE),
    ("KATAKANA LETTER TA", 0x30BF),
    ("KATAKANA LETTER DA", 0x30C0),
    ("KATAKANA LETTER TI", 0x30C1),
    ("KATAKANA LETTER DI", 0x30C2),
    ("KATAKANA LETTER SMALL TU", 0x30C3),
    ("KATAKANA LETTER TU", 0x30C4),
    ("KATAKANA LETTER DU", 0x30C5),
    ("KATAKANA LETTER TE", 0x30C6),
    ("KATAKANA LETTER DE", 0x30C7),
    ("KATAKANA LETTER TO", 0x30C8),
    ("KATAKANA LETTER DO", 0x30C9),
    ("KATAKANA LETTER NA", 0x30CA),
    ("KATAKANA LETTER NI", 0x30CB),
    ("KATAKANA LETTER NU", 0x30CC),
    ("KATAKANA LETTER NE", 0x30CD),
    ("KATAKANA LETTER NO", 0x30CE),
    ("KATAKANA LETTER HA", 0x30CF),
    ("KATAKANA LETTER BA", 0x30D0),
    ("KATAKANA LETTER PA", 0x30D1),
    ("KATAKANA LETTER HI", 0x30D2),
    ("KATAKANA LETTER BI", 0x30D3),
    ("KATAKANA LETTER PI", 0x30D4),
    ("KATAKANA LETTER HU", 0x30D5),
    ("KATAKANA LETTER BU", 0x30D6),
    ("KATAKANA LETTER PU", 0x30D7),
    ("KATAKANA LETTER HE", 0x30D8),
    ("KATAKANA LETTER BE", 0x30D9),
    ("KATAKANA LETTER PE", 0x30DA),
    ("KATAKANA LETTER HO", 0x30DB),
    ("KATAKANA LETTER BO", 0x30DC),
    ("KATAKANA LETTER PO", 0x30DD),
    ("KATAKANA LETTER MA", 0x30DE),
    ("KATAKANA LETTER MI", 0x30DF),
    ("KATAKANA LETTER MU", 0x30E0),
    ("KATAKANA LETTER ME", 0x30E1),
    ("KATAKANA LETTER MO", 0x30E2),
    ("KATAKANA LETTER SMALL YA", 0x30E3),
    ("KATAKANA LETTER YA", 0x30E4),
    ("KATAKANA LETTER SMALL YU", 0x30E5),
    ("KATAKANA LETTER YU", 0x30E6),
    ("KATAKANA LETTER SMALL YO", 0x30E7),
    ("KATAKANA LETTER YO", 0x30E8),
    ("KATAKANA LETTER RA", 0x30E9),
    ("KATAKANA LETTER RI", 0x30EA),
    ("KATAKANA LETTER RU", 0x30EB),
    ("KATAKANA LETTER RE", 0x30EC),
    ("KATAKANA LETTER RO", 0x30ED),
    ("KATAKANA LETTER SMALL WA", 0x30EE),
    ("KATAKANA LETTER WA", 0x30EF),
    ("KATAKANA LETTER WI", 0x30F0),
    ("KATAKANA LETTER WE", 0x30F1),
    ("KATAKANA LETTER WO", 0x30F2),
    ("KATAKANA LETTER N", 0x30F3),
    ("KATAKANA LETTER VU", 0x30F4),
    ("KATAKANA LETTER SMALL KA", 0x30F5),
    ("KATAKANA LETTER SMALL KE", 0x30F6),
    ("KATAKANA LETTER VA", 0x30F7),
    ("KATAKANA LETTER VI", 0x30F8),
    ("KATAKANA LETTER VE", 0x30F9),
    ("KATAKANA LETTER VO", 0x30FA),
    ("KATAKANA MIDDLE DOT", 0x30FB),
    ("KATAKANA-HIRAGANA PROLONGED SOUND MARK", 0x30FC),
    ("KATAKANA ITERATION MARK", 0x30FD),
    ("KATAKANA VOICED ITERATION MARK", 0x30FE),
    ("KATAKANA DIGRAPH KOTO", 0x30FF),
    ("VARIATION SELECTOR-1", 0xFE00),
    ("VARIATION SELECTOR-2", 0xFE01),
    ("VARIATION SELECTOR-3", 0xFE02),
    ("VARIATION SELECTOR-4", 0xFE03),
    ("VARIATION SELECTOR-5", 0xFE04),
    ("VARIATION SELECTOR-6", 0xFE05),
    ("VARIATION SELECTOR-7", 0xFE06),
    ("VARIATION SELECTOR-8", 0xFE07),
    ("VARIATION SELECTOR-9", 0xFE08),
    ("VARIATION SELECTOR-10", 0xFE09),
    ("VARIATION SELECTOR-11", 0xFE0A),
    ("VARIATION SELECTOR-12", 0xFE0B),
    ("VARIATION SELECTOR-13", 0xFE0C),
    ("VARIATION SELECTOR-14", 0xFE0D),
    ("VARIATION SELECTOR-15", 0xFE0E),
    ("VARIATION SELECTOR-16", 0xFE0F),
    ("CYCLONE", 0x1F300),
    ("FOGGY", 0x1F301),
    ("CLOSED UMBRELLA", 0x1F302),
    ("NIGHT WITH STARS", 0x1F303),
    ("SUNRISE OVER MOUNTAINS", 0x1F304),
    ("SUNRISE", 0x1F305),
    ("CITYSCAPE AT DUSK", 0x1F306),
    ("SUNSET OVER BUILDINGS", 0x1F307),
    ("RAINBOW", 0x1F308),
    ("BRIDGE AT NIGHT", 0x1F309),
    ("WATER WAVE", 0x1F30A),
    ("VOLCANO", 0x1F30B),
    ("MILKY WAY", 0x1F30C),
    ("EARTH GLOBE EUROPE-AFRICA", 0x1F30D),
    ("EARTH GLOBE AMERICAS", 0x1F30E),
    ("EARTH GLOBE ASIA-AUSTRALIA", 0x1F30F),
    ("GLOBE WITH MERIDIANS", 0x1F310),
    ("NEW MOON SYMBOL", 0x1F311),
    ("WAXING CRESCENT MOON SYMBOL", 0x1F312),
    ("FIRST QUARTER MOON SYMBOL", 0x1F313),
    ("WAXING GIBBOUS MOON SYMBOL", 0x1F314),
    ("FULL MOON SYMBOL", 0x1F315),
    ("WANING GIBBOUS MOON SYMBOL", 0x1F316),
    ("LAST QUARTER MOON SYMBOL", 0x1F317),
    ("WANING CRESCENT MOON SYMBOL", 0x1F318),
    ("CRESCENT MOON", 0x1F319),
    ("NEW MOON WITH FACE", 0x1F31A),
    ("FIRST QUARTER MOON WITH FACE", 0x1F31B),
    ("LAST QUARTER MOON WITH FACE", 0x1F31C),
    ("FULL MOON WITH FACE", 0x1F31D),
    ("SUN WITH FACE", 0x1F31E),
    ("GLOWING STAR", 0x1F31F),
    ("SHOOTING STAR", 0x1F320),
    ("THERMOMETER", 0x1F321),
    ("BLACK DROPLET", 0x1F322),
    ("WHITE SUN", 0x1F323),
    ("WHITE SUN WITH SMALL CLOUD", 0x1F324),
    ("WHITE SUN BEHIND CLOUD", 0x1F325),
    ("WHITE SUN BEHIND CLOUD WITH RAIN", 0x1F326),
    ("CLOUD WITH RAIN", 0x1F327),
    ("CLOUD WITH SNOW", 0x1F328),
    ("CLOUD WITH LIGHTNING", 0x1F329),
    ("CLOUD WITH TORNADO", 0x1F32A),
    ("FOG", 0x1F32B),
    ("WIND BLOWING FACE", 0x1F32C),
    ("HOT DOG", 0x1F32D),
    ("TACO", 0x1F32E),
    ("BURRITO", 0x1F32F),
    ("CHESTNUT", 0x1F330),
    ("SEEDLING", 0x1F331),
    ("EVERGREEN TREE", 0x1F332),
    ("DECIDUOUS TREE", 0x1F333),
    ("PALM TREE", 0x1F334),
    ("CACTUS", 0x1F335),
    ("HOT PEPPER", 0x1F336),
    ("TULIP", 0x1F337),
    ("CHERRY BLOSSOM", 0x1F338),
    ("ROSE", 0x1F339),
    ("HIBISCUS", 0x1F33A),
    ("SUNFLOWER", 0x1F33B),
    ("BLOSSOM", 0x1F33C),
    ("EAR OF MAIZE", 0x1F33D),
    ("EAR OF RICE", 0x1F33E),
    ("HERB", 0x1F33F),
    ("FOUR LEAF CLOVER", 0x1F340),
    ("MAPLE LEAF", 0x1F341),
    ("FALLEN LEAF", 0x1F342),
    ("LEAF FLUTTERING IN WIND", 0x1F343),
    ("MUSHROOM", 0x1F344),
    ("TOMATO", 0x1F345),
    ("AUBERGINE", 0x1F346),
    ("GRAPES", 0x1F347),
    ("MELON", 0x1F348),
    ("WATERMELON", 0x1F349),
    ("TANGERINE", 0x1F34A),
    ("LEMON", 0x1F34B),
    ("BANANA", 0x1F34C),
    ("PINEAPPLE", 0x1F34D),
    ("RED APPLE", 0x1F34E),
    ("GREEN APPLE", 0x1F34F),
    ("PEAR", 0x1F350),
    ("PEACH", 0x1F351),
    ("CHERRIES", 0x1F352),
    ("STRAWBERRY", 0x1F353),
    ("HAMBURGER", 0x1F354),
    ("SLICE OF PIZZA", 0x1F355),
    ("MEAT ON BONE", 0x1F356),
    ("POULTRY LEG", 0x1F357),
    ("RICE CRACKER", 0x1F358),
    ("RICE BALL", 0x1F359),
    ("COOKED RICE", 0x1F35A),
    ("CURRY AND RICE", 0x1F35B),
    ("STEAMING BOWL", 0x1F35C),
    ("SPAGHETTI", 0x1F35D),
    ("BREAD", 0x1F35E),
    ("FRENCH FRIES", 0x1F35F),
    ("ROASTED SWEET POTATO", 0x1F360),
    ("DANGO", 0x1F361),
    ("ODEN", 0x1F362),
    ("SUSHI", 0x1F363),
    ("FRIED SHRIMP", 0x1F364),
    ("FISH CAKE WITH SWIRL DESIGN", 0x1F365),
    ("SOFT ICE CREAM", 0x1F366),
    ("SHAVED ICE", 0x1F367),
    ("ICE CREAM", 0x1F368),
    ("DOUGHNUT", 0x1F369),
    ("COOKIE", 0x1F36A),
    ("CHOCOLATE BAR", 0x1F36B),
    ("CANDY", 0x1F36C),
    ("LOLLIPOP", 0x1F36D),
    ("CUSTARD", 0x1F36E),
    ("HONEY POT", 0x1F36F),
    ("SHORTCAKE", 0x1F370),
    ("BENTO BOX", 0x1F371),
    ("POT OF FOOD", 0x1F372),
    ("COOKING", 0x1F373),
    ("FORK AND KNIFE", 0x1F374),
    ("TEACUP WITHOUT HANDLE", 0x1F375),
    ("SAKE BOTTLE AND CUP", 0x1F376),
    ("WINE GLASS", 0x1F377),
    ("COCKTAIL GLASS", 0x1F378),
    ("TROPICAL DRINK", 0x1F379),
    ("BEER MUG", 0x1F37A),
    ("CLINKING BEER MUGS", 0x1F37B),
    ("BABY BOTTLE", 0x1F37C),
    ("FORK AND KNIFE WITH PLATE", 0x1F37D),
    ("BOTTLE WITH POPPING CORK", 0x1F37E),
    ("POPCORN", 0x1F37F),
    ("RIBBON", 0x1F380),
    ("WRAPPED PRESENT", 0x1F381),
    ("BIRTHDAY CAKE", 0x1F382),
    ("JACK-O-LANTERN", 0x1F383),
    ("CHRISTMAS TREE", 0x1F384),
    ("FATHER CHRISTMAS", 0x1F385),
    ("FIREWORKS", 0x1F386),
    ("FIREWORK SPARKLER", 0x1F387),
    ("BALLOON", 0x1F388),
    ("PARTY POPPER", 0x1F389),
    ("CONFETTI BALL", 0x1F38A),
    ("TANABATA TREE", 0x1F38B),
    ("CROSSED FLAGS", 0x1F38C),
    ("PINE DECORATION", 0x1F38D),
    ("JAPANESE DOLLS", 0x1F38E),
    ("CARP STREAMER", 0x1F38F),
    ("WIND CHIME", 0x1F390),
    ("MOON VIEWING CEREMONY", 0x1F391),
    ("SCHOOL SATCHEL", 0x1F392),
    ("GRADUATION CAP", 0x1F393),
    ("HEART WITH TIP ON THE LEFT", 0x1F394),
    ("BOUQUET OF FLOWERS", 0x1F395),
    ("MILITARY MEDAL", 0x1F396),
    ("REMINDER RIBBON", 0x1F397),
    ("MUSICAL KEYBOARD WITH JACKS", 0x1F398),
    ("STUDIO MICROPHONE", 0x1F399),
    ("LEVEL SLIDER", 0x1F39A),
    ("CONTROL KNOBS", 0x1F39B),
    ("BEAMED ASCENDING MUSICAL NOTES", 0x1F39C),
    ("BEAMED DESCENDING MUSICAL NOTES", 0x1F39D),
    ("FILM FRAMES", 0x1F39E),
    ("ADMISSION TICKETS", 0x1F39F),
    ("CAROUSEL HORSE", 0x1F3A0),
    ("FERRIS WHEEL", 0x1F3A1),
    ("ROLLER COASTER", 0x1F3A2),
    ("FISHING POLE AND FISH", 0x1F3A3),
    ("MICROPHONE", 0x1F3A4),
    ("MOVIE CAMERA", 0x1F3A5),
    ("CINEMA", 0x1F3A6),
    ("HEADPHONE", 0x1F3A7),
    ("ARTIST PALETTE", 0x1F3A8),
    ("TOP HAT", 0x1F3A9),
    ("CIRCUS TENT", 0x1F3AA),
    ("TICKET", 0x1F3AB),
    ("CLAPPER BOARD", 0x1F3AC),
    ("PERFORMING ARTS", 0x1F3AD),
    ("VIDEO GAME", 0x1F3AE),
    ("DIRECT HIT", 0x1F3AF),
    ("SLOT MACHINE", 0x1F3B0),
    ("BILLIARDS", 0x1F3B1),
    ("GAME DIE", 0x1F3B2),
    ("BOWLING", 0x1F3B3),
    ("FLOWER PLAYING CARDS", 0x1F3B4),
    ("MUSICAL NOTE", 0x1F3B5),
    ("MULTIPLE MUSICAL NOTES", 0x1F3B6),
    ("SAXOPHONE", 0x1F3B7),
    ("GUITAR", 0x1F3B8),
    ("MUSICAL KEYBOARD", 0x1F3B9),
    ("TRUMPET", 0x1F3BA),
    ("VIOLIN", 0x1F3BB),
    ("MUSICAL SCORE", 0x1F3BC),
    ("RUNNING SHIRT WITH SASH", 0x1F3BD),
    ("TENNIS RACQUET AND BALL", 0x1F3BE),
    ("SKI AND SKI BOOT", 0x1F3BF),
    ("BASKETBALL AND HOOP", 0x1F3C0),
    ("CHEQUERED FLAG", 0x1F3C1),
    ("SNOWBOARDER", 0x1F3C2),
    ("RUNNER", 0x1F3C3),
    ("SURFER", 0x1F3C4),
    ("SPORTS MEDAL", 0x1F3C5),
    ("TROPHY", 0x1F3C6),
    ("HORSE RACING", 0x1F3C7),
    ("AMERICAN FOOTBALL", 0x1F3C8),
    ("RUGBY FOOTBALL", 0x1F3C9),
    ("SWIMMER", 0x1F3CA),
    ("WEIGHT LIFTER", 0x1F3CB),
    ("GOLFER", 0x1F3CC),
    ("RACING MOTORCYCLE", 0x1F3CD),
    ("RACING CAR", 0x1F3CE),
    ("CRICKET BAT AND BALL", 0x1F3CF),
    ("VOLLEYBALL", 0x1F3D0),
    ("FIELD HOCKEY STICK AND BALL", 0x1F3D1),
    ("ICE HOCKEY STICK AND PUCK", 0x1F3D2),
    ("TABLE TENNIS PADDLE AND BALL", 0x1F3D3),
    ("SNOW CAPPED MOUNTAIN", 0x1F3D4),
    ("CAMPING", 0x1F3D5),
    ("BEACH WITH UMBRELLA", 0x1F3D6),
    ("BUILDING CONSTRUCTION", 0x1F3D7),
    ("HOUSE BUILDINGS", 0x1F3D8),
    ("CITYSCAPE", 0x1F3D9),
    ("DERELICT HOUSE BUILDING", 0x1F3DA),
    ("CLASSICAL BUILDING", 0x1F3DB),
    ("DESERT", 0x1F3DC),
    ("DESERT ISLAND", 0x1F3DD),
    ("NATIONAL PARK", 0x1F3DE),
    ("STADIUM", 0x1F3DF),
    ("HOUSE BUILDING", 0x1F3E0),
    ("HOUSE WITH GARDEN", 0x1F3E1),
    ("OFFICE BUILDING", 0x1F3E2),
    ("JAPANESE POST OFFICE", 0x1F3E3),
    ("EUROPEAN POST OFFICE", 0x1F3E4),
    ("HOSPITAL", 0x1F3E5),
    ("BANK", 0x1F3E6),
    ("AUTOMATED TELLER MACHINE", 0x1F3E7),
    ("HOTEL", 0x1F3E8),
    ("LOVE HOTEL", 0x1F3E9),
    ("CONVENIENCE STORE", 0x1F3EA),
    ("SCHOOL", 0x1F3EB),
    ("DEPARTMENT STORE", 0x1F3EC),
    ("FACTORY", 0x1F3ED),
    ("IZAKAYA LANTERN", 0x1F3EE),
    ("JAPANESE CASTLE", 0x1F3EF),
    ("EUROPEAN CASTLE", 0x1F3F0),
    ("WHITE PENNANT", 0x1F3F1),
    ("BLACK PENNANT", 0x1F3F2),
    ("WAVING WHITE FLAG", 0x1F3F3),
    ("WAVING BLACK FLAG", 0x1F3F4),
    ("ROSETTE", 0x1F3F5),
    ("BLACK ROSETTE", 0x1F3F6),
    ("LABEL", 0x1F3F7),
    ("BADMINTON RACQUET AND SHUTTLECOCK", 0x1F3F8),
    ("BOW AND ARROW", 0x1F3F9),
    ("AMPHORA", 0x1F3FA),
    ("EMOJI MODIFIER FITZPATRICK TYPE-1-2", 0x1F3FB),
    ("EMOJI MODIFIER FITZPATRICK TYPE-3", 0x1F3FC),
    ("EMOJI MODIFIER FITZPATRICK TYPE-4", 0x1F3FD),
    ("EMOJI MODIFIER FITZPATRICK TYPE-5", 0x1F3FE),
    ("EMOJI MODIFIER FITZPATRICK TYPE-6", 0x1F3FF),
    ("RAT", 0x1F400),
    ("MOUSE", 0x1F401),
    ("OX", 0x1F402),
    ("WATER BUFFALO", 0x1F403),
    ("COW", 0x1F404),
    ("TIGER", 0x1F405),
    ("LEOPARD", 0x1F406),
    ("RABBIT", 0x1F407),
    ("CAT", 0x1F408),
    ("DRAGON", 0x1F409),
    ("CROCODILE", 0x1F40A),
    ("WHALE", 0x1F40B),
    ("SNAIL", 0x1F40C),
    ("SNAKE", 0x1F40D),
    ("HORSE", 0x1F40E),
    ("RAM", 0x1F40F),
    ("GOAT", 0x1F410),
    ("SHEEP", 0x1F411),
    ("MONKEY", 0x1F412),
    ("ROOSTER", 0x1F413),
    ("CHICKEN", 0x1F414),
    ("DOG", 0x1F415),
    ("PIG", 0x1F416),
    ("BOAR", 0x1F417),
    ("ELEPHANT", 0x1F418),
    ("OCTOPUS", 0x1F419),
    ("SPIRAL SHELL", 0x1F41A),
    ("BUG", 0x1F41B),
    ("ANT", 0x1F41C),
    ("HONEYBEE", 0x1F41D),
    ("LADY BEETLE", 0x1F41E),
    ("FISH", 0x1F41F),
    ("TROPICAL FISH", 0x1F420),
    ("BLOWFISH", 0x1F421),
    ("TURTLE", 0x1F422),
    ("HATCHING CHICK", 0x1F423),
    ("BABY CHICK", 0x1F424),
    ("FRONT-FACING BABY CHICK", 0x1F425),
    ("BIRD", 0x1F426),
    ("PENGUIN", 0x1F427),
    ("KOALA", 0x1F428),
    ("POODLE", 0x1F429),
    ("DROMEDARY CAMEL", 0x1F42A),
    ("BACTRIAN CAMEL", 0x1F42B),
    ("DOLPHIN", 0x1F42C),
    ("MOUSE FACE", 0x1F42D),
    ("COW FACE", 0x1F42E),
    ("TIGER FACE", 0x1F42F),
    ("RABBIT FACE", 0x1F430),
    ("CAT FACE", 0x1F431),
    ("DRAGON FACE", 0x1F432),
    ("SPOUTING WHALE", 0x1F433),
    ("HORSE FACE", 0x1F434),
    ("MONKEY FACE", 0x1F435),
    ("DOG FACE", 0x1F436),
    ("PIG FACE", 0x1F437),
    ("FROG FACE", 0x1F438),
    ("HAMSTER FACE", 0x1F439),
    ("WOLF FACE", 0x1F43A),
    ("BEAR FACE", 0x1F43B),
    ("PANDA FACE", 0x1F43C),
    ("PIG NOSE", 0x1F43D),
    ("PAW PRINTS", 0x1F43E),
    ("CHIPMUNK", 0x1F43F),
    ("EYES", 0x1F440),
    ("EYE", 0x1F441),
    ("EAR", 0x1F442),
    ("NOSE", 0x1F443),
    ("MOUTH", 0x1F444),
    ("TONGUE", 0x1F445),
    ("WHITE UP POINTING BACKHAND INDEX", 0x1F446),
    ("WHITE DOWN POINTING BACKHAND INDEX", 0x1F447),
    ("WHITE LEFT POINTING BACKHAND INDEX", 0x1F448),
    ("WHITE RIGHT POINTING BACKHAND INDEX", 0x1F449),
    ("FISTED HAND SIGN", 0x1F44A),
    ("WAVING HAND SIGN", 0x1F44B),
    ("OK HAND SIGN", 0x1F44C),
    ("THUMBS UP SIGN", 0x1F44D),
    ("THUMBS DOWN SIGN", 0x1F44E),
    ("CLAPPING HANDS SIGN", 0x1F44F),
    ("OPEN HANDS SIGN", 0x1F450),
    ("CROWN", 0x1F451),
    ("WOMANS HAT", 0x1F452),
    ("EYEGLASSES", 0x1F453),
    ("NECKTIE", 0x1F454),
    ("T-SHIRT", 0x1F455),
    ("JEANS", 0x1F456),
    ("DRESS", 0x1F457),
    ("KIMONO", 0x1F458),
    ("BIKINI", 0x1F459),
    ("WOMANS CLOTHES", 0x1F45A),
    ("PURSE", 0x1F45B),
    ("HANDBAG", 0x1F45C),
    ("POUCH", 0x1F45D),
    ("MANS SHOE", 0x1F45E),
    ("ATHLETIC SHOE", 0x1F45F),
    ("HIGH-HEELED SHOE", 0x1F460),
    ("WOMANS SANDAL", 0x1F461),
    ("WOMANS BOOTS", 0x1F462),
    ("FOOTPRINTS", 0x1F463),
    ("BUST IN SILHOUETTE", 0x1F464),
    ("BUSTS IN SILHOUETTE", 0x1F465),
    ("BOY", 0x1F466),
    ("GIRL", 0x1F467),
    ("MAN", 0x1F468),
    ("WOMAN", 0x1F469),
    ("FAMILY", 0x1F46A),
    ("MAN AND WOMAN HOLDING HANDS", 0x1F46B),
    ("TWO MEN HOLDING HANDS", 0x1F46C),
    ("TWO WOMEN HOLDING HANDS", 0x1F46D),
    ("POLICE OFFICER", 0x1F46E),
    ("WOMAN WITH BUNNY EARS", 0x1F46F),
    ("BRIDE WITH VEIL", 0x1F470),
    ("PERSON WITH BLOND HAIR", 0x1F471),
    ("MAN WITH GUA PI MAO", 0x1F472),
    ("MAN WITH TURBAN", 0x1F473),
    ("OLDER MAN", 0x1F474),
    ("OLDER WOMAN", 0x1F475),
    ("BABY", 0x1F476),
    ("CONSTRUCTION WORKER", 0x1F477),
    ("PRINCESS", 0x1F478),
    ("JAPANESE OGRE", 0x1F479),
    ("JAPANESE GOBLIN", 0x1F47A),
    ("GHOST", 0x1F47B),
    ("BABY ANGEL", 0x1F47C),
    ("EXTRATERRESTRIAL ALIEN", 0x1F47D),
    ("ALIEN MONSTER", 0x1F47E),
    ("IMP", 0x1F47F),
    ("SKULL", 0x1F480),
    ("INFORMATION DESK PERSON", 0x1F481),
    ("GUARDSMAN", 0x1F482),
    ("DANCER", 0x1F483),
    ("LIPSTICK", 0x1F484),
    ("NAIL POLISH", 0x1F485),
    ("FACE MASSAGE", 0x1F486),
    ("HAIRCUT", 0x1F487),
    ("BARBER POLE", 0x1F488),
    ("SYRINGE", 0x1F489),
    ("PILL", 0x1F48A),
    ("KISS MARK", 0x1F48B),
    ("LOVE LETTER", 0x1F48C),
    ("RING", 0x1F48D),
    ("GEM STONE", 0x1F48E),
    ("KISS", 0x1F48F),
    ("BOUQUET", 0x1F490),
    ("COUPLE WITH HEART", 0x1F491),
    ("WEDDING", 0x1F492),
    ("BEATING HEART", 0x1F493),
    ("BROKEN HEART", 0x1F494),
    ("TWO HEARTS", 0x1F495),
    ("SPARKLING HEART", 0x1F496),
    ("GROWING HEART", 0x1F497),
    ("HEART WITH ARROW", 0x1F498),
    ("BLUE HEART", 0x1F499),
    ("GREEN HEART", 0x1F49A),
    ("YELLOW HEART", 0x1F49B),
    ("PURPLE HEART", 0x1F49C),
    ("HEART WITH RIBBON", 0x1F49D),
    ("REVOLVING HEARTS", 0x1F49E),
    ("HEART DECORATION", 0x1F49F),
    ("DIAMOND SHAPE WITH A DOT INSIDE", 0x1F4A0),
    ("ELECTRIC LIGHT BULB", 0x1F4A1),
    ("ANGER SYMBOL", 0x1F4A2),
    ("BOMB", 0x1F4A3),
    ("SLEEPING SYMBOL", 0x1F4A4),
    ("COLLISION SYMBOL", 0x1F4A5),
    ("SPLASHING SWEAT SYMBOL", 0x1F4A6),
    ("DROPLET", 0x1F4A7),
    ("DASH SYMBOL", 0x1F4A8),
    ("PILE OF POO", 0x1F4A9),
    ("FLEXED BICEPS", 0x1F4AA),
    ("DIZZY SYMBOL", 0x1F4AB),
    ("SPEECH BALLOON", 0x1F4AC),
    ("THOUGHT BALLOON", 0x1F4AD),
    ("WHITE FLOWER", 0x1F4AE),
    ("HUNDRED POINTS SYMBOL", 0x1F4AF),
    ("MONEY BAG", 0x1F4B0),
    ("CURRENCY EXCHANGE", 0x1F4B1),
    ("HEAVY DOLLAR SIGN", 0x1F4B2),
    ("CREDIT CARD", 0x1F4B3),
    ("BANKNOTE WITH YEN SIGN", 0x1F4B4),
    ("BANKNOTE WITH DOLLAR SIGN", 0x1F4B5),
    ("BANKNOTE WITH EURO SIGN", 0x1F4B6),
    ("BANKNOTE WITH POUND SIGN", 0x1F4B7),
    ("MONEY WITH WINGS", 0x1F4B8),
    ("CHART WITH UPWARDS TREND AND YEN SIGN", 0x1F4B9),
    ("SEAT", 0x1F4BA),
    ("PERSONAL COMPUTER", 0x1F4BB),
    ("BRIEFCASE", 0x1F4BC),
    ("MINIDISC", 0x1F4BD),
    ("FLOPPY DISK", 0x1F4BE),
    ("OPTICAL DISC", 0x1F4BF),
    ("DVD", 0x1F4C0),
    ("FILE FOLDER", 0x1F4C1),
    ("OPEN FILE FOLDER", 0x1F4C2),
    ("PAGE WITH CURL", 0x1F4C3),
    ("PAGE FACING UP", 0x1F4C4),
    ("CALENDAR", 0x1F4C5),
    ("TEAR-OFF CALENDAR", 0x1F4C6),
    ("CARD INDEX", 0x1F4C7),
    ("CHART WITH UPWARDS TREND", 0x1F4C8),
    ("CHART WITH DOWNWARDS TREND", 0x1F4C9),
    ("BAR CHART", 0x1F4CA),
    ("CLIPBOARD", 0x1F4CB),
    ("PUSHPIN", 0x1F4CC),
    ("ROUND PUSHPIN", 0x1F4CD),
    ("PAPERCLIP", 0x1F4CE),
    ("STRAIGHT RULER", 0x1F4CF),
    ("TRIANGULAR RULER", 0x1F4D0),
    ("BOOKMARK TABS", 0x1F4D1),
    ("LEDGER", 0x1F4D2),
    ("NOTEBOOK", 0x1F4D3),
    ("NOTEBOOK WITH DECORATIVE COVER", 0x1F4D4),
    ("CLOSED BOOK", 0x1F4D5),
    ("OPEN BOOK", 0x1F4D6),
    ("GREEN BOOK", 0x1F4D7),
    ("BLUE BOOK", 0x1F4D8),
    ("ORANGE BOOK", 0x1F4D9),
    ("BOOKS", 0x1F4DA),
    ("NAME BADGE", 0x1F4DB),
    ("SCROLL", 0x1F4DC),
    ("MEMO", 0x1F4DD),
    ("TELEPHONE RECEIVER", 0x1F4DE),
    ("PAGER", 0x1F4DF),
    ("FAX MACHINE", 0x1F4E0),
    ("SATELLITE ANTENNA", 0x1F4E1),
    ("PUBLIC ADDRESS LOUDSPEAKER", 0x1F4E2),
    ("CHEERING MEGAPHONE", 0x1F4E3),
    ("OUTBOX TRAY", 0x1F4E4),
    ("INBOX TRAY", 0x1F4E5),
    ("PACKAGE", 0x1F4E6),
    ("E-MAIL SYMBOL", 0x1F4E7),
    ("INCOMING ENVELOPE", 0x1F4E8),
    ("ENVELOPE WITH DOWNWARDS ARROW ABOVE", 0x1F4E9),
    ("CLOSED MAILBOX WITH LOWERED FLAG", 0x1F4EA),
    ("CLOSED MAILBOX WITH RAISED FLAG", 0x1F4EB),
    ("OPEN MAILBOX WITH RAISED FLAG", 0x1F4EC),
    ("OPEN MAILBOX WITH LOWERED FLAG", 0x1F4ED),
    ("POSTBOX", 0x1F4EE),
    ("POSTAL HORN", 0x1F4EF),
    ("NEWSPAPER", 0x1F4F0),
    ("MOBILE PHONE", 0x1F4F1),
    ("MOBILE PHONE WITH RIGHTWARDS ARROW AT LEFT", 0x1F4F2),
    ("VIBRATION MODE", 0x1F4F3),
    ("MOBILE PHONE OFF", 0x1F4F4),
    ("NO MOBILE PHONES", 0x1F4F5),
    ("ANTENNA WITH BARS", 0x1F4F6),
    ("CAMERA", 0x1F4F7),
    ("CAMERA WITH FLASH", 0x1F4F8),
    ("VIDEO CAMERA", 0x1F4F9),
    ("TELEVISION", 0x1F4FA),
    ("RADIO", 0x1F4FB),
    ("VIDEOCASSETTE", 0x1F4FC),
    ("FILM PROJECTOR", 0x1F4FD),
    ("PORTABLE STEREO", 0x1F4FE),
    ("PRAYER BEADS", 0x1F4FF),
    ("TWISTED RIGHTWARDS ARROWS", 0x1F500),
    ("CLOCKWISE RIGHTWARDS AND LEFTWARDS OPEN CIRCLE ARROWS", 0x1F501),
    ("CLOCKWISE RIGHTWARDS AND LEFTWARDS OPEN CIRCLE ARROWS WITH CIRCLED ONE OVERLAY", 0x1F502),
    ("CLOCKWISE DOWNWARDS AND UPWARDS OPEN CIRCLE ARROWS", 0x1F503),
    ("ANTICLOCKWISE DOWNWARDS AND UPWARDS OPEN CIRCLE ARROWS", 0x1F504),
    ("LOW BRIGHTNESS SYMBOL", 0x1F505),
    ("HIGH BRIGHTNESS SYMBOL", 0x1F506),
    ("SPEAKER WITH CANCELLATION STROKE", 0x1F507),
    ("SPEAKER", 0x1F508),
    ("SPEAKER WITH ONE SOUND WAVE", 0x1F509),
    ("SPEAKER WITH THREE SOUND WAVES", 0x1F50A),
    ("BATTERY", 0x1F50B),
    ("ELECTRIC PLUG", 0x1F50C),
    ("LEFT-POINTING MAGNIFYING GLASS", 0x1F50D),
    ("RIGHT-POINTING MAGNIFYING GLASS", 0x1F50E),
    ("LOCK WITH INK PEN", 0x1F50F),
    ("CLOSED LOCK WITH KEY", 0x1F510),
    ("KEY", 0x1F511),
    ("LOCK", 0x1F512),
    ("OPEN LOCK", 0x1F513),
    ("BELL", 0x1F514),
    ("BELL WITH CANCELLATION STROKE", 0x1F515),
    ("BOOKMARK", 0x1F516),
    ("LINK SYMBOL", 0x1F517),
    ("RADIO BUTTON", 0x1F518),
    ("BACK WITH LEFTWARDS ARROW ABOVE", 0x1F519),
    ("END WITH LEFTWARDS ARROW ABOVE", 0x1F51A),
    ("ON WITH EXCLAMATION MARK WITH LEFT RIGHT ARROW ABOVE", 0x1F51B),
    ("SOON WITH RIGHTWARDS ARROW ABOVE", 0x1F51C),
    ("TOP WITH UPWARDS ARROW ABOVE", 0x1F51D),
    ("NO ONE UNDER EIGHTEEN SYMBOL", 0x1F51E),
    ("KEYCAP TEN", 0x1F51F),
    ("INPUT SYMBOL FOR LATIN CAPITAL LETTERS", 0x1F520),
    ("INPUT SYMBOL FOR LATIN SMALL LETTERS", 0x1F521),
    ("INPUT SYMBOL FOR NUMBERS", 0x1F522),
    ("INPUT SYMBOL FOR SYMBOLS", 0x1F523),
    ("INPUT SYMBOL FOR LATIN LETTERS", 0x1F524),
    ("FIRE", 0x1F525),
    ("ELECTRIC TORCH", 0x1F526),
    ("WRENCH", 0x1F527),
    ("HAMMER", 0x1F528),
    ("NUT AND BOLT", 0x1F529),
    ("HOCHO", 0x1F52A),
    ("PISTOL", 0x1F52B),
    ("MICROSCOPE", 0x1F52C),
    ("TELESCOPE", 0x1F52D),
    ("CRYSTAL BALL", 0x1F52E),
    ("SIX POINTED STAR WITH MIDDLE DOT", 0x1F52F),
    ("JAPANESE SYMBOL FOR BEGINNER", 0x1F530),
    ("TRIDENT EMBLEM", 0x1F531),
    ("BLACK SQUARE BUTTON", 0x1F532),
    ("WHITE SQUARE BUTTON", 0x1F533),
    ("LARGE RED CIRCLE", 0x1F534),
    ("LARGE BLUE CIRCLE", 0x1F535),
    ("LARGE ORANGE DIAMOND", 0x1F536),
    ("LARGE BLUE DIAMOND", 0x1F537),
    ("SMALL ORANGE DIAMOND", 0x1F538),
    ("SMALL BLUE DIAMOND", 0x1F539),
    ("UP-POINTING RED TRIANGLE", 0x1F53A),
    ("DOWN-POINTING RED TRIANGLE", 0x1F53B),
    ("UP-POINTING SMALL RED TRIANGLE", 0x1F53C),
    ("DOWN-POINTING SMALL RED TRIANGLE", 0x1F53D),
    ("LOWER RIGHT SHADOWED WHITE CIRCLE", 0x1F53E),
    ("UPPER RIGHT SHADOWED WHITE CIRCLE", 0x1F53F),
    ("CIRCLED CROSS POMMEE", 0x1F540),
    ("CROSS POMMEE WITH HALF-CIRCLE BELOW", 0x1F541),
    ("CROSS POMMEE", 0x1F542),
    ("NOTCHED LEFT SEMICIRCLE WITH THREE DOTS", 0x1F543),
    ("NOTCHED RIGHT SEMICIRCLE WITH THREE DOTS", 0x1F544),
    ("SYMBOL FOR MARKS CHAPTER", 0x1F545),
    ("WHITE LATIN CROSS", 0x1F546),
    ("HEAVY LATIN CROSS", 0x1F547),
    ("CELTIC CROSS", 0x1F548),
    ("OM SYMBOL", 0x1F549),
    ("DOVE OF PEACE", 0x1F54A),
    ("KAABA", 0x1F54B),
    ("MOSQUE", 0x1F54C),
    ("SYNAGOGUE", 0x1F54D),
    ("MENORAH WITH NINE BRANCHES", 0x1F54E),
    ("BOWL OF HYGIEIA", 0x1F54F),
    ("CLOCK FACE ONE OCLOCK", 0x1F550),
    ("CLOCK FACE TWO OCLOCK", 0x1F551),
    ("CLOCK FACE THREE OCLOCK", 0x1F552),
    ("CLOCK FACE FOUR OCLOCK", 0x1F553),
    ("CLOCK FACE FIVE OCLOCK", 0x1F554),
    ("CLOCK FACE SIX OCLOCK", 0x1F555),
    ("CLOCK FACE SEVEN OCLOCK", 0x1F556),
    ("CLOCK FACE EIGHT OCLOCK", 0x1F557),
    ("CLOCK FACE NINE OCLOCK", 0x1F558),
    ("CLOCK FACE TEN OCLOCK", 0x1F559),
    ("CLOCK FACE ELEVEN OCLOCK", 0x1F55A),
    ("CLOCK FACE TWELVE OCLOCK", 0x1F55B),
    ("CLOCK FACE ONE-THIRTY", 0x1F55C),
    ("CLOCK FACE TWO-THIRTY", 0x1F55D),
    ("CLOCK FACE THREE-THIRTY", 0x1F55E),
    ("CLOCK FACE FOUR-THIRTY", 0x1F55F),
    ("CLOCK FACE FIVE-THIRTY", 0x1F560),
    ("CLOCK FACE SIX-THIRTY", 0x1F561),
    ("CLOCK FACE SEVEN-THIRTY", 0x1F562),
    ("CLOCK FACE EIGHT-THIRTY", 0x1F563),
    ("CLOCK FACE NINE-THIRTY", 0x1F564),
    ("CLOCK FACE TEN-THIRTY", 0x1F565),
    ("CLOCK FACE ELEVEN-THIRTY", 0x1F566),
    ("CLOCK FACE TWELVE-THIRTY", 0x1F567),
    ("RIGHT SPEAKER", 0x1F568),
    ("RIGHT SPEAKER WITH ONE SOUND WAVE", 0x1F569),
    ("RIGHT SPEAKER WITH THREE SOUND WAVES", 0x1F56A),
    ("BULLHORN", 0x1F56B),
    ("BULLHORN WITH SOUND WAVES", 0x1F56C),
    ("RINGING BELL", 0x1F56D),
    ("BOOK", 0x1F56E),
    ("CANDLE", 0x1F56F),
    ("MANTELPIECE CLOCK", 0x1F570),
    ("BLACK SKULL AND CROSSBONES", 0x1F571),
    ("NO PIRACY", 0x1F572),
    ("HOLE", 0x1F573),
    ("MAN IN BUSINESS SUIT LEVITATING", 0x1F574),
    ("SLEUTH OR SPY", 0x1F575),
    ("DARK SUNGLASSES", 0x1F576),
    ("SPIDER", 0x1F577),
    ("SPIDER WEB", 0x1F578),
    ("JOYSTICK", 0x1F579),
    ("MAN DANCING", 0x1F57A),
    ("LEFT HAND TELEPHONE RECEIVER", 0x1F57B),
    ("TELEPHONE RECEIVER WITH PAGE", 0x1F57C),
    ("RIGHT HAND TELEPHONE RECEIVER", 0x1F57D),
    ("WHITE TOUCHTONE TELEPHONE", 0x1F57E),
    ("BLACK TOUCHTONE TELEPHONE", 0x1F57F),
    ("TELEPHONE ON TOP OF MODEM", 0x1F580),
    ("CLAMSHELL MOBILE PHONE", 0x1F581),
    ("BACK OF ENVELOPE", 0x1F582),
    ("STAMPED ENVELOPE", 0x1F583),
    ("ENVELOPE WITH LIGHTNING", 0x1F584),
    ("FLYING ENVELOPE", 0x1F585),
    ("PEN OVER STAMPED ENVELOPE", 0x1F586),
    ("LINKED PAPERCLIPS", 0x1F587),
    ("BLACK PUSHPIN", 0x1F588),
    ("LOWER LEFT PENCIL", 0x1F589),
    ("LOWER LEFT BALLPOINT PEN", 0x1F58A),
    ("LOWER LEFT FOUNTAIN PEN", 0x1F58B),
    ("LOWER LEFT PAINTBRUSH", 0x1F58C),
    ("LOWER LEFT CRAYON", 0x1F58D),
    ("LEFT WRITING HAND", 0x1F58E),
    ("TURNED OK HAND SIGN", 0x1F58F),
    ("RAISED HAND WITH FINGERS SPLAYED", 0x1F590),
    ("REVERSED RAISED HAND WITH FINGERS SPLAYED", 0x1F591),
    ("REVERSED THUMBS UP SIGN", 0x1F592),
    ("REVERSED THUMBS DOWN SIGN", 0x1F593),
    ("REVERSED VICTORY HAND", 0x1F594),
    ("REVERSED HAND WITH MIDDLE FINGER EXTENDED", 0x1F595),
    ("RAISED HAND WITH PART BETWEEN MIDDLE AND RING FINGERS", 0x1F596),
    ("WHITE DOWN POINTING LEFT HAND INDEX", 0x1F597),
    ("SIDEWAYS WHITE LEFT POINTING INDEX", 0x1F598),
    ("SIDEWAYS WHITE RIGHT POINTING INDEX", 0x1F599),
    ("SIDEWAYS BLACK LEFT POINTING INDEX", 0x1F59A),
    ("SIDEWAYS BLACK RIGHT POINTING INDEX", 0x1F59B),
    ("BLACK LEFT POINTING BACKHAND INDEX", 0x1F59C),
    ("BLACK RIGHT POINTING BACKHAND INDEX", 0x1F59D),
    ("SIDEWAYS WHITE UP POINTING INDEX", 0x1F59E),
    ("SIDEWAYS WHITE DOWN POINTING INDEX", 0x1F59F),
    ("SIDEWAYS BLACK UP POINTING INDEX", 0x1F5A0),
    ("SIDEWAYS BLACK DOWN POINTING INDEX", 0x1F5A1),
    ("BLACK UP POINTING BACKHAND INDEX", 0x1F5A2),
    ("BLACK DOWN POINTING BACKHAND INDEX", 0x1F5A3),
    ("BLACK HEART", 0x1F5A4),
    ("DESKTOP COMPUTER", 0x1F5A5),
    ("KEYBOARD AND MOUSE", 0x1F5A6),
    ("THREE NETWORKED COMPUTERS", 0x1F5A7),
    ("PRINTER", 0x1F5A8),
    ("POCKET CALCULATOR", 0x1F5A9),
    ("BLACK HARD SHELL FLOPPY DISK", 0x1F5AA),
    ("WHITE HARD SHELL FLOPPY DISK", 0x1F5AB),
    ("SOFT SHELL FLOPPY DISK", 0x1F5AC),
    ("TAPE CARTRIDGE", 0x1F5AD),
    ("WIRED KEYBOARD", 0x1F5AE),
    ("ONE BUTTON MOUSE", 0x1F5AF),
    ("TWO BUTTON MOUSE", 0x1F5B0),
    ("THREE BUTTON MOUSE", 0x1F5B1),
    ("TRACKBALL", 0x1F5B2),
    ("OLD PERSONAL COMPUTER", 0x1F5B3),
    ("HARD DISK", 0x1F5B4),
    ("SCREEN", 0x1F5B5),
    ("PRINTER ICON", 0x1F5B6),
    ("FAX ICON", 0x1F5B7),
    ("OPTICAL DISC ICON", 0x1F5B8),
    ("DOCUMENT WITH TEXT", 0x1F5B9),
    ("DOCUMENT WITH TEXT AND PICTURE", 0x1F5BA),
    ("DOCUMENT WITH PICTURE", 0x1F5BB),
    ("FRAME WITH PICTURE", 0x1F5BC),
    ("FRAME WITH TILES", 0x1F5BD),
    ("FRAME WITH AN X", 0x1F5BE),
    ("BLACK FOLDER", 0x1F5BF),
    ("FOLDER", 0x1F5C0),
    ("OPEN FOLDER", 0x1F5C1),
    ("CARD INDEX DIVIDERS", 0x1F5C2),
    ("CARD FILE BOX", 0x1F5C3),
    ("FILE CABINET", 0x1F5C4),
    ("EMPTY NOTE", 0x1F5C5),
    ("EMPTY NOTE PAGE", 0x1F5C6),
    ("EMPTY NOTE PAD", 0x1F5C7),
    ("NOTE", 0x1F5C8),
    ("NOTE PAGE", 0x1F5C9),
    ("NOTE PAD", 0x1F5CA),
    ("EMPTY DOCUMENT", 0x1F5CB),
    ("EMPTY PAGE", 0x1F5CC),
    ("EMPTY PAGES", 0x1F5CD),
    ("DOCUMENT", 0x1F5CE),
    ("PAGE", 0x1F5CF),
    ("PAGES", 0x1F5D0),
    ("WASTEBASKET", 0x1F5D1),
    ("SPIRAL NOTE PAD", 0x1F5D2),
    ("SPIRAL CALENDAR PAD", 0x1F5D3),
    ("DESKTOP WINDOW", 0x1F5D4),
    ("MINIMIZE", 0x1F5D5),
    ("MAXIMIZE", 0x1F5D6),
    ("OVERLAP", 0x1F5D7),
    ("CLOCKWISE RIGHT AND LEFT SEMICIRCLE ARROWS", 0x1F5D8),
    ("CANCELLATION X", 0x1F5D9),
    ("INCREASE FONT SIZE SYMBOL", 0x1F5DA),
    ("DECREASE FONT SIZE SYMBOL", 0x1F5DB),
    ("COMPRESSION", 0x1F5DC),
    ("OLD KEY", 0x1F5DD),
    ("ROLLED-UP NEWSPAPER", 0x1F5DE),
    ("PAGE WITH CIRCLED TEXT", 0x1F5DF),
    ("STOCK CHART", 0x1F5E0),
    ("DAGGER KNIFE", 0x1F5E1),
    ("LIPS", 0x1F5E2),
    ("SPEAKING HEAD IN SILHOUETTE", 0x1F5E3),
    ("THREE RAYS ABOVE", 0x1F5E4),
    ("THREE RAYS BELOW", 0x1F5E5),
    ("THREE RAYS LEFT", 0x1F5E6),
    ("THREE RAYS RIGHT", 0x1F5E7),
    ("LEFT SPEECH BUBBLE", 0x1F5E8),
    ("RIGHT SPEECH BUBBLE", 0x1F5E9),
    ("TWO SPEECH BUBBLES", 0x1F5EA),
    ("THREE SPEECH BUBBLES", 0x1F5EB),
    ("LEFT THOUGHT BUBBLE", 0x1F5EC),
    ("RIGHT THOUGHT BUBBLE", 0x1F5ED),
    ("LEFT ANGER BUBBLE", 0x1F5EE),
    ("RIGHT ANGER BUBBLE", 0x1F5EF),
    ("MOOD BUBBLE", 0x1F5F0),
    ("LIGHTNING MOOD BUBBLE", 0x1F5F1),
    ("LIGHTNING MOOD", 0x1F5F2),
    ("BALLOT BOX WITH BALLOT", 0x1F5F3),
    ("BALLOT SCRIPT X", 0x1F5F4),
    ("BALLOT BOX WITH SCRIPT X", 0x1F5F5),
    ("BALLOT BOLD SCRIPT X", 0x1F5F6),
    ("BALLOT BOX WITH BOLD SCRIPT X", 0x1F5F7),
    ("LIGHT CHECK MARK", 0x1F5F8),
    ("BALLOT BOX WITH BOLD CHECK", 0x1F5F9),
    ("WORLD MAP", 0x1F5FA),
    ("MOUNT FUJI", 0x1F5FB),
    ("TOKYO TOWER", 0x1F5FC),
    ("STATUE OF LIBERTY", 0x1F5FD),
    ("SILHOUETTE OF JAPAN", 0x1F5FE),
    ("MOYAI", 0x1F5FF),
    ("GRINNING FACE", 0x1F600),
    ("GRINNING FACE WITH SMILING EYES", 0x1F601),
    ("FACE WITH TEARS OF JOY", 0x1F602),
    ("SMILING FACE WITH OPEN MOUTH", 0x1F603),
    ("SMILING FACE WITH OPEN MOUTH AND SMILING EYES", 0x1F604),
    ("SMILING FACE WITH OPEN MOUTH AND COLD SWEAT", 0x1F605),
    ("SMILING FACE WITH OPEN MOUTH AND TIGHTLY-CLOSED EYES", 0x1F606),
    ("SMILING FACE WITH HALO", 0x1F607),
    ("SMILING FACE WITH HORNS", 0x1F608),
    ("WINKING FACE", 0x1F609),
    ("SMILING FACE WITH SMILING EYES", 0x1F60A),
    ("FACE SAVOURING DELICIOUS FOOD", 0x1F60B),
    ("RELIEVED FACE", 0x1F60C),
    ("SMILING FACE WITH HEART-SHAPED EYES", 0x1F60D),
    ("SMILING FACE WITH SUNGLASSES", 0x1F60E),
    ("SMIRKING FACE", 0x1F60F),
    ("NEUTRAL FACE", 0x1F610),
    ("EXPRESSIONLESS FACE", 0x1F611),
    ("UNAMUSED FACE", 0x1F612),
    ("FACE WITH COLD SWEAT", 0x1F613),
    ("PENSIVE FACE", 0x1F614),
    ("CONFUSED FACE", 0x1F615),
    ("CONFOUNDED FACE", 0x1F616),
    ("KISSING FACE", 0x1F617),
    ("FACE THROWING A KISS", 0x1F618),
    ("KISSING FACE WITH SMILING EYES", 0x1F619),
    ("KISSING FACE WITH CLOSED EYES", 0x1F61A),
    ("FACE WITH STUCK-OUT TONGUE", 0x1F61B),
    ("FACE WITH STUCK-OUT TONGUE AND WINKING EYE", 0x1F61C),
    ("FACE WITH STUCK-OUT TONGUE AND TIGHTLY-CLOSED EYES", 0x1F61D),
    ("DISAPPOINTED FACE", 0x1F61E),
    ("WORRIED FACE", 0x1F61F),
    ("ANGRY FACE", 0x1F620),
    ("POUTING FACE", 0x1F621),
    ("CRYING FACE", 0x1F622),
    ("PERSEVERING FACE", 0x1F623),
    ("FACE WITH LOOK OF TRIUMPH", 0x1F624),
    ("DISAPPOINTED BUT RELIEVED FACE", 0x1F625),
    ("FROWNING FACE WITH OPEN MOUTH", 0x1F626),
    ("ANGUISHED FACE", 0x1F627),
    ("FEARFUL FACE", 0x1F628),
    ("WEARY FACE", 0x1F629),
    ("SLEEPY FACE", 0x1F62A),
    ("TIRED FACE", 0x1F62B),
    ("GRIMACING FACE", 0x1F62C),
    ("LOUDLY CRYING FACE", 0x1F62D),
    ("FACE WITH OPEN MOUTH", 0x1F62E),
    ("HUSHED FACE", 0x1F62F),
    ("FACE WITH OPEN MOUTH AND COLD SWEAT", 0x1F630),
    ("FACE SCREAMING IN FEAR", 0x1F631),
    ("ASTONISHED FACE", 0x1F632),
    ("FLUSHED FACE", 0x1F633),
    ("SLEEPING FACE", 0x1F634),
    ("DIZZY FACE", 0x1F635),
    ("FACE WITHOUT MOUTH", 0x1F636),
    ("FACE WITH MEDICAL MASK", 0x1F637),
    ("GRINNING CAT FACE WITH SMILING EYES", 0x1F638),
    ("CAT FACE WITH TEARS OF JOY", 0x1F639),
    ("SMILING CAT FACE WITH OPEN MOUTH", 0x1F63A),
    ("SMILING CAT FACE WITH HEART-SHAPED EYES", 0x1F63B),
    ("CAT FACE WITH WRY SMILE", 0x1F63C),
    ("KISSING CAT FACE WITH CLOSED EYES", 0x1F63D),
    ("POUTING CAT FACE", 0x1F63E),
    ("CRYING CAT FACE", 0x1F63F),
    ("WEARY CAT FACE", 0x1F640),
    ("SLIGHTLY FROWNING FACE", 0x1F641),
    ("SLIGHTLY SMILING FACE", 0x1F642),
    ("UPSIDE-DOWN FACE", 0x1F643),
    ("FACE WITH ROLLING EYES", 0x1F644),
    ("FACE WITH NO GOOD GESTURE", 0x1F645),
    ("FACE WITH OK GESTURE", 0x1F646),
    ("PERSON BOWING DEEPLY", 0x1F647),
    ("SEE-NO-EVIL MONKEY", 0x1F648),
    ("HEAR-NO-EVIL MONKEY", 0x1F649),
    ("SPEAK-NO-EVIL MONKEY", 0x1F64A),
    ("HAPPY PERSON RAISING ONE HAND", 0x1F64B),
    ("PERSON RAISING BOTH HANDS IN CELEBRATION", 0x1F64C),
    ("PERSON FROWNING", 0x1F64D),
    ("PERSON WITH POUTING FACE", 0x1F64E),
    ("PERSON WITH FOLDED HANDS", 0x1F64F)]

end Cabinet.Text
