import ShaderLoom.Text.Search

/-!
# Characters by their names

The names of characters of the common scripts and of common symbols, as far as quoted texts refer to
characters by name. Ideographs and syllables have names that are composed of code points and of
parts. Case does not matter.
-/

namespace ShaderLoom.Text

/-- Names of characters, for runs of neighbouring characters that start at a code point. -/
def nameTable : List (Nat × String) :=
  [(32, "SPACE;EXCLAMATION MARK;QUOTATION MARK;NUMBER SIGN;DOLLAR SIGN;PERCENT SIGN"),
   (38, "AMPERSAND;APOSTROPHE;LEFT PARENTHESIS;RIGHT PARENTHESIS;ASTERISK;PLUS SIGN;COMMA"),
   (45, "HYPHEN-MINUS;FULL STOP;SOLIDUS;DIGIT ZERO;DIGIT ONE;DIGIT TWO;DIGIT THREE"),
   (52, "DIGIT FOUR;DIGIT FIVE;DIGIT SIX;DIGIT SEVEN;DIGIT EIGHT;DIGIT NINE;COLON"),
   (59, "SEMICOLON;LESS-THAN SIGN;EQUALS SIGN;GREATER-THAN SIGN;QUESTION MARK"),
   (64, "COMMERCIAL AT;LATIN CAPITAL LETTER A;LATIN CAPITAL LETTER B"),
   (67, "LATIN CAPITAL LETTER C;LATIN CAPITAL LETTER D;LATIN CAPITAL LETTER E"),
   (70, "LATIN CAPITAL LETTER F;LATIN CAPITAL LETTER G;LATIN CAPITAL LETTER H"),
   (73, "LATIN CAPITAL LETTER I;LATIN CAPITAL LETTER J;LATIN CAPITAL LETTER K"),
   (76, "LATIN CAPITAL LETTER L;LATIN CAPITAL LETTER M;LATIN CAPITAL LETTER N"),
   (79, "LATIN CAPITAL LETTER O;LATIN CAPITAL LETTER P;LATIN CAPITAL LETTER Q"),
   (82, "LATIN CAPITAL LETTER R;LATIN CAPITAL LETTER S;LATIN CAPITAL LETTER T"),
   (85, "LATIN CAPITAL LETTER U;LATIN CAPITAL LETTER V;LATIN CAPITAL LETTER W"),
   (88, "LATIN CAPITAL LETTER X;LATIN CAPITAL LETTER Y;LATIN CAPITAL LETTER Z"),
   (91, "LEFT SQUARE BRACKET;REVERSE SOLIDUS;RIGHT SQUARE BRACKET;CIRCUMFLEX ACCENT"),
   (95, "LOW LINE;GRAVE ACCENT;LATIN SMALL LETTER A;LATIN SMALL LETTER B"),
   (99, "LATIN SMALL LETTER C;LATIN SMALL LETTER D;LATIN SMALL LETTER E"),
   (102, "LATIN SMALL LETTER F;LATIN SMALL LETTER G;LATIN SMALL LETTER H"),
   (105, "LATIN SMALL LETTER I;LATIN SMALL LETTER J;LATIN SMALL LETTER K"),
   (108, "LATIN SMALL LETTER L;LATIN SMALL LETTER M;LATIN SMALL LETTER N"),
   (111, "LATIN SMALL LETTER O;LATIN SMALL LETTER P;LATIN SMALL LETTER Q"),
   (114, "LATIN SMALL LETTER R;LATIN SMALL LETTER S;LATIN SMALL LETTER T"),
   (117, "LATIN SMALL LETTER U;LATIN SMALL LETTER V;LATIN SMALL LETTER W"),
   (120, "LATIN SMALL LETTER X;LATIN SMALL LETTER Y;LATIN SMALL LETTER Z"),
   (123, "LEFT CURLY BRACKET;VERTICAL LINE;RIGHT CURLY BRACKET;TILDE"),
   (160, "NO-BREAK SPACE;INVERTED EXCLAMATION MARK;CENT SIGN;POUND SIGN;CURRENCY SIGN"),
   (165, "YEN SIGN;BROKEN BAR;SECTION SIGN;DIAERESIS;COPYRIGHT SIGN"),
   (170, "FEMININE ORDINAL INDICATOR;LEFT-POINTING DOUBLE ANGLE QUOTATION MARK;NOT SIGN"),
   (173, "SOFT HYPHEN;REGISTERED SIGN;MACRON;DEGREE SIGN;PLUS-MINUS SIGN;SUPERSCRIPT TWO"),
   (179, "SUPERSCRIPT THREE;ACUTE ACCENT;MICRO SIGN;PILCROW SIGN;MIDDLE DOT;CEDILLA"),
   (185, "SUPERSCRIPT ONE;MASCULINE ORDINAL INDICATOR"),
   (187, "RIGHT-POINTING DOUBLE ANGLE QUOTATION MARK;VULGAR FRACTION ONE QUARTER"),
   (189, "VULGAR FRACTION ONE HALF;VULGAR FRACTION THREE QUARTERS;INVERTED QUESTION MARK"),
   (192, "LATIN CAPITAL LETTER A WITH GRAVE;LATIN CAPITAL LETTER A WITH ACUTE"),
   (194, "LATIN CAPITAL LETTER A WITH CIRCUMFLEX;LATIN CAPITAL LETTER A WITH TILDE"),
   (196, "LATIN CAPITAL LETTER A WITH DIAERESIS;LATIN CAPITAL LETTER A WITH RING ABOVE"),
   (198, "LATIN CAPITAL LETTER AE;LATIN CAPITAL LETTER C WITH CEDILLA"),
   (200, "LATIN CAPITAL LETTER E WITH GRAVE;LATIN CAPITAL LETTER E WITH ACUTE"),
   (202, "LATIN CAPITAL LETTER E WITH CIRCUMFLEX;LATIN CAPITAL LETTER E WITH DIAERESIS"),
   (204, "LATIN CAPITAL LETTER I WITH GRAVE;LATIN CAPITAL LETTER I WITH ACUTE"),
   (206, "LATIN CAPITAL LETTER I WITH CIRCUMFLEX;LATIN CAPITAL LETTER I WITH DIAERESIS"),
   (208, "LATIN CAPITAL LETTER ETH;LATIN CAPITAL LETTER N WITH TILDE"),
   (210, "LATIN CAPITAL LETTER O WITH GRAVE;LATIN CAPITAL LETTER O WITH ACUTE"),
   (212, "LATIN CAPITAL LETTER O WITH CIRCUMFLEX;LATIN CAPITAL LETTER O WITH TILDE"),
   (214, "LATIN CAPITAL LETTER O WITH DIAERESIS;MULTIPLICATION SIGN"),
   (216, "LATIN CAPITAL LETTER O WITH STROKE;LATIN CAPITAL LETTER U WITH GRAVE"),
   (218, "LATIN CAPITAL LETTER U WITH ACUTE;LATIN CAPITAL LETTER U WITH CIRCUMFLEX"),
   (220, "LATIN CAPITAL LETTER U WITH DIAERESIS;LATIN CAPITAL LETTER Y WITH ACUTE"),
   (222, "LATIN CAPITAL LETTER THORN;LATIN SMALL LETTER SHARP S"),
   (224, "LATIN SMALL LETTER A WITH GRAVE;LATIN SMALL LETTER A WITH ACUTE"),
   (226, "LATIN SMALL LETTER A WITH CIRCUMFLEX;LATIN SMALL LETTER A WITH TILDE"),
   (228, "LATIN SMALL LETTER A WITH DIAERESIS;LATIN SMALL LETTER A WITH RING ABOVE"),
   (230, "LATIN SMALL LETTER AE;LATIN SMALL LETTER C WITH CEDILLA"),
   (232, "LATIN SMALL LETTER E WITH GRAVE;LATIN SMALL LETTER E WITH ACUTE"),
   (234, "LATIN SMALL LETTER E WITH CIRCUMFLEX;LATIN SMALL LETTER E WITH DIAERESIS"),
   (236, "LATIN SMALL LETTER I WITH GRAVE;LATIN SMALL LETTER I WITH ACUTE"),
   (238, "LATIN SMALL LETTER I WITH CIRCUMFLEX;LATIN SMALL LETTER I WITH DIAERESIS"),
   (240, "LATIN SMALL LETTER ETH;LATIN SMALL LETTER N WITH TILDE"),
   (242, "LATIN SMALL LETTER O WITH GRAVE;LATIN SMALL LETTER O WITH ACUTE"),
   (244, "LATIN SMALL LETTER O WITH CIRCUMFLEX;LATIN SMALL LETTER O WITH TILDE"),
   (246, "LATIN SMALL LETTER O WITH DIAERESIS;DIVISION SIGN"),
   (248, "LATIN SMALL LETTER O WITH STROKE;LATIN SMALL LETTER U WITH GRAVE"),
   (250, "LATIN SMALL LETTER U WITH ACUTE;LATIN SMALL LETTER U WITH CIRCUMFLEX"),
   (252, "LATIN SMALL LETTER U WITH DIAERESIS;LATIN SMALL LETTER Y WITH ACUTE"),
   (254, "LATIN SMALL LETTER THORN;LATIN SMALL LETTER Y WITH DIAERESIS"),
   (256, "LATIN CAPITAL LETTER A WITH MACRON;LATIN SMALL LETTER A WITH MACRON"),
   (258, "LATIN CAPITAL LETTER A WITH BREVE;LATIN SMALL LETTER A WITH BREVE"),
   (260, "LATIN CAPITAL LETTER A WITH OGONEK;LATIN SMALL LETTER A WITH OGONEK"),
   (262, "LATIN CAPITAL LETTER C WITH ACUTE;LATIN SMALL LETTER C WITH ACUTE"),
   (264, "LATIN CAPITAL LETTER C WITH CIRCUMFLEX;LATIN SMALL LETTER C WITH CIRCUMFLEX"),
   (266, "LATIN CAPITAL LETTER C WITH DOT ABOVE;LATIN SMALL LETTER C WITH DOT ABOVE"),
   (268, "LATIN CAPITAL LETTER C WITH CARON;LATIN SMALL LETTER C WITH CARON"),
   (270, "LATIN CAPITAL LETTER D WITH CARON;LATIN SMALL LETTER D WITH CARON"),
   (272, "LATIN CAPITAL LETTER D WITH STROKE;LATIN SMALL LETTER D WITH STROKE"),
   (274, "LATIN CAPITAL LETTER E WITH MACRON;LATIN SMALL LETTER E WITH MACRON"),
   (276, "LATIN CAPITAL LETTER E WITH BREVE;LATIN SMALL LETTER E WITH BREVE"),
   (278, "LATIN CAPITAL LETTER E WITH DOT ABOVE;LATIN SMALL LETTER E WITH DOT ABOVE"),
   (280, "LATIN CAPITAL LETTER E WITH OGONEK;LATIN SMALL LETTER E WITH OGONEK"),
   (282, "LATIN CAPITAL LETTER E WITH CARON;LATIN SMALL LETTER E WITH CARON"),
   (284, "LATIN CAPITAL LETTER G WITH CIRCUMFLEX;LATIN SMALL LETTER G WITH CIRCUMFLEX"),
   (286, "LATIN CAPITAL LETTER G WITH BREVE;LATIN SMALL LETTER G WITH BREVE"),
   (288, "LATIN CAPITAL LETTER G WITH DOT ABOVE;LATIN SMALL LETTER G WITH DOT ABOVE"),
   (290, "LATIN CAPITAL LETTER G WITH CEDILLA;LATIN SMALL LETTER G WITH CEDILLA"),
   (292, "LATIN CAPITAL LETTER H WITH CIRCUMFLEX;LATIN SMALL LETTER H WITH CIRCUMFLEX"),
   (294, "LATIN CAPITAL LETTER H WITH STROKE;LATIN SMALL LETTER H WITH STROKE"),
   (296, "LATIN CAPITAL LETTER I WITH TILDE;LATIN SMALL LETTER I WITH TILDE"),
   (298, "LATIN CAPITAL LETTER I WITH MACRON;LATIN SMALL LETTER I WITH MACRON"),
   (300, "LATIN CAPITAL LETTER I WITH BREVE;LATIN SMALL LETTER I WITH BREVE"),
   (302, "LATIN CAPITAL LETTER I WITH OGONEK;LATIN SMALL LETTER I WITH OGONEK"),
   (304, "LATIN CAPITAL LETTER I WITH DOT ABOVE;LATIN SMALL LETTER DOTLESS I"),
   (306, "LATIN CAPITAL LIGATURE IJ;LATIN SMALL LIGATURE IJ"),
   (308, "LATIN CAPITAL LETTER J WITH CIRCUMFLEX;LATIN SMALL LETTER J WITH CIRCUMFLEX"),
   (310, "LATIN CAPITAL LETTER K WITH CEDILLA;LATIN SMALL LETTER K WITH CEDILLA"),
   (312, "LATIN SMALL LETTER KRA;LATIN CAPITAL LETTER L WITH ACUTE"),
   (314, "LATIN SMALL LETTER L WITH ACUTE;LATIN CAPITAL LETTER L WITH CEDILLA"),
   (316, "LATIN SMALL LETTER L WITH CEDILLA;LATIN CAPITAL LETTER L WITH CARON"),
   (318, "LATIN SMALL LETTER L WITH CARON;LATIN CAPITAL LETTER L WITH MIDDLE DOT"),
   (320, "LATIN SMALL LETTER L WITH MIDDLE DOT;LATIN CAPITAL LETTER L WITH STROKE"),
   (322, "LATIN SMALL LETTER L WITH STROKE;LATIN CAPITAL LETTER N WITH ACUTE"),
   (324, "LATIN SMALL LETTER N WITH ACUTE;LATIN CAPITAL LETTER N WITH CEDILLA"),
   (326, "LATIN SMALL LETTER N WITH CEDILLA;LATIN CAPITAL LETTER N WITH CARON"),
   (328, "LATIN SMALL LETTER N WITH CARON;LATIN SMALL LETTER N PRECEDED BY APOSTROPHE"),
   (330, "LATIN CAPITAL LETTER ENG;LATIN SMALL LETTER ENG"),
   (332, "LATIN CAPITAL LETTER O WITH MACRON;LATIN SMALL LETTER O WITH MACRON"),
   (334, "LATIN CAPITAL LETTER O WITH BREVE;LATIN SMALL LETTER O WITH BREVE"),
   (336, "LATIN CAPITAL LETTER O WITH DOUBLE ACUTE;LATIN SMALL LETTER O WITH DOUBLE ACUTE"),
   (338, "LATIN CAPITAL LIGATURE OE;LATIN SMALL LIGATURE OE"),
   (340, "LATIN CAPITAL LETTER R WITH ACUTE;LATIN SMALL LETTER R WITH ACUTE"),
   (342, "LATIN CAPITAL LETTER R WITH CEDILLA;LATIN SMALL LETTER R WITH CEDILLA"),
   (344, "LATIN CAPITAL LETTER R WITH CARON;LATIN SMALL LETTER R WITH CARON"),
   (346, "LATIN CAPITAL LETTER S WITH ACUTE;LATIN SMALL LETTER S WITH ACUTE"),
   (348, "LATIN CAPITAL LETTER S WITH CIRCUMFLEX;LATIN SMALL LETTER S WITH CIRCUMFLEX"),
   (350, "LATIN CAPITAL LETTER S WITH CEDILLA;LATIN SMALL LETTER S WITH CEDILLA"),
   (352, "LATIN CAPITAL LETTER S WITH CARON;LATIN SMALL LETTER S WITH CARON"),
   (354, "LATIN CAPITAL LETTER T WITH CEDILLA;LATIN SMALL LETTER T WITH CEDILLA"),
   (356, "LATIN CAPITAL LETTER T WITH CARON;LATIN SMALL LETTER T WITH CARON"),
   (358, "LATIN CAPITAL LETTER T WITH STROKE;LATIN SMALL LETTER T WITH STROKE"),
   (360, "LATIN CAPITAL LETTER U WITH TILDE;LATIN SMALL LETTER U WITH TILDE"),
   (362, "LATIN CAPITAL LETTER U WITH MACRON;LATIN SMALL LETTER U WITH MACRON"),
   (364, "LATIN CAPITAL LETTER U WITH BREVE;LATIN SMALL LETTER U WITH BREVE"),
   (366, "LATIN CAPITAL LETTER U WITH RING ABOVE;LATIN SMALL LETTER U WITH RING ABOVE"),
   (368, "LATIN CAPITAL LETTER U WITH DOUBLE ACUTE;LATIN SMALL LETTER U WITH DOUBLE ACUTE"),
   (370, "LATIN CAPITAL LETTER U WITH OGONEK;LATIN SMALL LETTER U WITH OGONEK"),
   (372, "LATIN CAPITAL LETTER W WITH CIRCUMFLEX;LATIN SMALL LETTER W WITH CIRCUMFLEX"),
   (374, "LATIN CAPITAL LETTER Y WITH CIRCUMFLEX;LATIN SMALL LETTER Y WITH CIRCUMFLEX"),
   (376, "LATIN CAPITAL LETTER Y WITH DIAERESIS;LATIN CAPITAL LETTER Z WITH ACUTE"),
   (378, "LATIN SMALL LETTER Z WITH ACUTE;LATIN CAPITAL LETTER Z WITH DOT ABOVE"),
   (380, "LATIN SMALL LETTER Z WITH DOT ABOVE;LATIN CAPITAL LETTER Z WITH CARON"),
   (382, "LATIN SMALL LETTER Z WITH CARON;LATIN SMALL LETTER LONG S"),
   (768, "COMBINING GRAVE ACCENT;COMBINING ACUTE ACCENT;COMBINING CIRCUMFLEX ACCENT"),
   (771, "COMBINING TILDE;COMBINING MACRON;COMBINING OVERLINE;COMBINING BREVE"),
   (775, "COMBINING DOT ABOVE;COMBINING DIAERESIS;COMBINING HOOK ABOVE"),
   (778, "COMBINING RING ABOVE;COMBINING DOUBLE ACUTE ACCENT;COMBINING CARON"),
   (781, "COMBINING VERTICAL LINE ABOVE;COMBINING DOUBLE VERTICAL LINE ABOVE"),
   (783, "COMBINING DOUBLE GRAVE ACCENT;COMBINING CANDRABINDU;COMBINING INVERTED BREVE"),
   (786, "COMBINING TURNED COMMA ABOVE;COMBINING COMMA ABOVE"),
   (788, "COMBINING REVERSED COMMA ABOVE;COMBINING COMMA ABOVE RIGHT"),
   (790, "COMBINING GRAVE ACCENT BELOW;COMBINING ACUTE ACCENT BELOW"),
   (792, "COMBINING LEFT TACK BELOW;COMBINING RIGHT TACK BELOW;COMBINING LEFT ANGLE ABOVE"),
   (795, "COMBINING HORN;COMBINING LEFT HALF RING BELOW;COMBINING UP TACK BELOW"),
   (798, "COMBINING DOWN TACK BELOW;COMBINING PLUS SIGN BELOW;COMBINING MINUS SIGN BELOW"),
   (801, "COMBINING PALATALIZED HOOK BELOW;COMBINING RETROFLEX HOOK BELOW"),
   (803, "COMBINING DOT BELOW;COMBINING DIAERESIS BELOW;COMBINING RING BELOW"),
   (806, "COMBINING COMMA BELOW;COMBINING CEDILLA;COMBINING OGONEK"),
   (809, "COMBINING VERTICAL LINE BELOW;COMBINING BRIDGE BELOW"),
   (811, "COMBINING INVERTED DOUBLE ARCH BELOW;COMBINING CARON BELOW"),
   (813, "COMBINING CIRCUMFLEX ACCENT BELOW;COMBINING BREVE BELOW"),
   (815, "COMBINING INVERTED BREVE BELOW;COMBINING TILDE BELOW;COMBINING MACRON BELOW"),
   (818, "COMBINING LOW LINE;COMBINING DOUBLE LOW LINE;COMBINING TILDE OVERLAY"),
   (821, "COMBINING SHORT STROKE OVERLAY;COMBINING LONG STROKE OVERLAY"),
   (823, "COMBINING SHORT SOLIDUS OVERLAY;COMBINING LONG SOLIDUS OVERLAY"),
   (825, "COMBINING RIGHT HALF RING BELOW;COMBINING INVERTED BRIDGE BELOW"),
   (827, "COMBINING SQUARE BELOW;COMBINING SEAGULL BELOW;COMBINING X ABOVE"),
   (830, "COMBINING VERTICAL TILDE;COMBINING DOUBLE OVERLINE;COMBINING GRAVE TONE MARK"),
   (833, "COMBINING ACUTE TONE MARK;COMBINING GREEK PERISPOMENI;COMBINING GREEK KORONIS"),
   (836, "COMBINING GREEK DIALYTIKA TONOS;COMBINING GREEK YPOGEGRAMMENI"),
   (838, "COMBINING BRIDGE ABOVE;COMBINING EQUALS SIGN BELOW"),
   (840, "COMBINING DOUBLE VERTICAL LINE BELOW;COMBINING LEFT ANGLE BELOW"),
   (842, "COMBINING NOT TILDE ABOVE;COMBINING HOMOTHETIC ABOVE"),
   (844, "COMBINING ALMOST EQUAL TO ABOVE;COMBINING LEFT RIGHT ARROW BELOW"),
   (846, "COMBINING UPWARDS ARROW BELOW;COMBINING GRAPHEME JOINER"),
   (848, "COMBINING RIGHT ARROWHEAD ABOVE;COMBINING LEFT HALF RING ABOVE;COMBINING FERMATA"),
   (851, "COMBINING X BELOW;COMBINING LEFT ARROWHEAD BELOW;COMBINING RIGHT ARROWHEAD BELOW"),
   (854, "COMBINING RIGHT ARROWHEAD AND UP ARROWHEAD BELOW;COMBINING RIGHT HALF RING ABOVE"),
   (856, "COMBINING DOT ABOVE RIGHT;COMBINING ASTERISK BELOW;COMBINING DOUBLE RING BELOW"),
   (859, "COMBINING ZIGZAG ABOVE;COMBINING DOUBLE BREVE BELOW;COMBINING DOUBLE BREVE"),
   (862, "COMBINING DOUBLE MACRON;COMBINING DOUBLE MACRON BELOW;COMBINING DOUBLE TILDE"),
   (865, "COMBINING DOUBLE INVERTED BREVE;COMBINING DOUBLE RIGHTWARDS ARROW BELOW"),
   (867, "COMBINING LATIN SMALL LETTER A;COMBINING LATIN SMALL LETTER E"),
   (869, "COMBINING LATIN SMALL LETTER I;COMBINING LATIN SMALL LETTER O"),
   (871, "COMBINING LATIN SMALL LETTER U;COMBINING LATIN SMALL LETTER C"),
   (873, "COMBINING LATIN SMALL LETTER D;COMBINING LATIN SMALL LETTER H"),
   (875, "COMBINING LATIN SMALL LETTER M;COMBINING LATIN SMALL LETTER R"),
   (877, "COMBINING LATIN SMALL LETTER T;COMBINING LATIN SMALL LETTER V"),
   (879, "COMBINING LATIN SMALL LETTER X"),
   (880, "GREEK CAPITAL LETTER HETA;GREEK SMALL LETTER HETA"),
   (882, "GREEK CAPITAL LETTER ARCHAIC SAMPI;GREEK SMALL LETTER ARCHAIC SAMPI"),
   (884, "GREEK NUMERAL SIGN;GREEK LOWER NUMERAL SIGN"),
   (886, "GREEK CAPITAL LETTER PAMPHYLIAN DIGAMMA;GREEK SMALL LETTER PAMPHYLIAN DIGAMMA"),
   (890, "GREEK YPOGEGRAMMENI;GREEK SMALL REVERSED LUNATE SIGMA SYMBOL"),
   (892, "GREEK SMALL DOTTED LUNATE SIGMA SYMBOL"),
   (893, "GREEK SMALL REVERSED DOTTED LUNATE SIGMA SYMBOL;GREEK QUESTION MARK"),
   (895, "GREEK CAPITAL LETTER YOT"),
   (900, "GREEK TONOS;GREEK DIALYTIKA TONOS;GREEK CAPITAL LETTER ALPHA WITH TONOS"),
   (903, "GREEK ANO TELEIA;GREEK CAPITAL LETTER EPSILON WITH TONOS"),
   (905, "GREEK CAPITAL LETTER ETA WITH TONOS;GREEK CAPITAL LETTER IOTA WITH TONOS"),
   (908, "GREEK CAPITAL LETTER OMICRON WITH TONOS"),
   (910, "GREEK CAPITAL LETTER UPSILON WITH TONOS;GREEK CAPITAL LETTER OMEGA WITH TONOS"),
   (912, "GREEK SMALL LETTER IOTA WITH DIALYTIKA AND TONOS;GREEK CAPITAL LETTER ALPHA"),
   (914, "GREEK CAPITAL LETTER BETA;GREEK CAPITAL LETTER GAMMA;GREEK CAPITAL LETTER DELTA"),
   (917, "GREEK CAPITAL LETTER EPSILON;GREEK CAPITAL LETTER ZETA;GREEK CAPITAL LETTER ETA"),
   (920, "GREEK CAPITAL LETTER THETA;GREEK CAPITAL LETTER IOTA;GREEK CAPITAL LETTER KAPPA"),
   (923, "GREEK CAPITAL LETTER LAMDA;GREEK CAPITAL LETTER MU;GREEK CAPITAL LETTER NU"),
   (926, "GREEK CAPITAL LETTER XI;GREEK CAPITAL LETTER OMICRON;GREEK CAPITAL LETTER PI"),
   (929, "GREEK CAPITAL LETTER RHO"),
   (931, "GREEK CAPITAL LETTER SIGMA;GREEK CAPITAL LETTER TAU;GREEK CAPITAL LETTER UPSILON"),
   (934, "GREEK CAPITAL LETTER PHI;GREEK CAPITAL LETTER CHI;GREEK CAPITAL LETTER PSI"),
   (937, "GREEK CAPITAL LETTER OMEGA;GREEK CAPITAL LETTER IOTA WITH DIALYTIKA"),
   (939, "GREEK CAPITAL LETTER UPSILON WITH DIALYTIKA;GREEK SMALL LETTER ALPHA WITH TONOS"),
   (941, "GREEK SMALL LETTER EPSILON WITH TONOS;GREEK SMALL LETTER ETA WITH TONOS"),
   (943, "GREEK SMALL LETTER IOTA WITH TONOS"),
   (944, "GREEK SMALL LETTER UPSILON WITH DIALYTIKA AND TONOS;GREEK SMALL LETTER ALPHA"),
   (946, "GREEK SMALL LETTER BETA;GREEK SMALL LETTER GAMMA;GREEK SMALL LETTER DELTA"),
   (949, "GREEK SMALL LETTER EPSILON;GREEK SMALL LETTER ZETA;GREEK SMALL LETTER ETA"),
   (952, "GREEK SMALL LETTER THETA;GREEK SMALL LETTER IOTA;GREEK SMALL LETTER KAPPA"),
   (955, "GREEK SMALL LETTER LAMDA;GREEK SMALL LETTER MU;GREEK SMALL LETTER NU"),
   (958, "GREEK SMALL LETTER XI;GREEK SMALL LETTER OMICRON;GREEK SMALL LETTER PI"),
   (961, "GREEK SMALL LETTER RHO;GREEK SMALL LETTER FINAL SIGMA;GREEK SMALL LETTER SIGMA"),
   (964, "GREEK SMALL LETTER TAU;GREEK SMALL LETTER UPSILON;GREEK SMALL LETTER PHI"),
   (967, "GREEK SMALL LETTER CHI;GREEK SMALL LETTER PSI;GREEK SMALL LETTER OMEGA"),
   (970, "GREEK SMALL LETTER IOTA WITH DIALYTIKA;GREEK SMALL LETTER UPSILON WITH DIALYTIKA"),
   (972, "GREEK SMALL LETTER OMICRON WITH TONOS;GREEK SMALL LETTER UPSILON WITH TONOS"),
   (974, "GREEK SMALL LETTER OMEGA WITH TONOS;GREEK CAPITAL KAI SYMBOL;GREEK BETA SYMBOL"),
   (977, "GREEK THETA SYMBOL;GREEK UPSILON WITH HOOK SYMBOL"),
   (979, "GREEK UPSILON WITH ACUTE AND HOOK SYMBOL"),
   (980, "GREEK UPSILON WITH DIAERESIS AND HOOK SYMBOL;GREEK PHI SYMBOL;GREEK PI SYMBOL"),
   (983, "GREEK KAI SYMBOL;GREEK LETTER ARCHAIC KOPPA;GREEK SMALL LETTER ARCHAIC KOPPA"),
   (986, "GREEK LETTER STIGMA;GREEK SMALL LETTER STIGMA;GREEK LETTER DIGAMMA"),
   (989, "GREEK SMALL LETTER DIGAMMA;GREEK LETTER KOPPA;GREEK SMALL LETTER KOPPA"),
   (992, "GREEK LETTER SAMPI;GREEK SMALL LETTER SAMPI;COPTIC CAPITAL LETTER SHEI"),
   (995, "COPTIC SMALL LETTER SHEI;COPTIC CAPITAL LETTER FEI;COPTIC SMALL LETTER FEI"),
   (998, "COPTIC CAPITAL LETTER KHEI;COPTIC SMALL LETTER KHEI;COPTIC CAPITAL LETTER HORI"),
   (1001, "COPTIC SMALL LETTER HORI;COPTIC CAPITAL LETTER GANGIA;COPTIC SMALL LETTER GANGIA"),
   (1004, "COPTIC CAPITAL LETTER SHIMA;COPTIC SMALL LETTER SHIMA;COPTIC CAPITAL LETTER DEI"),
   (1007, "COPTIC SMALL LETTER DEI;GREEK KAPPA SYMBOL;GREEK RHO SYMBOL"),
   (1010, "GREEK LUNATE SIGMA SYMBOL;GREEK LETTER YOT;GREEK CAPITAL THETA SYMBOL"),
   (1013, "GREEK LUNATE EPSILON SYMBOL;GREEK REVERSED LUNATE EPSILON SYMBOL"),
   (1015, "GREEK CAPITAL LETTER SHO;GREEK SMALL LETTER SHO"),
   (1017, "GREEK CAPITAL LUNATE SIGMA SYMBOL;GREEK CAPITAL LETTER SAN"),
   (1019, "GREEK SMALL LETTER SAN;GREEK RHO WITH STROKE SYMBOL"),
   (1021, "GREEK CAPITAL REVERSED LUNATE SIGMA SYMBOL"),
   (1022, "GREEK CAPITAL DOTTED LUNATE SIGMA SYMBOL"),
   (1023, "GREEK CAPITAL REVERSED DOTTED LUNATE SIGMA SYMBOL"),
   (1024, "CYRILLIC CAPITAL LETTER IE WITH GRAVE;CYRILLIC CAPITAL LETTER IO"),
   (1026, "CYRILLIC CAPITAL LETTER DJE;CYRILLIC CAPITAL LETTER GJE"),
   (1028, "CYRILLIC CAPITAL LETTER UKRAINIAN IE;CYRILLIC CAPITAL LETTER DZE"),
   (1030, "CYRILLIC CAPITAL LETTER BYELORUSSIAN-UKRAINIAN I;CYRILLIC CAPITAL LETTER YI"),
   (1032, "CYRILLIC CAPITAL LETTER JE;CYRILLIC CAPITAL LETTER LJE"),
   (1034, "CYRILLIC CAPITAL LETTER NJE;CYRILLIC CAPITAL LETTER TSHE"),
   (1036, "CYRILLIC CAPITAL LETTER KJE;CYRILLIC CAPITAL LETTER I WITH GRAVE"),
   (1038, "CYRILLIC CAPITAL LETTER SHORT U;CYRILLIC CAPITAL LETTER DZHE"),
   (1040, "CYRILLIC CAPITAL LETTER A;CYRILLIC CAPITAL LETTER BE;CYRILLIC CAPITAL LETTER VE"),
   (1043, "CYRILLIC CAPITAL LETTER GHE;CYRILLIC CAPITAL LETTER DE"),
   (1045, "CYRILLIC CAPITAL LETTER IE;CYRILLIC CAPITAL LETTER ZHE"),
   (1047, "CYRILLIC CAPITAL LETTER ZE;CYRILLIC CAPITAL LETTER I"),
   (1049, "CYRILLIC CAPITAL LETTER SHORT I;CYRILLIC CAPITAL LETTER KA"),
   (1051, "CYRILLIC CAPITAL LETTER EL;CYRILLIC CAPITAL LETTER EM;CYRILLIC CAPITAL LETTER EN"),
   (1054, "CYRILLIC CAPITAL LETTER O;CYRILLIC CAPITAL LETTER PE;CYRILLIC CAPITAL LETTER ER"),
   (1057, "CYRILLIC CAPITAL LETTER ES;CYRILLIC CAPITAL LETTER TE;CYRILLIC CAPITAL LETTER U"),
   (1060, "CYRILLIC CAPITAL LETTER EF;CYRILLIC CAPITAL LETTER HA"),
   (1062, "CYRILLIC CAPITAL LETTER TSE;CYRILLIC CAPITAL LETTER CHE"),
   (1064, "CYRILLIC CAPITAL LETTER SHA;CYRILLIC CAPITAL LETTER SHCHA"),
   (1066, "CYRILLIC CAPITAL LETTER HARD SIGN;CYRILLIC CAPITAL LETTER YERU"),
   (1068, "CYRILLIC CAPITAL LETTER SOFT SIGN;CYRILLIC CAPITAL LETTER E"),
   (1070, "CYRILLIC CAPITAL LETTER YU;CYRILLIC CAPITAL LETTER YA;CYRILLIC SMALL LETTER A"),
   (1073, "CYRILLIC SMALL LETTER BE;CYRILLIC SMALL LETTER VE;CYRILLIC SMALL LETTER GHE"),
   (1076, "CYRILLIC SMALL LETTER DE;CYRILLIC SMALL LETTER IE;CYRILLIC SMALL LETTER ZHE"),
   (1079, "CYRILLIC SMALL LETTER ZE;CYRILLIC SMALL LETTER I;CYRILLIC SMALL LETTER SHORT I"),
   (1082, "CYRILLIC SMALL LETTER KA;CYRILLIC SMALL LETTER EL;CYRILLIC SMALL LETTER EM"),
   (1085, "CYRILLIC SMALL LETTER EN;CYRILLIC SMALL LETTER O;CYRILLIC SMALL LETTER PE"),
   (1088, "CYRILLIC SMALL LETTER ER;CYRILLIC SMALL LETTER ES;CYRILLIC SMALL LETTER TE"),
   (1091, "CYRILLIC SMALL LETTER U;CYRILLIC SMALL LETTER EF;CYRILLIC SMALL LETTER HA"),
   (1094, "CYRILLIC SMALL LETTER TSE;CYRILLIC SMALL LETTER CHE;CYRILLIC SMALL LETTER SHA"),
   (1097, "CYRILLIC SMALL LETTER SHCHA;CYRILLIC SMALL LETTER HARD SIGN"),
   (1099, "CYRILLIC SMALL LETTER YERU;CYRILLIC SMALL LETTER SOFT SIGN"),
   (1101, "CYRILLIC SMALL LETTER E;CYRILLIC SMALL LETTER YU;CYRILLIC SMALL LETTER YA"),
   (1104, "CYRILLIC SMALL LETTER IE WITH GRAVE;CYRILLIC SMALL LETTER IO"),
   (1106, "CYRILLIC SMALL LETTER DJE;CYRILLIC SMALL LETTER GJE"),
   (1108, "CYRILLIC SMALL LETTER UKRAINIAN IE;CYRILLIC SMALL LETTER DZE"),
   (1110, "CYRILLIC SMALL LETTER BYELORUSSIAN-UKRAINIAN I;CYRILLIC SMALL LETTER YI"),
   (1112, "CYRILLIC SMALL LETTER JE;CYRILLIC SMALL LETTER LJE;CYRILLIC SMALL LETTER NJE"),
   (1115, "CYRILLIC SMALL LETTER TSHE;CYRILLIC SMALL LETTER KJE"),
   (1117, "CYRILLIC SMALL LETTER I WITH GRAVE;CYRILLIC SMALL LETTER SHORT U"),
   (1119, "CYRILLIC SMALL LETTER DZHE"),
   (8192, "EN QUAD;EM QUAD;EN SPACE;EM SPACE;THREE-PER-EM SPACE;FOUR-PER-EM SPACE"),
   (8198, "SIX-PER-EM SPACE;FIGURE SPACE;PUNCTUATION SPACE;THIN SPACE;HAIR SPACE"),
   (8203, "ZERO WIDTH SPACE;ZERO WIDTH NON-JOINER;ZERO WIDTH JOINER;LEFT-TO-RIGHT MARK"),
   (8207, "RIGHT-TO-LEFT MARK;HYPHEN;NON-BREAKING HYPHEN;FIGURE DASH;EN DASH;EM DASH"),
   (8213, "HORIZONTAL BAR;DOUBLE VERTICAL LINE;DOUBLE LOW LINE;LEFT SINGLE QUOTATION MARK"),
   (8217, "RIGHT SINGLE QUOTATION MARK;SINGLE LOW-9 QUOTATION MARK"),
   (8219, "SINGLE HIGH-REVERSED-9 QUOTATION MARK;LEFT DOUBLE QUOTATION MARK"),
   (8221, "RIGHT DOUBLE QUOTATION MARK;DOUBLE LOW-9 QUOTATION MARK"),
   (8223, "DOUBLE HIGH-REVERSED-9 QUOTATION MARK;DAGGER;DOUBLE DAGGER;BULLET"),
   (8227, "TRIANGULAR BULLET;ONE DOT LEADER;TWO DOT LEADER;HORIZONTAL ELLIPSIS"),
   (8231, "HYPHENATION POINT;LINE SEPARATOR;PARAGRAPH SEPARATOR;LEFT-TO-RIGHT EMBEDDING"),
   (8235, "RIGHT-TO-LEFT EMBEDDING;POP DIRECTIONAL FORMATTING;LEFT-TO-RIGHT OVERRIDE"),
   (8238, "RIGHT-TO-LEFT OVERRIDE;NARROW NO-BREAK SPACE;PER MILLE SIGN"),
   (8241, "PER TEN THOUSAND SIGN;PRIME;DOUBLE PRIME;TRIPLE PRIME;REVERSED PRIME"),
   (8246, "REVERSED DOUBLE PRIME;REVERSED TRIPLE PRIME;CARET"),
   (8249, "SINGLE LEFT-POINTING ANGLE QUOTATION MARK"),
   (8250, "SINGLE RIGHT-POINTING ANGLE QUOTATION MARK;REFERENCE MARK"),
   (8252, "DOUBLE EXCLAMATION MARK;INTERROBANG;OVERLINE;UNDERTIE;CHARACTER TIE"),
   (8257, "CARET INSERTION POINT;ASTERISM;HYPHEN BULLET;FRACTION SLASH"),
   (8261, "LEFT SQUARE BRACKET WITH QUILL;RIGHT SQUARE BRACKET WITH QUILL"),
   (8263, "DOUBLE QUESTION MARK;QUESTION EXCLAMATION MARK;EXCLAMATION QUESTION MARK"),
   (8266, "TIRONIAN SIGN ET;REVERSED PILCROW SIGN;BLACK LEFTWARDS BULLET"),
   (8269, "BLACK RIGHTWARDS BULLET;LOW ASTERISK;REVERSED SEMICOLON;CLOSE UP"),
   (8273, "TWO ASTERISKS ALIGNED VERTICALLY;COMMERCIAL MINUS SIGN;SWUNG DASH"),
   (8276, "INVERTED UNDERTIE;FLOWER PUNCTUATION MARK;THREE DOT PUNCTUATION;QUADRUPLE PRIME"),
   (8280, "FOUR DOT PUNCTUATION;FIVE DOT PUNCTUATION;TWO DOT PUNCTUATION;FOUR DOT MARK"),
   (8284, "DOTTED CROSS;TRICOLON;VERTICAL FOUR DOTS;MEDIUM MATHEMATICAL SPACE;WORD JOINER"),
   (8289, "FUNCTION APPLICATION;INVISIBLE TIMES;INVISIBLE SEPARATOR;INVISIBLE PLUS"),
   (8294, "LEFT-TO-RIGHT ISOLATE;RIGHT-TO-LEFT ISOLATE;FIRST STRONG ISOLATE"),
   (8297, "POP DIRECTIONAL ISOLATE;INHIBIT SYMMETRIC SWAPPING;ACTIVATE SYMMETRIC SWAPPING"),
   (8300, "INHIBIT ARABIC FORM SHAPING;ACTIVATE ARABIC FORM SHAPING;NATIONAL DIGIT SHAPES"),
   (8303, "NOMINAL DIGIT SHAPES;SUPERSCRIPT ZERO;SUPERSCRIPT LATIN SMALL LETTER I"),
   (8308, "SUPERSCRIPT FOUR;SUPERSCRIPT FIVE;SUPERSCRIPT SIX;SUPERSCRIPT SEVEN"),
   (8312, "SUPERSCRIPT EIGHT;SUPERSCRIPT NINE;SUPERSCRIPT PLUS SIGN;SUPERSCRIPT MINUS"),
   (8316, "SUPERSCRIPT EQUALS SIGN;SUPERSCRIPT LEFT PARENTHESIS"),
   (8318, "SUPERSCRIPT RIGHT PARENTHESIS;SUPERSCRIPT LATIN SMALL LETTER N;SUBSCRIPT ZERO"),
   (8321, "SUBSCRIPT ONE;SUBSCRIPT TWO;SUBSCRIPT THREE;SUBSCRIPT FOUR;SUBSCRIPT FIVE"),
   (8326, "SUBSCRIPT SIX;SUBSCRIPT SEVEN;SUBSCRIPT EIGHT;SUBSCRIPT NINE;SUBSCRIPT PLUS SIGN"),
   (8331, "SUBSCRIPT MINUS;SUBSCRIPT EQUALS SIGN;SUBSCRIPT LEFT PARENTHESIS"),
   (8334, "SUBSCRIPT RIGHT PARENTHESIS"),
   (8336, "LATIN SUBSCRIPT SMALL LETTER A;LATIN SUBSCRIPT SMALL LETTER E"),
   (8338, "LATIN SUBSCRIPT SMALL LETTER O;LATIN SUBSCRIPT SMALL LETTER X"),
   (8340, "LATIN SUBSCRIPT SMALL LETTER SCHWA;LATIN SUBSCRIPT SMALL LETTER H"),
   (8342, "LATIN SUBSCRIPT SMALL LETTER K;LATIN SUBSCRIPT SMALL LETTER L"),
   (8344, "LATIN SUBSCRIPT SMALL LETTER M;LATIN SUBSCRIPT SMALL LETTER N"),
   (8346, "LATIN SUBSCRIPT SMALL LETTER P;LATIN SUBSCRIPT SMALL LETTER S"),
   (8348, "LATIN SUBSCRIPT SMALL LETTER T"),
   (8352, "EURO-CURRENCY SIGN;COLON SIGN;CRUZEIRO SIGN;FRENCH FRANC SIGN;LIRA SIGN"),
   (8357, "MILL SIGN;NAIRA SIGN;PESETA SIGN;RUPEE SIGN;WON SIGN;NEW SHEQEL SIGN;DONG SIGN"),
   (8364, "EURO SIGN;KIP SIGN;TUGRIK SIGN;DRACHMA SIGN;GERMAN PENNY SIGN;PESO SIGN"),
   (8370, "GUARANI SIGN;AUSTRAL SIGN;HRYVNIA SIGN;CEDI SIGN;LIVRE TOURNOIS SIGN"),
   (8375, "SPESMILO SIGN;TENGE SIGN;INDIAN RUPEE SIGN;TURKISH LIRA SIGN;NORDIC MARK SIGN"),
   (8380, "MANAT SIGN;RUBLE SIGN;LARI SIGN;BITCOIN SIGN"),
   (8448, "ACCOUNT OF;ADDRESSED TO THE SUBJECT;DOUBLE-STRUCK CAPITAL C;DEGREE CELSIUS"),
   (8452, "CENTRE LINE SYMBOL;CARE OF;CADA UNA;EULER CONSTANT;SCRUPLE;DEGREE FAHRENHEIT"),
   (8458, "SCRIPT SMALL G;SCRIPT CAPITAL H;BLACK-LETTER CAPITAL H;DOUBLE-STRUCK CAPITAL H"),
   (8462, "PLANCK CONSTANT;PLANCK CONSTANT OVER TWO PI;SCRIPT CAPITAL I"),
   (8465, "BLACK-LETTER CAPITAL I;SCRIPT CAPITAL L;SCRIPT SMALL L;L B BAR SYMBOL"),
   (8469, "DOUBLE-STRUCK CAPITAL N;NUMERO SIGN;SOUND RECORDING COPYRIGHT;SCRIPT CAPITAL P"),
   (8473, "DOUBLE-STRUCK CAPITAL P;DOUBLE-STRUCK CAPITAL Q;SCRIPT CAPITAL R"),
   (8476, "BLACK-LETTER CAPITAL R;DOUBLE-STRUCK CAPITAL R;PRESCRIPTION TAKE;RESPONSE"),
   (8480, "SERVICE MARK;TELEPHONE SIGN;TRADE MARK SIGN;VERSICLE;DOUBLE-STRUCK CAPITAL Z"),
   (8485, "OUNCE SIGN;OHM SIGN;INVERTED OHM SIGN;BLACK-LETTER CAPITAL Z"),
   (8489, "TURNED GREEK SMALL LETTER IOTA;KELVIN SIGN;ANGSTROM SIGN;SCRIPT CAPITAL B"),
   (8493, "BLACK-LETTER CAPITAL C;ESTIMATED SYMBOL;SCRIPT SMALL E;SCRIPT CAPITAL E"),
   (8497, "SCRIPT CAPITAL F;TURNED CAPITAL F;SCRIPT CAPITAL M;SCRIPT SMALL O;ALEF SYMBOL"),
   (8502, "BET SYMBOL;GIMEL SYMBOL;DALET SYMBOL;INFORMATION SOURCE;ROTATED CAPITAL Q"),
   (8507, "FACSIMILE SIGN;DOUBLE-STRUCK SMALL PI;DOUBLE-STRUCK SMALL GAMMA"),
   (8510, "DOUBLE-STRUCK CAPITAL GAMMA;DOUBLE-STRUCK CAPITAL PI"),
   (8512, "DOUBLE-STRUCK N-ARY SUMMATION;TURNED SANS-SERIF CAPITAL G"),
   (8514, "TURNED SANS-SERIF CAPITAL L;REVERSED SANS-SERIF CAPITAL L"),
   (8516, "TURNED SANS-SERIF CAPITAL Y;DOUBLE-STRUCK ITALIC CAPITAL D"),
   (8518, "DOUBLE-STRUCK ITALIC SMALL D;DOUBLE-STRUCK ITALIC SMALL E"),
   (8520, "DOUBLE-STRUCK ITALIC SMALL I;DOUBLE-STRUCK ITALIC SMALL J;PROPERTY LINE"),
   (8523, "TURNED AMPERSAND;PER SIGN;AKTIESELSKAB;TURNED SMALL F"),
   (8527, "SYMBOL FOR SAMARITAN SOURCE"),
   (8528, "VULGAR FRACTION ONE SEVENTH;VULGAR FRACTION ONE NINTH;VULGAR FRACTION ONE TENTH"),
   (8531, "VULGAR FRACTION ONE THIRD;VULGAR FRACTION TWO THIRDS;VULGAR FRACTION ONE FIFTH"),
   (8534, "VULGAR FRACTION TWO FIFTHS;VULGAR FRACTION THREE FIFTHS"),
   (8536, "VULGAR FRACTION FOUR FIFTHS;VULGAR FRACTION ONE SIXTH"),
   (8538, "VULGAR FRACTION FIVE SIXTHS;VULGAR FRACTION ONE EIGHTH"),
   (8540, "VULGAR FRACTION THREE EIGHTHS;VULGAR FRACTION FIVE EIGHTHS"),
   (8542, "VULGAR FRACTION SEVEN EIGHTHS;FRACTION NUMERATOR ONE;ROMAN NUMERAL ONE"),
   (8545, "ROMAN NUMERAL TWO;ROMAN NUMERAL THREE;ROMAN NUMERAL FOUR;ROMAN NUMERAL FIVE"),
   (8549, "ROMAN NUMERAL SIX;ROMAN NUMERAL SEVEN;ROMAN NUMERAL EIGHT;ROMAN NUMERAL NINE"),
   (8553, "ROMAN NUMERAL TEN;ROMAN NUMERAL ELEVEN;ROMAN NUMERAL TWELVE;ROMAN NUMERAL FIFTY"),
   (8557, "ROMAN NUMERAL ONE HUNDRED;ROMAN NUMERAL FIVE HUNDRED;ROMAN NUMERAL ONE THOUSAND"),
   (8560, "SMALL ROMAN NUMERAL ONE;SMALL ROMAN NUMERAL TWO;SMALL ROMAN NUMERAL THREE"),
   (8563, "SMALL ROMAN NUMERAL FOUR;SMALL ROMAN NUMERAL FIVE;SMALL ROMAN NUMERAL SIX"),
   (8566, "SMALL ROMAN NUMERAL SEVEN;SMALL ROMAN NUMERAL EIGHT;SMALL ROMAN NUMERAL NINE"),
   (8569, "SMALL ROMAN NUMERAL TEN;SMALL ROMAN NUMERAL ELEVEN;SMALL ROMAN NUMERAL TWELVE"),
   (8572, "SMALL ROMAN NUMERAL FIFTY;SMALL ROMAN NUMERAL ONE HUNDRED"),
   (8574, "SMALL ROMAN NUMERAL FIVE HUNDRED;SMALL ROMAN NUMERAL ONE THOUSAND"),
   (8576, "ROMAN NUMERAL ONE THOUSAND C D;ROMAN NUMERAL FIVE THOUSAND"),
   (8578, "ROMAN NUMERAL TEN THOUSAND;ROMAN NUMERAL REVERSED ONE HUNDRED"),
   (8580, "LATIN SMALL LETTER REVERSED C;ROMAN NUMERAL SIX LATE FORM"),
   (8582, "ROMAN NUMERAL FIFTY EARLY FORM;ROMAN NUMERAL FIFTY THOUSAND"),
   (8584, "ROMAN NUMERAL ONE HUNDRED THOUSAND;VULGAR FRACTION ZERO THIRDS;TURNED DIGIT TWO"),
   (8587, "TURNED DIGIT THREE"),
   (8592, "LEFTWARDS ARROW;UPWARDS ARROW;RIGHTWARDS ARROW;DOWNWARDS ARROW;LEFT RIGHT ARROW"),
   (8597, "UP DOWN ARROW;NORTH WEST ARROW;NORTH EAST ARROW;SOUTH EAST ARROW"),
   (8601, "SOUTH WEST ARROW;LEFTWARDS ARROW WITH STROKE;RIGHTWARDS ARROW WITH STROKE"),
   (8604, "LEFTWARDS WAVE ARROW;RIGHTWARDS WAVE ARROW;LEFTWARDS TWO HEADED ARROW"),
   (8607, "UPWARDS TWO HEADED ARROW;RIGHTWARDS TWO HEADED ARROW;DOWNWARDS TWO HEADED ARROW"),
   (8610, "LEFTWARDS ARROW WITH TAIL;RIGHTWARDS ARROW WITH TAIL;LEFTWARDS ARROW FROM BAR"),
   (8613, "UPWARDS ARROW FROM BAR;RIGHTWARDS ARROW FROM BAR;DOWNWARDS ARROW FROM BAR"),
   (8616, "UP DOWN ARROW WITH BASE;LEFTWARDS ARROW WITH HOOK;RIGHTWARDS ARROW WITH HOOK"),
   (8619, "LEFTWARDS ARROW WITH LOOP;RIGHTWARDS ARROW WITH LOOP;LEFT RIGHT WAVE ARROW"),
   (8622, "LEFT RIGHT ARROW WITH STROKE;DOWNWARDS ZIGZAG ARROW"),
   (8624, "UPWARDS ARROW WITH TIP LEFTWARDS;UPWARDS ARROW WITH TIP RIGHTWARDS"),
   (8626, "DOWNWARDS ARROW WITH TIP LEFTWARDS;DOWNWARDS ARROW WITH TIP RIGHTWARDS"),
   (8628, "RIGHTWARDS ARROW WITH CORNER DOWNWARDS;DOWNWARDS ARROW WITH CORNER LEFTWARDS"),
   (8630, "ANTICLOCKWISE TOP SEMICIRCLE ARROW;CLOCKWISE TOP SEMICIRCLE ARROW"),
   (8632, "NORTH WEST ARROW TO LONG BAR;LEFTWARDS ARROW TO BAR OVER RIGHTWARDS ARROW TO BAR"),
   (8634, "ANTICLOCKWISE OPEN CIRCLE ARROW;CLOCKWISE OPEN CIRCLE ARROW"),
   (8636, "LEFTWARDS HARPOON WITH BARB UPWARDS;LEFTWARDS HARPOON WITH BARB DOWNWARDS"),
   (8638, "UPWARDS HARPOON WITH BARB RIGHTWARDS;UPWARDS HARPOON WITH BARB LEFTWARDS"),
   (8640, "RIGHTWARDS HARPOON WITH BARB UPWARDS;RIGHTWARDS HARPOON WITH BARB DOWNWARDS"),
   (8642, "DOWNWARDS HARPOON WITH BARB RIGHTWARDS;DOWNWARDS HARPOON WITH BARB LEFTWARDS"),
   (8644, "RIGHTWARDS ARROW OVER LEFTWARDS ARROW;UPWARDS ARROW LEFTWARDS OF DOWNWARDS ARROW"),
   (8646, "LEFTWARDS ARROW OVER RIGHTWARDS ARROW;LEFTWARDS PAIRED ARROWS"),
   (8648, "UPWARDS PAIRED ARROWS;RIGHTWARDS PAIRED ARROWS;DOWNWARDS PAIRED ARROWS"),
   (8651, "LEFTWARDS HARPOON OVER RIGHTWARDS HARPOON"),
   (8652, "RIGHTWARDS HARPOON OVER LEFTWARDS HARPOON;LEFTWARDS DOUBLE ARROW WITH STROKE"),
   (8654, "LEFT RIGHT DOUBLE ARROW WITH STROKE;RIGHTWARDS DOUBLE ARROW WITH STROKE"),
   (8656, "LEFTWARDS DOUBLE ARROW;UPWARDS DOUBLE ARROW;RIGHTWARDS DOUBLE ARROW"),
   (8659, "DOWNWARDS DOUBLE ARROW;LEFT RIGHT DOUBLE ARROW;UP DOWN DOUBLE ARROW"),
   (8662, "NORTH WEST DOUBLE ARROW;NORTH EAST DOUBLE ARROW;SOUTH EAST DOUBLE ARROW"),
   (8665, "SOUTH WEST DOUBLE ARROW;LEFTWARDS TRIPLE ARROW;RIGHTWARDS TRIPLE ARROW"),
   (8668, "LEFTWARDS SQUIGGLE ARROW;RIGHTWARDS SQUIGGLE ARROW"),
   (8670, "UPWARDS ARROW WITH DOUBLE STROKE;DOWNWARDS ARROW WITH DOUBLE STROKE"),
   (8672, "LEFTWARDS DASHED ARROW;UPWARDS DASHED ARROW;RIGHTWARDS DASHED ARROW"),
   (8675, "DOWNWARDS DASHED ARROW;LEFTWARDS ARROW TO BAR;RIGHTWARDS ARROW TO BAR"),
   (8678, "LEFTWARDS WHITE ARROW;UPWARDS WHITE ARROW;RIGHTWARDS WHITE ARROW"),
   (8681, "DOWNWARDS WHITE ARROW;UPWARDS WHITE ARROW FROM BAR"),
   (8683, "UPWARDS WHITE ARROW ON PEDESTAL"),
   (8684, "UPWARDS WHITE ARROW ON PEDESTAL WITH HORIZONTAL BAR"),
   (8685, "UPWARDS WHITE ARROW ON PEDESTAL WITH VERTICAL BAR;UPWARDS WHITE DOUBLE ARROW"),
   (8687, "UPWARDS WHITE DOUBLE ARROW ON PEDESTAL;RIGHTWARDS WHITE ARROW FROM WALL"),
   (8689, "NORTH WEST ARROW TO CORNER;SOUTH EAST ARROW TO CORNER;UP DOWN WHITE ARROW"),
   (8692, "RIGHT ARROW WITH SMALL CIRCLE;DOWNWARDS ARROW LEFTWARDS OF UPWARDS ARROW"),
   (8694, "THREE RIGHTWARDS ARROWS;LEFTWARDS ARROW WITH VERTICAL STROKE"),
   (8696, "RIGHTWARDS ARROW WITH VERTICAL STROKE;LEFT RIGHT ARROW WITH VERTICAL STROKE"),
   (8698, "LEFTWARDS ARROW WITH DOUBLE VERTICAL STROKE"),
   (8699, "RIGHTWARDS ARROW WITH DOUBLE VERTICAL STROKE"),
   (8700, "LEFT RIGHT ARROW WITH DOUBLE VERTICAL STROKE;LEFTWARDS OPEN-HEADED ARROW"),
   (8702, "RIGHTWARDS OPEN-HEADED ARROW;LEFT RIGHT OPEN-HEADED ARROW;FOR ALL;COMPLEMENT"),
   (8706, "PARTIAL DIFFERENTIAL;THERE EXISTS;THERE DOES NOT EXIST;EMPTY SET;INCREMENT;NABLA"),
   (8712, "ELEMENT OF;NOT AN ELEMENT OF;SMALL ELEMENT OF;CONTAINS AS MEMBER"),
   (8716, "DOES NOT CONTAIN AS MEMBER;SMALL CONTAINS AS MEMBER;END OF PROOF;N-ARY PRODUCT"),
   (8720, "N-ARY COPRODUCT;N-ARY SUMMATION;MINUS SIGN;MINUS-OR-PLUS SIGN;DOT PLUS"),
   (8725, "DIVISION SLASH;SET MINUS;ASTERISK OPERATOR;RING OPERATOR;BULLET OPERATOR"),
   (8730, "SQUARE ROOT;CUBE ROOT;FOURTH ROOT;PROPORTIONAL TO;INFINITY;RIGHT ANGLE;ANGLE"),
   (8737, "MEASURED ANGLE;SPHERICAL ANGLE;DIVIDES;DOES NOT DIVIDE;PARALLEL TO"),
   (8742, "NOT PARALLEL TO;LOGICAL AND;LOGICAL OR;INTERSECTION;UNION;INTEGRAL"),
   (8748, "DOUBLE INTEGRAL;TRIPLE INTEGRAL;CONTOUR INTEGRAL;SURFACE INTEGRAL"),
   (8752, "VOLUME INTEGRAL;CLOCKWISE INTEGRAL;CLOCKWISE CONTOUR INTEGRAL"),
   (8755, "ANTICLOCKWISE CONTOUR INTEGRAL;THEREFORE;BECAUSE;RATIO;PROPORTION;DOT MINUS"),
   (8761, "EXCESS;GEOMETRIC PROPORTION;HOMOTHETIC;TILDE OPERATOR;REVERSED TILDE"),
   (8766, "INVERTED LAZY S;SINE WAVE;WREATH PRODUCT;NOT TILDE;MINUS TILDE"),
   (8771, "ASYMPTOTICALLY EQUAL TO;NOT ASYMPTOTICALLY EQUAL TO;APPROXIMATELY EQUAL TO"),
   (8774, "APPROXIMATELY BUT NOT ACTUALLY EQUAL TO"),
   (8775, "NEITHER APPROXIMATELY NOR ACTUALLY EQUAL TO;ALMOST EQUAL TO;NOT ALMOST EQUAL TO"),
   (8778, "ALMOST EQUAL OR EQUAL TO;TRIPLE TILDE;ALL EQUAL TO;EQUIVALENT TO"),
   (8782, "GEOMETRICALLY EQUIVALENT TO;DIFFERENCE BETWEEN;APPROACHES THE LIMIT"),
   (8785, "GEOMETRICALLY EQUAL TO;APPROXIMATELY EQUAL TO OR THE IMAGE OF"),
   (8787, "IMAGE OF OR APPROXIMATELY EQUAL TO;COLON EQUALS;EQUALS COLON;RING IN EQUAL TO"),
   (8791, "RING EQUAL TO;CORRESPONDS TO;ESTIMATES;EQUIANGULAR TO;STAR EQUALS;DELTA EQUAL TO"),
   (8797, "EQUAL TO BY DEFINITION;MEASURED BY;QUESTIONED EQUAL TO;NOT EQUAL TO;IDENTICAL TO"),
   (8802, "NOT IDENTICAL TO;STRICTLY EQUIVALENT TO;LESS-THAN OR EQUAL TO"),
   (8805, "GREATER-THAN OR EQUAL TO;LESS-THAN OVER EQUAL TO;GREATER-THAN OVER EQUAL TO"),
   (8808, "LESS-THAN BUT NOT EQUAL TO;GREATER-THAN BUT NOT EQUAL TO;MUCH LESS-THAN"),
   (8811, "MUCH GREATER-THAN;BETWEEN;NOT EQUIVALENT TO;NOT LESS-THAN;NOT GREATER-THAN"),
   (8816, "NEITHER LESS-THAN NOR EQUAL TO;NEITHER GREATER-THAN NOR EQUAL TO"),
   (8818, "LESS-THAN OR EQUIVALENT TO;GREATER-THAN OR EQUIVALENT TO"),
   (8820, "NEITHER LESS-THAN NOR EQUIVALENT TO;NEITHER GREATER-THAN NOR EQUIVALENT TO"),
   (8822, "LESS-THAN OR GREATER-THAN;GREATER-THAN OR LESS-THAN"),
   (8824, "NEITHER LESS-THAN NOR GREATER-THAN;NEITHER GREATER-THAN NOR LESS-THAN;PRECEDES"),
   (8827, "SUCCEEDS;PRECEDES OR EQUAL TO;SUCCEEDS OR EQUAL TO;PRECEDES OR EQUIVALENT TO"),
   (8831, "SUCCEEDS OR EQUIVALENT TO;DOES NOT PRECEDE;DOES NOT SUCCEED;SUBSET OF"),
   (8835, "SUPERSET OF;NOT A SUBSET OF;NOT A SUPERSET OF;SUBSET OF OR EQUAL TO"),
   (8839, "SUPERSET OF OR EQUAL TO;NEITHER A SUBSET OF NOR EQUAL TO"),
   (8841, "NEITHER A SUPERSET OF NOR EQUAL TO;SUBSET OF WITH NOT EQUAL TO"),
   (8843, "SUPERSET OF WITH NOT EQUAL TO;MULTISET;MULTISET MULTIPLICATION;MULTISET UNION"),
   (8847, "SQUARE IMAGE OF"),
   (8849, "SQUARE IMAGE OF OR EQUAL TO"),
   (8851, "SQUARE CAP;SQUARE CUP;CIRCLED PLUS;CIRCLED MINUS"),
   (8855, "CIRCLED TIMES;CIRCLED DIVISION SLASH;CIRCLED DOT OPERATOR;CIRCLED RING OPERATOR"),
   (8859, "CIRCLED ASTERISK OPERATOR;CIRCLED EQUALS;CIRCLED DASH;SQUARED PLUS;SQUARED MINUS"),
   (8864, "SQUARED TIMES;SQUARED DOT OPERATOR;RIGHT TACK;LEFT TACK;DOWN TACK;UP TACK"),
   (8870, "ASSERTION;MODELS;TRUE;FORCES;TRIPLE VERTICAL BAR RIGHT TURNSTILE"),
   (8875, "DOUBLE VERTICAL BAR DOUBLE RIGHT TURNSTILE;DOES NOT PROVE;NOT TRUE"),
   (8878, "DOES NOT FORCE;NEGATED DOUBLE VERTICAL BAR DOUBLE RIGHT TURNSTILE"),
   (8880, "PRECEDES UNDER RELATION;SUCCEEDS UNDER RELATION;NORMAL SUBGROUP OF"),
   (8883, "CONTAINS AS NORMAL SUBGROUP;NORMAL SUBGROUP OF OR EQUAL TO"),
   (8885, "CONTAINS AS NORMAL SUBGROUP OR EQUAL TO"),
   (8887, "IMAGE OF;MULTIMAP"),
   (8889, "HERMITIAN CONJUGATE MATRIX;INTERCALATE;XOR;NAND;NOR;RIGHT ANGLE WITH ARC"),
   (8895, "RIGHT TRIANGLE;N-ARY LOGICAL AND;N-ARY LOGICAL OR;N-ARY INTERSECTION;N-ARY UNION"),
   (8900, "DIAMOND OPERATOR;DOT OPERATOR;STAR OPERATOR;DIVISION TIMES;BOWTIE"),
   (8905, "LEFT NORMAL FACTOR SEMIDIRECT PRODUCT;RIGHT NORMAL FACTOR SEMIDIRECT PRODUCT"),
   (8907, "LEFT SEMIDIRECT PRODUCT;RIGHT SEMIDIRECT PRODUCT;REVERSED TILDE EQUALS"),
   (8910, "CURLY LOGICAL OR;CURLY LOGICAL AND;DOUBLE SUBSET;DOUBLE SUPERSET"),
   (8914, "DOUBLE INTERSECTION;DOUBLE UNION;PITCHFORK;EQUAL AND PARALLEL TO"),
   (8918, "LESS-THAN WITH DOT;GREATER-THAN WITH DOT;VERY MUCH LESS-THAN"),
   (8921, "VERY MUCH GREATER-THAN;LESS-THAN EQUAL TO OR GREATER-THAN"),
   (8923, "GREATER-THAN EQUAL TO OR LESS-THAN;EQUAL TO OR LESS-THAN"),
   (8925, "EQUAL TO OR GREATER-THAN;EQUAL TO OR PRECEDES;EQUAL TO OR SUCCEEDS"),
   (8928, "DOES NOT PRECEDE OR EQUAL;DOES NOT SUCCEED OR EQUAL"),
   (8930, "NOT SQUARE IMAGE OF OR EQUAL TO"),
   (8932, "SQUARE IMAGE OF OR NOT EQUAL TO"),
   (8934, "LESS-THAN BUT NOT EQUIVALENT TO;GREATER-THAN BUT NOT EQUIVALENT TO"),
   (8936, "PRECEDES BUT NOT EQUIVALENT TO;SUCCEEDS BUT NOT EQUIVALENT TO"),
   (8938, "NOT NORMAL SUBGROUP OF;DOES NOT CONTAIN AS NORMAL SUBGROUP"),
   (8940, "NOT NORMAL SUBGROUP OF OR EQUAL TO;DOES NOT CONTAIN AS NORMAL SUBGROUP OR EQUAL"),
   (8942, "VERTICAL ELLIPSIS;MIDLINE HORIZONTAL ELLIPSIS;UP RIGHT DIAGONAL ELLIPSIS"),
   (8945, "DOWN RIGHT DIAGONAL ELLIPSIS;ELEMENT OF WITH LONG HORIZONTAL STROKE"),
   (8947, "ELEMENT OF WITH VERTICAL BAR AT END OF HORIZONTAL STROKE"),
   (8948, "SMALL ELEMENT OF WITH VERTICAL BAR AT END OF HORIZONTAL STROKE"),
   (8949, "ELEMENT OF WITH DOT ABOVE;ELEMENT OF WITH OVERBAR;SMALL ELEMENT OF WITH OVERBAR"),
   (8952, "ELEMENT OF WITH UNDERBAR;ELEMENT OF WITH TWO HORIZONTAL STROKES"),
   (8954, "CONTAINS WITH LONG HORIZONTAL STROKE"),
   (8955, "CONTAINS WITH VERTICAL BAR AT END OF HORIZONTAL STROKE"),
   (8956, "SMALL CONTAINS WITH VERTICAL BAR AT END OF HORIZONTAL STROKE"),
   (8957, "CONTAINS WITH OVERBAR;SMALL CONTAINS WITH OVERBAR;Z NOTATION BAG MEMBERSHIP"),
   (8960, "DIAMETER SIGN;ELECTRIC ARROW;HOUSE;UP ARROWHEAD;DOWN ARROWHEAD;PROJECTIVE"),
   (8966, "PERSPECTIVE;WAVY LINE;LEFT CEILING;RIGHT CEILING;LEFT FLOOR;RIGHT FLOOR"),
   (8972, "BOTTOM RIGHT CROP;BOTTOM LEFT CROP;TOP RIGHT CROP;TOP LEFT CROP"),
   (8976, "REVERSED NOT SIGN;SQUARE LOZENGE;ARC;SEGMENT;SECTOR;TELEPHONE RECORDER"),
   (8982, "POSITION INDICATOR;VIEWDATA SQUARE;PLACE OF INTEREST SIGN;TURNED NOT SIGN;WATCH"),
   (8987, "HOURGLASS;TOP LEFT CORNER;TOP RIGHT CORNER;BOTTOM LEFT CORNER"),
   (8991, "BOTTOM RIGHT CORNER;TOP HALF INTEGRAL;BOTTOM HALF INTEGRAL;FROWN;SMILE"),
   (8996, "UP ARROWHEAD BETWEEN TWO HORIZONTAL BARS;OPTION KEY;ERASE TO THE RIGHT"),
   (8999, "X IN A RECTANGLE BOX;KEYBOARD;LEFT-POINTING ANGLE BRACKET"),
   (9002, "RIGHT-POINTING ANGLE BRACKET;ERASE TO THE LEFT;BENZENE RING;CYLINDRICITY"),
   (9006, "ALL AROUND-PROFILE;SYMMETRY;TOTAL RUNOUT;DIMENSION ORIGIN;CONICAL TAPER;SLOPE"),
   (9012, "COUNTERBORE;COUNTERSINK;APL FUNCTIONAL SYMBOL I-BEAM"),
   (9015, "APL FUNCTIONAL SYMBOL SQUISH QUAD;APL FUNCTIONAL SYMBOL QUAD EQUAL"),
   (9017, "APL FUNCTIONAL SYMBOL QUAD DIVIDE;APL FUNCTIONAL SYMBOL QUAD DIAMOND"),
   (9019, "APL FUNCTIONAL SYMBOL QUAD JOT;APL FUNCTIONAL SYMBOL QUAD CIRCLE"),
   (9021, "APL FUNCTIONAL SYMBOL CIRCLE STILE;APL FUNCTIONAL SYMBOL CIRCLE JOT"),
   (9023, "APL FUNCTIONAL SYMBOL SLASH BAR;APL FUNCTIONAL SYMBOL BACKSLASH BAR"),
   (9025, "APL FUNCTIONAL SYMBOL QUAD SLASH;APL FUNCTIONAL SYMBOL QUAD BACKSLASH"),
   (9027, "APL FUNCTIONAL SYMBOL QUAD LESS-THAN;APL FUNCTIONAL SYMBOL QUAD GREATER-THAN"),
   (9029, "APL FUNCTIONAL SYMBOL LEFTWARDS VANE;APL FUNCTIONAL SYMBOL RIGHTWARDS VANE"),
   (9031, "APL FUNCTIONAL SYMBOL QUAD LEFTWARDS ARROW"),
   (9032, "APL FUNCTIONAL SYMBOL QUAD RIGHTWARDS ARROW"),
   (9033, "APL FUNCTIONAL SYMBOL CIRCLE BACKSLASH;APL FUNCTIONAL SYMBOL DOWN TACK UNDERBAR"),
   (9035, "APL FUNCTIONAL SYMBOL DELTA STILE;APL FUNCTIONAL SYMBOL QUAD DOWN CARET"),
   (9037, "APL FUNCTIONAL SYMBOL QUAD DELTA;APL FUNCTIONAL SYMBOL DOWN TACK JOT"),
   (9039, "APL FUNCTIONAL SYMBOL UPWARDS VANE;APL FUNCTIONAL SYMBOL QUAD UPWARDS ARROW"),
   (9041, "APL FUNCTIONAL SYMBOL UP TACK OVERBAR;APL FUNCTIONAL SYMBOL DEL STILE"),
   (9043, "APL FUNCTIONAL SYMBOL QUAD UP CARET;APL FUNCTIONAL SYMBOL QUAD DEL"),
   (9045, "APL FUNCTIONAL SYMBOL UP TACK JOT;APL FUNCTIONAL SYMBOL DOWNWARDS VANE"),
   (9047, "APL FUNCTIONAL SYMBOL QUAD DOWNWARDS ARROW;APL FUNCTIONAL SYMBOL QUOTE UNDERBAR"),
   (9049, "APL FUNCTIONAL SYMBOL DELTA UNDERBAR;APL FUNCTIONAL SYMBOL DIAMOND UNDERBAR"),
   (9051, "APL FUNCTIONAL SYMBOL JOT UNDERBAR;APL FUNCTIONAL SYMBOL CIRCLE UNDERBAR"),
   (9053, "APL FUNCTIONAL SYMBOL UP SHOE JOT;APL FUNCTIONAL SYMBOL QUOTE QUAD"),
   (9055, "APL FUNCTIONAL SYMBOL CIRCLE STAR;APL FUNCTIONAL SYMBOL QUAD COLON"),
   (9057, "APL FUNCTIONAL SYMBOL UP TACK DIAERESIS;APL FUNCTIONAL SYMBOL DEL DIAERESIS"),
   (9059, "APL FUNCTIONAL SYMBOL STAR DIAERESIS;APL FUNCTIONAL SYMBOL JOT DIAERESIS"),
   (9061, "APL FUNCTIONAL SYMBOL CIRCLE DIAERESIS;APL FUNCTIONAL SYMBOL DOWN SHOE STILE"),
   (9063, "APL FUNCTIONAL SYMBOL LEFT SHOE STILE;APL FUNCTIONAL SYMBOL TILDE DIAERESIS"),
   (9065, "APL FUNCTIONAL SYMBOL GREATER-THAN DIAERESIS;APL FUNCTIONAL SYMBOL COMMA BAR"),
   (9067, "APL FUNCTIONAL SYMBOL DEL TILDE;APL FUNCTIONAL SYMBOL ZILDE"),
   (9069, "APL FUNCTIONAL SYMBOL STILE TILDE;APL FUNCTIONAL SYMBOL SEMICOLON UNDERBAR"),
   (9071, "APL FUNCTIONAL SYMBOL QUAD NOT EQUAL;APL FUNCTIONAL SYMBOL QUAD QUESTION"),
   (9073, "APL FUNCTIONAL SYMBOL DOWN CARET TILDE;APL FUNCTIONAL SYMBOL UP CARET TILDE"),
   (9075, "APL FUNCTIONAL SYMBOL IOTA;APL FUNCTIONAL SYMBOL RHO;APL FUNCTIONAL SYMBOL OMEGA"),
   (9078, "APL FUNCTIONAL SYMBOL ALPHA UNDERBAR;APL FUNCTIONAL SYMBOL EPSILON UNDERBAR"),
   (9080, "APL FUNCTIONAL SYMBOL IOTA UNDERBAR;APL FUNCTIONAL SYMBOL OMEGA UNDERBAR"),
   (9082, "APL FUNCTIONAL SYMBOL ALPHA;NOT CHECK MARK"),
   (9084, "RIGHT ANGLE WITH DOWNWARDS ZIGZAG ARROW;SHOULDERED OPEN BOX;BELL SYMBOL"),
   (9087, "VERTICAL LINE WITH MIDDLE DOT;INSERTION SYMBOL;CONTINUOUS UNDERLINE SYMBOL"),
   (9090, "DISCONTINUOUS UNDERLINE SYMBOL;EMPHASIS SYMBOL;COMPOSITION SYMBOL"),
   (9093, "WHITE SQUARE WITH CENTRE VERTICAL LINE;ENTER SYMBOL;ALTERNATIVE KEY SYMBOL"),
   (9096, "HELM SYMBOL;CIRCLED HORIZONTAL BAR WITH NOTCH;CIRCLED TRIANGLE DOWN"),
   (9099, "BROKEN CIRCLE WITH NORTHWEST ARROW;UNDO SYMBOL;MONOSTABLE SYMBOL"),
   (9102, "HYSTERESIS SYMBOL;OPEN-CIRCUIT-OUTPUT H-TYPE SYMBOL"),
   (9104, "OPEN-CIRCUIT-OUTPUT L-TYPE SYMBOL;PASSIVE-PULL-DOWN-OUTPUT SYMBOL"),
   (9106, "PASSIVE-PULL-UP-OUTPUT SYMBOL;DIRECT CURRENT SYMBOL FORM TWO"),
   (9108, "SOFTWARE-FUNCTION SYMBOL;APL FUNCTIONAL SYMBOL QUAD;DECIMAL SEPARATOR KEY SYMBOL"),
   (9111, "PREVIOUS PAGE;NEXT PAGE;PRINT SCREEN SYMBOL;CLEAR SCREEN SYMBOL"),
   (9115, "LEFT PARENTHESIS UPPER HOOK;LEFT PARENTHESIS EXTENSION"),
   (9117, "LEFT PARENTHESIS LOWER HOOK;RIGHT PARENTHESIS UPPER HOOK"),
   (9119, "RIGHT PARENTHESIS EXTENSION;RIGHT PARENTHESIS LOWER HOOK"),
   (9121, "LEFT SQUARE BRACKET UPPER CORNER;LEFT SQUARE BRACKET EXTENSION"),
   (9123, "LEFT SQUARE BRACKET LOWER CORNER;RIGHT SQUARE BRACKET UPPER CORNER"),
   (9125, "RIGHT SQUARE BRACKET EXTENSION;RIGHT SQUARE BRACKET LOWER CORNER"),
   (9127, "LEFT CURLY BRACKET UPPER HOOK;LEFT CURLY BRACKET MIDDLE PIECE"),
   (9129, "LEFT CURLY BRACKET LOWER HOOK;CURLY BRACKET EXTENSION"),
   (9131, "RIGHT CURLY BRACKET UPPER HOOK;RIGHT CURLY BRACKET MIDDLE PIECE"),
   (9133, "RIGHT CURLY BRACKET LOWER HOOK;INTEGRAL EXTENSION;HORIZONTAL LINE EXTENSION"),
   (9136, "UPPER LEFT OR LOWER RIGHT CURLY BRACKET SECTION"),
   (9137, "UPPER RIGHT OR LOWER LEFT CURLY BRACKET SECTION;SUMMATION TOP;SUMMATION BOTTOM"),
   (9140, "TOP SQUARE BRACKET;BOTTOM SQUARE BRACKET"),
   (9142, "BOTTOM SQUARE BRACKET OVER TOP SQUARE BRACKET;RADICAL SYMBOL BOTTOM"),
   (9144, "LEFT VERTICAL BOX LINE;RIGHT VERTICAL BOX LINE;HORIZONTAL SCAN LINE-1"),
   (9147, "HORIZONTAL SCAN LINE-3;HORIZONTAL SCAN LINE-7;HORIZONTAL SCAN LINE-9"),
   (9150, "DENTISTRY SYMBOL LIGHT VERTICAL AND TOP RIGHT"),
   (9151, "DENTISTRY SYMBOL LIGHT VERTICAL AND BOTTOM RIGHT"),
   (9152, "DENTISTRY SYMBOL LIGHT VERTICAL WITH CIRCLE"),
   (9153, "DENTISTRY SYMBOL LIGHT DOWN AND HORIZONTAL WITH CIRCLE"),
   (9154, "DENTISTRY SYMBOL LIGHT UP AND HORIZONTAL WITH CIRCLE"),
   (9155, "DENTISTRY SYMBOL LIGHT VERTICAL WITH TRIANGLE"),
   (9156, "DENTISTRY SYMBOL LIGHT DOWN AND HORIZONTAL WITH TRIANGLE"),
   (9157, "DENTISTRY SYMBOL LIGHT UP AND HORIZONTAL WITH TRIANGLE"),
   (9158, "DENTISTRY SYMBOL LIGHT VERTICAL AND WAVE"),
   (9159, "DENTISTRY SYMBOL LIGHT DOWN AND HORIZONTAL WITH WAVE"),
   (9160, "DENTISTRY SYMBOL LIGHT UP AND HORIZONTAL WITH WAVE"),
   (9161, "DENTISTRY SYMBOL LIGHT DOWN AND HORIZONTAL"),
   (9162, "DENTISTRY SYMBOL LIGHT UP AND HORIZONTAL"),
   (9163, "DENTISTRY SYMBOL LIGHT VERTICAL AND TOP LEFT"),
   (9164, "DENTISTRY SYMBOL LIGHT VERTICAL AND BOTTOM LEFT;SQUARE FOOT;RETURN SYMBOL"),
   (9167, "EJECT SYMBOL;VERTICAL LINE EXTENSION;METRICAL BREVE;METRICAL LONG OVER SHORT"),
   (9171, "METRICAL SHORT OVER LONG;METRICAL LONG OVER TWO SHORTS"),
   (9173, "METRICAL TWO SHORTS OVER LONG;METRICAL TWO SHORTS JOINED;METRICAL TRISEME"),
   (9176, "METRICAL TETRASEME;METRICAL PENTASEME;EARTH GROUND;FUSE;TOP PARENTHESIS"),
   (9181, "BOTTOM PARENTHESIS;TOP CURLY BRACKET;BOTTOM CURLY BRACKET"),
   (9184, "TOP TORTOISE SHELL BRACKET;BOTTOM TORTOISE SHELL BRACKET;WHITE TRAPEZIUM"),
   (9187, "BENZENE RING WITH CIRCLE;STRAIGHTNESS;FLATNESS;AC CURRENT"),
   (9191, "ELECTRICAL INTERSECTION;DECIMAL EXPONENT SYMBOL"),
   (9193, "BLACK RIGHT-POINTING DOUBLE TRIANGLE;BLACK LEFT-POINTING DOUBLE TRIANGLE"),
   (9195, "BLACK UP-POINTING DOUBLE TRIANGLE;BLACK DOWN-POINTING DOUBLE TRIANGLE"),
   (9197, "BLACK RIGHT-POINTING DOUBLE TRIANGLE WITH VERTICAL BAR"),
   (9198, "BLACK LEFT-POINTING DOUBLE TRIANGLE WITH VERTICAL BAR"),
   (9199, "BLACK RIGHT-POINTING TRIANGLE WITH DOUBLE VERTICAL BAR;ALARM CLOCK;STOPWATCH"),
   (9202, "TIMER CLOCK;HOURGLASS WITH FLOWING SAND;BLACK MEDIUM LEFT-POINTING TRIANGLE"),
   (9205, "BLACK MEDIUM RIGHT-POINTING TRIANGLE;BLACK MEDIUM UP-POINTING TRIANGLE"),
   (9207, "BLACK MEDIUM DOWN-POINTING TRIANGLE;DOUBLE VERTICAL BAR;BLACK SQUARE FOR STOP"),
   (9210, "BLACK CIRCLE FOR RECORD;POWER SYMBOL;POWER ON-OFF SYMBOL;POWER ON SYMBOL"),
   (9214, "POWER SLEEP SYMBOL;OBSERVER EYE SYMBOL"),
   (9472, "BOX DRAWINGS LIGHT HORIZONTAL;BOX DRAWINGS HEAVY HORIZONTAL"),
   (9474, "BOX DRAWINGS LIGHT VERTICAL;BOX DRAWINGS HEAVY VERTICAL"),
   (9476, "BOX DRAWINGS LIGHT TRIPLE DASH HORIZONTAL"),
   (9477, "BOX DRAWINGS HEAVY TRIPLE DASH HORIZONTAL"),
   (9478, "BOX DRAWINGS LIGHT TRIPLE DASH VERTICAL;BOX DRAWINGS HEAVY TRIPLE DASH VERTICAL"),
   (9480, "BOX DRAWINGS LIGHT QUADRUPLE DASH HORIZONTAL"),
   (9481, "BOX DRAWINGS HEAVY QUADRUPLE DASH HORIZONTAL"),
   (9482, "BOX DRAWINGS LIGHT QUADRUPLE DASH VERTICAL"),
   (9483, "BOX DRAWINGS HEAVY QUADRUPLE DASH VERTICAL;BOX DRAWINGS LIGHT DOWN AND RIGHT"),
   (9485, "BOX DRAWINGS DOWN LIGHT AND RIGHT HEAVY;BOX DRAWINGS DOWN HEAVY AND RIGHT LIGHT"),
   (9487, "BOX DRAWINGS HEAVY DOWN AND RIGHT;BOX DRAWINGS LIGHT DOWN AND LEFT"),
   (9489, "BOX DRAWINGS DOWN LIGHT AND LEFT HEAVY;BOX DRAWINGS DOWN HEAVY AND LEFT LIGHT"),
   (9491, "BOX DRAWINGS HEAVY DOWN AND LEFT;BOX DRAWINGS LIGHT UP AND RIGHT"),
   (9493, "BOX DRAWINGS UP LIGHT AND RIGHT HEAVY;BOX DRAWINGS UP HEAVY AND RIGHT LIGHT"),
   (9495, "BOX DRAWINGS HEAVY UP AND RIGHT;BOX DRAWINGS LIGHT UP AND LEFT"),
   (9497, "BOX DRAWINGS UP LIGHT AND LEFT HEAVY;BOX DRAWINGS UP HEAVY AND LEFT LIGHT"),
   (9499, "BOX DRAWINGS HEAVY UP AND LEFT;BOX DRAWINGS LIGHT VERTICAL AND RIGHT"),
   (9501, "BOX DRAWINGS VERTICAL LIGHT AND RIGHT HEAVY"),
   (9502, "BOX DRAWINGS UP HEAVY AND RIGHT DOWN LIGHT"),
   (9503, "BOX DRAWINGS DOWN HEAVY AND RIGHT UP LIGHT"),
   (9504, "BOX DRAWINGS VERTICAL HEAVY AND RIGHT LIGHT"),
   (9505, "BOX DRAWINGS DOWN LIGHT AND RIGHT UP HEAVY"),
   (9506, "BOX DRAWINGS UP LIGHT AND RIGHT DOWN HEAVY;BOX DRAWINGS HEAVY VERTICAL AND RIGHT"),
   (9508, "BOX DRAWINGS LIGHT VERTICAL AND LEFT;BOX DRAWINGS VERTICAL LIGHT AND LEFT HEAVY"),
   (9510, "BOX DRAWINGS UP HEAVY AND LEFT DOWN LIGHT"),
   (9511, "BOX DRAWINGS DOWN HEAVY AND LEFT UP LIGHT"),
   (9512, "BOX DRAWINGS VERTICAL HEAVY AND LEFT LIGHT"),
   (9513, "BOX DRAWINGS DOWN LIGHT AND LEFT UP HEAVY"),
   (9514, "BOX DRAWINGS UP LIGHT AND LEFT DOWN HEAVY;BOX DRAWINGS HEAVY VERTICAL AND LEFT"),
   (9516, "BOX DRAWINGS LIGHT DOWN AND HORIZONTAL"),
   (9517, "BOX DRAWINGS LEFT HEAVY AND RIGHT DOWN LIGHT"),
   (9518, "BOX DRAWINGS RIGHT HEAVY AND LEFT DOWN LIGHT"),
   (9519, "BOX DRAWINGS DOWN LIGHT AND HORIZONTAL HEAVY"),
   (9520, "BOX DRAWINGS DOWN HEAVY AND HORIZONTAL LIGHT"),
   (9521, "BOX DRAWINGS RIGHT LIGHT AND LEFT DOWN HEAVY"),
   (9522, "BOX DRAWINGS LEFT LIGHT AND RIGHT DOWN HEAVY"),
   (9523, "BOX DRAWINGS HEAVY DOWN AND HORIZONTAL;BOX DRAWINGS LIGHT UP AND HORIZONTAL"),
   (9525, "BOX DRAWINGS LEFT HEAVY AND RIGHT UP LIGHT"),
   (9526, "BOX DRAWINGS RIGHT HEAVY AND LEFT UP LIGHT"),
   (9527, "BOX DRAWINGS UP LIGHT AND HORIZONTAL HEAVY"),
   (9528, "BOX DRAWINGS UP HEAVY AND HORIZONTAL LIGHT"),
   (9529, "BOX DRAWINGS RIGHT LIGHT AND LEFT UP HEAVY"),
   (9530, "BOX DRAWINGS LEFT LIGHT AND RIGHT UP HEAVY;BOX DRAWINGS HEAVY UP AND HORIZONTAL"),
   (9532, "BOX DRAWINGS LIGHT VERTICAL AND HORIZONTAL"),
   (9533, "BOX DRAWINGS LEFT HEAVY AND RIGHT VERTICAL LIGHT"),
   (9534, "BOX DRAWINGS RIGHT HEAVY AND LEFT VERTICAL LIGHT"),
   (9535, "BOX DRAWINGS VERTICAL LIGHT AND HORIZONTAL HEAVY"),
   (9536, "BOX DRAWINGS UP HEAVY AND DOWN HORIZONTAL LIGHT"),
   (9537, "BOX DRAWINGS DOWN HEAVY AND UP HORIZONTAL LIGHT"),
   (9538, "BOX DRAWINGS VERTICAL HEAVY AND HORIZONTAL LIGHT"),
   (9539, "BOX DRAWINGS LEFT UP HEAVY AND RIGHT DOWN LIGHT"),
   (9540, "BOX DRAWINGS RIGHT UP HEAVY AND LEFT DOWN LIGHT"),
   (9541, "BOX DRAWINGS LEFT DOWN HEAVY AND RIGHT UP LIGHT"),
   (9542, "BOX DRAWINGS RIGHT DOWN HEAVY AND LEFT UP LIGHT"),
   (9543, "BOX DRAWINGS DOWN LIGHT AND UP HORIZONTAL HEAVY"),
   (9544, "BOX DRAWINGS UP LIGHT AND DOWN HORIZONTAL HEAVY"),
   (9545, "BOX DRAWINGS RIGHT LIGHT AND LEFT VERTICAL HEAVY"),
   (9546, "BOX DRAWINGS LEFT LIGHT AND RIGHT VERTICAL HEAVY"),
   (9547, "BOX DRAWINGS HEAVY VERTICAL AND HORIZONTAL"),
   (9548, "BOX DRAWINGS LIGHT DOUBLE DASH HORIZONTAL"),
   (9549, "BOX DRAWINGS HEAVY DOUBLE DASH HORIZONTAL"),
   (9550, "BOX DRAWINGS LIGHT DOUBLE DASH VERTICAL;BOX DRAWINGS HEAVY DOUBLE DASH VERTICAL"),
   (9552, "BOX DRAWINGS DOUBLE HORIZONTAL;BOX DRAWINGS DOUBLE VERTICAL"),
   (9554, "BOX DRAWINGS DOWN SINGLE AND RIGHT DOUBLE"),
   (9555, "BOX DRAWINGS DOWN DOUBLE AND RIGHT SINGLE;BOX DRAWINGS DOUBLE DOWN AND RIGHT"),
   (9557, "BOX DRAWINGS DOWN SINGLE AND LEFT DOUBLE"),
   (9558, "BOX DRAWINGS DOWN DOUBLE AND LEFT SINGLE;BOX DRAWINGS DOUBLE DOWN AND LEFT"),
   (9560, "BOX DRAWINGS UP SINGLE AND RIGHT DOUBLE;BOX DRAWINGS UP DOUBLE AND RIGHT SINGLE"),
   (9562, "BOX DRAWINGS DOUBLE UP AND RIGHT;BOX DRAWINGS UP SINGLE AND LEFT DOUBLE"),
   (9564, "BOX DRAWINGS UP DOUBLE AND LEFT SINGLE;BOX DRAWINGS DOUBLE UP AND LEFT"),
   (9566, "BOX DRAWINGS VERTICAL SINGLE AND RIGHT DOUBLE"),
   (9567, "BOX DRAWINGS VERTICAL DOUBLE AND RIGHT SINGLE"),
   (9568, "BOX DRAWINGS DOUBLE VERTICAL AND RIGHT"),
   (9569, "BOX DRAWINGS VERTICAL SINGLE AND LEFT DOUBLE"),
   (9570, "BOX DRAWINGS VERTICAL DOUBLE AND LEFT SINGLE"),
   (9571, "BOX DRAWINGS DOUBLE VERTICAL AND LEFT"),
   (9572, "BOX DRAWINGS DOWN SINGLE AND HORIZONTAL DOUBLE"),
   (9573, "BOX DRAWINGS DOWN DOUBLE AND HORIZONTAL SINGLE"),
   (9574, "BOX DRAWINGS DOUBLE DOWN AND HORIZONTAL"),
   (9575, "BOX DRAWINGS UP SINGLE AND HORIZONTAL DOUBLE"),
   (9576, "BOX DRAWINGS UP DOUBLE AND HORIZONTAL SINGLE"),
   (9577, "BOX DRAWINGS DOUBLE UP AND HORIZONTAL"),
   (9578, "BOX DRAWINGS VERTICAL SINGLE AND HORIZONTAL DOUBLE"),
   (9579, "BOX DRAWINGS VERTICAL DOUBLE AND HORIZONTAL SINGLE"),
   (9580, "BOX DRAWINGS DOUBLE VERTICAL AND HORIZONTAL"),
   (9581, "BOX DRAWINGS LIGHT ARC DOWN AND RIGHT;BOX DRAWINGS LIGHT ARC DOWN AND LEFT"),
   (9583, "BOX DRAWINGS LIGHT ARC UP AND LEFT;BOX DRAWINGS LIGHT ARC UP AND RIGHT"),
   (9585, "BOX DRAWINGS LIGHT DIAGONAL UPPER RIGHT TO LOWER LEFT"),
   (9586, "BOX DRAWINGS LIGHT DIAGONAL UPPER LEFT TO LOWER RIGHT"),
   (9587, "BOX DRAWINGS LIGHT DIAGONAL CROSS;BOX DRAWINGS LIGHT LEFT;BOX DRAWINGS LIGHT UP"),
   (9590, "BOX DRAWINGS LIGHT RIGHT;BOX DRAWINGS LIGHT DOWN;BOX DRAWINGS HEAVY LEFT"),
   (9593, "BOX DRAWINGS HEAVY UP;BOX DRAWINGS HEAVY RIGHT;BOX DRAWINGS HEAVY DOWN"),
   (9596, "BOX DRAWINGS LIGHT LEFT AND HEAVY RIGHT;BOX DRAWINGS LIGHT UP AND HEAVY DOWN"),
   (9598, "BOX DRAWINGS HEAVY LEFT AND LIGHT RIGHT;BOX DRAWINGS HEAVY UP AND LIGHT DOWN"),
   (9600, "UPPER HALF BLOCK;LOWER ONE EIGHTH BLOCK;LOWER ONE QUARTER BLOCK"),
   (9603, "LOWER THREE EIGHTHS BLOCK;LOWER HALF BLOCK;LOWER FIVE EIGHTHS BLOCK"),
   (9606, "LOWER THREE QUARTERS BLOCK;LOWER SEVEN EIGHTHS BLOCK;FULL BLOCK"),
   (9609, "LEFT SEVEN EIGHTHS BLOCK;LEFT THREE QUARTERS BLOCK;LEFT FIVE EIGHTHS BLOCK"),
   (9612, "LEFT HALF BLOCK;LEFT THREE EIGHTHS BLOCK;LEFT ONE QUARTER BLOCK"),
   (9615, "LEFT ONE EIGHTH BLOCK;RIGHT HALF BLOCK;LIGHT SHADE;MEDIUM SHADE;DARK SHADE"),
   (9620, "UPPER ONE EIGHTH BLOCK;RIGHT ONE EIGHTH BLOCK;QUADRANT LOWER LEFT"),
   (9623, "QUADRANT LOWER RIGHT;QUADRANT UPPER LEFT"),
   (9625, "QUADRANT UPPER LEFT AND LOWER LEFT AND LOWER RIGHT"),
   (9626, "QUADRANT UPPER LEFT AND LOWER RIGHT"),
   (9627, "QUADRANT UPPER LEFT AND UPPER RIGHT AND LOWER LEFT"),
   (9628, "QUADRANT UPPER LEFT AND UPPER RIGHT AND LOWER RIGHT;QUADRANT UPPER RIGHT"),
   (9630, "QUADRANT UPPER RIGHT AND LOWER LEFT"),
   (9631, "QUADRANT UPPER RIGHT AND LOWER LEFT AND LOWER RIGHT;BLACK SQUARE;WHITE SQUARE"),
   (9634, "WHITE SQUARE WITH ROUNDED CORNERS;WHITE SQUARE CONTAINING BLACK SMALL SQUARE"),
   (9636, "SQUARE WITH HORIZONTAL FILL;SQUARE WITH VERTICAL FILL"),
   (9638, "SQUARE WITH ORTHOGONAL CROSSHATCH FILL"),
   (9639, "SQUARE WITH UPPER LEFT TO LOWER RIGHT FILL"),
   (9640, "SQUARE WITH UPPER RIGHT TO LOWER LEFT FILL;SQUARE WITH DIAGONAL CROSSHATCH FILL"),
   (9642, "BLACK SMALL SQUARE;WHITE SMALL SQUARE;BLACK RECTANGLE;WHITE RECTANGLE"),
   (9646, "BLACK VERTICAL RECTANGLE;WHITE VERTICAL RECTANGLE;BLACK PARALLELOGRAM"),
   (9649, "WHITE PARALLELOGRAM;BLACK UP-POINTING TRIANGLE;WHITE UP-POINTING TRIANGLE"),
   (9652, "BLACK UP-POINTING SMALL TRIANGLE;WHITE UP-POINTING SMALL TRIANGLE"),
   (9654, "BLACK RIGHT-POINTING TRIANGLE;WHITE RIGHT-POINTING TRIANGLE"),
   (9656, "BLACK RIGHT-POINTING SMALL TRIANGLE;WHITE RIGHT-POINTING SMALL TRIANGLE"),
   (9658, "BLACK RIGHT-POINTING POINTER;WHITE RIGHT-POINTING POINTER"),
   (9660, "BLACK DOWN-POINTING TRIANGLE;WHITE DOWN-POINTING TRIANGLE"),
   (9662, "BLACK DOWN-POINTING SMALL TRIANGLE;WHITE DOWN-POINTING SMALL TRIANGLE"),
   (9664, "BLACK LEFT-POINTING TRIANGLE;WHITE LEFT-POINTING TRIANGLE"),
   (9666, "BLACK LEFT-POINTING SMALL TRIANGLE;WHITE LEFT-POINTING SMALL TRIANGLE"),
   (9668, "BLACK LEFT-POINTING POINTER;WHITE LEFT-POINTING POINTER;BLACK DIAMOND"),
   (9671, "WHITE DIAMOND;WHITE DIAMOND CONTAINING BLACK SMALL DIAMOND;FISHEYE;LOZENGE"),
   (9675, "WHITE CIRCLE;DOTTED CIRCLE;CIRCLE WITH VERTICAL FILL;BULLSEYE;BLACK CIRCLE"),
   (9680, "CIRCLE WITH LEFT HALF BLACK;CIRCLE WITH RIGHT HALF BLACK"),
   (9682, "CIRCLE WITH LOWER HALF BLACK;CIRCLE WITH UPPER HALF BLACK"),
   (9684, "CIRCLE WITH UPPER RIGHT QUADRANT BLACK"),
   (9685, "CIRCLE WITH ALL BUT UPPER LEFT QUADRANT BLACK;LEFT HALF BLACK CIRCLE"),
   (9687, "RIGHT HALF BLACK CIRCLE;INVERSE BULLET;INVERSE WHITE CIRCLE"),
   (9690, "UPPER HALF INVERSE WHITE CIRCLE;LOWER HALF INVERSE WHITE CIRCLE"),
   (9692, "UPPER LEFT QUADRANT CIRCULAR ARC;UPPER RIGHT QUADRANT CIRCULAR ARC"),
   (9694, "LOWER RIGHT QUADRANT CIRCULAR ARC;LOWER LEFT QUADRANT CIRCULAR ARC"),
   (9696, "UPPER HALF CIRCLE;LOWER HALF CIRCLE;BLACK LOWER RIGHT TRIANGLE"),
   (9699, "BLACK LOWER LEFT TRIANGLE;BLACK UPPER LEFT TRIANGLE;BLACK UPPER RIGHT TRIANGLE"),
   (9702, "WHITE BULLET;SQUARE WITH LEFT HALF BLACK;SQUARE WITH RIGHT HALF BLACK"),
   (9705, "SQUARE WITH UPPER LEFT DIAGONAL HALF BLACK"),
   (9706, "SQUARE WITH LOWER RIGHT DIAGONAL HALF BLACK"),
   (9707, "WHITE SQUARE WITH VERTICAL BISECTING LINE;WHITE UP-POINTING TRIANGLE WITH DOT"),
   (9709, "UP-POINTING TRIANGLE WITH LEFT HALF BLACK"),
   (9710, "UP-POINTING TRIANGLE WITH RIGHT HALF BLACK;LARGE CIRCLE"),
   (9712, "WHITE SQUARE WITH UPPER LEFT QUADRANT;WHITE SQUARE WITH LOWER LEFT QUADRANT"),
   (9714, "WHITE SQUARE WITH LOWER RIGHT QUADRANT;WHITE SQUARE WITH UPPER RIGHT QUADRANT"),
   (9716, "WHITE CIRCLE WITH UPPER LEFT QUADRANT;WHITE CIRCLE WITH LOWER LEFT QUADRANT"),
   (9718, "WHITE CIRCLE WITH LOWER RIGHT QUADRANT;WHITE CIRCLE WITH UPPER RIGHT QUADRANT"),
   (9720, "UPPER LEFT TRIANGLE;UPPER RIGHT TRIANGLE;LOWER LEFT TRIANGLE;WHITE MEDIUM SQUARE"),
   (9724, "BLACK MEDIUM SQUARE;WHITE MEDIUM SMALL SQUARE;BLACK MEDIUM SMALL SQUARE"),
   (9727, "LOWER RIGHT TRIANGLE;BLACK SUN WITH RAYS;CLOUD;UMBRELLA;SNOWMAN;COMET;BLACK STAR"),
   (9734, "WHITE STAR;LIGHTNING;THUNDERSTORM;SUN;ASCENDING NODE;DESCENDING NODE;CONJUNCTION"),
   (9741, "OPPOSITION;BLACK TELEPHONE;WHITE TELEPHONE;BALLOT BOX;BALLOT BOX WITH CHECK"),
   (9746, "BALLOT BOX WITH X;SALTIRE;UMBRELLA WITH RAIN DROPS;HOT BEVERAGE"),
   (9750, "WHITE SHOGI PIECE;BLACK SHOGI PIECE;SHAMROCK"),
   (9753, "REVERSED ROTATED FLORAL HEART BULLET;BLACK LEFT POINTING INDEX"),
   (9755, "BLACK RIGHT POINTING INDEX;WHITE LEFT POINTING INDEX;WHITE UP POINTING INDEX"),
   (9758, "WHITE RIGHT POINTING INDEX;WHITE DOWN POINTING INDEX;SKULL AND CROSSBONES"),
   (9761, "CAUTION SIGN;RADIOACTIVE SIGN;BIOHAZARD SIGN;CADUCEUS;ANKH;ORTHODOX CROSS"),
   (9767, "CHI RHO;CROSS OF LORRAINE;CROSS OF JERUSALEM;STAR AND CRESCENT;FARSI SYMBOL"),
   (9772, "ADI SHAKTI;HAMMER AND SICKLE;PEACE SYMBOL;YIN YANG;TRIGRAM FOR HEAVEN"),
   (9777, "TRIGRAM FOR LAKE;TRIGRAM FOR FIRE;TRIGRAM FOR THUNDER;TRIGRAM FOR WIND"),
   (9781, "TRIGRAM FOR WATER;TRIGRAM FOR MOUNTAIN;TRIGRAM FOR EARTH;WHEEL OF DHARMA"),
   (9785, "WHITE FROWNING FACE;WHITE SMILING FACE;BLACK SMILING FACE;WHITE SUN WITH RAYS"),
   (9789, "FIRST QUARTER MOON;LAST QUARTER MOON;MERCURY;FEMALE SIGN;EARTH;MALE SIGN;JUPITER"),
   (9796, "SATURN;URANUS;NEPTUNE;PLUTO;ARIES;TAURUS;GEMINI;CANCER;LEO;VIRGO;LIBRA;SCORPIUS"),
   (9808, "SAGITTARIUS;CAPRICORN;AQUARIUS;PISCES;WHITE CHESS KING;WHITE CHESS QUEEN"),
   (9814, "WHITE CHESS ROOK;WHITE CHESS BISHOP;WHITE CHESS KNIGHT;WHITE CHESS PAWN"),
   (9818, "BLACK CHESS KING;BLACK CHESS QUEEN;BLACK CHESS ROOK;BLACK CHESS BISHOP"),
   (9822, "BLACK CHESS KNIGHT;BLACK CHESS PAWN;BLACK SPADE SUIT;WHITE HEART SUIT"),
   (9826, "WHITE DIAMOND SUIT;BLACK CLUB SUIT;WHITE SPADE SUIT;BLACK HEART SUIT"),
   (9830, "BLACK DIAMOND SUIT;WHITE CLUB SUIT;HOT SPRINGS;QUARTER NOTE;EIGHTH NOTE"),
   (9835, "BEAMED EIGHTH NOTES;BEAMED SIXTEENTH NOTES;MUSIC FLAT SIGN;MUSIC NATURAL SIGN"),
   (9839, "MUSIC SHARP SIGN;WEST SYRIAC CROSS;EAST SYRIAC CROSS;UNIVERSAL RECYCLING SYMBOL"),
   (9843, "RECYCLING SYMBOL FOR TYPE-1 PLASTICS;RECYCLING SYMBOL FOR TYPE-2 PLASTICS"),
   (9845, "RECYCLING SYMBOL FOR TYPE-3 PLASTICS;RECYCLING SYMBOL FOR TYPE-4 PLASTICS"),
   (9847, "RECYCLING SYMBOL FOR TYPE-5 PLASTICS;RECYCLING SYMBOL FOR TYPE-6 PLASTICS"),
   (9849, "RECYCLING SYMBOL FOR TYPE-7 PLASTICS;RECYCLING SYMBOL FOR GENERIC MATERIALS"),
   (9851, "BLACK UNIVERSAL RECYCLING SYMBOL;RECYCLED PAPER SYMBOL"),
   (9853, "PARTIALLY-RECYCLED PAPER SYMBOL;PERMANENT PAPER SIGN;WHEELCHAIR SYMBOL"),
   (9856, "DIE FACE-1;DIE FACE-2;DIE FACE-3;DIE FACE-4;DIE FACE-5;DIE FACE-6"),
   (9862, "WHITE CIRCLE WITH DOT RIGHT;WHITE CIRCLE WITH TWO DOTS"),
   (9864, "BLACK CIRCLE WITH WHITE DOT RIGHT;BLACK CIRCLE WITH TWO WHITE DOTS"),
   (9866, "MONOGRAM FOR YANG;MONOGRAM FOR YIN;DIGRAM FOR GREATER YANG;DIGRAM FOR LESSER YIN"),
   (9870, "DIGRAM FOR LESSER YANG;DIGRAM FOR GREATER YIN;WHITE FLAG;BLACK FLAG"),
   (9874, "HAMMER AND PICK;ANCHOR;CROSSED SWORDS;STAFF OF AESCULAPIUS;SCALES;ALEMBIC;FLOWER"),
   (9881, "GEAR;STAFF OF HERMES;ATOM SYMBOL;FLEUR-DE-LIS;OUTLINED WHITE STAR"),
   (9886, "THREE LINES CONVERGING RIGHT;THREE LINES CONVERGING LEFT;WARNING SIGN"),
   (9889, "HIGH VOLTAGE SIGN;DOUBLED FEMALE SIGN;DOUBLED MALE SIGN"),
   (9892, "INTERLOCKED FEMALE AND MALE SIGN;MALE AND FEMALE SIGN;MALE WITH STROKE SIGN"),
   (9895, "MALE WITH STROKE AND MALE AND FEMALE SIGN;VERTICAL MALE WITH STROKE SIGN"),
   (9897, "HORIZONTAL MALE WITH STROKE SIGN;MEDIUM WHITE CIRCLE;MEDIUM BLACK CIRCLE"),
   (9900, "MEDIUM SMALL WHITE CIRCLE;MARRIAGE SYMBOL;DIVORCE SYMBOL"),
   (9903, "UNMARRIED PARTNERSHIP SYMBOL;COFFIN;FUNERAL URN;NEUTER;CERES;PALLAS;JUNO;VESTA"),
   (9911, "CHIRON;BLACK MOON LILITH;SEXTILE;SEMISEXTILE;QUINCUNX;SESQUIQUADRATE;SOCCER BALL"),
   (9918, "BASEBALL;SQUARED KEY;WHITE DRAUGHTS MAN;WHITE DRAUGHTS KING;BLACK DRAUGHTS MAN"),
   (9923, "BLACK DRAUGHTS KING;SNOWMAN WITHOUT SNOW;SUN BEHIND CLOUD;RAIN;BLACK SNOWMAN"),
   (9928, "THUNDER CLOUD AND RAIN;TURNED WHITE SHOGI PIECE;TURNED BLACK SHOGI PIECE"),
   (9931, "WHITE DIAMOND IN SQUARE;CROSSING LANES;DISABLED CAR;OPHIUCHUS;PICK;CAR SLIDING"),
   (9937, "HELMET WITH WHITE CROSS;CIRCLED CROSSING LANES;CHAINS;NO ENTRY"),
   (9941, "ALTERNATE ONE-WAY LEFT WAY TRAFFIC;BLACK TWO-WAY LEFT WAY TRAFFIC"),
   (9943, "WHITE TWO-WAY LEFT WAY TRAFFIC;BLACK LEFT LANE MERGE;WHITE LEFT LANE MERGE"),
   (9946, "DRIVE SLOW SIGN;HEAVY WHITE DOWN-POINTING TRIANGLE;LEFT CLOSED ENTRY"),
   (9949, "SQUARED SALTIRE;FALLING DIAGONAL IN WHITE CIRCLE IN BLACK SQUARE;BLACK TRUCK"),
   (9952, "RESTRICTED LEFT ENTRY-1;RESTRICTED LEFT ENTRY-2;ASTRONOMICAL SYMBOL FOR URANUS"),
   (9955, "HEAVY CIRCLE WITH STROKE AND TWO DOTS ABOVE;PENTAGRAM"),
   (9957, "RIGHT-HANDED INTERLACED PENTAGRAM;LEFT-HANDED INTERLACED PENTAGRAM"),
   (9959, "INVERTED PENTAGRAM;BLACK CROSS ON SHIELD;SHINTO SHRINE;CHURCH;CASTLE"),
   (9964, "HISTORIC SITE;GEAR WITHOUT HUB;GEAR WITH HANDLES;MAP SYMBOL FOR LIGHTHOUSE"),
   (9968, "MOUNTAIN;UMBRELLA ON GROUND;FOUNTAIN;FLAG IN HOLE;FERRY;SAILBOAT"),
   (9974, "SQUARE FOUR CORNERS;SKIER;ICE SKATE;PERSON WITH BALL;TENT;JAPANESE BANK SYMBOL"),
   (9980, "HEADSTONE GRAVEYARD SYMBOL;FUEL PUMP;CUP ON BLACK SQUARE"),
   (9983, "WHITE FLAG WITH HORIZONTAL MIDDLE BLACK STRIPE;BLACK SAFETY SCISSORS"),
   (9985, "UPPER BLADE SCISSORS;BLACK SCISSORS;LOWER BLADE SCISSORS;WHITE SCISSORS"),
   (9989, "WHITE HEAVY CHECK MARK;TELEPHONE LOCATION SIGN;TAPE DRIVE;AIRPLANE;ENVELOPE"),
   (9994, "RAISED FIST;RAISED HAND;VICTORY HAND;WRITING HAND;LOWER RIGHT PENCIL;PENCIL"),
   (10000, "UPPER RIGHT PENCIL;WHITE NIB;BLACK NIB;CHECK MARK;HEAVY CHECK MARK"),
   (10005, "MULTIPLICATION X;HEAVY MULTIPLICATION X;BALLOT X;HEAVY BALLOT X"),
   (10009, "OUTLINED GREEK CROSS;HEAVY GREEK CROSS;OPEN CENTRE CROSS;HEAVY OPEN CENTRE CROSS"),
   (10013, "LATIN CROSS;SHADOWED WHITE LATIN CROSS;OUTLINED LATIN CROSS;MALTESE CROSS"),
   (10017, "STAR OF DAVID;FOUR TEARDROP-SPOKED ASTERISK;FOUR BALLOON-SPOKED ASTERISK"),
   (10020, "HEAVY FOUR BALLOON-SPOKED ASTERISK;FOUR CLUB-SPOKED ASTERISK"),
   (10022, "BLACK FOUR POINTED STAR;WHITE FOUR POINTED STAR;SPARKLES"),
   (10025, "STRESS OUTLINED WHITE STAR;CIRCLED WHITE STAR;OPEN CENTRE BLACK STAR"),
   (10028, "BLACK CENTRE WHITE STAR;OUTLINED BLACK STAR;HEAVY OUTLINED BLACK STAR"),
   (10031, "PINWHEEL STAR;SHADOWED WHITE STAR;HEAVY ASTERISK;OPEN CENTRE ASTERISK"),
   (10035, "EIGHT SPOKED ASTERISK;EIGHT POINTED BLACK STAR;EIGHT POINTED PINWHEEL STAR"),
   (10038, "SIX POINTED BLACK STAR;EIGHT POINTED RECTILINEAR BLACK STAR"),
   (10040, "HEAVY EIGHT POINTED RECTILINEAR BLACK STAR;TWELVE POINTED BLACK STAR"),
   (10042, "SIXTEEN POINTED ASTERISK;TEARDROP-SPOKED ASTERISK"),
   (10044, "OPEN CENTRE TEARDROP-SPOKED ASTERISK;HEAVY TEARDROP-SPOKED ASTERISK"),
   (10046, "SIX PETALLED BLACK AND WHITE FLORETTE;BLACK FLORETTE;WHITE FLORETTE"),
   (10049, "EIGHT PETALLED OUTLINED BLACK FLORETTE;CIRCLED OPEN CENTRE EIGHT POINTED STAR"),
   (10051, "HEAVY TEARDROP-SPOKED PINWHEEL ASTERISK;SNOWFLAKE;TIGHT TRIFOLIATE SNOWFLAKE"),
   (10054, "HEAVY CHEVRON SNOWFLAKE;SPARKLE;HEAVY SPARKLE;BALLOON-SPOKED ASTERISK"),
   (10058, "EIGHT TEARDROP-SPOKED PROPELLER ASTERISK"),
   (10059, "HEAVY EIGHT TEARDROP-SPOKED PROPELLER ASTERISK;CROSS MARK;SHADOWED WHITE CIRCLE"),
   (10062, "NEGATIVE SQUARED CROSS MARK;LOWER RIGHT DROP-SHADOWED WHITE SQUARE"),
   (10064, "UPPER RIGHT DROP-SHADOWED WHITE SQUARE;LOWER RIGHT SHADOWED WHITE SQUARE"),
   (10066, "UPPER RIGHT SHADOWED WHITE SQUARE;BLACK QUESTION MARK ORNAMENT"),
   (10068, "WHITE QUESTION MARK ORNAMENT;WHITE EXCLAMATION MARK ORNAMENT"),
   (10070, "BLACK DIAMOND MINUS WHITE X;HEAVY EXCLAMATION MARK SYMBOL;LIGHT VERTICAL BAR"),
   (10073, "MEDIUM VERTICAL BAR;HEAVY VERTICAL BAR"),
   (10075, "HEAVY SINGLE TURNED COMMA QUOTATION MARK ORNAMENT"),
   (10076, "HEAVY SINGLE COMMA QUOTATION MARK ORNAMENT"),
   (10077, "HEAVY DOUBLE TURNED COMMA QUOTATION MARK ORNAMENT"),
   (10078, "HEAVY DOUBLE COMMA QUOTATION MARK ORNAMENT"),
   (10079, "HEAVY LOW SINGLE COMMA QUOTATION MARK ORNAMENT"),
   (10080, "HEAVY LOW DOUBLE COMMA QUOTATION MARK ORNAMENT"),
   (10081, "CURVED STEM PARAGRAPH SIGN ORNAMENT;HEAVY EXCLAMATION MARK ORNAMENT"),
   (10083, "HEAVY HEART EXCLAMATION MARK ORNAMENT;HEAVY BLACK HEART"),
   (10085, "ROTATED HEAVY BLACK HEART BULLET;FLORAL HEART;ROTATED FLORAL HEART BULLET"),
   (10088, "MEDIUM LEFT PARENTHESIS ORNAMENT;MEDIUM RIGHT PARENTHESIS ORNAMENT"),
   (10090, "MEDIUM FLATTENED LEFT PARENTHESIS ORNAMENT"),
   (10091, "MEDIUM FLATTENED RIGHT PARENTHESIS ORNAMENT"),
   (10092, "MEDIUM LEFT-POINTING ANGLE BRACKET ORNAMENT"),
   (10093, "MEDIUM RIGHT-POINTING ANGLE BRACKET ORNAMENT"),
   (10094, "HEAVY LEFT-POINTING ANGLE QUOTATION MARK ORNAMENT"),
   (10095, "HEAVY RIGHT-POINTING ANGLE QUOTATION MARK ORNAMENT"),
   (10096, "HEAVY LEFT-POINTING ANGLE BRACKET ORNAMENT"),
   (10097, "HEAVY RIGHT-POINTING ANGLE BRACKET ORNAMENT"),
   (10098, "LIGHT LEFT TORTOISE SHELL BRACKET ORNAMENT"),
   (10099, "LIGHT RIGHT TORTOISE SHELL BRACKET ORNAMENT;MEDIUM LEFT CURLY BRACKET ORNAMENT"),
   (10101, "MEDIUM RIGHT CURLY BRACKET ORNAMENT;DINGBAT NEGATIVE CIRCLED DIGIT ONE"),
   (10103, "DINGBAT NEGATIVE CIRCLED DIGIT TWO;DINGBAT NEGATIVE CIRCLED DIGIT THREE"),
   (10105, "DINGBAT NEGATIVE CIRCLED DIGIT FOUR;DINGBAT NEGATIVE CIRCLED DIGIT FIVE"),
   (10107, "DINGBAT NEGATIVE CIRCLED DIGIT SIX;DINGBAT NEGATIVE CIRCLED DIGIT SEVEN"),
   (10109, "DINGBAT NEGATIVE CIRCLED DIGIT EIGHT;DINGBAT NEGATIVE CIRCLED DIGIT NINE"),
   (10111, "DINGBAT NEGATIVE CIRCLED NUMBER TEN;DINGBAT CIRCLED SANS-SERIF DIGIT ONE"),
   (10113, "DINGBAT CIRCLED SANS-SERIF DIGIT TWO;DINGBAT CIRCLED SANS-SERIF DIGIT THREE"),
   (10115, "DINGBAT CIRCLED SANS-SERIF DIGIT FOUR;DINGBAT CIRCLED SANS-SERIF DIGIT FIVE"),
   (10117, "DINGBAT CIRCLED SANS-SERIF DIGIT SIX;DINGBAT CIRCLED SANS-SERIF DIGIT SEVEN"),
   (10119, "DINGBAT CIRCLED SANS-SERIF DIGIT EIGHT;DINGBAT CIRCLED SANS-SERIF DIGIT NINE"),
   (10121, "DINGBAT CIRCLED SANS-SERIF NUMBER TEN"),
   (10122, "DINGBAT NEGATIVE CIRCLED SANS-SERIF DIGIT ONE"),
   (10123, "DINGBAT NEGATIVE CIRCLED SANS-SERIF DIGIT TWO"),
   (10124, "DINGBAT NEGATIVE CIRCLED SANS-SERIF DIGIT THREE"),
   (10125, "DINGBAT NEGATIVE CIRCLED SANS-SERIF DIGIT FOUR"),
   (10126, "DINGBAT NEGATIVE CIRCLED SANS-SERIF DIGIT FIVE"),
   (10127, "DINGBAT NEGATIVE CIRCLED SANS-SERIF DIGIT SIX"),
   (10128, "DINGBAT NEGATIVE CIRCLED SANS-SERIF DIGIT SEVEN"),
   (10129, "DINGBAT NEGATIVE CIRCLED SANS-SERIF DIGIT EIGHT"),
   (10130, "DINGBAT NEGATIVE CIRCLED SANS-SERIF DIGIT NINE"),
   (10131, "DINGBAT NEGATIVE CIRCLED SANS-SERIF NUMBER TEN"),
   (10132, "HEAVY WIDE-HEADED RIGHTWARDS ARROW;HEAVY PLUS SIGN;HEAVY MINUS SIGN"),
   (10135, "HEAVY DIVISION SIGN;HEAVY SOUTH EAST ARROW;HEAVY RIGHTWARDS ARROW"),
   (10138, "HEAVY NORTH EAST ARROW;DRAFTING POINT RIGHTWARDS ARROW"),
   (10140, "HEAVY ROUND-TIPPED RIGHTWARDS ARROW;TRIANGLE-HEADED RIGHTWARDS ARROW"),
   (10142, "HEAVY TRIANGLE-HEADED RIGHTWARDS ARROW;DASHED TRIANGLE-HEADED RIGHTWARDS ARROW"),
   (10144, "HEAVY DASHED TRIANGLE-HEADED RIGHTWARDS ARROW;BLACK RIGHTWARDS ARROW"),
   (10146, "THREE-D TOP-LIGHTED RIGHTWARDS ARROWHEAD"),
   (10147, "THREE-D BOTTOM-LIGHTED RIGHTWARDS ARROWHEAD;BLACK RIGHTWARDS ARROWHEAD"),
   (10149, "HEAVY BLACK CURVED DOWNWARDS AND RIGHTWARDS ARROW"),
   (10150, "HEAVY BLACK CURVED UPWARDS AND RIGHTWARDS ARROW;SQUAT BLACK RIGHTWARDS ARROW"),
   (10152, "HEAVY CONCAVE-POINTED BLACK RIGHTWARDS ARROW;RIGHT-SHADED WHITE RIGHTWARDS ARROW"),
   (10154, "LEFT-SHADED WHITE RIGHTWARDS ARROW;BACK-TILTED SHADOWED WHITE RIGHTWARDS ARROW"),
   (10156, "FRONT-TILTED SHADOWED WHITE RIGHTWARDS ARROW"),
   (10157, "HEAVY LOWER RIGHT-SHADOWED WHITE RIGHTWARDS ARROW"),
   (10158, "HEAVY UPPER RIGHT-SHADOWED WHITE RIGHTWARDS ARROW"),
   (10159, "NOTCHED LOWER RIGHT-SHADOWED WHITE RIGHTWARDS ARROW;CURLY LOOP"),
   (10161, "NOTCHED UPPER RIGHT-SHADOWED WHITE RIGHTWARDS ARROW"),
   (10162, "CIRCLED HEAVY WHITE RIGHTWARDS ARROW;WHITE-FEATHERED RIGHTWARDS ARROW"),
   (10164, "BLACK-FEATHERED SOUTH EAST ARROW;BLACK-FEATHERED RIGHTWARDS ARROW"),
   (10166, "BLACK-FEATHERED NORTH EAST ARROW;HEAVY BLACK-FEATHERED SOUTH EAST ARROW"),
   (10168, "HEAVY BLACK-FEATHERED RIGHTWARDS ARROW;HEAVY BLACK-FEATHERED NORTH EAST ARROW"),
   (10170, "TEARDROP-BARBED RIGHTWARDS ARROW;HEAVY TEARDROP-SHANKED RIGHTWARDS ARROW"),
   (10172, "WEDGE-TAILED RIGHTWARDS ARROW;HEAVY WEDGE-TAILED RIGHTWARDS ARROW"),
   (10174, "OPEN-OUTLINED RIGHTWARDS ARROW;DOUBLE CURLY LOOP"),
   (12288, "IDEOGRAPHIC SPACE;IDEOGRAPHIC COMMA;IDEOGRAPHIC FULL STOP;DITTO MARK"),
   (12292, "JAPANESE INDUSTRIAL STANDARD SYMBOL;IDEOGRAPHIC ITERATION MARK"),
   (12294, "IDEOGRAPHIC CLOSING MARK;IDEOGRAPHIC NUMBER ZERO;LEFT ANGLE BRACKET"),
   (12297, "RIGHT ANGLE BRACKET;LEFT DOUBLE ANGLE BRACKET;RIGHT DOUBLE ANGLE BRACKET"),
   (12300, "LEFT CORNER BRACKET;RIGHT CORNER BRACKET;LEFT WHITE CORNER BRACKET"),
   (12303, "RIGHT WHITE CORNER BRACKET;LEFT BLACK LENTICULAR BRACKET"),
   (12305, "RIGHT BLACK LENTICULAR BRACKET;POSTAL MARK;GETA MARK;LEFT TORTOISE SHELL BRACKET"),
   (12309, "RIGHT TORTOISE SHELL BRACKET;LEFT WHITE LENTICULAR BRACKET"),
   (12311, "RIGHT WHITE LENTICULAR BRACKET;LEFT WHITE TORTOISE SHELL BRACKET"),
   (12313, "RIGHT WHITE TORTOISE SHELL BRACKET;LEFT WHITE SQUARE BRACKET"),
   (12315, "RIGHT WHITE SQUARE BRACKET;WAVE DASH;REVERSED DOUBLE PRIME QUOTATION MARK"),
   (12318, "DOUBLE PRIME QUOTATION MARK;LOW DOUBLE PRIME QUOTATION MARK;POSTAL MARK FACE"),
   (12321, "HANGZHOU NUMERAL ONE;HANGZHOU NUMERAL TWO;HANGZHOU NUMERAL THREE"),
   (12324, "HANGZHOU NUMERAL FOUR;HANGZHOU NUMERAL FIVE;HANGZHOU NUMERAL SIX"),
   (12327, "HANGZHOU NUMERAL SEVEN;HANGZHOU NUMERAL EIGHT;HANGZHOU NUMERAL NINE"),
   (12330, "IDEOGRAPHIC LEVEL TONE MARK;IDEOGRAPHIC RISING TONE MARK"),
   (12332, "IDEOGRAPHIC DEPARTING TONE MARK;IDEOGRAPHIC ENTERING TONE MARK"),
   (12334, "HANGUL SINGLE DOT TONE MARK;HANGUL DOUBLE DOT TONE MARK;WAVY DASH"),
   (12337, "VERTICAL KANA REPEAT MARK;VERTICAL KANA REPEAT WITH VOICED SOUND MARK"),
   (12339, "VERTICAL KANA REPEAT MARK UPPER HALF"),
   (12340, "VERTICAL KANA REPEAT WITH VOICED SOUND MARK UPPER HALF"),
   (12341, "VERTICAL KANA REPEAT MARK LOWER HALF;CIRCLED POSTAL MARK"),
   (12343, "IDEOGRAPHIC TELEGRAPH LINE FEED SEPARATOR SYMBOL;HANGZHOU NUMERAL TEN"),
   (12345, "HANGZHOU NUMERAL TWENTY;HANGZHOU NUMERAL THIRTY"),
   (12347, "VERTICAL IDEOGRAPHIC ITERATION MARK;MASU MARK;PART ALTERNATION MARK"),
   (12350, "IDEOGRAPHIC VARIATION INDICATOR;IDEOGRAPHIC HALF FILL SPACE"),
   (64256, "LATIN SMALL LIGATURE FF;LATIN SMALL LIGATURE FI;LATIN SMALL LIGATURE FL"),
   (64259, "LATIN SMALL LIGATURE FFI;LATIN SMALL LIGATURE FFL;LATIN SMALL LIGATURE LONG S T"),
   (64262, "LATIN SMALL LIGATURE ST"),
   (65039, "VARIATION SELECTOR-16"),
   (65279, "ZERO WIDTH NO-BREAK SPACE"),
   (65532, "OBJECT REPLACEMENT CHARACTER;REPLACEMENT CHARACTER"),
   (127744, "CYCLONE;FOGGY;CLOSED UMBRELLA;NIGHT WITH STARS;SUNRISE OVER MOUNTAINS;SUNRISE"),
   (127750, "CITYSCAPE AT DUSK;SUNSET OVER BUILDINGS;RAINBOW;BRIDGE AT NIGHT;WATER WAVE"),
   (127755, "VOLCANO;MILKY WAY;EARTH GLOBE EUROPE-AFRICA;EARTH GLOBE AMERICAS"),
   (127759, "EARTH GLOBE ASIA-AUSTRALIA;GLOBE WITH MERIDIANS;NEW MOON SYMBOL"),
   (127762, "WAXING CRESCENT MOON SYMBOL;FIRST QUARTER MOON SYMBOL;WAXING GIBBOUS MOON SYMBOL"),
   (127765, "FULL MOON SYMBOL;WANING GIBBOUS MOON SYMBOL;LAST QUARTER MOON SYMBOL"),
   (127768, "WANING CRESCENT MOON SYMBOL;CRESCENT MOON;NEW MOON WITH FACE"),
   (127771, "FIRST QUARTER MOON WITH FACE;LAST QUARTER MOON WITH FACE;FULL MOON WITH FACE"),
   (127774, "SUN WITH FACE;GLOWING STAR;SHOOTING STAR;THERMOMETER;BLACK DROPLET;WHITE SUN"),
   (127780, "WHITE SUN WITH SMALL CLOUD;WHITE SUN BEHIND CLOUD"),
   (127782, "WHITE SUN BEHIND CLOUD WITH RAIN;CLOUD WITH RAIN;CLOUD WITH SNOW"),
   (127785, "CLOUD WITH LIGHTNING;CLOUD WITH TORNADO;FOG;WIND BLOWING FACE;HOT DOG;TACO"),
   (127791, "BURRITO;CHESTNUT;SEEDLING;EVERGREEN TREE;DECIDUOUS TREE;PALM TREE;CACTUS"),
   (127798, "HOT PEPPER;TULIP;CHERRY BLOSSOM;ROSE;HIBISCUS;SUNFLOWER;BLOSSOM;EAR OF MAIZE"),
   (127806, "EAR OF RICE;HERB;FOUR LEAF CLOVER;MAPLE LEAF;FALLEN LEAF;LEAF FLUTTERING IN WIND"),
   (127812, "MUSHROOM;TOMATO;AUBERGINE;GRAPES;MELON;WATERMELON;TANGERINE;LEMON;BANANA"),
   (127821, "PINEAPPLE;RED APPLE;GREEN APPLE;PEAR;PEACH;CHERRIES;STRAWBERRY;HAMBURGER"),
   (127829, "SLICE OF PIZZA;MEAT ON BONE;POULTRY LEG;RICE CRACKER;RICE BALL;COOKED RICE"),
   (127835, "CURRY AND RICE;STEAMING BOWL;SPAGHETTI;BREAD;FRENCH FRIES;ROASTED SWEET POTATO"),
   (127841, "DANGO;ODEN;SUSHI;FRIED SHRIMP;FISH CAKE WITH SWIRL DESIGN;SOFT ICE CREAM"),
   (127847, "SHAVED ICE;ICE CREAM;DOUGHNUT;COOKIE;CHOCOLATE BAR;CANDY;LOLLIPOP;CUSTARD"),
   (127855, "HONEY POT;SHORTCAKE;BENTO BOX;POT OF FOOD;COOKING;FORK AND KNIFE"),
   (127861, "TEACUP WITHOUT HANDLE;SAKE BOTTLE AND CUP;WINE GLASS;COCKTAIL GLASS"),
   (127865, "TROPICAL DRINK;BEER MUG;CLINKING BEER MUGS;BABY BOTTLE;FORK AND KNIFE WITH PLATE"),
   (127870, "BOTTLE WITH POPPING CORK;POPCORN;RIBBON;WRAPPED PRESENT;BIRTHDAY CAKE"),
   (127875, "JACK-O-LANTERN;CHRISTMAS TREE;FATHER CHRISTMAS;FIREWORKS;FIREWORK SPARKLER"),
   (127880, "BALLOON;PARTY POPPER;CONFETTI BALL;TANABATA TREE;CROSSED FLAGS;PINE DECORATION"),
   (127886, "JAPANESE DOLLS;CARP STREAMER;WIND CHIME;MOON VIEWING CEREMONY;SCHOOL SATCHEL"),
   (127891, "GRADUATION CAP;HEART WITH TIP ON THE LEFT;BOUQUET OF FLOWERS;MILITARY MEDAL"),
   (127895, "REMINDER RIBBON;MUSICAL KEYBOARD WITH JACKS;STUDIO MICROPHONE;LEVEL SLIDER"),
   (127899, "CONTROL KNOBS;BEAMED ASCENDING MUSICAL NOTES;BEAMED DESCENDING MUSICAL NOTES"),
   (127902, "FILM FRAMES;ADMISSION TICKETS;CAROUSEL HORSE;FERRIS WHEEL;ROLLER COASTER"),
   (127907, "FISHING POLE AND FISH;MICROPHONE;MOVIE CAMERA;CINEMA;HEADPHONE;ARTIST PALETTE"),
   (127913, "TOP HAT;CIRCUS TENT;TICKET;CLAPPER BOARD;PERFORMING ARTS;VIDEO GAME;DIRECT HIT"),
   (127920, "SLOT MACHINE;BILLIARDS;GAME DIE;BOWLING;FLOWER PLAYING CARDS;MUSICAL NOTE"),
   (127926, "MULTIPLE MUSICAL NOTES;SAXOPHONE;GUITAR;MUSICAL KEYBOARD;TRUMPET;VIOLIN"),
   (127932, "MUSICAL SCORE;RUNNING SHIRT WITH SASH;TENNIS RACQUET AND BALL;SKI AND SKI BOOT"),
   (127936, "BASKETBALL AND HOOP;CHEQUERED FLAG;SNOWBOARDER;RUNNER;SURFER;SPORTS MEDAL;TROPHY"),
   (127943, "HORSE RACING;AMERICAN FOOTBALL;RUGBY FOOTBALL;SWIMMER;WEIGHT LIFTER;GOLFER"),
   (127949, "RACING MOTORCYCLE;RACING CAR;CRICKET BAT AND BALL;VOLLEYBALL"),
   (127953, "FIELD HOCKEY STICK AND BALL;ICE HOCKEY STICK AND PUCK"),
   (127955, "TABLE TENNIS PADDLE AND BALL;SNOW CAPPED MOUNTAIN;CAMPING;BEACH WITH UMBRELLA"),
   (127959, "BUILDING CONSTRUCTION;HOUSE BUILDINGS;CITYSCAPE;DERELICT HOUSE BUILDING"),
   (127963, "CLASSICAL BUILDING;DESERT;DESERT ISLAND;NATIONAL PARK;STADIUM;HOUSE BUILDING"),
   (127969, "HOUSE WITH GARDEN;OFFICE BUILDING;JAPANESE POST OFFICE;EUROPEAN POST OFFICE"),
   (127973, "HOSPITAL;BANK;AUTOMATED TELLER MACHINE;HOTEL;LOVE HOTEL;CONVENIENCE STORE;SCHOOL"),
   (127980, "DEPARTMENT STORE;FACTORY;IZAKAYA LANTERN;JAPANESE CASTLE;EUROPEAN CASTLE"),
   (127985, "WHITE PENNANT;BLACK PENNANT;WAVING WHITE FLAG;WAVING BLACK FLAG;ROSETTE"),
   (127990, "BLACK ROSETTE;LABEL;BADMINTON RACQUET AND SHUTTLECOCK;BOW AND ARROW;AMPHORA"),
   (127995, "EMOJI MODIFIER FITZPATRICK TYPE-1-2;EMOJI MODIFIER FITZPATRICK TYPE-3"),
   (127997, "EMOJI MODIFIER FITZPATRICK TYPE-4;EMOJI MODIFIER FITZPATRICK TYPE-5"),
   (127999, "EMOJI MODIFIER FITZPATRICK TYPE-6;RAT;MOUSE;OX;WATER BUFFALO;COW;TIGER;LEOPARD"),
   (128007, "RABBIT;CAT;DRAGON;CROCODILE;WHALE;SNAIL;SNAKE;HORSE;RAM;GOAT;SHEEP;MONKEY"),
   (128019, "ROOSTER;CHICKEN;DOG;PIG;BOAR;ELEPHANT;OCTOPUS;SPIRAL SHELL;BUG;ANT;HONEYBEE"),
   (128030, "LADY BEETLE;FISH;TROPICAL FISH;BLOWFISH;TURTLE;HATCHING CHICK;BABY CHICK"),
   (128037, "FRONT-FACING BABY CHICK;BIRD;PENGUIN;KOALA;POODLE;DROMEDARY CAMEL;BACTRIAN CAMEL"),
   (128044, "DOLPHIN;MOUSE FACE;COW FACE;TIGER FACE;RABBIT FACE;CAT FACE;DRAGON FACE"),
   (128051, "SPOUTING WHALE;HORSE FACE;MONKEY FACE;DOG FACE;PIG FACE;FROG FACE;HAMSTER FACE"),
   (128058, "WOLF FACE;BEAR FACE;PANDA FACE;PIG NOSE;PAW PRINTS;CHIPMUNK;EYES;EYE;EAR;NOSE"),
   (128068, "MOUTH;TONGUE;WHITE UP POINTING BACKHAND INDEX;WHITE DOWN POINTING BACKHAND INDEX"),
   (128072, "WHITE LEFT POINTING BACKHAND INDEX;WHITE RIGHT POINTING BACKHAND INDEX"),
   (128074, "FISTED HAND SIGN;WAVING HAND SIGN;OK HAND SIGN;THUMBS UP SIGN;THUMBS DOWN SIGN"),
   (128079, "CLAPPING HANDS SIGN;OPEN HANDS SIGN;CROWN;WOMANS HAT;EYEGLASSES;NECKTIE;T-SHIRT"),
   (128086, "JEANS;DRESS;KIMONO;BIKINI;WOMANS CLOTHES;PURSE;HANDBAG;POUCH;MANS SHOE"),
   (128095, "ATHLETIC SHOE;HIGH-HEELED SHOE;WOMANS SANDAL;WOMANS BOOTS;FOOTPRINTS"),
   (128100, "BUST IN SILHOUETTE;BUSTS IN SILHOUETTE;BOY;GIRL;MAN;WOMAN;FAMILY"),
   (128107, "MAN AND WOMAN HOLDING HANDS;TWO MEN HOLDING HANDS;TWO WOMEN HOLDING HANDS"),
   (128110, "POLICE OFFICER;WOMAN WITH BUNNY EARS;BRIDE WITH VEIL;PERSON WITH BLOND HAIR"),
   (128114, "MAN WITH GUA PI MAO;MAN WITH TURBAN;OLDER MAN;OLDER WOMAN;BABY"),
   (128119, "CONSTRUCTION WORKER;PRINCESS;JAPANESE OGRE;JAPANESE GOBLIN;GHOST;BABY ANGEL"),
   (128125, "EXTRATERRESTRIAL ALIEN;ALIEN MONSTER;IMP;SKULL;INFORMATION DESK PERSON;GUARDSMAN"),
   (128131, "DANCER;LIPSTICK;NAIL POLISH;FACE MASSAGE;HAIRCUT;BARBER POLE;SYRINGE;PILL"),
   (128139, "KISS MARK;LOVE LETTER;RING;GEM STONE;KISS;BOUQUET;COUPLE WITH HEART;WEDDING"),
   (128147, "BEATING HEART;BROKEN HEART;TWO HEARTS;SPARKLING HEART;GROWING HEART"),
   (128152, "HEART WITH ARROW;BLUE HEART;GREEN HEART;YELLOW HEART;PURPLE HEART"),
   (128157, "HEART WITH RIBBON;REVOLVING HEARTS;HEART DECORATION"),
   (128160, "DIAMOND SHAPE WITH A DOT INSIDE;ELECTRIC LIGHT BULB;ANGER SYMBOL;BOMB"),
   (128164, "SLEEPING SYMBOL;COLLISION SYMBOL;SPLASHING SWEAT SYMBOL;DROPLET;DASH SYMBOL"),
   (128169, "PILE OF POO;FLEXED BICEPS;DIZZY SYMBOL;SPEECH BALLOON;THOUGHT BALLOON"),
   (128174, "WHITE FLOWER;HUNDRED POINTS SYMBOL;MONEY BAG;CURRENCY EXCHANGE;HEAVY DOLLAR SIGN"),
   (128179, "CREDIT CARD;BANKNOTE WITH YEN SIGN;BANKNOTE WITH DOLLAR SIGN"),
   (128182, "BANKNOTE WITH EURO SIGN;BANKNOTE WITH POUND SIGN;MONEY WITH WINGS"),
   (128185, "CHART WITH UPWARDS TREND AND YEN SIGN;SEAT;PERSONAL COMPUTER;BRIEFCASE;MINIDISC"),
   (128190, "FLOPPY DISK;OPTICAL DISC;DVD;FILE FOLDER;OPEN FILE FOLDER;PAGE WITH CURL"),
   (128196, "PAGE FACING UP;CALENDAR;TEAR-OFF CALENDAR;CARD INDEX;CHART WITH UPWARDS TREND"),
   (128201, "CHART WITH DOWNWARDS TREND;BAR CHART;CLIPBOARD;PUSHPIN;ROUND PUSHPIN;PAPERCLIP"),
   (128207, "STRAIGHT RULER;TRIANGULAR RULER;BOOKMARK TABS;LEDGER;NOTEBOOK"),
   (128212, "NOTEBOOK WITH DECORATIVE COVER;CLOSED BOOK;OPEN BOOK;GREEN BOOK;BLUE BOOK"),
   (128217, "ORANGE BOOK;BOOKS;NAME BADGE;SCROLL;MEMO;TELEPHONE RECEIVER;PAGER;FAX MACHINE"),
   (128225, "SATELLITE ANTENNA;PUBLIC ADDRESS LOUDSPEAKER;CHEERING MEGAPHONE;OUTBOX TRAY"),
   (128229, "INBOX TRAY;PACKAGE;E-MAIL SYMBOL;INCOMING ENVELOPE"),
   (128233, "ENVELOPE WITH DOWNWARDS ARROW ABOVE;CLOSED MAILBOX WITH LOWERED FLAG"),
   (128235, "CLOSED MAILBOX WITH RAISED FLAG;OPEN MAILBOX WITH RAISED FLAG"),
   (128237, "OPEN MAILBOX WITH LOWERED FLAG;POSTBOX;POSTAL HORN;NEWSPAPER;MOBILE PHONE"),
   (128242, "MOBILE PHONE WITH RIGHTWARDS ARROW AT LEFT;VIBRATION MODE;MOBILE PHONE OFF"),
   (128245, "NO MOBILE PHONES;ANTENNA WITH BARS;CAMERA;CAMERA WITH FLASH;VIDEO CAMERA"),
   (128250, "TELEVISION;RADIO;VIDEOCASSETTE;FILM PROJECTOR;PORTABLE STEREO;PRAYER BEADS"),
   (128256, "TWISTED RIGHTWARDS ARROWS;CLOCKWISE RIGHTWARDS AND LEFTWARDS OPEN CIRCLE ARROWS"),
   (128258, "CLOCKWISE RIGHTWARDS AND LEFTWARDS OPEN CIRCLE ARROWS WITH CIRCLED ONE OVERLAY"),
   (128259, "CLOCKWISE DOWNWARDS AND UPWARDS OPEN CIRCLE ARROWS"),
   (128260, "ANTICLOCKWISE DOWNWARDS AND UPWARDS OPEN CIRCLE ARROWS;LOW BRIGHTNESS SYMBOL"),
   (128262, "HIGH BRIGHTNESS SYMBOL;SPEAKER WITH CANCELLATION STROKE;SPEAKER"),
   (128265, "SPEAKER WITH ONE SOUND WAVE;SPEAKER WITH THREE SOUND WAVES;BATTERY;ELECTRIC PLUG"),
   (128269, "LEFT-POINTING MAGNIFYING GLASS;RIGHT-POINTING MAGNIFYING GLASS;LOCK WITH INK PEN"),
   (128272, "CLOSED LOCK WITH KEY;KEY;LOCK;OPEN LOCK;BELL;BELL WITH CANCELLATION STROKE"),
   (128278, "BOOKMARK;LINK SYMBOL;RADIO BUTTON;BACK WITH LEFTWARDS ARROW ABOVE"),
   (128282, "END WITH LEFTWARDS ARROW ABOVE"),
   (128283, "ON WITH EXCLAMATION MARK WITH LEFT RIGHT ARROW ABOVE"),
   (128284, "SOON WITH RIGHTWARDS ARROW ABOVE;TOP WITH UPWARDS ARROW ABOVE"),
   (128286, "NO ONE UNDER EIGHTEEN SYMBOL;KEYCAP TEN;INPUT SYMBOL FOR LATIN CAPITAL LETTERS"),
   (128289, "INPUT SYMBOL FOR LATIN SMALL LETTERS;INPUT SYMBOL FOR NUMBERS"),
   (128291, "INPUT SYMBOL FOR SYMBOLS;INPUT SYMBOL FOR LATIN LETTERS;FIRE;ELECTRIC TORCH"),
   (128295, "WRENCH;HAMMER;NUT AND BOLT;HOCHO;PISTOL;MICROSCOPE;TELESCOPE;CRYSTAL BALL"),
   (128303, "SIX POINTED STAR WITH MIDDLE DOT;JAPANESE SYMBOL FOR BEGINNER;TRIDENT EMBLEM"),
   (128306, "BLACK SQUARE BUTTON;WHITE SQUARE BUTTON;LARGE RED CIRCLE;LARGE BLUE CIRCLE"),
   (128310, "LARGE ORANGE DIAMOND;LARGE BLUE DIAMOND;SMALL ORANGE DIAMOND;SMALL BLUE DIAMOND"),
   (128314, "UP-POINTING RED TRIANGLE;DOWN-POINTING RED TRIANGLE"),
   (128316, "UP-POINTING SMALL RED TRIANGLE;DOWN-POINTING SMALL RED TRIANGLE"),
   (128318, "LOWER RIGHT SHADOWED WHITE CIRCLE;UPPER RIGHT SHADOWED WHITE CIRCLE"),
   (128320, "CIRCLED CROSS POMMEE;CROSS POMMEE WITH HALF-CIRCLE BELOW;CROSS POMMEE"),
   (128323, "NOTCHED LEFT SEMICIRCLE WITH THREE DOTS;NOTCHED RIGHT SEMICIRCLE WITH THREE DOTS"),
   (128325, "SYMBOL FOR MARKS CHAPTER;WHITE LATIN CROSS;HEAVY LATIN CROSS;CELTIC CROSS"),
   (128329, "OM SYMBOL;DOVE OF PEACE;KAABA;MOSQUE;SYNAGOGUE;MENORAH WITH NINE BRANCHES"),
   (128335, "BOWL OF HYGIEIA;CLOCK FACE ONE OCLOCK;CLOCK FACE TWO OCLOCK"),
   (128338, "CLOCK FACE THREE OCLOCK;CLOCK FACE FOUR OCLOCK;CLOCK FACE FIVE OCLOCK"),
   (128341, "CLOCK FACE SIX OCLOCK;CLOCK FACE SEVEN OCLOCK;CLOCK FACE EIGHT OCLOCK"),
   (128344, "CLOCK FACE NINE OCLOCK;CLOCK FACE TEN OCLOCK;CLOCK FACE ELEVEN OCLOCK"),
   (128347, "CLOCK FACE TWELVE OCLOCK;CLOCK FACE ONE-THIRTY;CLOCK FACE TWO-THIRTY"),
   (128350, "CLOCK FACE THREE-THIRTY;CLOCK FACE FOUR-THIRTY;CLOCK FACE FIVE-THIRTY"),
   (128353, "CLOCK FACE SIX-THIRTY;CLOCK FACE SEVEN-THIRTY;CLOCK FACE EIGHT-THIRTY"),
   (128356, "CLOCK FACE NINE-THIRTY;CLOCK FACE TEN-THIRTY;CLOCK FACE ELEVEN-THIRTY"),
   (128359, "CLOCK FACE TWELVE-THIRTY;RIGHT SPEAKER;RIGHT SPEAKER WITH ONE SOUND WAVE"),
   (128362, "RIGHT SPEAKER WITH THREE SOUND WAVES;BULLHORN;BULLHORN WITH SOUND WAVES"),
   (128365, "RINGING BELL;BOOK;CANDLE;MANTELPIECE CLOCK;BLACK SKULL AND CROSSBONES;NO PIRACY"),
   (128371, "HOLE;MAN IN BUSINESS SUIT LEVITATING;SLEUTH OR SPY;DARK SUNGLASSES;SPIDER"),
   (128376, "SPIDER WEB;JOYSTICK;MAN DANCING;LEFT HAND TELEPHONE RECEIVER"),
   (128380, "TELEPHONE RECEIVER WITH PAGE;RIGHT HAND TELEPHONE RECEIVER"),
   (128382, "WHITE TOUCHTONE TELEPHONE;BLACK TOUCHTONE TELEPHONE;TELEPHONE ON TOP OF MODEM"),
   (128385, "CLAMSHELL MOBILE PHONE;BACK OF ENVELOPE;STAMPED ENVELOPE;ENVELOPE WITH LIGHTNING"),
   (128389, "FLYING ENVELOPE;PEN OVER STAMPED ENVELOPE;LINKED PAPERCLIPS;BLACK PUSHPIN"),
   (128393, "LOWER LEFT PENCIL;LOWER LEFT BALLPOINT PEN;LOWER LEFT FOUNTAIN PEN"),
   (128396, "LOWER LEFT PAINTBRUSH;LOWER LEFT CRAYON;LEFT WRITING HAND;TURNED OK HAND SIGN"),
   (128400, "RAISED HAND WITH FINGERS SPLAYED;REVERSED RAISED HAND WITH FINGERS SPLAYED"),
   (128402, "REVERSED THUMBS UP SIGN;REVERSED THUMBS DOWN SIGN;REVERSED VICTORY HAND"),
   (128405, "REVERSED HAND WITH MIDDLE FINGER EXTENDED"),
   (128406, "RAISED HAND WITH PART BETWEEN MIDDLE AND RING FINGERS"),
   (128407, "WHITE DOWN POINTING LEFT HAND INDEX;SIDEWAYS WHITE LEFT POINTING INDEX"),
   (128409, "SIDEWAYS WHITE RIGHT POINTING INDEX;SIDEWAYS BLACK LEFT POINTING INDEX"),
   (128411, "SIDEWAYS BLACK RIGHT POINTING INDEX;BLACK LEFT POINTING BACKHAND INDEX"),
   (128413, "BLACK RIGHT POINTING BACKHAND INDEX;SIDEWAYS WHITE UP POINTING INDEX"),
   (128415, "SIDEWAYS WHITE DOWN POINTING INDEX;SIDEWAYS BLACK UP POINTING INDEX"),
   (128417, "SIDEWAYS BLACK DOWN POINTING INDEX;BLACK UP POINTING BACKHAND INDEX"),
   (128419, "BLACK DOWN POINTING BACKHAND INDEX;BLACK HEART;DESKTOP COMPUTER"),
   (128422, "KEYBOARD AND MOUSE;THREE NETWORKED COMPUTERS;PRINTER;POCKET CALCULATOR"),
   (128426, "BLACK HARD SHELL FLOPPY DISK;WHITE HARD SHELL FLOPPY DISK;SOFT SHELL FLOPPY DISK"),
   (128429, "TAPE CARTRIDGE;WIRED KEYBOARD;ONE BUTTON MOUSE;TWO BUTTON MOUSE"),
   (128433, "THREE BUTTON MOUSE;TRACKBALL;OLD PERSONAL COMPUTER;HARD DISK;SCREEN;PRINTER ICON"),
   (128439, "FAX ICON;OPTICAL DISC ICON;DOCUMENT WITH TEXT;DOCUMENT WITH TEXT AND PICTURE"),
   (128443, "DOCUMENT WITH PICTURE;FRAME WITH PICTURE;FRAME WITH TILES;FRAME WITH AN X"),
   (128447, "BLACK FOLDER;FOLDER;OPEN FOLDER;CARD INDEX DIVIDERS;CARD FILE BOX;FILE CABINET"),
   (128453, "EMPTY NOTE;EMPTY NOTE PAGE;EMPTY NOTE PAD;NOTE;NOTE PAGE;NOTE PAD;EMPTY DOCUMENT"),
   (128460, "EMPTY PAGE;EMPTY PAGES;DOCUMENT;PAGE;PAGES;WASTEBASKET;SPIRAL NOTE PAD"),
   (128467, "SPIRAL CALENDAR PAD;DESKTOP WINDOW;MINIMIZE;MAXIMIZE;OVERLAP"),
   (128472, "CLOCKWISE RIGHT AND LEFT SEMICIRCLE ARROWS;CANCELLATION X"),
   (128474, "INCREASE FONT SIZE SYMBOL;DECREASE FONT SIZE SYMBOL;COMPRESSION;OLD KEY"),
   (128478, "ROLLED-UP NEWSPAPER;PAGE WITH CIRCLED TEXT;STOCK CHART;DAGGER KNIFE;LIPS"),
   (128483, "SPEAKING HEAD IN SILHOUETTE;THREE RAYS ABOVE;THREE RAYS BELOW;THREE RAYS LEFT"),
   (128487, "THREE RAYS RIGHT;LEFT SPEECH BUBBLE;RIGHT SPEECH BUBBLE;TWO SPEECH BUBBLES"),
   (128491, "THREE SPEECH BUBBLES;LEFT THOUGHT BUBBLE;RIGHT THOUGHT BUBBLE;LEFT ANGER BUBBLE"),
   (128495, "RIGHT ANGER BUBBLE;MOOD BUBBLE;LIGHTNING MOOD BUBBLE;LIGHTNING MOOD"),
   (128499, "BALLOT BOX WITH BALLOT;BALLOT SCRIPT X;BALLOT BOX WITH SCRIPT X"),
   (128502, "BALLOT BOLD SCRIPT X;BALLOT BOX WITH BOLD SCRIPT X;LIGHT CHECK MARK"),
   (128505, "BALLOT BOX WITH BOLD CHECK;WORLD MAP;MOUNT FUJI;TOKYO TOWER;STATUE OF LIBERTY"),
   (128510, "SILHOUETTE OF JAPAN;MOYAI;GRINNING FACE;GRINNING FACE WITH SMILING EYES"),
   (128514, "FACE WITH TEARS OF JOY;SMILING FACE WITH OPEN MOUTH"),
   (128516, "SMILING FACE WITH OPEN MOUTH AND SMILING EYES"),
   (128517, "SMILING FACE WITH OPEN MOUTH AND COLD SWEAT"),
   (128518, "SMILING FACE WITH OPEN MOUTH AND TIGHTLY-CLOSED EYES;SMILING FACE WITH HALO"),
   (128520, "SMILING FACE WITH HORNS;WINKING FACE;SMILING FACE WITH SMILING EYES"),
   (128523, "FACE SAVOURING DELICIOUS FOOD;RELIEVED FACE;SMILING FACE WITH HEART-SHAPED EYES"),
   (128526, "SMILING FACE WITH SUNGLASSES;SMIRKING FACE;NEUTRAL FACE;EXPRESSIONLESS FACE"),
   (128530, "UNAMUSED FACE;FACE WITH COLD SWEAT;PENSIVE FACE;CONFUSED FACE;CONFOUNDED FACE"),
   (128535, "KISSING FACE;FACE THROWING A KISS;KISSING FACE WITH SMILING EYES"),
   (128538, "KISSING FACE WITH CLOSED EYES;FACE WITH STUCK-OUT TONGUE"),
   (128540, "FACE WITH STUCK-OUT TONGUE AND WINKING EYE"),
   (128541, "FACE WITH STUCK-OUT TONGUE AND TIGHTLY-CLOSED EYES;DISAPPOINTED FACE"),
   (128543, "WORRIED FACE;ANGRY FACE;POUTING FACE;CRYING FACE;PERSEVERING FACE"),
   (128548, "FACE WITH LOOK OF TRIUMPH;DISAPPOINTED BUT RELIEVED FACE"),
   (128550, "FROWNING FACE WITH OPEN MOUTH;ANGUISHED FACE;FEARFUL FACE;WEARY FACE;SLEEPY FACE"),
   (128555, "TIRED FACE;GRIMACING FACE;LOUDLY CRYING FACE;FACE WITH OPEN MOUTH;HUSHED FACE"),
   (128560, "FACE WITH OPEN MOUTH AND COLD SWEAT;FACE SCREAMING IN FEAR;ASTONISHED FACE"),
   (128563, "FLUSHED FACE;SLEEPING FACE;DIZZY FACE;FACE WITHOUT MOUTH;FACE WITH MEDICAL MASK"),
   (128568, "GRINNING CAT FACE WITH SMILING EYES;CAT FACE WITH TEARS OF JOY"),
   (128570, "SMILING CAT FACE WITH OPEN MOUTH;SMILING CAT FACE WITH HEART-SHAPED EYES"),
   (128572, "CAT FACE WITH WRY SMILE;KISSING CAT FACE WITH CLOSED EYES;POUTING CAT FACE"),
   (128575, "CRYING CAT FACE;WEARY CAT FACE;SLIGHTLY FROWNING FACE;SLIGHTLY SMILING FACE"),
   (128579, "UPSIDE-DOWN FACE;FACE WITH ROLLING EYES;FACE WITH NO GOOD GESTURE"),
   (128582, "FACE WITH OK GESTURE;PERSON BOWING DEEPLY;SEE-NO-EVIL MONKEY;HEAR-NO-EVIL MONKEY"),
   (128586, "SPEAK-NO-EVIL MONKEY;HAPPY PERSON RAISING ONE HAND"),
   (128588, "PERSON RAISING BOTH HANDS IN CELEBRATION;PERSON FROWNING"),
   (128590, "PERSON WITH POUTING FACE;PERSON WITH FOLDED HANDS"),
   (128640, "ROCKET;HELICOPTER;STEAM LOCOMOTIVE;RAILWAY CAR;HIGH-SPEED TRAIN"),
   (128645, "HIGH-SPEED TRAIN WITH BULLET NOSE;TRAIN;METRO;LIGHT RAIL;STATION;TRAM;TRAM CAR"),
   (128652, "BUS;ONCOMING BUS;TROLLEYBUS;BUS STOP;MINIBUS;AMBULANCE;FIRE ENGINE;POLICE CAR"),
   (128660, "ONCOMING POLICE CAR;TAXI;ONCOMING TAXI;AUTOMOBILE;ONCOMING AUTOMOBILE"),
   (128665, "RECREATIONAL VEHICLE;DELIVERY TRUCK;ARTICULATED LORRY;TRACTOR;MONORAIL"),
   (128670, "MOUNTAIN RAILWAY;SUSPENSION RAILWAY;MOUNTAIN CABLEWAY;AERIAL TRAMWAY;SHIP"),
   (128675, "ROWBOAT;SPEEDBOAT;HORIZONTAL TRAFFIC LIGHT;VERTICAL TRAFFIC LIGHT"),
   (128679, "CONSTRUCTION SIGN;POLICE CARS REVOLVING LIGHT;TRIANGULAR FLAG ON POST;DOOR"),
   (128683, "NO ENTRY SIGN;SMOKING SYMBOL;NO SMOKING SYMBOL;PUT LITTER IN ITS PLACE SYMBOL"),
   (128687, "DO NOT LITTER SYMBOL;POTABLE WATER SYMBOL;NON-POTABLE WATER SYMBOL;BICYCLE"),
   (128691, "NO BICYCLES;BICYCLIST;MOUNTAIN BICYCLIST;PEDESTRIAN;NO PEDESTRIANS"),
   (128696, "CHILDREN CROSSING;MENS SYMBOL;WOMENS SYMBOL;RESTROOM;BABY SYMBOL;TOILET"),
   (128702, "WATER CLOSET;SHOWER;BATH;BATHTUB;PASSPORT CONTROL;CUSTOMS;BAGGAGE CLAIM"),
   (128709, "LEFT LUGGAGE;TRIANGLE WITH ROUNDED CORNERS;PROHIBITED SIGN"),
   (128712, "CIRCLED INFORMATION SOURCE;BOYS SYMBOL;GIRLS SYMBOL;COUCH AND LAMP"),
   (128716, "SLEEPING ACCOMMODATION;SHOPPING BAGS;BELLHOP BELL;BED;PLACE OF WORSHIP"),
   (128721, "OCTAGONAL SIGN;SHOPPING TROLLEY;STUPA;PAGODA;HINDU TEMPLE;HUT;ELEVATOR")]

/-- Other names of characters. -/
def otherNames : List (Nat × List String) :=
  [(0, ["NULL", "NUL"]),
   (7, ["ALERT", "BEL"]),
   (8, ["BACKSPACE", "BS"]),
   (9, ["CHARACTER TABULATION", "HORIZONTAL TABULATION", "HT", "TAB"]),
   (10, ["LINE FEED", "NEW LINE", "END OF LINE", "LF", "NL", "EOL"]),
   (11, ["LINE TABULATION", "VERTICAL TABULATION", "VT"]),
   (12, ["FORM FEED", "FF"]),
   (13, ["CARRIAGE RETURN", "CR"]),
   (27, ["ESCAPE", "ESC"]),
   (32, ["SP"]),
   (127, ["DELETE", "DEL"]),
   (133, ["NEXT LINE", "NEL"]),
   (160, ["NBSP"]),
   (173, ["SHY"]),
   (8203, ["ZWSP"]),
   (8204, ["ZWNJ"]),
   (8205, ["ZWJ"]),
   (8206, ["LRM"]),
   (8207, ["RLM"]),
   (8472, ["WEIERSTRASS ELLIPTIC FUNCTION"]),
   (65279, ["BYTE ORDER MARK", "BOM", "ZWNBSP"])]

/-- The parts that names of syllables are composed of: leading consonants, vowels and final
consonants. -/
def syllableParts : List (List String) :=
  [["G", "GG", "N", "D", "DD", "R", "M", "B", "BB", "S", "SS", "", "J", "JJ", "C", "K", "T", "P",
      "H"],
    ["A", "AE", "YA", "YAE", "EO", "E", "YEO", "YE", "O", "WA", "WAE", "OE", "YO", "U", "WEO", "WE",
      "WI", "YU", "EU", "YI", "I"],
    ["", "G", "GG", "GS", "N", "NJ", "NH", "D", "L", "LG", "LM", "LB", "LS", "LT", "LP", "LH", "M",
      "B", "BS", "S", "SS", "NG", "J", "C", "K", "T", "P", "H"]]

/-- The longest of some parts that a text starts with: its position, and what follows it. -/
def longestPart? (parts : List String) (cs : List Char) : Option (Nat × List Char) :=
  parts.zipIdx.foldl (fun best p =>
    match afterFront? p.1.toList cs with
    | none => best
    | some rest =>
      match best with
      | some (_, shorter) => if rest.length < shorter.length then some (p.2, rest) else best
      | none => some (p.2, rest)) none

/-- The code point of a syllable whose name has the given parts, each the longest one that fits. -/
def syllableNamed? (cs : List Char) : Option Nat :=
  let read (state : Option (Nat × List Char)) (parts : List String) : Option (Nat × List Char) :=
    state.bind fun s => (longestPart? parts s.2).map fun p => (s.1 * parts.length + p.1, p.2)
  match syllableParts.foldl read (some (0, cs)) with
  | some (n, []) => some (44032 + n)
  | _ => none

/-- The first and the last code point of each block of ideographs. -/
def ideographBlocks : List (Nat × Nat) :=
  [(13312, 19903), (19968, 40959), (131072, 173791), (173824, 177976), (177984, 178205),
    (178208, 183969), (183984, 191456), (196608, 201546)]

/-- The code point of an ideograph that is named by four or five hexadecimal digits. -/
def ideographNamed? (cs : List Char) : Option Nat :=
  let digits := cs.filterMap fun c =>
    if '0' ≤ c ∧ c ≤ '9' then some (c.toNat - '0'.toNat)
    else if 'A' ≤ c ∧ c ≤ 'F' then some (c.toNat - 'A'.toNat + 10)
    else none
  let n := digits.foldl (fun n d => 16 * n + d) 0
  if digits.length = cs.length && (cs.length = 4 || cs.length = 5)
      && ideographBlocks.any (fun b => b.1 ≤ n && n ≤ b.2) then some n
  else none

/-- The code point under a name in upper case. -/
def listedName? (name : String) : Option Nat :=
  let listed := nameTable.findSome? fun row =>
    ((row.2.splitOn ";").findIdx? (· = name)).map (row.1 + ·)
  listed.or ((otherNames.find? fun row => row.2.contains name).map (·.1))

/-- The character with a name. -/
def charNamed? (name : List Char) : Option Char :=
  let code? :=
    match afterFront? "HANGUL SYLLABLE ".toList name with
    | some cs => syllableNamed? cs
    | none =>
      match afterFront? "CJK UNIFIED IDEOGRAPH-".toList name with
      | some cs => ideographNamed? cs
      | none => listedName? (String.ofList (name.map Char.toUpper))
  code?.map Char.ofNat

end ShaderLoom.Text
