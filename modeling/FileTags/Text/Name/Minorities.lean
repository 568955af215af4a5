import FileTags.Text.Name.Basic

/-!
# Names of characters: scripts and forms up to the end of the basic plane

Scripts behind Yi, presentation forms, and wide and narrow forms.
-/

set_option autoImplicit false

namespace FileTags.Text

def minoritiesNames : List NameRun :=
  [⟨42192, "LISU LETTER",
      ["BA,PA,PHA,DA,TA,THA,GA,KA,KHA,JA,CA,CHA,DZA,TSA,TSHA,MA,NA,LA,SA,ZHA,ZA,NGA,HA,XA,HHA",
        "FA,WA,SHA,YA,GHA,A,AE,E,EU,I,O,U,UE,UH,OE,TONE MYA TI,TONE NA PO,TONE MYA CYA",
        "TONE MYA BO,TONE MYA NA,TONE MYA JEU"]⟩,
    ⟨42238, "LISU PUNCTUATION", ["COMMA,FULL STOP"]⟩,
    ⟨42240, "VAI SYLLABLE",
      ["EE,EEN,HEE,WEE,WEEN,PEE,BHEE,BEE,MBEE,KPEE,MGBEE,GBEE,FEE,VEE,TEE,THEE,DHEE,DHHEE,LEE",
        "REE,DEE,NDEE,SEE,SHEE,ZEE,ZHEE,CEE,JEE,NJEE,YEE,KEE,NGGEE,GEE,MEE,NEE,NYEE,I,IN,HI,HIN",
        "WI,WIN,PI,BHI,BI,MBI,KPI,MGBI,GBI,FI,VI,TI,THI,DHI,DHHI,LI,RI,DI,NDI,SI,SHI,ZI,ZHI,CI",
        "JI,NJI,YI,KI,NGGI,GI,MI,NI,NYI,A,AN,NGAN,HA,HAN,WA,WAN,PA,BHA,BA,MBA,KPA,KPAN,MGBA,GBA",
        "FA,VA,TA,THA,DHA,DHHA,LA,RA,DA,NDA,SA,SHA,ZA,ZHA,CA,JA,NJA,YA,KA,KAN,NGGA,GA,MA,NA,NYA",
        "OO,OON,HOO,WOO,WOON,POO,BHOO,BOO,MBOO,KPOO,MGBOO,GBOO,FOO,VOO,TOO,THOO,DHOO,DHHOO,LOO",
        "ROO,DOO,NDOO,SOO,SHOO,ZOO,ZHOO,COO,JOO,NJOO,YOO,KOO,NGGOO,GOO,MOO,NOO,NYOO,U,UN,HU,HUN",
        "WU,WUN,PU,BHU,BU,MBU,KPU,MGBU,GBU,FU,VU,TU,THU,DHU,DHHU,LU,RU,DU,NDU,SU,SHU,ZU,ZHU,CU",
        "JU,NJU,YU,KU,NGGU,GU,MU,NU,NYU,O,ON,NGON,HO,HON,WO,WON,PO,BHO,BO,MBO,KPO,MGBO,GBO,GBON",
        "FO,VO,TO,THO,DHO,DHHO,LO,RO,DO,NDO,SO,SHO,ZO,ZHO,CO,JO,NJO,YO,KO,NGGO,GO,MO,NO,NYO,E,EN",
        "NGEN,HE,HEN,WE,WEN,PE,BHE,BE,MBE,KPE,KPEN,MGBE,GBE,GBEN,FE,VE,TE,THE,DHE,DHHE,LE,RE,DE",
        "NDE,SE,SHE,ZE,ZHE,CE,JE,NJE,YE,KE,NGGE,NGGEN,GE,GEN,ME,NE,NYE,NG,LENGTHENER"]⟩,
    ⟨42509, "VAI", ["COMMA,FULL STOP,QUESTION MARK"]⟩,
    ⟨42512, "VAI SYLLABLE NDOLE", ["FA,KA,SOO"]⟩,
    ⟨42515, "VAI SYMBOL", ["FEENG,KEENG,TING,NII,BANG,FAA,TAA,DANG,DOONG,KUNG,TONG,DO-O,JONG"]⟩,
    ⟨42528, "VAI DIGIT", ["ZERO,ONE,TWO,THREE,FOUR,FIVE,SIX,SEVEN,EIGHT,NINE"]⟩,
    ⟨42538, "VAI SYLLABLE NDOLE", ["MA,DO"]⟩,
    ⟨42560, "CYRILLIC",
      ["CAPITAL LETTER ZEMLYA,SMALL LETTER ZEMLYA,CAPITAL LETTER DZELO,SMALL LETTER DZELO",
        "CAPITAL LETTER REVERSED DZE,SMALL LETTER REVERSED DZE,CAPITAL LETTER IOTA",
        "SMALL LETTER IOTA,CAPITAL LETTER DJERV,SMALL LETTER DJERV,CAPITAL LETTER MONOGRAPH UK",
        "SMALL LETTER MONOGRAPH UK,CAPITAL LETTER BROAD OMEGA,SMALL LETTER BROAD OMEGA",
        "CAPITAL LETTER NEUTRAL YER,SMALL LETTER NEUTRAL YER,CAPITAL LETTER YERU WITH BACK YER",
        "SMALL LETTER YERU WITH BACK YER,CAPITAL LETTER IOTIFIED YAT,SMALL LETTER IOTIFIED YAT",
        "CAPITAL LETTER REVERSED YU,SMALL LETTER REVERSED YU,CAPITAL LETTER IOTIFIED A",
        "SMALL LETTER IOTIFIED A,CAPITAL LETTER CLOSED LITTLE YUS,SMALL LETTER CLOSED LITTLE YUS",
        "CAPITAL LETTER BLENDED YUS,SMALL LETTER BLENDED YUS",
        "CAPITAL LETTER IOTIFIED CLOSED LITTLE YUS,SMALL LETTER IOTIFIED CLOSED LITTLE YUS",
        "CAPITAL LETTER YN,SMALL LETTER YN,CAPITAL LETTER REVERSED TSE,SMALL LETTER REVERSED TSE",
        "CAPITAL LETTER SOFT DE,SMALL LETTER SOFT DE,CAPITAL LETTER SOFT EL,SMALL LETTER SOFT EL",
        "CAPITAL LETTER SOFT EM,SMALL LETTER SOFT EM,CAPITAL LETTER MONOCULAR O",
        "SMALL LETTER MONOCULAR O,CAPITAL LETTER BINOCULAR O,SMALL LETTER BINOCULAR O",
        "CAPITAL LETTER DOUBLE MONOCULAR O,SMALL LETTER DOUBLE MONOCULAR O,LETTER MULTIOCULAR O"]⟩,
    ⟨42607, "COMBINING CYRILLIC",
      ["VZMET,TEN MILLIONS SIGN,HUNDRED MILLIONS SIGN,THOUSAND MILLIONS SIGN"]⟩,
    ⟨42611, "SLAVONIC", ["ASTERISK"]⟩,
    ⟨42612, "COMBINING CYRILLIC LETTER", ["UKRAINIAN IE,I,YI,U,HARD SIGN,YERU,SOFT SIGN,OMEGA"]⟩,
    ⟨42620, "COMBINING CYRILLIC", ["KAVYKA,PAYEROK"]⟩,
    ⟨42622, "CYRILLIC",
      ["KAVYKA,PAYEROK,CAPITAL LETTER DWE,SMALL LETTER DWE,CAPITAL LETTER DZWE",
        "SMALL LETTER DZWE,CAPITAL LETTER ZHWE,SMALL LETTER ZHWE,CAPITAL LETTER CCHE",
        "SMALL LETTER CCHE,CAPITAL LETTER DZZE,SMALL LETTER DZZE",
        "CAPITAL LETTER TE WITH MIDDLE HOOK,SMALL LETTER TE WITH MIDDLE HOOK,CAPITAL LETTER TWE",
        "SMALL LETTER TWE,CAPITAL LETTER TSWE,SMALL LETTER TSWE,CAPITAL LETTER TSSE",
        "SMALL LETTER TSSE,CAPITAL LETTER TCHE,SMALL LETTER TCHE,CAPITAL LETTER HWE",
        "SMALL LETTER HWE,CAPITAL LETTER SHWE,SMALL LETTER SHWE,CAPITAL LETTER DOUBLE O",
        "SMALL LETTER DOUBLE O,CAPITAL LETTER CROSSED O,SMALL LETTER CROSSED O"]⟩,
    ⟨42652, "MODIFIER LETTER CYRILLIC", ["HARD SIGN,SOFT SIGN"]⟩,
    ⟨42654, "COMBINING CYRILLIC LETTER", ["EF,IOTIFIED E"]⟩,
    ⟨42656, "BAMUM LETTER",
      ["A,KA,U,KU,EE,REE,TAE,O,NYI,I,LA,PA,RII,RIEE,LEEEE,MEEEE,TAA,NDAA,NJAEM,M,SUU,MU,SHII,SI",
        "SHEUX,SEUX,KYEE,KET,NUAE,NU,NJUAE,YOQ,SHU,YUQ,YA,NSHA,KEUX,PEUX,NJEE,NTEE,PUE,WUE,PEE",
        "FEE,RU,LU,MI,NI,REUX,RAE,KEN,NGKWAEN,NGGA,NGA,SHO,PUAE,FU,FOM,WA,NA,LI,PI,LOQ,KO,MBEN",
        "REN,MEN,MA,TI,KI,MO,MBAA,TET,KPA,TEN,NTUU,SAMBA,FAAMAE,KOVUU,KOGHOM"]⟩,
    ⟨42736, "BAMUM",
      ["COMBINING MARK KOQNDON,COMBINING MARK TUKWENTIS,NJAEMLI,FULL STOP,COLON,COMMA,SEMICOLON",
        "QUESTION MARK"]⟩,
    ⟨42752, "MODIFIER LETTER CHINESE TONE",
      ["YIN PING,YANG PING,YIN SHANG,YANG SHANG,YIN QU,YANG QU,YIN RU,YANG RU"]⟩,
    ⟨42760, "MODIFIER LETTER",
      ["EXTRA-HIGH DOTTED TONE BAR,HIGH DOTTED TONE BAR,MID DOTTED TONE BAR,LOW DOTTED TONE BAR",
        "EXTRA-LOW DOTTED TONE BAR,EXTRA-HIGH DOTTED LEFT-STEM TONE BAR",
        "HIGH DOTTED LEFT-STEM TONE BAR,MID DOTTED LEFT-STEM TONE BAR",
        "LOW DOTTED LEFT-STEM TONE BAR,EXTRA-LOW DOTTED LEFT-STEM TONE BAR",
        "EXTRA-HIGH LEFT-STEM TONE BAR,HIGH LEFT-STEM TONE BAR,MID LEFT-STEM TONE BAR",
        "LOW LEFT-STEM TONE BAR,EXTRA-LOW LEFT-STEM TONE BAR,DOT VERTICAL BAR,DOT SLASH",
        "DOT HORIZONTAL BAR,LOWER RIGHT CORNER ANGLE,RAISED UP ARROW,RAISED DOWN ARROW",
        "RAISED EXCLAMATION MARK,RAISED INVERTED EXCLAMATION MARK,LOW INVERTED EXCLAMATION MARK",
        "STRESS AND HIGH TONE,STRESS AND LOW TONE"]⟩,
    ⟨42786, "LATIN",
      ["CAPITAL LETTER EGYPTOLOGICAL ALEF,SMALL LETTER EGYPTOLOGICAL ALEF",
        "CAPITAL LETTER EGYPTOLOGICAL AIN,SMALL LETTER EGYPTOLOGICAL AIN,CAPITAL LETTER HENG",
        "SMALL LETTER HENG,CAPITAL LETTER TZ,SMALL LETTER TZ,CAPITAL LETTER TRESILLO",
        "SMALL LETTER TRESILLO,CAPITAL LETTER CUATRILLO,SMALL LETTER CUATRILLO",
        "CAPITAL LETTER CUATRILLO WITH COMMA,SMALL LETTER CUATRILLO WITH COMMA",
        "LETTER SMALL CAPITAL F,LETTER SMALL CAPITAL S,CAPITAL LETTER AA,SMALL LETTER AA",
        "CAPITAL LETTER AO,SMALL LETTER AO,CAPITAL LETTER AU,SMALL LETTER AU,CAPITAL LETTER AV",
        "SMALL LETTER AV,CAPITAL LETTER AV WITH HORIZONTAL BAR",
        "SMALL LETTER AV WITH HORIZONTAL BAR,CAPITAL LETTER AY,SMALL LETTER AY",
        "CAPITAL LETTER REVERSED C WITH DOT,SMALL LETTER REVERSED C WITH DOT",
        "CAPITAL LETTER K WITH STROKE,SMALL LETTER K WITH STROKE",
        "CAPITAL LETTER K WITH DIAGONAL STROKE,SMALL LETTER K WITH DIAGONAL STROKE",
        "CAPITAL LETTER K WITH STROKE AND DIAGONAL STROKE",
        "SMALL LETTER K WITH STROKE AND DIAGONAL STROKE,CAPITAL LETTER BROKEN L",
        "SMALL LETTER BROKEN L,CAPITAL LETTER L WITH HIGH STROKE,SMALL LETTER L WITH HIGH STROKE",
        "CAPITAL LETTER O WITH LONG STROKE OVERLAY,SMALL LETTER O WITH LONG STROKE OVERLAY",
        "CAPITAL LETTER O WITH LOOP,SMALL LETTER O WITH LOOP,CAPITAL LETTER OO,SMALL LETTER OO",
        "CAPITAL LETTER P WITH STROKE THROUGH DESCENDER",
        "SMALL LETTER P WITH STROKE THROUGH DESCENDER,CAPITAL LETTER P WITH FLOURISH",
        "SMALL LETTER P WITH FLOURISH,CAPITAL LETTER P WITH SQUIRREL TAIL",
        "SMALL LETTER P WITH SQUIRREL TAIL,CAPITAL LETTER Q WITH STROKE THROUGH DESCENDER",
        "SMALL LETTER Q WITH STROKE THROUGH DESCENDER,CAPITAL LETTER Q WITH DIAGONAL STROKE",
        "SMALL LETTER Q WITH DIAGONAL STROKE,CAPITAL LETTER R ROTUNDA,SMALL LETTER R ROTUNDA",
        "CAPITAL LETTER RUM ROTUNDA,SMALL LETTER RUM ROTUNDA",
        "CAPITAL LETTER V WITH DIAGONAL STROKE,SMALL LETTER V WITH DIAGONAL STROKE",
        "CAPITAL LETTER VY,SMALL LETTER VY,CAPITAL LETTER VISIGOTHIC Z,SMALL LETTER VISIGOTHIC Z",
        "CAPITAL LETTER THORN WITH STROKE,SMALL LETTER THORN WITH STROKE",
        "CAPITAL LETTER THORN WITH STROKE THROUGH DESCENDER",
        "SMALL LETTER THORN WITH STROKE THROUGH DESCENDER,CAPITAL LETTER VEND,SMALL LETTER VEND",
        "CAPITAL LETTER ET,SMALL LETTER ET,CAPITAL LETTER IS,SMALL LETTER IS,CAPITAL LETTER CON",
        "SMALL LETTER CON"]⟩,
    ⟨42864, "MODIFIER LETTER", ["US"]⟩,
    ⟨42865, "LATIN SMALL LETTER", ["DUM,LUM,MUM,NUM,RUM"]⟩,
    ⟨42870, "LATIN",
      ["LETTER SMALL CAPITAL RUM,SMALL LETTER TUM,SMALL LETTER UM,CAPITAL LETTER INSULAR D",
        "SMALL LETTER INSULAR D,CAPITAL LETTER INSULAR F,SMALL LETTER INSULAR F",
        "CAPITAL LETTER INSULAR G,CAPITAL LETTER TURNED INSULAR G,SMALL LETTER TURNED INSULAR G",
        "CAPITAL LETTER TURNED L,SMALL LETTER TURNED L,CAPITAL LETTER INSULAR R",
        "SMALL LETTER INSULAR R,CAPITAL LETTER INSULAR S,SMALL LETTER INSULAR S",
        "CAPITAL LETTER INSULAR T,SMALL LETTER INSULAR T"]⟩,
    ⟨42888, "MODIFIER LETTER", ["LOW CIRCUMFLEX ACCENT,COLON,SHORT EQUALS SIGN"]⟩,
    ⟨42891, "LATIN",
      ["CAPITAL LETTER SALTILLO,SMALL LETTER SALTILLO,CAPITAL LETTER TURNED H",
        "SMALL LETTER L WITH RETROFLEX HOOK AND BELT,LETTER SINOLOGICAL DOT",
        "CAPITAL LETTER N WITH DESCENDER,SMALL LETTER N WITH DESCENDER,CAPITAL LETTER C WITH BAR",
        "SMALL LETTER C WITH BAR,SMALL LETTER C WITH PALATAL HOOK",
        "SMALL LETTER H WITH PALATAL HOOK,CAPITAL LETTER B WITH FLOURISH",
        "SMALL LETTER B WITH FLOURISH,CAPITAL LETTER F WITH STROKE,SMALL LETTER F WITH STROKE",
        "CAPITAL LETTER VOLAPUK AE,SMALL LETTER VOLAPUK AE,CAPITAL LETTER VOLAPUK OE",
        "SMALL LETTER VOLAPUK OE,CAPITAL LETTER VOLAPUK UE,SMALL LETTER VOLAPUK UE",
        "CAPITAL LETTER G WITH OBLIQUE STROKE,SMALL LETTER G WITH OBLIQUE STROKE",
        "CAPITAL LETTER K WITH OBLIQUE STROKE,SMALL LETTER K WITH OBLIQUE STROKE",
        "CAPITAL LETTER N WITH OBLIQUE STROKE,SMALL LETTER N WITH OBLIQUE STROKE",
        "CAPITAL LETTER R WITH OBLIQUE STROKE,SMALL LETTER R WITH OBLIQUE STROKE",
        "CAPITAL LETTER S WITH OBLIQUE STROKE,SMALL LETTER S WITH OBLIQUE STROKE"]⟩,
    ⟨42922, "LATIN CAPITAL LETTER",
      ["H WITH HOOK,REVERSED OPEN E,SCRIPT G,L WITH BELT,SMALL CAPITAL I"]⟩,
    ⟨42927, "LATIN LETTER SMALL CAPITAL", ["Q"]⟩,
    ⟨42928, "LATIN CAPITAL LETTER", ["TURNED K,TURNED T,J WITH CROSSED-TAIL,CHI,BETA"]⟩,
    ⟨42933, "LATIN",
      ["SMALL LETTER BETA,CAPITAL LETTER OMEGA,SMALL LETTER OMEGA,CAPITAL LETTER U WITH STROKE",
        "SMALL LETTER U WITH STROKE,CAPITAL LETTER GLOTTAL A,SMALL LETTER GLOTTAL A",
        "CAPITAL LETTER GLOTTAL I,SMALL LETTER GLOTTAL I,CAPITAL LETTER GLOTTAL U",
        "SMALL LETTER GLOTTAL U,CAPITAL LETTER OLD POLISH O,SMALL LETTER OLD POLISH O",
        "CAPITAL LETTER ANGLICANA W,SMALL LETTER ANGLICANA W"]⟩,
    ⟨42948, "LATIN CAPITAL LETTER",
      ["C WITH PALATAL HOOK,S WITH HOOK,Z WITH PALATAL HOOK,D WITH SHORT STROKE OVERLAY"]⟩,
    ⟨42952, "LATIN",
      ["SMALL LETTER D WITH SHORT STROKE OVERLAY,CAPITAL LETTER S WITH SHORT STROKE OVERLAY",
        "SMALL LETTER S WITH SHORT STROKE OVERLAY"]⟩,
    ⟨42960, "LATIN", ["CAPITAL LETTER CLOSED INSULAR G,SMALL LETTER CLOSED INSULAR G"]⟩,
    ⟨42963, "LATIN SMALL LETTER DOUBLE", ["THORN"]⟩,
    ⟨42965, "LATIN",
      ["SMALL LETTER DOUBLE WYNN,CAPITAL LETTER MIDDLE SCOTS S,SMALL LETTER MIDDLE SCOTS S",
        "CAPITAL LETTER SIGMOID S,SMALL LETTER SIGMOID S"]⟩,
    ⟨42994, "MODIFIER LETTER CAPITAL", ["C,F,Q"]⟩,
    ⟨42997, "",
      ["LATIN CAPITAL LETTER REVERSED HALF H,LATIN SMALL LETTER REVERSED HALF H",
        "LATIN EPIGRAPHIC LETTER SIDEWAYS I,MODIFIER LETTER CAPITAL H WITH STROKE",
        "MODIFIER LETTER SMALL LIGATURE OE,LATIN LETTER SMALL CAPITAL TURNED M"]⟩,
    ⟨43003, "LATIN EPIGRAPHIC LETTER", ["REVERSED F,REVERSED P,INVERTED M,I LONGA,ARCHAIC M"]⟩,
    ⟨43008, "SYLOTI NAGRI",
      ["LETTER A,LETTER I,SIGN DVISVARA,LETTER U,LETTER E,LETTER O,SIGN HASANTA,LETTER KO",
        "LETTER KHO,LETTER GO,LETTER GHO,SIGN ANUSVARA"]⟩,
    ⟨43020, "SYLOTI NAGRI LETTER",
      ["CO,CHO,JO,JHO,TTO,TTHO,DDO,DDHO,TO,THO,DO,DHO,NO,PO,PHO,BO,BHO,MO,RO,LO,RRO,SO,HO"]⟩,
    ⟨43043, "SYLOTI NAGRI VOWEL SIGN", ["A,I,U,E,OO"]⟩,
    ⟨43048, "SYLOTI NAGRI",
      ["POETRY MARK-1,POETRY MARK-2,POETRY MARK-3,POETRY MARK-4,SIGN ALTERNATE HASANTA"]⟩,
    ⟨43056, "NORTH INDIC FRACTION",
      ["ONE QUARTER,ONE HALF,THREE QUARTERS,ONE SIXTEENTH,ONE EIGHTH,THREE SIXTEENTHS"]⟩,
    ⟨43062, "NORTH INDIC", ["QUARTER MARK,PLACEHOLDER MARK,RUPEE MARK,QUANTITY MARK"]⟩,
    ⟨43072, "PHAGS-PA LETTER",
      ["KA,KHA,GA,NGA,CA,CHA,JA,NYA,TA,THA,DA,NA,PA,PHA,BA,MA,TSA,TSHA,DZA,WA,ZHA,ZA,SMALL A,YA",
        "RA,LA,SHA,SA,HA,A,I,U,E,O,QA,XA,FA,GGA,EE"]⟩,
    ⟨43111, "PHAGS-PA SUBJOINED LETTER", ["WA,YA"]⟩,
    ⟨43113, "PHAGS-PA LETTER",
      ["TTA,TTHA,DDA,NNA,ALTERNATE YA,VOICELESS SHA,VOICED HA,ASPIRATED FA"]⟩,
    ⟨43121, "PHAGS-PA",
      ["SUBJOINED LETTER RA,SUPERFIXED LETTER RA,LETTER CANDRABINDU,SINGLE HEAD MARK",
        "DOUBLE HEAD MARK,MARK SHAD,MARK DOUBLE SHAD"]⟩,
    ⟨43136, "SAURASHTRA SIGN", ["ANUSVARA,VISARGA"]⟩,
    ⟨43138, "SAURASHTRA LETTER",
      ["A,AA,I,II,U,UU,VOCALIC R,VOCALIC RR,VOCALIC L,VOCALIC LL,E,EE,AI,O,OO,AU,KA,KHA,GA,GHA",
        "NGA,CA,CHA,JA,JHA,NYA,TTA,TTHA,DDA,DDHA,NNA,TA,THA,DA,DHA,NA,PA,PHA,BA,BHA,MA,YA,RA,LA",
        "VA,SHA,SSA,SA,HA,LLA"]⟩,
    ⟨43188, "SAURASHTRA CONSONANT SIGN", ["HAARU"]⟩,
    ⟨43189, "SAURASHTRA VOWEL SIGN",
      ["AA,I,II,U,UU,VOCALIC R,VOCALIC RR,VOCALIC L,VOCALIC LL,E,EE,AI,O,OO,AU"]⟩,
    ⟨43204, "SAURASHTRA SIGN", ["VIRAMA,CANDRABINDU"]⟩,
    ⟨43214, "SAURASHTRA", ["DANDA,DOUBLE DANDA"]⟩,
    ⟨43216, "SAURASHTRA DIGIT", ["ZERO,ONE,TWO,THREE,FOUR,FIVE,SIX,SEVEN,EIGHT,NINE"]⟩,
    ⟨43232, "COMBINING DEVANAGARI DIGIT", ["ZERO,ONE,TWO,THREE,FOUR,FIVE,SIX,SEVEN,EIGHT,NINE"]⟩,
    ⟨43242, "COMBINING DEVANAGARI LETTER", ["A,U,KA,NA,PA,RA,VI"]⟩,
    ⟨43249, "COMBINING DEVANAGARI SIGN", ["AVAGRAHA"]⟩,
    ⟨43250, "DEVANAGARI SIGN",
      ["SPACING CANDRABINDU,CANDRABINDU VIRAMA,DOUBLE CANDRABINDU VIRAMA,CANDRABINDU TWO",
        "CANDRABINDU THREE,CANDRABINDU AVAGRAHA,PUSHPIKA"]⟩,
    ⟨43257, "DEVANAGARI",
      ["GAP FILLER,CARET,HEADSTROKE,SIGN SIDDHAM,JAIN OM,LETTER AY,VOWEL SIGN AY"]⟩,
    ⟨43264, "KAYAH LI DIGIT", ["ZERO,ONE,TWO,THREE,FOUR,FIVE,SIX,SEVEN,EIGHT,NINE"]⟩,
    ⟨43274, "KAYAH LI LETTER",
      ["KA,KHA,GA,NGA,SA,SHA,ZA,NYA,TA,HTA,NA,PA,PHA,MA,DA,BA,RA,YA,LA,WA,THA,HA,VA,CA,A,OE,I",
        "OO"]⟩,
    ⟨43302, "KAYAH LI",
      ["VOWEL UE,VOWEL E,VOWEL U,VOWEL EE,VOWEL O,TONE PLOPHU,TONE CALYA,TONE CALYA PLOPHU",
        "SIGN CWI,SIGN SHYA"]⟩,
    ⟨43312, "REJANG LETTER",
      ["KA,GA,NGA,TA,DA,NA,PA,BA,MA,CA,JA,NYA,SA,RA,LA,YA,WA,HA,MBA,NGGA,NDA,NYJA,A"]⟩,
    ⟨43335, "REJANG VOWEL SIGN", ["I,U,E,AI,O,AU,EU,EA"]⟩,
    ⟨43343, "REJANG CONSONANT SIGN", ["NG,N,R,H"]⟩,
    ⟨43347, "REJANG", ["VIRAMA"]⟩,
    ⟨43359, "REJANG SECTION", ["MARK"]⟩,
    ⟨43360, "HANGUL CHOSEONG",
      ["TIKEUT-MIEUM,TIKEUT-PIEUP,TIKEUT-SIOS,TIKEUT-CIEUC,RIEUL-KIYEOK,RIEUL-SSANGKIYEOK",
        "RIEUL-TIKEUT,RIEUL-SSANGTIKEUT,RIEUL-MIEUM,RIEUL-PIEUP,RIEUL-SSANGPIEUP",
        "RIEUL-KAPYEOUNPIEUP,RIEUL-SIOS,RIEUL-CIEUC,RIEUL-KHIEUKH,MIEUM-KIYEOK,MIEUM-TIKEUT",
        "MIEUM-SIOS,PIEUP-SIOS-THIEUTH,PIEUP-KHIEUKH,PIEUP-HIEUH,SSANGSIOS-PIEUP,IEUNG-RIEUL",
        "IEUNG-HIEUH,SSANGCIEUC-HIEUH,SSANGTHIEUTH,PHIEUPH-HIEUH,HIEUH-SIOS,SSANGYEORINHIEUH"]⟩,
    ⟨43392, "JAVANESE SIGN", ["PANYANGGA,CECAK,LAYAR,WIGNYAN"]⟩,
    ⟨43396, "JAVANESE LETTER",
      ["A,I KAWI,I,II,U,PA CEREK,NGA LELET,NGA LELET RASWADI,E,AI,O,KA,KA SASAK,KA MURDA,GA",
        "GA MURDA,NGA,CA,CA MURDA,JA,NYA MURDA,JA MAHAPRANA,NYA,TTA,TTA MAHAPRANA,DDA",
        "DDA MAHAPRANA,NA MURDA,TA,TA MURDA,DA,DA MAHAPRANA,NA,PA,PA MURDA,BA,BA MURDA,MA,YA,RA",
        "RA AGUNG,LA,WA,SA MURDA,SA MAHAPRANA,SA,HA"]⟩,
    ⟨43443, "JAVANESE SIGN CECAK", ["TELU"]⟩,
    ⟨43444, "JAVANESE VOWEL SIGN",
      ["TARUNG,TOLONG,WULU,WULU MELIK,SUKU,SUKU MENDUT,TALING,DIRGA MURE,PEPET"]⟩,
    ⟨43453, "JAVANESE CONSONANT SIGN", ["KERET,PENGKAL,CAKRA"]⟩,
    ⟨43456, "JAVANESE",
      ["PANGKON,LEFT RERENGGAN,RIGHT RERENGGAN,PADA ANDAP,PADA MADYA,PADA LUHUR,PADA WINDU",
        "PADA PANGKAT,PADA LINGSA,PADA LUNGSI,PADA ADEG,PADA ADEG ADEG,PADA PISELEH",
        "TURNED PADA PISELEH"]⟩,
    ⟨43471, "JAVANESE", ["PANGRANGKEP"]⟩,
    ⟨43472, "JAVANESE DIGIT", ["ZERO,ONE,TWO,THREE,FOUR,FIVE,SIX,SEVEN,EIGHT,NINE"]⟩,
    ⟨43486, "JAVANESE PADA", ["TIRTA TUMETES,ISEN-ISEN"]⟩,
    ⟨43488, "MYANMAR LETTER SHAN", ["GHA,CHA,JHA,NNA,BHA"]⟩,
    ⟨43493, "MYANMAR", ["SIGN SHAN SAW,MODIFIER LETTER SHAN REDUPLICATION"]⟩,
    ⟨43495, "MYANMAR LETTER TAI LAING", ["NYA,FA,GA,GHA,JA,JHA,DDA,DDHA,NNA"]⟩,
    ⟨43504, "MYANMAR TAI LAING DIGIT", ["ZERO,ONE,TWO,THREE,FOUR,FIVE,SIX,SEVEN,EIGHT,NINE"]⟩,
    ⟨43514, "MYANMAR LETTER TAI LAING", ["LLA,DA,DHA,BA,BHA"]⟩,
    ⟨43520, "CHAM LETTER",
      ["A,I,U,E,AI,O,KA,KHA,GA,GHA,NGUE,NGA,CHA,CHHA,JA,JHA,NHUE,NHA,NHJA,TA,THA,DA,DHA,NUE,NA",
        "DDA,PA,PPA,PHA,BA,BHA,MUE,MA,BBA,YA,RA,LA,VA,SSA,SA,HA"]⟩,
    ⟨43561, "CHAM VOWEL SIGN", ["AA,I,II,EI,U,OE,O,AI,AU,UE"]⟩,
    ⟨43571, "CHAM CONSONANT SIGN", ["YA,RA,LA,WA"]⟩,
    ⟨43584, "CHAM LETTER FINAL", ["K,G,NG"]⟩,
    ⟨43587, "CHAM CONSONANT SIGN FINAL", ["NG"]⟩,
    ⟨43588, "CHAM LETTER FINAL", ["CH,T,N,P,Y,R,L,SS"]⟩,
    ⟨43596, "CHAM CONSONANT SIGN FINAL", ["M,H"]⟩,
    ⟨43600, "CHAM DIGIT", ["ZERO,ONE,TWO,THREE,FOUR,FIVE,SIX,SEVEN,EIGHT,NINE"]⟩,
    ⟨43612, "CHAM PUNCTUATION", ["SPIRAL,DANDA,DOUBLE DANDA,TRIPLE DANDA"]⟩,
    ⟨43616, "MYANMAR LETTER KHAMTI",
      ["GA,CA,CHA,JA,JHA,NYA,TTA,TTHA,DDA,DDHA,DHA,NA,SA,HA,HHA,FA"]⟩,
    ⟨43632, "MYANMAR",
      ["MODIFIER LETTER KHAMTI REDUPLICATION,LETTER KHAMTI XA,LETTER KHAMTI ZA,LETTER KHAMTI RA",
        "LOGOGRAM KHAMTI OAY,LOGOGRAM KHAMTI QN,LOGOGRAM KHAMTI HM,SYMBOL AITON EXCLAMATION",
        "SYMBOL AITON ONE,SYMBOL AITON TWO,LETTER AITON RA,SIGN PAO KAREN TONE",
        "SIGN TAI LAING TONE-2,SIGN TAI LAING TONE-5,LETTER SHWE PALAUNG CHA",
        "LETTER SHWE PALAUNG SHA"]⟩,
    ⟨43648, "TAI VIET LETTER",
      ["LOW KO,HIGH KO,LOW KHO,HIGH KHO,LOW KHHO,HIGH KHHO,LOW GO,HIGH GO,LOW NGO,HIGH NGO",
        "LOW CO,HIGH CO,LOW CHO,HIGH CHO,LOW SO,HIGH SO,LOW NYO,HIGH NYO,LOW DO,HIGH DO,LOW TO",
        "HIGH TO,LOW THO,HIGH THO,LOW NO,HIGH NO,LOW BO,HIGH BO,LOW PO,HIGH PO,LOW PHO,HIGH PHO",
        "LOW FO,HIGH FO,LOW MO,HIGH MO,LOW YO,HIGH YO,LOW RO,HIGH RO,LOW LO,HIGH LO,LOW VO",
        "HIGH VO,LOW HO,HIGH HO,LOW O,HIGH O"]⟩,
    ⟨43696, "TAI VIET", ["MAI KANG,VOWEL AA,VOWEL I,VOWEL UE,VOWEL U,VOWEL E,VOWEL O,MAI KHIT"]⟩,
    ⟨43704, "TAI VIET VOWEL", ["IA,UEA,UA,AUE,AY,AN,AM"]⟩,
    ⟨43711, "TAI VIET TONE MAI", ["EK,NUENG,THO,SONG"]⟩,
    ⟨43739, "TAI VIET SYMBOL", ["KON,NUENG,SAM,HO HOI,KOI KOI"]⟩,
    ⟨43744, "MEETEI MAYEK LETTER", ["E,O,CHA,NYA,TTA,TTHA,DDA,DDHA,NNA,SHA,SSA"]⟩,
    ⟨43755, "MEETEI MAYEK VOWEL SIGN", ["II,UU,AAI,AU,AAU"]⟩,
    ⟨43760, "MEETEI MAYEK",
      ["CHEIKHAN,AHANG KHUDAM,ANJI,SYLLABLE REPETITION MARK,WORD REPETITION MARK",
        "VOWEL SIGN VISARGA,VIRAMA"]⟩,
    ⟨43777, "ETHIOPIC SYLLABLE", ["TTHU,TTHI,TTHAA,TTHEE,TTHE,TTHO"]⟩,
    ⟨43785, "ETHIOPIC SYLLABLE", ["DDHU,DDHI,DDHAA,DDHEE,DDHE,DDHO"]⟩,
    ⟨43793, "ETHIOPIC SYLLABLE", ["DZU,DZI,DZAA,DZEE,DZE,DZO"]⟩,
    ⟨43808, "ETHIOPIC SYLLABLE", ["CCHHA,CCHHU,CCHHI,CCHHAA,CCHHEE,CCHHE,CCHHO"]⟩,
    ⟨43816, "ETHIOPIC SYLLABLE", ["BBA,BBU,BBI,BBAA,BBEE,BBE,BBO"]⟩,
    ⟨43824, "LATIN SMALL LETTER",
      ["BARRED ALPHA,A REVERSED-SCHWA,BLACKLETTER E,BARRED E,E WITH FLOURISH,LENIS F",
        "SCRIPT G WITH CROSSED-TAIL,L WITH INVERTED LAZY S,L WITH DOUBLE MIDDLE TILDE",
        "L WITH MIDDLE RING,M WITH CROSSED-TAIL,N WITH CROSSED-TAIL,ENG WITH CROSSED-TAIL",
        "BLACKLETTER O,BLACKLETTER O WITH STROKE,OPEN O WITH STROKE,INVERTED OE",
        "TURNED OE WITH STROKE,TURNED OE WITH HORIZONTAL STROKE,TURNED O OPEN-O",
        "TURNED O OPEN-O WITH STROKE,STIRRUP R"]⟩,
    ⟨43846, "LATIN LETTER SMALL CAPITAL R WITH RIGHT", ["LEG"]⟩,
    ⟨43847, "LATIN SMALL LETTER",
      ["R WITHOUT HANDLE,DOUBLE R,R WITH CROSSED-TAIL,DOUBLE R WITH CROSSED-TAIL,SCRIPT R",
        "SCRIPT R WITH RING,BASELINE ESH,U WITH SHORT RIGHT LEG,U BAR WITH SHORT RIGHT LEG,UI",
        "TURNED UI,U WITH LEFT HOOK,CHI,CHI WITH LOW RIGHT RING,CHI WITH LOW LEFT SERIF",
        "X WITH LOW RIGHT RING,X WITH LONG LEFT LEG,X WITH LONG LEFT LEG AND LOW RIGHT RING",
        "X WITH LONG LEFT LEG WITH SERIF,Y WITH SHORT RIGHT LEG"]⟩,
    ⟨43867, "MODIFIER BREVE WITH INVERTED", ["BREVE"]⟩,
    ⟨43868, "MODIFIER LETTER SMALL",
      ["HENG,L WITH INVERTED LAZY S,L WITH MIDDLE TILDE,U WITH LEFT HOOK"]⟩,
    ⟨43872, "LATIN SMALL LETTER", ["SAKHA YAT,IOTIFIED E,OPEN OE,UO,INVERTED ALPHA"]⟩,
    ⟨43877, "GREEK LETTER SMALL CAPITAL", ["OMEGA"]⟩,
    ⟨43878, "LATIN SMALL LETTER",
      ["DZ DIGRAPH WITH RETROFLEX HOOK,TS DIGRAPH WITH RETROFLEX HOOK",
        "TURNED R WITH MIDDLE TILDE"]⟩,
    ⟨43881, "MODIFIER LETTER", ["SMALL TURNED W,LEFT TACK,RIGHT TACK"]⟩,
    ⟨43888, "CHEROKEE SMALL LETTER",
      ["A,E,I,O,U,V,GA,KA,GE,GI,GO,GU,GV,HA,HE,HI,HO,HU,HV,LA,LE,LI,LO,LU,LV,MA,ME,MI,MO,MU,NA",
        "HNA,NAH,NE,NI,NO,NU,NV,QUA,QUE,QUI,QUO,QUU,QUV,SA,S,SE,SI,SO,SU,SV,DA,TA,DE,TE,DI,TI,DO",
        "DU,DV,DLA,TLA,TLE,TLI,TLO,TLU,TLV,TSA,TSE,TSI,TSO,TSU,TSV,WA,WE,WI,WO,WU,WV,YA"]⟩,
    ⟨43968, "MEETEI MAYEK LETTER",
      ["KOK,SAM,LAI,MIT,PA,NA,CHIL,TIL,KHOU,NGOU,THOU,WAI,YANG,HUK,UN,I,PHAM,ATIYA,GOK,JHAM,RAI",
        "BA,JIL,DIL,GHOU,DHOU,BHAM,KOK LONSUM,LAI LONSUM,MIT LONSUM,PA LONSUM,NA LONSUM",
        "TIL LONSUM,NGOU LONSUM,I LONSUM"]⟩,
    ⟨44003, "MEETEI MAYEK VOWEL SIGN", ["ONAP,INAP,ANAP,YENAP,SOUNAP,UNAP,CHEINAP,NUNG"]⟩,
    ⟨44011, "MEETEI MAYEK", ["CHEIKHEI,LUM IYEK,APUN IYEK"]⟩,
    ⟨44016, "MEETEI MAYEK DIGIT", ["ZERO,ONE,TWO,THREE,FOUR,FIVE,SIX,SEVEN,EIGHT,NINE"]⟩,
    ⟨55216, "HANGUL JUNGSEONG",
      ["O-YEO,O-O-I,YO-A,YO-AE,YO-EO,U-YEO,U-I-I,YU-AE,YU-O,EU-A,EU-EO,EU-E,EU-O,I-YA-O,I-YAE",
        "I-YEO,I-YE,I-O-I,I-YO,I-YU,I-I,ARAEA-A,ARAEA-E"]⟩,
    ⟨55243, "HANGUL JONGSEONG",
      ["NIEUN-RIEUL,NIEUN-CHIEUCH,SSANGTIKEUT,SSANGTIKEUT-PIEUP,TIKEUT-PIEUP,TIKEUT-SIOS",
        "TIKEUT-SIOS-KIYEOK,TIKEUT-CIEUC,TIKEUT-CHIEUCH,TIKEUT-THIEUTH,RIEUL-SSANGKIYEOK",
        "RIEUL-KIYEOK-HIEUH,SSANGRIEUL-KHIEUKH,RIEUL-MIEUM-HIEUH,RIEUL-PIEUP-TIKEUT",
        "RIEUL-PIEUP-PHIEUPH,RIEUL-YESIEUNG,RIEUL-YEORINHIEUH-HIEUH,KAPYEOUNRIEUL,MIEUM-NIEUN",
        "MIEUM-SSANGNIEUN,SSANGMIEUM,MIEUM-PIEUP-SIOS,MIEUM-CIEUC,PIEUP-TIKEUT",
        "PIEUP-RIEUL-PHIEUPH,PIEUP-MIEUM,SSANGPIEUP,PIEUP-SIOS-TIKEUT,PIEUP-CIEUC,PIEUP-CHIEUCH",
        "SIOS-MIEUM,SIOS-KAPYEOUNPIEUP,SSANGSIOS-KIYEOK,SSANGSIOS-TIKEUT,SIOS-PANSIOS,SIOS-CIEUC",
        "SIOS-CHIEUCH,SIOS-THIEUTH,SIOS-HIEUH,PANSIOS-PIEUP,PANSIOS-KAPYEOUNPIEUP,YESIEUNG-MIEUM",
        "YESIEUNG-HIEUH,CIEUC-PIEUP,CIEUC-SSANGPIEUP,SSANGCIEUC,PHIEUPH-SIOS,PHIEUPH-THIEUTH"]⟩,
    ⟨63744, "CJK COMPATIBILITY",
      ["IDEOGRAPH-F900,IDEOGRAPH-F901,IDEOGRAPH-F902,IDEOGRAPH-F903,IDEOGRAPH-F904",
        "IDEOGRAPH-F905,IDEOGRAPH-F906,IDEOGRAPH-F907,IDEOGRAPH-F908,IDEOGRAPH-F909",
        "IDEOGRAPH-F90A,IDEOGRAPH-F90B,IDEOGRAPH-F90C,IDEOGRAPH-F90D,IDEOGRAPH-F90E",
        "IDEOGRAPH-F90F,IDEOGRAPH-F910,IDEOGRAPH-F911,IDEOGRAPH-F912,IDEOGRAPH-F913",
        "IDEOGRAPH-F914,IDEOGRAPH-F915,IDEOGRAPH-F916,IDEOGRAPH-F917,IDEOGRAPH-F918",
        "IDEOGRAPH-F919,IDEOGRAPH-F91A,IDEOGRAPH-F91B,IDEOGRAPH-F91C,IDEOGRAPH-F91D",
        "IDEOGRAPH-F91E,IDEOGRAPH-F91F,IDEOGRAPH-F920,IDEOGRAPH-F921,IDEOGRAPH-F922",
        "IDEOGRAPH-F923,IDEOGRAPH-F924,IDEOGRAPH-F925,IDEOGRAPH-F926,IDEOGRAPH-F927",
        "IDEOGRAPH-F928,IDEOGRAPH-F929,IDEOGRAPH-F92A,IDEOGRAPH-F92B,IDEOGRAPH-F92C",
        "IDEOGRAPH-F92D,IDEOGRAPH-F92E,IDEOGRAPH-F92F,IDEOGRAPH-F930,IDEOGRAPH-F931",
        "IDEOGRAPH-F932,IDEOGRAPH-F933,IDEOGRAPH-F934,IDEOGRAPH-F935,IDEOGRAPH-F936",
        "IDEOGRAPH-F937,IDEOGRAPH-F938,IDEOGRAPH-F939,IDEOGRAPH-F93A,IDEOGRAPH-F93B",
        "IDEOGRAPH-F93C,IDEOGRAPH-F93D,IDEOGRAPH-F93E,IDEOGRAPH-F93F,IDEOGRAPH-F940",
        "IDEOGRAPH-F941,IDEOGRAPH-F942,IDEOGRAPH-F943,IDEOGRAPH-F944,IDEOGRAPH-F945",
        "IDEOGRAPH-F946,IDEOGRAPH-F947,IDEOGRAPH-F948,IDEOGRAPH-F949,IDEOGRAPH-F94A",
        "IDEOGRAPH-F94B,IDEOGRAPH-F94C,IDEOGRAPH-F94D,IDEOGRAPH-F94E,IDEOGRAPH-F94F",
        "IDEOGRAPH-F950,IDEOGRAPH-F951,IDEOGRAPH-F952,IDEOGRAPH-F953,IDEOGRAPH-F954",
        "IDEOGRAPH-F955,IDEOGRAPH-F956,IDEOGRAPH-F957,IDEOGRAPH-F958,IDEOGRAPH-F959",
        "IDEOGRAPH-F95A,IDEOGRAPH-F95B,IDEOGRAPH-F95C,IDEOGRAPH-F95D,IDEOGRAPH-F95E",
        "IDEOGRAPH-F95F,IDEOGRAPH-F960,IDEOGRAPH-F961,IDEOGRAPH-F962,IDEOGRAPH-F963",
        "IDEOGRAPH-F964,IDEOGRAPH-F965,IDEOGRAPH-F966,IDEOGRAPH-F967,IDEOGRAPH-F968",
        "IDEOGRAPH-F969,IDEOGRAPH-F96A,IDEOGRAPH-F96B,IDEOGRAPH-F96C,IDEOGRAPH-F96D",
        "IDEOGRAPH-F96E,IDEOGRAPH-F96F,IDEOGRAPH-F970,IDEOGRAPH-F971,IDEOGRAPH-F972",
        "IDEOGRAPH-F973,IDEOGRAPH-F974,IDEOGRAPH-F975,IDEOGRAPH-F976,IDEOGRAPH-F977",
        "IDEOGRAPH-F978,IDEOGRAPH-F979,IDEOGRAPH-F97A,IDEOGRAPH-F97B,IDEOGRAPH-F97C",
        "IDEOGRAPH-F97D,IDEOGRAPH-F97E,IDEOGRAPH-F97F,IDEOGRAPH-F980,IDEOGRAPH-F981",
        "IDEOGRAPH-F982,IDEOGRAPH-F983,IDEOGRAPH-F984,IDEOGRAPH-F985,IDEOGRAPH-F986",
        "IDEOGRAPH-F987,IDEOGRAPH-F988,IDEOGRAPH-F989,IDEOGRAPH-F98A,IDEOGRAPH-F98B",
        "IDEOGRAPH-F98C,IDEOGRAPH-F98D,IDEOGRAPH-F98E,IDEOGRAPH-F98F,IDEOGRAPH-F990",
        "IDEOGRAPH-F991,IDEOGRAPH-F992,IDEOGRAPH-F993,IDEOGRAPH-F994,IDEOGRAPH-F995",
        "IDEOGRAPH-F996,IDEOGRAPH-F997,IDEOGRAPH-F998,IDEOGRAPH-F999,IDEOGRAPH-F99A",
        "IDEOGRAPH-F99B,IDEOGRAPH-F99C,IDEOGRAPH-F99D,IDEOGRAPH-F99E,IDEOGRAPH-F99F",
        "IDEOGRAPH-F9A0,IDEOGRAPH-F9A1,IDEOGRAPH-F9A2,IDEOGRAPH-F9A3,IDEOGRAPH-F9A4",
        "IDEOGRAPH-F9A5,IDEOGRAPH-F9A6,IDEOGRAPH-F9A7,IDEOGRAPH-F9A8,IDEOGRAPH-F9A9",
        "IDEOGRAPH-F9AA,IDEOGRAPH-F9AB,IDEOGRAPH-F9AC,IDEOGRAPH-F9AD,IDEOGRAPH-F9AE",
        "IDEOGRAPH-F9AF,IDEOGRAPH-F9B0,IDEOGRAPH-F9B1,IDEOGRAPH-F9B2,IDEOGRAPH-F9B3",
        "IDEOGRAPH-F9B4,IDEOGRAPH-F9B5,IDEOGRAPH-F9B6,IDEOGRAPH-F9B7,IDEOGRAPH-F9B8",
        "IDEOGRAPH-F9B9,IDEOGRAPH-F9BA,IDEOGRAPH-F9BB,IDEOGRAPH-F9BC,IDEOGRAPH-F9BD",
        "IDEOGRAPH-F9BE,IDEOGRAPH-F9BF,IDEOGRAPH-F9C0,IDEOGRAPH-F9C1,IDEOGRAPH-F9C2",
        "IDEOGRAPH-F9C3,IDEOGRAPH-F9C4,IDEOGRAPH-F9C5,IDEOGRAPH-F9C6,IDEOGRAPH-F9C7",
        "IDEOGRAPH-F9C8,IDEOGRAPH-F9C9,IDEOGRAPH-F9CA,IDEOGRAPH-F9CB,IDEOGRAPH-F9CC",
        "IDEOGRAPH-F9CD,IDEOGRAPH-F9CE,IDEOGRAPH-F9CF,IDEOGRAPH-F9D0,IDEOGRAPH-F9D1",
        "IDEOGRAPH-F9D2,IDEOGRAPH-F9D3,IDEOGRAPH-F9D4,IDEOGRAPH-F9D5,IDEOGRAPH-F9D6",
        "IDEOGRAPH-F9D7,IDEOGRAPH-F9D8,IDEOGRAPH-F9D9,IDEOGRAPH-F9DA,IDEOGRAPH-F9DB",
        "IDEOGRAPH-F9DC,IDEOGRAPH-F9DD,IDEOGRAPH-F9DE,IDEOGRAPH-F9DF,IDEOGRAPH-F9E0",
        "IDEOGRAPH-F9E1,IDEOGRAPH-F9E2,IDEOGRAPH-F9E3,IDEOGRAPH-F9E4,IDEOGRAPH-F9E5",
        "IDEOGRAPH-F9E6,IDEOGRAPH-F9E7,IDEOGRAPH-F9E8,IDEOGRAPH-F9E9,IDEOGRAPH-F9EA",
        "IDEOGRAPH-F9EB,IDEOGRAPH-F9EC,IDEOGRAPH-F9ED,IDEOGRAPH-F9EE,IDEOGRAPH-F9EF",
        "IDEOGRAPH-F9F0,IDEOGRAPH-F9F1,IDEOGRAPH-F9F2,IDEOGRAPH-F9F3,IDEOGRAPH-F9F4",
        "IDEOGRAPH-F9F5,IDEOGRAPH-F9F6,IDEOGRAPH-F9F7,IDEOGRAPH-F9F8,IDEOGRAPH-F9F9",
        "IDEOGRAPH-F9FA,IDEOGRAPH-F9FB,IDEOGRAPH-F9FC,IDEOGRAPH-F9FD,IDEOGRAPH-F9FE",
        "IDEOGRAPH-F9FF,IDEOGRAPH-FA00,IDEOGRAPH-FA01,IDEOGRAPH-FA02,IDEOGRAPH-FA03",
        "IDEOGRAPH-FA04,IDEOGRAPH-FA05,IDEOGRAPH-FA06,IDEOGRAPH-FA07,IDEOGRAPH-FA08",
        "IDEOGRAPH-FA09,IDEOGRAPH-FA0A,IDEOGRAPH-FA0B,IDEOGRAPH-FA0C,IDEOGRAPH-FA0D",
        "IDEOGRAPH-FA0E,IDEOGRAPH-FA0F,IDEOGRAPH-FA10,IDEOGRAPH-FA11,IDEOGRAPH-FA12",
        "IDEOGRAPH-FA13,IDEOGRAPH-FA14,IDEOGRAPH-FA15,IDEOGRAPH-FA16,IDEOGRAPH-FA17",
        "IDEOGRAPH-FA18,IDEOGRAPH-FA19,IDEOGRAPH-FA1A,IDEOGRAPH-FA1B,IDEOGRAPH-FA1C",
        "IDEOGRAPH-FA1D,IDEOGRAPH-FA1E,IDEOGRAPH-FA1F,IDEOGRAPH-FA20,IDEOGRAPH-FA21",
        "IDEOGRAPH-FA22,IDEOGRAPH-FA23,IDEOGRAPH-FA24,IDEOGRAPH-FA25,IDEOGRAPH-FA26",
        "IDEOGRAPH-FA27,IDEOGRAPH-FA28,IDEOGRAPH-FA29,IDEOGRAPH-FA2A,IDEOGRAPH-FA2B",
        "IDEOGRAPH-FA2C,IDEOGRAPH-FA2D,IDEOGRAPH-FA2E,IDEOGRAPH-FA2F,IDEOGRAPH-FA30",
        "IDEOGRAPH-FA31,IDEOGRAPH-FA32,IDEOGRAPH-FA33,IDEOGRAPH-FA34,IDEOGRAPH-FA35",
        "IDEOGRAPH-FA36,IDEOGRAPH-FA37,IDEOGRAPH-FA38,IDEOGRAPH-FA39,IDEOGRAPH-FA3A",
        "IDEOGRAPH-FA3B,IDEOGRAPH-FA3C,IDEOGRAPH-FA3D,IDEOGRAPH-FA3E,IDEOGRAPH-FA3F",
        "IDEOGRAPH-FA40,IDEOGRAPH-FA41,IDEOGRAPH-FA42,IDEOGRAPH-FA43,IDEOGRAPH-FA44",
        "IDEOGRAPH-FA45,IDEOGRAPH-FA46,IDEOGRAPH-FA47,IDEOGRAPH-FA48,IDEOGRAPH-FA49",
        "IDEOGRAPH-FA4A,IDEOGRAPH-FA4B,IDEOGRAPH-FA4C,IDEOGRAPH-FA4D,IDEOGRAPH-FA4E",
        "IDEOGRAPH-FA4F,IDEOGRAPH-FA50,IDEOGRAPH-FA51,IDEOGRAPH-FA52,IDEOGRAPH-FA53",
        "IDEOGRAPH-FA54,IDEOGRAPH-FA55,IDEOGRAPH-FA56,IDEOGRAPH-FA57,IDEOGRAPH-FA58",
        "IDEOGRAPH-FA59,IDEOGRAPH-FA5A,IDEOGRAPH-FA5B,IDEOGRAPH-FA5C,IDEOGRAPH-FA5D",
        "IDEOGRAPH-FA5E,IDEOGRAPH-FA5F,IDEOGRAPH-FA60,IDEOGRAPH-FA61,IDEOGRAPH-FA62",
        "IDEOGRAPH-FA63,IDEOGRAPH-FA64,IDEOGRAPH-FA65,IDEOGRAPH-FA66,IDEOGRAPH-FA67",
        "IDEOGRAPH-FA68,IDEOGRAPH-FA69,IDEOGRAPH-FA6A,IDEOGRAPH-FA6B,IDEOGRAPH-FA6C",
        "IDEOGRAPH-FA6D"]⟩,
    ⟨64112, "CJK COMPATIBILITY",
      ["IDEOGRAPH-FA70,IDEOGRAPH-FA71,IDEOGRAPH-FA72,IDEOGRAPH-FA73,IDEOGRAPH-FA74",
        "IDEOGRAPH-FA75,IDEOGRAPH-FA76,IDEOGRAPH-FA77,IDEOGRAPH-FA78,IDEOGRAPH-FA79",
        "IDEOGRAPH-FA7A,IDEOGRAPH-FA7B,IDEOGRAPH-FA7C,IDEOGRAPH-FA7D,IDEOGRAPH-FA7E",
        "IDEOGRAPH-FA7F,IDEOGRAPH-FA80,IDEOGRAPH-FA81,IDEOGRAPH-FA82,IDEOGRAPH-FA83",
        "IDEOGRAPH-FA84,IDEOGRAPH-FA85,IDEOGRAPH-FA86,IDEOGRAPH-FA87,IDEOGRAPH-FA88",
        "IDEOGRAPH-FA89,IDEOGRAPH-FA8A,IDEOGRAPH-FA8B,IDEOGRAPH-FA8C,IDEOGRAPH-FA8D",
        "IDEOGRAPH-FA8E,IDEOGRAPH-FA8F,IDEOGRAPH-FA90,IDEOGRAPH-FA91,IDEOGRAPH-FA92",
        "IDEOGRAPH-FA93,IDEOGRAPH-FA94,IDEOGRAPH-FA95,IDEOGRAPH-FA96,IDEOGRAPH-FA97",
        "IDEOGRAPH-FA98,IDEOGRAPH-FA99,IDEOGRAPH-FA9A,IDEOGRAPH-FA9B,IDEOGRAPH-FA9C",
        "IDEOGRAPH-FA9D,IDEOGRAPH-FA9E,IDEOGRAPH-FA9F,IDEOGRAPH-FAA0,IDEOGRAPH-FAA1",
        "IDEOGRAPH-FAA2,IDEOGRAPH-FAA3,IDEOGRAPH-FAA4,IDEOGRAPH-FAA5,IDEOGRAPH-FAA6",
        "IDEOGRAPH-FAA7,IDEOGRAPH-FAA8,IDEOGRAPH-FAA9,IDEOGRAPH-FAAA,IDEOGRAPH-FAAB",
        "IDEOGRAPH-FAAC,IDEOGRAPH-FAAD,IDEOGRAPH-FAAE,IDEOGRAPH-FAAF,IDEOGRAPH-FAB0",
        "IDEOGRAPH-FAB1,IDEOGRAPH-FAB2,IDEOGRAPH-FAB3,IDEOGRAPH-FAB4,IDEOGRAPH-FAB5",
        "IDEOGRAPH-FAB6,IDEOGRAPH-FAB7,IDEOGRAPH-FAB8,IDEOGRAPH-FAB9,IDEOGRAPH-FABA",
        "IDEOGRAPH-FABB,IDEOGRAPH-FABC,IDEOGRAPH-FABD,IDEOGRAPH-FABE,IDEOGRAPH-FABF",
        "IDEOGRAPH-FAC0,IDEOGRAPH-FAC1,IDEOGRAPH-FAC2,IDEOGRAPH-FAC3,IDEOGRAPH-FAC4",
        "IDEOGRAPH-FAC5,IDEOGRAPH-FAC6,IDEOGRAPH-FAC7,IDEOGRAPH-FAC8,IDEOGRAPH-FAC9",
        "IDEOGRAPH-FACA,IDEOGRAPH-FACB,IDEOGRAPH-FACC,IDEOGRAPH-FACD,IDEOGRAPH-FACE",
        "IDEOGRAPH-FACF,IDEOGRAPH-FAD0,IDEOGRAPH-FAD1,IDEOGRAPH-FAD2,IDEOGRAPH-FAD3",
        "IDEOGRAPH-FAD4,IDEOGRAPH-FAD5,IDEOGRAPH-FAD6,IDEOGRAPH-FAD7,IDEOGRAPH-FAD8",
        "IDEOGRAPH-FAD9"]⟩,
    ⟨64256, "LATIN SMALL LIGATURE", ["FF,FI,FL,FFI,FFL,LONG S T,ST"]⟩,
    ⟨64275, "ARMENIAN SMALL LIGATURE", ["MEN NOW,MEN ECH,MEN INI,VEW NOW,MEN XEH"]⟩,
    ⟨64285, "HEBREW",
      ["LETTER YOD WITH HIRIQ,POINT JUDEO-SPANISH VARIKA,LIGATURE YIDDISH YOD YOD PATAH"]⟩,
    ⟨64288, "HEBREW LETTER",
      ["ALTERNATIVE AYIN,WIDE ALEF,WIDE DALET,WIDE HE,WIDE KAF,WIDE LAMED,WIDE FINAL MEM",
        "WIDE RESH,WIDE TAV,ALTERNATIVE PLUS SIGN,SHIN WITH SHIN DOT,SHIN WITH SIN DOT",
        "SHIN WITH DAGESH AND SHIN DOT,SHIN WITH DAGESH AND SIN DOT,ALEF WITH PATAH",
        "ALEF WITH QAMATS,ALEF WITH MAPIQ,BET WITH DAGESH,GIMEL WITH DAGESH,DALET WITH DAGESH",
        "HE WITH MAPIQ,VAV WITH DAGESH,ZAYIN WITH DAGESH"]⟩,
    ⟨64312, "HEBREW LETTER",
      ["TET WITH DAGESH,YOD WITH DAGESH,FINAL KAF WITH DAGESH,KAF WITH DAGESH,LAMED WITH DAGESH"]⟩,
    ⟨64318, "HEBREW LETTER MEM WITH", ["DAGESH"]⟩,
    ⟨64320, "HEBREW LETTER", ["NUN WITH DAGESH,SAMEKH WITH DAGESH"]⟩,
    ⟨64323, "HEBREW LETTER", ["FINAL PE WITH DAGESH,PE WITH DAGESH"]⟩,
    ⟨64326, "HEBREW LETTER",
      ["TSADI WITH DAGESH,QOF WITH DAGESH,RESH WITH DAGESH,SHIN WITH DAGESH,TAV WITH DAGESH",
        "VAV WITH HOLAM,BET WITH RAFE,KAF WITH RAFE,PE WITH RAFE"]⟩,
    ⟨64335, "HEBREW LIGATURE ALEF", ["LAMED"]⟩,
    ⟨64336, "ARABIC LETTER",
      ["ALEF WASLA ISOLATED FORM,ALEF WASLA FINAL FORM,BEEH ISOLATED FORM,BEEH FINAL FORM",
        "BEEH INITIAL FORM,BEEH MEDIAL FORM,PEH ISOLATED FORM,PEH FINAL FORM,PEH INITIAL FORM",
        "PEH MEDIAL FORM,BEHEH ISOLATED FORM,BEHEH FINAL FORM,BEHEH INITIAL FORM",
        "BEHEH MEDIAL FORM,TTEHEH ISOLATED FORM,TTEHEH FINAL FORM,TTEHEH INITIAL FORM",
        "TTEHEH MEDIAL FORM,TEHEH ISOLATED FORM,TEHEH FINAL FORM,TEHEH INITIAL FORM",
        "TEHEH MEDIAL FORM,TTEH ISOLATED FORM,TTEH FINAL FORM,TTEH INITIAL FORM,TTEH MEDIAL FORM",
        "VEH ISOLATED FORM,VEH FINAL FORM,VEH INITIAL FORM,VEH MEDIAL FORM,PEHEH ISOLATED FORM",
        "PEHEH FINAL FORM,PEHEH INITIAL FORM,PEHEH MEDIAL FORM,DYEH ISOLATED FORM",
        "DYEH FINAL FORM,DYEH INITIAL FORM,DYEH MEDIAL FORM,NYEH ISOLATED FORM,NYEH FINAL FORM",
        "NYEH INITIAL FORM,NYEH MEDIAL FORM,TCHEH ISOLATED FORM,TCHEH FINAL FORM",
        "TCHEH INITIAL FORM,TCHEH MEDIAL FORM,TCHEHEH ISOLATED FORM,TCHEHEH FINAL FORM",
        "TCHEHEH INITIAL FORM,TCHEHEH MEDIAL FORM,DDAHAL ISOLATED FORM,DDAHAL FINAL FORM",
        "DAHAL ISOLATED FORM,DAHAL FINAL FORM,DUL ISOLATED FORM,DUL FINAL FORM",
        "DDAL ISOLATED FORM,DDAL FINAL FORM,JEH ISOLATED FORM,JEH FINAL FORM,RREH ISOLATED FORM",
        "RREH FINAL FORM,KEHEH ISOLATED FORM,KEHEH FINAL FORM,KEHEH INITIAL FORM",
        "KEHEH MEDIAL FORM,GAF ISOLATED FORM,GAF FINAL FORM,GAF INITIAL FORM,GAF MEDIAL FORM",
        "GUEH ISOLATED FORM,GUEH FINAL FORM,GUEH INITIAL FORM,GUEH MEDIAL FORM",
        "NGOEH ISOLATED FORM,NGOEH FINAL FORM,NGOEH INITIAL FORM,NGOEH MEDIAL FORM",
        "NOON GHUNNA ISOLATED FORM,NOON GHUNNA FINAL FORM,RNOON ISOLATED FORM,RNOON FINAL FORM",
        "RNOON INITIAL FORM,RNOON MEDIAL FORM,HEH WITH YEH ABOVE ISOLATED FORM",
        "HEH WITH YEH ABOVE FINAL FORM,HEH GOAL ISOLATED FORM,HEH GOAL FINAL FORM",
        "HEH GOAL INITIAL FORM,HEH GOAL MEDIAL FORM"]⟩,
    ⟨64426, "ARABIC LETTER HEH DOACHASHMEE", ["ISOLATED FORM,FINAL FORM,INITIAL FORM,MEDIAL FORM"]⟩,
    ⟨64430, "ARABIC LETTER YEH BARREE",
      ["ISOLATED FORM,FINAL FORM,WITH HAMZA ABOVE ISOLATED FORM,WITH HAMZA ABOVE FINAL FORM"]⟩,
    ⟨64434, "ARABIC SYMBOL",
      ["DOT ABOVE,DOT BELOW,TWO DOTS ABOVE,TWO DOTS BELOW,THREE DOTS ABOVE,THREE DOTS BELOW",
        "THREE DOTS POINTING DOWNWARDS ABOVE,THREE DOTS POINTING DOWNWARDS BELOW,FOUR DOTS ABOVE",
        "FOUR DOTS BELOW,DOUBLE VERTICAL BAR BELOW,TWO DOTS VERTICALLY ABOVE",
        "TWO DOTS VERTICALLY BELOW,RING,SMALL TAH ABOVE,SMALL TAH BELOW,WASLA ABOVE"]⟩,
    ⟨64467, "ARABIC LETTER",
      ["NG ISOLATED FORM,NG FINAL FORM,NG INITIAL FORM,NG MEDIAL FORM,U ISOLATED FORM",
        "U FINAL FORM,OE ISOLATED FORM,OE FINAL FORM,YU ISOLATED FORM,YU FINAL FORM",
        "U WITH HAMZA ABOVE ISOLATED FORM,VE ISOLATED FORM,VE FINAL FORM",
        "KIRGHIZ OE ISOLATED FORM,KIRGHIZ OE FINAL FORM,KIRGHIZ YU ISOLATED FORM",
        "KIRGHIZ YU FINAL FORM,E ISOLATED FORM,E FINAL FORM,E INITIAL FORM,E MEDIAL FORM"]⟩,
    ⟨64488, "ARABIC LETTER UIGHUR KAZAKH KIRGHIZ ALEF MAKSURA", ["INITIAL FORM,MEDIAL FORM"]⟩,
    ⟨64490, "ARABIC LIGATURE YEH WITH HAMZA ABOVE WITH",
      ["ALEF ISOLATED FORM,ALEF FINAL FORM,AE ISOLATED FORM,AE FINAL FORM,WAW ISOLATED FORM",
        "WAW FINAL FORM,U ISOLATED FORM,U FINAL FORM,OE ISOLATED FORM,OE FINAL FORM",
        "YU ISOLATED FORM,YU FINAL FORM,E ISOLATED FORM,E FINAL FORM,E INITIAL FORM"]⟩,
    ⟨64505, "ARABIC LIGATURE UIGHUR KIRGHIZ YEH WITH HAMZA ABOVE WITH ALEF MAKSURA",
      ["ISOLATED FORM,FINAL FORM,INITIAL FORM"]⟩,
    ⟨64508, "ARABIC LETTER FARSI YEH", ["ISOLATED FORM,FINAL FORM,INITIAL FORM,MEDIAL FORM"]⟩,
    ⟨64512, "ARABIC LIGATURE YEH WITH HAMZA ABOVE WITH",
      ["JEEM ISOLATED FORM,HAH ISOLATED FORM,MEEM ISOLATED FORM,ALEF MAKSURA ISOLATED FORM",
        "YEH ISOLATED FORM"]⟩,
    ⟨64517, "ARABIC LIGATURE BEH WITH",
      ["JEEM ISOLATED FORM,HAH ISOLATED FORM,KHAH ISOLATED FORM,MEEM ISOLATED FORM",
        "ALEF MAKSURA ISOLATED FORM,YEH ISOLATED FORM"]⟩,
    ⟨64523, "ARABIC LIGATURE TEH WITH",
      ["JEEM ISOLATED FORM,HAH ISOLATED FORM,KHAH ISOLATED FORM,MEEM ISOLATED FORM",
        "ALEF MAKSURA ISOLATED FORM,YEH ISOLATED FORM"]⟩,
    ⟨64529, "ARABIC LIGATURE",
      ["THEH WITH JEEM ISOLATED FORM,THEH WITH MEEM ISOLATED FORM",
        "THEH WITH ALEF MAKSURA ISOLATED FORM,THEH WITH YEH ISOLATED FORM",
        "JEEM WITH HAH ISOLATED FORM,JEEM WITH MEEM ISOLATED FORM,HAH WITH JEEM ISOLATED FORM",
        "HAH WITH MEEM ISOLATED FORM,KHAH WITH JEEM ISOLATED FORM,KHAH WITH HAH ISOLATED FORM",
        "KHAH WITH MEEM ISOLATED FORM,SEEN WITH JEEM ISOLATED FORM,SEEN WITH HAH ISOLATED FORM",
        "SEEN WITH KHAH ISOLATED FORM,SEEN WITH MEEM ISOLATED FORM,SAD WITH HAH ISOLATED FORM",
        "SAD WITH MEEM ISOLATED FORM,DAD WITH JEEM ISOLATED FORM,DAD WITH HAH ISOLATED FORM",
        "DAD WITH KHAH ISOLATED FORM,DAD WITH MEEM ISOLATED FORM,TAH WITH HAH ISOLATED FORM",
        "TAH WITH MEEM ISOLATED FORM,ZAH WITH MEEM ISOLATED FORM,AIN WITH JEEM ISOLATED FORM",
        "AIN WITH MEEM ISOLATED FORM,GHAIN WITH JEEM ISOLATED FORM,GHAIN WITH MEEM ISOLATED FORM"]⟩,
    ⟨64557, "ARABIC LIGATURE FEH WITH",
      ["JEEM ISOLATED FORM,HAH ISOLATED FORM,KHAH ISOLATED FORM,MEEM ISOLATED FORM",
        "ALEF MAKSURA ISOLATED FORM,YEH ISOLATED FORM"]⟩,
    ⟨64563, "ARABIC LIGATURE QAF WITH",
      ["HAH ISOLATED FORM,MEEM ISOLATED FORM,ALEF MAKSURA ISOLATED FORM,YEH ISOLATED FORM"]⟩,
    ⟨64567, "ARABIC LIGATURE KAF WITH",
      ["ALEF ISOLATED FORM,JEEM ISOLATED FORM,HAH ISOLATED FORM,KHAH ISOLATED FORM",
        "LAM ISOLATED FORM,MEEM ISOLATED FORM,ALEF MAKSURA ISOLATED FORM,YEH ISOLATED FORM"]⟩,
    ⟨64575, "ARABIC LIGATURE LAM WITH",
      ["JEEM ISOLATED FORM,HAH ISOLATED FORM,KHAH ISOLATED FORM,MEEM ISOLATED FORM",
        "ALEF MAKSURA ISOLATED FORM,YEH ISOLATED FORM"]⟩,
    ⟨64581, "ARABIC LIGATURE MEEM WITH",
      ["JEEM ISOLATED FORM,HAH ISOLATED FORM,KHAH ISOLATED FORM,MEEM ISOLATED FORM",
        "ALEF MAKSURA ISOLATED FORM,YEH ISOLATED FORM"]⟩,
    ⟨64587, "ARABIC LIGATURE NOON WITH",
      ["JEEM ISOLATED FORM,HAH ISOLATED FORM,KHAH ISOLATED FORM,MEEM ISOLATED FORM",
        "ALEF MAKSURA ISOLATED FORM,YEH ISOLATED FORM"]⟩,
    ⟨64593, "ARABIC LIGATURE HEH WITH",
      ["JEEM ISOLATED FORM,MEEM ISOLATED FORM,ALEF MAKSURA ISOLATED FORM,YEH ISOLATED FORM"]⟩,
    ⟨64597, "ARABIC LIGATURE YEH WITH",
      ["JEEM ISOLATED FORM,HAH ISOLATED FORM,KHAH ISOLATED FORM,MEEM ISOLATED FORM",
        "ALEF MAKSURA ISOLATED FORM,YEH ISOLATED FORM"]⟩,
    ⟨64603, "ARABIC LIGATURE",
      ["THAL WITH SUPERSCRIPT ALEF ISOLATED FORM,REH WITH SUPERSCRIPT ALEF ISOLATED FORM",
        "ALEF MAKSURA WITH SUPERSCRIPT ALEF ISOLATED FORM"]⟩,
    ⟨64606, "ARABIC LIGATURE SHADDA WITH",
      ["DAMMATAN ISOLATED FORM,KASRATAN ISOLATED FORM,FATHA ISOLATED FORM,DAMMA ISOLATED FORM",
        "KASRA ISOLATED FORM,SUPERSCRIPT ALEF ISOLATED FORM"]⟩,
    ⟨64612, "ARABIC LIGATURE YEH WITH HAMZA ABOVE WITH",
      ["REH FINAL FORM,ZAIN FINAL FORM,MEEM FINAL FORM,NOON FINAL FORM,ALEF MAKSURA FINAL FORM",
        "YEH FINAL FORM"]⟩,
    ⟨64618, "ARABIC LIGATURE BEH WITH",
      ["REH FINAL FORM,ZAIN FINAL FORM,MEEM FINAL FORM,NOON FINAL FORM,ALEF MAKSURA FINAL FORM",
        "YEH FINAL FORM"]⟩,
    ⟨64624, "ARABIC LIGATURE TEH WITH",
      ["REH FINAL FORM,ZAIN FINAL FORM,MEEM FINAL FORM,NOON FINAL FORM,ALEF MAKSURA FINAL FORM",
        "YEH FINAL FORM"]⟩,
    ⟨64630, "ARABIC LIGATURE THEH WITH",
      ["REH FINAL FORM,ZAIN FINAL FORM,MEEM FINAL FORM,NOON FINAL FORM,ALEF MAKSURA FINAL FORM",
        "YEH FINAL FORM"]⟩,
    ⟨64636, "ARABIC LIGATURE",
      ["FEH WITH ALEF MAKSURA FINAL FORM,FEH WITH YEH FINAL FORM",
        "QAF WITH ALEF MAKSURA FINAL FORM,QAF WITH YEH FINAL FORM,KAF WITH ALEF FINAL FORM",
        "KAF WITH LAM FINAL FORM,KAF WITH MEEM FINAL FORM,KAF WITH ALEF MAKSURA FINAL FORM",
        "KAF WITH YEH FINAL FORM,LAM WITH MEEM FINAL FORM,LAM WITH ALEF MAKSURA FINAL FORM",
        "LAM WITH YEH FINAL FORM,MEEM WITH ALEF FINAL FORM,MEEM WITH MEEM FINAL FORM",
        "NOON WITH REH FINAL FORM,NOON WITH ZAIN FINAL FORM,NOON WITH MEEM FINAL FORM",
        "NOON WITH NOON FINAL FORM,NOON WITH ALEF MAKSURA FINAL FORM,NOON WITH YEH FINAL FORM",
        "ALEF MAKSURA WITH SUPERSCRIPT ALEF FINAL FORM"]⟩,
    ⟨64657, "ARABIC LIGATURE YEH WITH",
      ["REH FINAL FORM,ZAIN FINAL FORM,MEEM FINAL FORM,NOON FINAL FORM,ALEF MAKSURA FINAL FORM",
        "YEH FINAL FORM"]⟩,
    ⟨64663, "ARABIC LIGATURE YEH WITH HAMZA ABOVE WITH",
      ["JEEM INITIAL FORM,HAH INITIAL FORM,KHAH INITIAL FORM,MEEM INITIAL FORM,HEH INITIAL FORM"]⟩,
    ⟨64668, "ARABIC LIGATURE BEH WITH",
      ["JEEM INITIAL FORM,HAH INITIAL FORM,KHAH INITIAL FORM,MEEM INITIAL FORM,HEH INITIAL FORM"]⟩,
    ⟨64673, "ARABIC LIGATURE TEH WITH",
      ["JEEM INITIAL FORM,HAH INITIAL FORM,KHAH INITIAL FORM,MEEM INITIAL FORM,HEH INITIAL FORM"]⟩,
    ⟨64678, "ARABIC LIGATURE",
      ["THEH WITH MEEM INITIAL FORM,JEEM WITH HAH INITIAL FORM,JEEM WITH MEEM INITIAL FORM",
        "HAH WITH JEEM INITIAL FORM,HAH WITH MEEM INITIAL FORM,KHAH WITH JEEM INITIAL FORM",
        "KHAH WITH MEEM INITIAL FORM,SEEN WITH JEEM INITIAL FORM,SEEN WITH HAH INITIAL FORM",
        "SEEN WITH KHAH INITIAL FORM,SEEN WITH MEEM INITIAL FORM,SAD WITH HAH INITIAL FORM",
        "SAD WITH KHAH INITIAL FORM,SAD WITH MEEM INITIAL FORM,DAD WITH JEEM INITIAL FORM",
        "DAD WITH HAH INITIAL FORM,DAD WITH KHAH INITIAL FORM,DAD WITH MEEM INITIAL FORM",
        "TAH WITH HAH INITIAL FORM,ZAH WITH MEEM INITIAL FORM,AIN WITH JEEM INITIAL FORM",
        "AIN WITH MEEM INITIAL FORM,GHAIN WITH JEEM INITIAL FORM,GHAIN WITH MEEM INITIAL FORM",
        "FEH WITH JEEM INITIAL FORM,FEH WITH HAH INITIAL FORM,FEH WITH KHAH INITIAL FORM",
        "FEH WITH MEEM INITIAL FORM,QAF WITH HAH INITIAL FORM,QAF WITH MEEM INITIAL FORM",
        "KAF WITH JEEM INITIAL FORM,KAF WITH HAH INITIAL FORM,KAF WITH KHAH INITIAL FORM",
        "KAF WITH LAM INITIAL FORM,KAF WITH MEEM INITIAL FORM,LAM WITH JEEM INITIAL FORM",
        "LAM WITH HAH INITIAL FORM,LAM WITH KHAH INITIAL FORM,LAM WITH MEEM INITIAL FORM",
        "LAM WITH HEH INITIAL FORM,MEEM WITH JEEM INITIAL FORM,MEEM WITH HAH INITIAL FORM",
        "MEEM WITH KHAH INITIAL FORM,MEEM WITH MEEM INITIAL FORM,NOON WITH JEEM INITIAL FORM",
        "NOON WITH HAH INITIAL FORM,NOON WITH KHAH INITIAL FORM,NOON WITH MEEM INITIAL FORM",
        "NOON WITH HEH INITIAL FORM,HEH WITH JEEM INITIAL FORM,HEH WITH MEEM INITIAL FORM",
        "HEH WITH SUPERSCRIPT ALEF INITIAL FORM,YEH WITH JEEM INITIAL FORM",
        "YEH WITH HAH INITIAL FORM,YEH WITH KHAH INITIAL FORM,YEH WITH MEEM INITIAL FORM",
        "YEH WITH HEH INITIAL FORM,YEH WITH HAMZA ABOVE WITH MEEM MEDIAL FORM",
        "YEH WITH HAMZA ABOVE WITH HEH MEDIAL FORM,BEH WITH MEEM MEDIAL FORM",
        "BEH WITH HEH MEDIAL FORM,TEH WITH MEEM MEDIAL FORM,TEH WITH HEH MEDIAL FORM",
        "THEH WITH MEEM MEDIAL FORM,THEH WITH HEH MEDIAL FORM,SEEN WITH MEEM MEDIAL FORM",
        "SEEN WITH HEH MEDIAL FORM,SHEEN WITH MEEM MEDIAL FORM,SHEEN WITH HEH MEDIAL FORM",
        "KAF WITH LAM MEDIAL FORM,KAF WITH MEEM MEDIAL FORM,LAM WITH MEEM MEDIAL FORM",
        "NOON WITH MEEM MEDIAL FORM,NOON WITH HEH MEDIAL FORM,YEH WITH MEEM MEDIAL FORM",
        "YEH WITH HEH MEDIAL FORM,SHADDA WITH FATHA MEDIAL FORM,SHADDA WITH DAMMA MEDIAL FORM",
        "SHADDA WITH KASRA MEDIAL FORM,TAH WITH ALEF MAKSURA ISOLATED FORM",
        "TAH WITH YEH ISOLATED FORM,AIN WITH ALEF MAKSURA ISOLATED FORM",
        "AIN WITH YEH ISOLATED FORM,GHAIN WITH ALEF MAKSURA ISOLATED FORM",
        "GHAIN WITH YEH ISOLATED FORM,SEEN WITH ALEF MAKSURA ISOLATED FORM",
        "SEEN WITH YEH ISOLATED FORM,SHEEN WITH ALEF MAKSURA ISOLATED FORM",
        "SHEEN WITH YEH ISOLATED FORM,HAH WITH ALEF MAKSURA ISOLATED FORM",
        "HAH WITH YEH ISOLATED FORM,JEEM WITH ALEF MAKSURA ISOLATED FORM",
        "JEEM WITH YEH ISOLATED FORM,KHAH WITH ALEF MAKSURA ISOLATED FORM",
        "KHAH WITH YEH ISOLATED FORM,SAD WITH ALEF MAKSURA ISOLATED FORM",
        "SAD WITH YEH ISOLATED FORM,DAD WITH ALEF MAKSURA ISOLATED FORM",
        "DAD WITH YEH ISOLATED FORM,SHEEN WITH JEEM ISOLATED FORM,SHEEN WITH HAH ISOLATED FORM",
        "SHEEN WITH KHAH ISOLATED FORM,SHEEN WITH MEEM ISOLATED FORM",
        "SHEEN WITH REH ISOLATED FORM,SEEN WITH REH ISOLATED FORM,SAD WITH REH ISOLATED FORM",
        "DAD WITH REH ISOLATED FORM,TAH WITH ALEF MAKSURA FINAL FORM,TAH WITH YEH FINAL FORM",
        "AIN WITH ALEF MAKSURA FINAL FORM,AIN WITH YEH FINAL FORM",
        "GHAIN WITH ALEF MAKSURA FINAL FORM,GHAIN WITH YEH FINAL FORM",
        "SEEN WITH ALEF MAKSURA FINAL FORM,SEEN WITH YEH FINAL FORM",
        "SHEEN WITH ALEF MAKSURA FINAL FORM,SHEEN WITH YEH FINAL FORM",
        "HAH WITH ALEF MAKSURA FINAL FORM,HAH WITH YEH FINAL FORM",
        "JEEM WITH ALEF MAKSURA FINAL FORM,JEEM WITH YEH FINAL FORM",
        "KHAH WITH ALEF MAKSURA FINAL FORM,KHAH WITH YEH FINAL FORM",
        "SAD WITH ALEF MAKSURA FINAL FORM,SAD WITH YEH FINAL FORM",
        "DAD WITH ALEF MAKSURA FINAL FORM,DAD WITH YEH FINAL FORM,SHEEN WITH JEEM FINAL FORM",
        "SHEEN WITH HAH FINAL FORM,SHEEN WITH KHAH FINAL FORM,SHEEN WITH MEEM FINAL FORM",
        "SHEEN WITH REH FINAL FORM,SEEN WITH REH FINAL FORM,SAD WITH REH FINAL FORM",
        "DAD WITH REH FINAL FORM,SHEEN WITH JEEM INITIAL FORM,SHEEN WITH HAH INITIAL FORM",
        "SHEEN WITH KHAH INITIAL FORM,SHEEN WITH MEEM INITIAL FORM,SEEN WITH HEH INITIAL FORM",
        "SHEEN WITH HEH INITIAL FORM,TAH WITH MEEM INITIAL FORM,SEEN WITH JEEM MEDIAL FORM",
        "SEEN WITH HAH MEDIAL FORM,SEEN WITH KHAH MEDIAL FORM,SHEEN WITH JEEM MEDIAL FORM",
        "SHEEN WITH HAH MEDIAL FORM,SHEEN WITH KHAH MEDIAL FORM,TAH WITH MEEM MEDIAL FORM",
        "ZAH WITH MEEM MEDIAL FORM,ALEF WITH FATHATAN FINAL FORM",
        "ALEF WITH FATHATAN ISOLATED FORM"]⟩,
    ⟨64830, "ORNATE", ["LEFT PARENTHESIS,RIGHT PARENTHESIS"]⟩,
    ⟨64832, "ARABIC LIGATURE",
      ["RAHIMAHU ALLAAH,RADI ALLAAHU ANH,RADI ALLAAHU ANHAA,RADI ALLAAHU ANHUM",
        "RADI ALLAAHU ANHUMAA,RADI ALLAAHU ANHUNNA,SALLALLAAHU ALAYHI WA-AALIH,ALAYHI AS-SALAAM",
        "ALAYHIM AS-SALAAM,ALAYHIMAA AS-SALAAM,ALAYHI AS-SALAATU WAS-SALAAM,QUDDISA SIRRAH",
        "SALLALLAHU ALAYHI WAAALIHEE WA-SALLAM,ALAYHAA AS-SALAAM,TABAARAKA WA-TAAALAA",
        "RAHIMAHUM ALLAAH"]⟩,
    ⟨64848, "ARABIC LIGATURE TEH WITH",
      ["JEEM WITH MEEM INITIAL FORM,HAH WITH JEEM FINAL FORM,HAH WITH JEEM INITIAL FORM",
        "HAH WITH MEEM INITIAL FORM,KHAH WITH MEEM INITIAL FORM,MEEM WITH JEEM INITIAL FORM",
        "MEEM WITH HAH INITIAL FORM,MEEM WITH KHAH INITIAL FORM"]⟩,
    ⟨64856, "ARABIC LIGATURE JEEM WITH MEEM WITH HAH", ["FINAL FORM,INITIAL FORM"]⟩,
    ⟨64858, "ARABIC LIGATURE HAH WITH MEEM WITH", ["YEH FINAL FORM,ALEF MAKSURA FINAL FORM"]⟩,
    ⟨64860, "ARABIC LIGATURE SEEN WITH",
      ["HAH WITH JEEM INITIAL FORM,JEEM WITH HAH INITIAL FORM,JEEM WITH ALEF MAKSURA FINAL FORM",
        "MEEM WITH HAH FINAL FORM,MEEM WITH HAH INITIAL FORM,MEEM WITH JEEM INITIAL FORM",
        "MEEM WITH MEEM FINAL FORM,MEEM WITH MEEM INITIAL FORM"]⟩,
    ⟨64868, "ARABIC LIGATURE SAD WITH",
      ["HAH WITH HAH FINAL FORM,HAH WITH HAH INITIAL FORM,MEEM WITH MEEM FINAL FORM"]⟩,
    ⟨64871, "ARABIC LIGATURE SHEEN WITH",
      ["HAH WITH MEEM FINAL FORM,HAH WITH MEEM INITIAL FORM,JEEM WITH YEH FINAL FORM",
        "MEEM WITH KHAH FINAL FORM,MEEM WITH KHAH INITIAL FORM,MEEM WITH MEEM FINAL FORM",
        "MEEM WITH MEEM INITIAL FORM"]⟩,
    ⟨64878, "ARABIC LIGATURE DAD WITH",
      ["HAH WITH ALEF MAKSURA FINAL FORM,KHAH WITH MEEM FINAL FORM,KHAH WITH MEEM INITIAL FORM"]⟩,
    ⟨64881, "ARABIC LIGATURE TAH WITH MEEM WITH",
      ["HAH FINAL FORM,HAH INITIAL FORM,MEEM INITIAL FORM,YEH FINAL FORM"]⟩,
    ⟨64885, "ARABIC LIGATURE AIN WITH",
      ["JEEM WITH MEEM FINAL FORM,MEEM WITH MEEM FINAL FORM,MEEM WITH MEEM INITIAL FORM",
        "MEEM WITH ALEF MAKSURA FINAL FORM"]⟩,
    ⟨64889, "ARABIC LIGATURE GHAIN WITH MEEM WITH",
      ["MEEM FINAL FORM,YEH FINAL FORM,ALEF MAKSURA FINAL FORM"]⟩,
    ⟨64892, "ARABIC LIGATURE FEH WITH KHAH WITH MEEM", ["FINAL FORM,INITIAL FORM"]⟩,
    ⟨64894, "ARABIC LIGATURE QAF WITH MEEM WITH", ["HAH FINAL FORM,MEEM FINAL FORM"]⟩,
    ⟨64896, "ARABIC LIGATURE LAM WITH",
      ["HAH WITH MEEM FINAL FORM,HAH WITH YEH FINAL FORM,HAH WITH ALEF MAKSURA FINAL FORM",
        "JEEM WITH JEEM INITIAL FORM,JEEM WITH JEEM FINAL FORM,KHAH WITH MEEM FINAL FORM",
        "KHAH WITH MEEM INITIAL FORM,MEEM WITH HAH FINAL FORM,MEEM WITH HAH INITIAL FORM"]⟩,
    ⟨64905, "ARABIC LIGATURE MEEM WITH",
      ["HAH WITH JEEM INITIAL FORM,HAH WITH MEEM INITIAL FORM,HAH WITH YEH FINAL FORM",
        "JEEM WITH HAH INITIAL FORM,JEEM WITH MEEM INITIAL FORM,KHAH WITH JEEM INITIAL FORM",
        "KHAH WITH MEEM INITIAL FORM"]⟩,
    ⟨64914, "ARABIC LIGATURE",
      ["MEEM WITH JEEM WITH KHAH INITIAL FORM,HEH WITH MEEM WITH JEEM INITIAL FORM",
        "HEH WITH MEEM WITH MEEM INITIAL FORM,NOON WITH HAH WITH MEEM INITIAL FORM",
        "NOON WITH HAH WITH ALEF MAKSURA FINAL FORM,NOON WITH JEEM WITH MEEM FINAL FORM",
        "NOON WITH JEEM WITH MEEM INITIAL FORM,NOON WITH JEEM WITH ALEF MAKSURA FINAL FORM",
        "NOON WITH MEEM WITH YEH FINAL FORM,NOON WITH MEEM WITH ALEF MAKSURA FINAL FORM",
        "YEH WITH MEEM WITH MEEM FINAL FORM,YEH WITH MEEM WITH MEEM INITIAL FORM",
        "BEH WITH KHAH WITH YEH FINAL FORM,TEH WITH JEEM WITH YEH FINAL FORM",
        "TEH WITH JEEM WITH ALEF MAKSURA FINAL FORM,TEH WITH KHAH WITH YEH FINAL FORM",
        "TEH WITH KHAH WITH ALEF MAKSURA FINAL FORM,TEH WITH MEEM WITH YEH FINAL FORM",
        "TEH WITH MEEM WITH ALEF MAKSURA FINAL FORM,JEEM WITH MEEM WITH YEH FINAL FORM",
        "JEEM WITH HAH WITH ALEF MAKSURA FINAL FORM,JEEM WITH MEEM WITH ALEF MAKSURA FINAL FORM",
        "SEEN WITH KHAH WITH ALEF MAKSURA FINAL FORM,SAD WITH HAH WITH YEH FINAL FORM",
        "SHEEN WITH HAH WITH YEH FINAL FORM,DAD WITH HAH WITH YEH FINAL FORM",
        "LAM WITH JEEM WITH YEH FINAL FORM,LAM WITH MEEM WITH YEH FINAL FORM",
        "YEH WITH HAH WITH YEH FINAL FORM,YEH WITH JEEM WITH YEH FINAL FORM",
        "YEH WITH MEEM WITH YEH FINAL FORM,MEEM WITH MEEM WITH YEH FINAL FORM",
        "QAF WITH MEEM WITH YEH FINAL FORM,NOON WITH HAH WITH YEH FINAL FORM",
        "QAF WITH MEEM WITH HAH INITIAL FORM,LAM WITH HAH WITH MEEM INITIAL FORM",
        "AIN WITH MEEM WITH YEH FINAL FORM,KAF WITH MEEM WITH YEH FINAL FORM",
        "NOON WITH JEEM WITH HAH INITIAL FORM,MEEM WITH KHAH WITH YEH FINAL FORM",
        "LAM WITH JEEM WITH MEEM INITIAL FORM,KAF WITH MEEM WITH MEEM FINAL FORM",
        "LAM WITH JEEM WITH MEEM FINAL FORM,NOON WITH JEEM WITH HAH FINAL FORM",
        "JEEM WITH HAH WITH YEH FINAL FORM,HAH WITH JEEM WITH YEH FINAL FORM",
        "MEEM WITH JEEM WITH YEH FINAL FORM,FEH WITH MEEM WITH YEH FINAL FORM",
        "BEH WITH HAH WITH YEH FINAL FORM,KAF WITH MEEM WITH MEEM INITIAL FORM",
        "AIN WITH JEEM WITH MEEM INITIAL FORM,SAD WITH MEEM WITH MEEM INITIAL FORM",
        "SEEN WITH KHAH WITH YEH FINAL FORM,NOON WITH JEEM WITH YEH FINAL FORM"]⟩,
    ⟨64975, "ARABIC LIGATURE SALAAMUHU", ["ALAYNAA"]⟩,
    ⟨65008, "ARABIC LIGATURE",
      ["SALLA USED AS KORANIC STOP SIGN ISOLATED FORM",
        "QALA USED AS KORANIC STOP SIGN ISOLATED FORM,ALLAH ISOLATED FORM,AKBAR ISOLATED FORM",
        "MOHAMMAD ISOLATED FORM,SALAM ISOLATED FORM,RASOUL ISOLATED FORM,ALAYHE ISOLATED FORM",
        "WASALLAM ISOLATED FORM,SALLA ISOLATED FORM,SALLALLAHOU ALAYHE WASALLAM,JALLAJALALOUHOU"]⟩,
    ⟨65020, "RIAL", ["SIGN"]⟩,
    ⟨65021, "ARABIC LIGATURE",
      ["BISMILLAH AR-RAHMAN AR-RAHEEM,SUBHAANAHU WA TAAALAA,AZZA WA JALL"]⟩,
    ⟨65024, "VARIATION",
      ["SELECTOR-1,SELECTOR-2,SELECTOR-3,SELECTOR-4,SELECTOR-5,SELECTOR-6,SELECTOR-7,SELECTOR-8",
        "SELECTOR-9,SELECTOR-10,SELECTOR-11,SELECTOR-12,SELECTOR-13,SELECTOR-14,SELECTOR-15",
        "SELECTOR-16"]⟩,
    ⟨65040, "PRESENTATION FORM FOR VERTICAL",
      ["COMMA,IDEOGRAPHIC COMMA,IDEOGRAPHIC FULL STOP,COLON,SEMICOLON,EXCLAMATION MARK",
        "QUESTION MARK,LEFT WHITE LENTICULAR BRACKET,RIGHT WHITE LENTICULAR BRAKCET",
        "HORIZONTAL ELLIPSIS"]⟩,
    ⟨65056, "COMBINING",
      ["LIGATURE LEFT HALF,LIGATURE RIGHT HALF,DOUBLE TILDE LEFT HALF,DOUBLE TILDE RIGHT HALF",
        "MACRON LEFT HALF,MACRON RIGHT HALF,CONJOINING MACRON,LIGATURE LEFT HALF BELOW",
        "LIGATURE RIGHT HALF BELOW,TILDE LEFT HALF BELOW,TILDE RIGHT HALF BELOW",
        "MACRON LEFT HALF BELOW,MACRON RIGHT HALF BELOW,CONJOINING MACRON BELOW",
        "CYRILLIC TITLO LEFT HALF,CYRILLIC TITLO RIGHT HALF"]⟩,
    ⟨65072, "PRESENTATION FORM FOR VERTICAL",
      ["TWO DOT LEADER,EM DASH,EN DASH,LOW LINE,WAVY LOW LINE,LEFT PARENTHESIS",
        "RIGHT PARENTHESIS,LEFT CURLY BRACKET,RIGHT CURLY BRACKET,LEFT TORTOISE SHELL BRACKET",
        "RIGHT TORTOISE SHELL BRACKET,LEFT BLACK LENTICULAR BRACKET",
        "RIGHT BLACK LENTICULAR BRACKET,LEFT DOUBLE ANGLE BRACKET,RIGHT DOUBLE ANGLE BRACKET",
        "LEFT ANGLE BRACKET,RIGHT ANGLE BRACKET,LEFT CORNER BRACKET,RIGHT CORNER BRACKET",
        "LEFT WHITE CORNER BRACKET,RIGHT WHITE CORNER BRACKET"]⟩,
    ⟨65093, "",
      ["SESAME DOT,WHITE SESAME DOT,PRESENTATION FORM FOR VERTICAL LEFT SQUARE BRACKET",
        "PRESENTATION FORM FOR VERTICAL RIGHT SQUARE BRACKET,DASHED OVERLINE,CENTRELINE OVERLINE",
        "WAVY OVERLINE,DOUBLE WAVY OVERLINE,DASHED LOW LINE,CENTRELINE LOW LINE,WAVY LOW LINE",
        "SMALL COMMA,SMALL IDEOGRAPHIC COMMA,SMALL FULL STOP"]⟩,
    ⟨65108, "SMALL",
      ["SEMICOLON,COLON,QUESTION MARK,EXCLAMATION MARK,EM DASH,LEFT PARENTHESIS",
        "RIGHT PARENTHESIS,LEFT CURLY BRACKET,RIGHT CURLY BRACKET,LEFT TORTOISE SHELL BRACKET",
        "RIGHT TORTOISE SHELL BRACKET,NUMBER SIGN,AMPERSAND,ASTERISK,PLUS SIGN,HYPHEN-MINUS",
        "LESS-THAN SIGN,GREATER-THAN SIGN,EQUALS SIGN"]⟩,
    ⟨65128, "SMALL", ["REVERSE SOLIDUS,DOLLAR SIGN,PERCENT SIGN,COMMERCIAL AT"]⟩,
    ⟨65136, "ARABIC",
      ["FATHATAN ISOLATED FORM,TATWEEL WITH FATHATAN ABOVE,DAMMATAN ISOLATED FORM,TAIL FRAGMENT",
        "KASRATAN ISOLATED FORM"]⟩,
    ⟨65142, "ARABIC",
      ["FATHA ISOLATED FORM,FATHA MEDIAL FORM,DAMMA ISOLATED FORM,DAMMA MEDIAL FORM",
        "KASRA ISOLATED FORM,KASRA MEDIAL FORM,SHADDA ISOLATED FORM,SHADDA MEDIAL FORM",
        "SUKUN ISOLATED FORM,SUKUN MEDIAL FORM,LETTER HAMZA ISOLATED FORM"]⟩,
    ⟨65153, "ARABIC LETTER ALEF WITH",
      ["MADDA ABOVE ISOLATED FORM,MADDA ABOVE FINAL FORM,HAMZA ABOVE ISOLATED FORM",
        "HAMZA ABOVE FINAL FORM"]⟩,
    ⟨65157, "ARABIC LETTER WAW WITH HAMZA ABOVE", ["ISOLATED FORM,FINAL FORM"]⟩,
    ⟨65159, "ARABIC LETTER ALEF WITH HAMZA BELOW", ["ISOLATED FORM,FINAL FORM"]⟩,
    ⟨65161, "ARABIC LETTER YEH WITH HAMZA ABOVE",
      ["ISOLATED FORM,FINAL FORM,INITIAL FORM,MEDIAL FORM"]⟩,
    ⟨65165, "ARABIC LETTER",
      ["ALEF ISOLATED FORM,ALEF FINAL FORM,BEH ISOLATED FORM,BEH FINAL FORM,BEH INITIAL FORM",
        "BEH MEDIAL FORM,TEH MARBUTA ISOLATED FORM,TEH MARBUTA FINAL FORM,TEH ISOLATED FORM",
        "TEH FINAL FORM,TEH INITIAL FORM,TEH MEDIAL FORM,THEH ISOLATED FORM,THEH FINAL FORM",
        "THEH INITIAL FORM,THEH MEDIAL FORM,JEEM ISOLATED FORM,JEEM FINAL FORM,JEEM INITIAL FORM",
        "JEEM MEDIAL FORM,HAH ISOLATED FORM,HAH FINAL FORM,HAH INITIAL FORM,HAH MEDIAL FORM",
        "KHAH ISOLATED FORM,KHAH FINAL FORM,KHAH INITIAL FORM,KHAH MEDIAL FORM,DAL ISOLATED FORM",
        "DAL FINAL FORM,THAL ISOLATED FORM,THAL FINAL FORM,REH ISOLATED FORM,REH FINAL FORM",
        "ZAIN ISOLATED FORM,ZAIN FINAL FORM,SEEN ISOLATED FORM,SEEN FINAL FORM,SEEN INITIAL FORM",
        "SEEN MEDIAL FORM,SHEEN ISOLATED FORM,SHEEN FINAL FORM,SHEEN INITIAL FORM",
        "SHEEN MEDIAL FORM,SAD ISOLATED FORM,SAD FINAL FORM,SAD INITIAL FORM,SAD MEDIAL FORM",
        "DAD ISOLATED FORM,DAD FINAL FORM,DAD INITIAL FORM,DAD MEDIAL FORM,TAH ISOLATED FORM",
        "TAH FINAL FORM,TAH INITIAL FORM,TAH MEDIAL FORM,ZAH ISOLATED FORM,ZAH FINAL FORM",
        "ZAH INITIAL FORM,ZAH MEDIAL FORM,AIN ISOLATED FORM,AIN FINAL FORM,AIN INITIAL FORM",
        "AIN MEDIAL FORM,GHAIN ISOLATED FORM,GHAIN FINAL FORM,GHAIN INITIAL FORM",
        "GHAIN MEDIAL FORM,FEH ISOLATED FORM,FEH FINAL FORM,FEH INITIAL FORM,FEH MEDIAL FORM",
        "QAF ISOLATED FORM,QAF FINAL FORM,QAF INITIAL FORM,QAF MEDIAL FORM,KAF ISOLATED FORM",
        "KAF FINAL FORM,KAF INITIAL FORM,KAF MEDIAL FORM,LAM ISOLATED FORM,LAM FINAL FORM",
        "LAM INITIAL FORM,LAM MEDIAL FORM,MEEM ISOLATED FORM,MEEM FINAL FORM,MEEM INITIAL FORM",
        "MEEM MEDIAL FORM,NOON ISOLATED FORM,NOON FINAL FORM,NOON INITIAL FORM,NOON MEDIAL FORM",
        "HEH ISOLATED FORM,HEH FINAL FORM,HEH INITIAL FORM,HEH MEDIAL FORM,WAW ISOLATED FORM",
        "WAW FINAL FORM,ALEF MAKSURA ISOLATED FORM,ALEF MAKSURA FINAL FORM,YEH ISOLATED FORM",
        "YEH FINAL FORM,YEH INITIAL FORM,YEH MEDIAL FORM"]⟩,
    ⟨65269, "ARABIC LIGATURE LAM WITH ALEF",
      ["WITH MADDA ABOVE ISOLATED FORM,WITH MADDA ABOVE FINAL FORM",
        "WITH HAMZA ABOVE ISOLATED FORM,WITH HAMZA ABOVE FINAL FORM",
        "WITH HAMZA BELOW ISOLATED FORM,WITH HAMZA BELOW FINAL FORM,ISOLATED FORM,FINAL FORM"]⟩,
    ⟨65279, "ZERO WIDTH NO-BREAK", ["SPACE"]⟩,
    ⟨65281, "FULLWIDTH",
      ["EXCLAMATION MARK,QUOTATION MARK,NUMBER SIGN,DOLLAR SIGN,PERCENT SIGN,AMPERSAND",
        "APOSTROPHE,LEFT PARENTHESIS,RIGHT PARENTHESIS,ASTERISK,PLUS SIGN,COMMA,HYPHEN-MINUS",
        "FULL STOP,SOLIDUS"]⟩,
    ⟨65296, "FULLWIDTH DIGIT", ["ZERO,ONE,TWO,THREE,FOUR,FIVE,SIX,SEVEN,EIGHT,NINE"]⟩,
    ⟨65306, "FULLWIDTH",
      ["COLON,SEMICOLON,LESS-THAN SIGN,EQUALS SIGN,GREATER-THAN SIGN,QUESTION MARK",
        "COMMERCIAL AT"]⟩,
    ⟨65313, "FULLWIDTH LATIN CAPITAL LETTER",
      ["A,B,C,D,E,F,G,H,I,J,K,L,M,N,O,P,Q,R,S,T,U,V,W,X,Y,Z"]⟩,
    ⟨65339, "FULLWIDTH",
      ["LEFT SQUARE BRACKET,REVERSE SOLIDUS,RIGHT SQUARE BRACKET,CIRCUMFLEX ACCENT,LOW LINE",
        "GRAVE ACCENT"]⟩,
    ⟨65345, "FULLWIDTH LATIN SMALL LETTER",
      ["A,B,C,D,E,F,G,H,I,J,K,L,M,N,O,P,Q,R,S,T,U,V,W,X,Y,Z"]⟩,
    ⟨65371, "FULLWIDTH",
      ["LEFT CURLY BRACKET,VERTICAL LINE,RIGHT CURLY BRACKET,TILDE,LEFT WHITE PARENTHESIS",
        "RIGHT WHITE PARENTHESIS"]⟩,
    ⟨65377, "HALFWIDTH",
      ["IDEOGRAPHIC FULL STOP,LEFT CORNER BRACKET,RIGHT CORNER BRACKET,IDEOGRAPHIC COMMA",
        "KATAKANA MIDDLE DOT,KATAKANA LETTER WO"]⟩,
    ⟨65383, "HALFWIDTH KATAKANA LETTER SMALL", ["A,I,U,E,O,YA,YU,YO,TU"]⟩,
    ⟨65392, "HALFWIDTH KATAKANA-HIRAGANA PROLONGED SOUND", ["MARK"]⟩,
    ⟨65393, "HALFWIDTH KATAKANA LETTER",
      ["A,I,U,E,O,KA,KI,KU,KE,KO,SA,SI,SU,SE,SO,TA,TI,TU,TE,TO,NA,NI,NU,NE,NO,HA,HI,HU,HE,HO,MA",
        "MI,MU,ME,MO,YA,YU,YO,RA,RI,RU,RE,RO,WA,N"]⟩,
    ⟨65438, "HALFWIDTH",
      ["KATAKANA VOICED SOUND MARK,KATAKANA SEMI-VOICED SOUND MARK,HANGUL FILLER"]⟩,
    ⟨65441, "HALFWIDTH HANGUL LETTER",
      ["KIYEOK,SSANGKIYEOK,KIYEOK-SIOS,NIEUN,NIEUN-CIEUC,NIEUN-HIEUH,TIKEUT,SSANGTIKEUT,RIEUL",
        "RIEUL-KIYEOK,RIEUL-MIEUM,RIEUL-PIEUP,RIEUL-SIOS,RIEUL-THIEUTH,RIEUL-PHIEUPH,RIEUL-HIEUH",
        "MIEUM,PIEUP,SSANGPIEUP,PIEUP-SIOS,SIOS,SSANGSIOS,IEUNG,CIEUC,SSANGCIEUC,CHIEUCH,KHIEUKH",
        "THIEUTH,PHIEUPH,HIEUH"]⟩,
    ⟨65474, "HALFWIDTH HANGUL LETTER", ["A,AE,YA,YAE,EO,E"]⟩,
    ⟨65482, "HALFWIDTH HANGUL LETTER", ["YEO,YE,O,WA,WAE,OE"]⟩,
    ⟨65490, "HALFWIDTH HANGUL LETTER", ["YO,U,WEO,WE,WI,YU"]⟩,
    ⟨65498, "HALFWIDTH HANGUL LETTER", ["EU,YI,I"]⟩,
    ⟨65504, "FULLWIDTH", ["CENT SIGN,POUND SIGN,NOT SIGN,MACRON,BROKEN BAR,YEN SIGN,WON SIGN"]⟩,
    ⟨65512, "HALFWIDTH",
      ["FORMS LIGHT VERTICAL,LEFTWARDS ARROW,UPWARDS ARROW,RIGHTWARDS ARROW,DOWNWARDS ARROW",
        "BLACK SQUARE,WHITE CIRCLE"]⟩,
    ⟨65529, "INTERLINEAR ANNOTATION", ["ANCHOR,SEPARATOR,TERMINATOR"]⟩,
    ⟨65532, "", ["OBJECT REPLACEMENT CHARACTER,REPLACEMENT CHARACTER"]⟩]

end FileTags.Text
