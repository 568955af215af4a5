import FileTags.Text.Name.Basic

/-!
# Names of characters: tiles, cards and pictures

Late scripts, tiles, cards, pictures, additional ideographs and tags.
-/

set_option autoImplicit false

namespace FileTags.Text

def picturesNames : List NameRun :=
  [⟨122880, "COMBINING GLAGOLITIC LETTER", ["AZU,BUKY,VEDE,GLAGOLI,DOBRO,YESTU,ZHIVETE"]⟩,
    ⟨122888, "COMBINING GLAGOLITIC LETTER",
      ["ZEMLJA,IZHE,INITIAL IZHE,I,DJERVI,KAKO,LJUDIJE,MYSLITE,NASHI,ONU,POKOJI,RITSI,SLOVO",
        "TVRIDO,UKU,FRITU,HERU"]⟩,
    ⟨122907, "COMBINING GLAGOLITIC LETTER", ["SHTA,TSI,CHRIVI,SHA,YERU,YERI,YATI"]⟩,
    ⟨122915, "COMBINING GLAGOLITIC LETTER", ["YU,SMALL YUS"]⟩,
    ⟨122918, "COMBINING GLAGOLITIC LETTER", ["YO,IOTATED SMALL YUS,BIG YUS,IOTATED BIG YUS,FITA"]⟩,
    ⟨123136, "NYIAKENG PUACHUE HMONG LETTER",
      ["MA,TSA,NTA,TA,HA,NA,XA,NKA,CA,LA,SA,ZA,NCA,NTSA,KA,DA,NYA,NRA,VA,NTXA,TXA,FA,RA,QA,YA",
        "NQA,PA,XYA,NPA,DLA,NPLA,HAH,MLA,PLA,GA,RRA,A,AA,I,U,O,OO,E,EE,W"]⟩,
    ⟨123184, "NYIAKENG PUACHUE HMONG",
      ["TONE-B,TONE-M,TONE-J,TONE-V,TONE-S,TONE-G,TONE-D,SIGN FOR PERSON,SIGN FOR THING",
        "SIGN FOR LOCATION,SIGN FOR ANIMAL,SIGN FOR INVERTEBRATE,SIGN XW XW,SYLLABLE LENGTHENER"]⟩,
    ⟨123200, "NYIAKENG PUACHUE HMONG DIGIT", ["ZERO,ONE,TWO,THREE,FOUR,FIVE,SIX,SEVEN,EIGHT,NINE"]⟩,
    ⟨123214, "NYIAKENG PUACHUE HMONG", ["LOGOGRAM NYAJ,CIRCLED CA"]⟩,
    ⟨123536, "TOTO LETTER",
      ["PA,BA,TA,DA,KA,GA,MA,NA,NGA,SA,CHA,YA,WA,JA,HA,RA,LA,I,BREATHY I,IU,BREATHY IU,U,E",
        "BREATHY E,EO,BREATHY EO,O,AE,BREATHY AE,A"]⟩,
    ⟨123566, "TOTO SIGN RISING", ["TONE"]⟩,
    ⟨123584, "WANCHO LETTER",
      ["AA,A,BA,CA,DA,GA,YA,PHA,LA,NA,PA,TA,THA,FA,SA,SHA,JA,ZA,WA,VA,KA,O,AU,RA,MA,KHA,HA,E,I",
        "NGA,U,LLHA,TSA,TRA,ONG,AANG,ANG,ING,ON,EN,AAN,NYA,UEN,YIH"]⟩,
    ⟨123628, "WANCHO TONE", ["TUP,TUPNI,KOI,KOINI"]⟩,
    ⟨123632, "WANCHO DIGIT", ["ZERO,ONE,TWO,THREE,FOUR,FIVE,SIX,SEVEN,EIGHT,NINE"]⟩,
    ⟨123647, "WANCHO NGUN", ["SIGN"]⟩,
    ⟨124896, "ETHIOPIC SYLLABLE", ["HHYA,HHYU,HHYI,HHYAA,HHYEE,HHYE,HHYO"]⟩,
    ⟨124904, "ETHIOPIC SYLLABLE", ["GURAGE HHWA,HHWI,HHWEE,HHWE"]⟩,
    ⟨124909, "ETHIOPIC SYLLABLE GURAGE", ["MWI,MWEE"]⟩,
    ⟨124912, "ETHIOPIC SYLLABLE GURAGE",
      ["QWI,QWEE,QWE,BWI,BWEE,KWI,KWEE,KWE,GWI,GWEE,GWE,FWI,FWEE,PWI,PWEE"]⟩,
    ⟨124928, "MENDE KIKAKUI SYLLABLE",
      ["M001 KI,M002 KA,M003 KU,M065 KEE,M095 KE,M076 KOO,M048 KO,M179 KUA,M004 WI,M005 WA",
        "M006 WU,M126 WEE,M118 WE,M114 WOO,M045 WO,M194 WUI,M143 WEI,M061 WVI,M049 WVA,M139 WVE",
        "M007 MIN,M008 MAN,M009 MUN,M059 MEN,M094 MON,M154 MUAN,M189 MUEN,M010 BI,M011 BA",
        "M012 BU,M150 BEE,M097 BE,M103 BOO,M138 BO,M013 I,M014 A,M015 U,M163 EE,M100 E,M165 OO",
        "M147 O,M137 EI,M131 IN,M135 IN,M195 AN,M178 EN,M019 SI,M020 SA,M021 SU,M162 SEE,M116 SE",
        "M136 SOO,M079 SO,M196 SIA,M025 LI,M026 LA,M027 LU,M084 LEE,M073 LE,M054 LOO,M153 LO",
        "M110 LONG LE,M016 DI,M017 DA,M018 DU,M089 DEE,M180 DOO,M181 DO,M022 TI,M023 TA,M024 TU",
        "M091 TEE,M055 TE,M104 TOO,M069 TO,M028 JI,M029 JA,M030 JU,M157 JEE,M113 JE,M160 JOO",
        "M063 JO,M175 LONG JO,M031 YI,M032 YA,M033 YU,M109 YEE,M080 YE,M141 YOO,M121 YO,M034 FI",
        "M035 FA,M036 FU,M078 FEE,M075 FE,M133 FOO,M088 FO,M197 FUA,M101 FAN,M037 NIN,M038 NAN",
        "M039 NUN,M117 NEN,M169 NON,M176 HI,M041 HA,M186 HU,M040 HEE,M096 HE,M042 HOO,M140 HO",
        "M083 HEEI,M128 HOOU,M053 HIN,M130 HAN,M087 HUN,M052 HEN,M193 HON,M046 HUAN,M090 NGGI",
        "M043 NGGA,M082 NGGU,M115 NGGEE,M146 NGGE,M156 NGGOO,M120 NGGO,M159 NGGAA,M127 NGGUA",
        "M086 LONG NGGE,M106 LONG NGGOO,M183 LONG NGGO,M155 GI,M111 GA,M168 GU,M190 GEE",
        "M166 GUEI,M167 GUAN,M184 NGEN,M057 NGON,M177 NGUAN,M068 PI,M099 PA,M050 PU,M081 PEE",
        "M051 PE,M102 POO,M066 PO,M145 MBI,M062 MBA,M122 MBU,M047 MBEE,M188 MBEE,M072 MBE",
        "M172 MBOO,M174 MBO,M187 MBUU,M161 LONG MBE,M105 LONG MBOO,M142 LONG MBO,M132 KPI",
        "M092 KPA,M074 KPU,M044 KPEE,M108 KPE,M112 KPOO,M158 KPO,M124 GBI,M056 GBA,M148 GBU",
        "M093 GBEE,M107 GBE,M071 GBOO,M070 GBO,M171 RA,M123 NDI,M129 NDA,M125 NDU,M191 NDEE",
        "M119 NDE,M067 NDOO,M064 NDO,M152 NJA,M192 NJU,M149 NJEE,M134 NJOO,M182 VI,M185 VA",
        "M151 VU,M173 VEE,M085 VE,M144 VOO,M077 VO,M164 NYIN,M058 NYAN,M170 NYUN,M098 NYEN",
        "M060 NYON"]⟩,
    ⟨125127, "MENDE KIKAKUI DIGIT", ["ONE,TWO,THREE,FOUR,FIVE,SIX,SEVEN,EIGHT,NINE"]⟩,
    ⟨125136, "MENDE KIKAKUI COMBINING NUMBER",
      ["TEENS,TENS,HUNDREDS,THOUSANDS,TEN THOUSANDS,HUNDRED THOUSANDS,MILLIONS"]⟩,
    ⟨125184, "ADLAM CAPITAL LETTER",
      ["ALIF,DAALI,LAAM,MIIM,BA,SINNYIIYHE,PE,BHE,RA,E,FA,I,O,DHA,YHE,WAW,NUN,KAF,YA,U,JIIM,CHI",
        "HA,QAAF,GA,NYA,TU,NHA,VA,KHA,GBE,ZAL,KPO,SHA"]⟩,
    ⟨125218, "ADLAM SMALL LETTER",
      ["ALIF,DAALI,LAAM,MIIM,BA,SINNYIIYHE,PE,BHE,RA,E,FA,I,O,DHA,YHE,WAW,NUN,KAF,YA,U,JIIM,CHI",
        "HA,QAAF,GA,NYA,TU,NHA,VA,KHA,GBE,ZAL,KPO,SHA"]⟩,
    ⟨125252, "ADLAM",
      ["ALIF LENGTHENER,VOWEL LENGTHENER,GEMINATION MARK,HAMZA,CONSONANT MODIFIER",
        "GEMINATE CONSONANT MODIFIER,NUKTA,NASALIZATION MARK"]⟩,
    ⟨125264, "ADLAM DIGIT", ["ZERO,ONE,TWO,THREE,FOUR,FIVE,SIX,SEVEN,EIGHT,NINE"]⟩,
    ⟨125278, "ADLAM INITIAL", ["EXCLAMATION MARK,QUESTION MARK"]⟩,
    ⟨126065, "INDIC SIYAQ NUMBER",
      ["ONE,TWO,THREE,FOUR,FIVE,SIX,SEVEN,EIGHT,NINE,TEN,TWENTY,THIRTY,FORTY,FIFTY,SIXTY",
        "SEVENTY,EIGHTY,NINETY,ONE HUNDRED,TWO HUNDRED,THREE HUNDRED,FOUR HUNDRED,FIVE HUNDRED",
        "SIX HUNDRED,SEVEN HUNDRED,EIGHT HUNDRED,NINE HUNDRED,ONE THOUSAND,TWO THOUSAND",
        "THREE THOUSAND,FOUR THOUSAND,FIVE THOUSAND,SIX THOUSAND,SEVEN THOUSAND,EIGHT THOUSAND",
        "NINE THOUSAND,TEN THOUSAND,TWENTY THOUSAND,THIRTY THOUSAND,FORTY THOUSAND",
        "FIFTY THOUSAND,SIXTY THOUSAND,SEVENTY THOUSAND,EIGHTY THOUSAND,NINETY THOUSAND,LAKH",
        "LAKHAN"]⟩,
    ⟨126112, "INDIC SIYAQ", ["LAKH MARK,NUMBER KAROR,NUMBER KARORAN"]⟩,
    ⟨126115, "INDIC SIYAQ NUMBER PREFIXED", ["ONE,TWO,THREE,FOUR,FIVE,SIX,SEVEN,EIGHT,NINE"]⟩,
    ⟨126124, "INDIC SIYAQ",
      ["PLACEHOLDER,FRACTION ONE QUARTER,FRACTION ONE HALF,FRACTION THREE QUARTERS,RUPEE MARK",
        "NUMBER ALTERNATE ONE,NUMBER ALTERNATE TWO,NUMBER ALTERNATE TEN THOUSAND",
        "ALTERNATE LAKH MARK"]⟩,
    ⟨126209, "OTTOMAN SIYAQ NUMBER",
      ["ONE,TWO,THREE,FOUR,FIVE,SIX,SEVEN,EIGHT,NINE,TEN,TWENTY,THIRTY,FORTY,FIFTY,SIXTY",
        "SEVENTY,EIGHTY,NINETY,ONE HUNDRED,TWO HUNDRED,THREE HUNDRED,FOUR HUNDRED,FIVE HUNDRED",
        "SIX HUNDRED,SEVEN HUNDRED,EIGHT HUNDRED,NINE HUNDRED,ONE THOUSAND,TWO THOUSAND",
        "THREE THOUSAND,FOUR THOUSAND,FIVE THOUSAND,SIX THOUSAND,SEVEN THOUSAND,EIGHT THOUSAND",
        "NINE THOUSAND,TEN THOUSAND,TWENTY THOUSAND,THIRTY THOUSAND,FORTY THOUSAND",
        "FIFTY THOUSAND,SIXTY THOUSAND,SEVENTY THOUSAND,EIGHTY THOUSAND,NINETY THOUSAND"]⟩,
    ⟨126254, "OTTOMAN SIYAQ", ["MARRATAN"]⟩,
    ⟨126255, "OTTOMAN SIYAQ ALTERNATE NUMBER",
      ["TWO,THREE,FOUR,FIVE,SIX,SEVEN,EIGHT,NINE,TEN,FOUR HUNDRED,SIX HUNDRED,TWO THOUSAND",
        "TEN THOUSAND"]⟩,
    ⟨126268, "OTTOMAN SIYAQ FRACTION ONE", ["HALF,SIXTH"]⟩,
    ⟨126464, "ARABIC MATHEMATICAL", ["ALEF,BEH,JEEM,DAL"]⟩,
    ⟨126469, "ARABIC MATHEMATICAL",
      ["WAW,ZAIN,HAH,TAH,YEH,KAF,LAM,MEEM,NOON,SEEN,AIN,FEH,SAD,QAF,REH,SHEEN,TEH,THEH,KHAH",
        "THAL,DAD,ZAH,GHAIN,DOTLESS BEH,DOTLESS NOON,DOTLESS FEH,DOTLESS QAF"]⟩,
    ⟨126497, "ARABIC MATHEMATICAL INITIAL", ["BEH,JEEM"]⟩,
    ⟨126500, "ARABIC MATHEMATICAL INITIAL", ["HEH"]⟩,
    ⟨126503, "ARABIC MATHEMATICAL INITIAL", ["HAH"]⟩,
    ⟨126505, "ARABIC MATHEMATICAL INITIAL", ["YEH,KAF,LAM,MEEM,NOON,SEEN,AIN,FEH,SAD,QAF"]⟩,
    ⟨126516, "ARABIC MATHEMATICAL INITIAL", ["SHEEN,TEH,THEH,KHAH"]⟩,
    ⟨126521, "ARABIC MATHEMATICAL INITIAL", ["DAD"]⟩,
    ⟨126523, "ARABIC MATHEMATICAL INITIAL", ["GHAIN"]⟩,
    ⟨126530, "ARABIC MATHEMATICAL TAILED", ["JEEM"]⟩,
    ⟨126535, "ARABIC MATHEMATICAL TAILED", ["HAH"]⟩,
    ⟨126537, "ARABIC MATHEMATICAL TAILED", ["YEH"]⟩,
    ⟨126539, "ARABIC MATHEMATICAL TAILED", ["LAM"]⟩,
    ⟨126541, "ARABIC MATHEMATICAL TAILED", ["NOON,SEEN,AIN"]⟩,
    ⟨126545, "ARABIC MATHEMATICAL TAILED", ["SAD,QAF"]⟩,
    ⟨126548, "ARABIC MATHEMATICAL TAILED", ["SHEEN"]⟩,
    ⟨126551, "ARABIC MATHEMATICAL TAILED", ["KHAH"]⟩,
    ⟨126553, "ARABIC MATHEMATICAL TAILED", ["DAD"]⟩,
    ⟨126555, "ARABIC MATHEMATICAL TAILED", ["GHAIN"]⟩,
    ⟨126557, "ARABIC MATHEMATICAL TAILED DOTLESS", ["NOON"]⟩,
    ⟨126559, "ARABIC MATHEMATICAL TAILED DOTLESS", ["QAF"]⟩,
    ⟨126561, "ARABIC MATHEMATICAL STRETCHED", ["BEH,JEEM"]⟩,
    ⟨126564, "ARABIC MATHEMATICAL STRETCHED", ["HEH"]⟩,
    ⟨126567, "ARABIC MATHEMATICAL STRETCHED", ["HAH,TAH,YEH,KAF"]⟩,
    ⟨126572, "ARABIC MATHEMATICAL STRETCHED", ["MEEM,NOON,SEEN,AIN,FEH,SAD,QAF"]⟩,
    ⟨126580, "ARABIC MATHEMATICAL STRETCHED", ["SHEEN,TEH,THEH,KHAH"]⟩,
    ⟨126585, "ARABIC MATHEMATICAL STRETCHED", ["DAD,ZAH,GHAIN,DOTLESS BEH"]⟩,
    ⟨126590, "ARABIC MATHEMATICAL STRETCHED DOTLESS", ["FEH"]⟩,
    ⟨126592, "ARABIC MATHEMATICAL LOOPED", ["ALEF,BEH,JEEM,DAL,HEH,WAW,ZAIN,HAH,TAH,YEH"]⟩,
    ⟨126603, "ARABIC MATHEMATICAL LOOPED",
      ["LAM,MEEM,NOON,SEEN,AIN,FEH,SAD,QAF,REH,SHEEN,TEH,THEH,KHAH,THAL,DAD,ZAH,GHAIN"]⟩,
    ⟨126625, "ARABIC MATHEMATICAL DOUBLE-STRUCK", ["BEH,JEEM,DAL"]⟩,
    ⟨126629, "ARABIC MATHEMATICAL DOUBLE-STRUCK", ["WAW,ZAIN,HAH,TAH,YEH"]⟩,
    ⟨126635, "ARABIC MATHEMATICAL DOUBLE-STRUCK",
      ["LAM,MEEM,NOON,SEEN,AIN,FEH,SAD,QAF,REH,SHEEN,TEH,THEH,KHAH,THAL,DAD,ZAH,GHAIN"]⟩,
    ⟨126704, "ARABIC MATHEMATICAL OPERATOR", ["MEEM WITH HAH WITH TATWEEL,HAH WITH DAL"]⟩,
    ⟨126976, "MAHJONG TILE",
      ["EAST WIND,SOUTH WIND,WEST WIND,NORTH WIND,RED DRAGON,GREEN DRAGON,WHITE DRAGON",
        "ONE OF CHARACTERS,TWO OF CHARACTERS,THREE OF CHARACTERS,FOUR OF CHARACTERS",
        "FIVE OF CHARACTERS,SIX OF CHARACTERS,SEVEN OF CHARACTERS,EIGHT OF CHARACTERS",
        "NINE OF CHARACTERS,ONE OF BAMBOOS,TWO OF BAMBOOS,THREE OF BAMBOOS,FOUR OF BAMBOOS",
        "FIVE OF BAMBOOS,SIX OF BAMBOOS,SEVEN OF BAMBOOS,EIGHT OF BAMBOOS,NINE OF BAMBOOS",
        "ONE OF CIRCLES,TWO OF CIRCLES,THREE OF CIRCLES,FOUR OF CIRCLES,FIVE OF CIRCLES",
        "SIX OF CIRCLES,SEVEN OF CIRCLES,EIGHT OF CIRCLES,NINE OF CIRCLES,PLUM,ORCHID,BAMBOO",
        "CHRYSANTHEMUM,SPRING,SUMMER,AUTUMN,WINTER,JOKER,BACK"]⟩,
    ⟨127024, "DOMINO TILE",
      ["HORIZONTAL BACK,HORIZONTAL-00-00,HORIZONTAL-00-01,HORIZONTAL-00-02,HORIZONTAL-00-03",
        "HORIZONTAL-00-04,HORIZONTAL-00-05,HORIZONTAL-00-06,HORIZONTAL-01-00,HORIZONTAL-01-01",
        "HORIZONTAL-01-02,HORIZONTAL-01-03,HORIZONTAL-01-04,HORIZONTAL-01-05,HORIZONTAL-01-06",
        "HORIZONTAL-02-00,HORIZONTAL-02-01,HORIZONTAL-02-02,HORIZONTAL-02-03,HORIZONTAL-02-04",
        "HORIZONTAL-02-05,HORIZONTAL-02-06,HORIZONTAL-03-00,HORIZONTAL-03-01,HORIZONTAL-03-02",
        "HORIZONTAL-03-03,HORIZONTAL-03-04,HORIZONTAL-03-05,HORIZONTAL-03-06,HORIZONTAL-04-00",
        "HORIZONTAL-04-01,HORIZONTAL-04-02,HORIZONTAL-04-03,HORIZONTAL-04-04,HORIZONTAL-04-05",
        "HORIZONTAL-04-06,HORIZONTAL-05-00,HORIZONTAL-05-01,HORIZONTAL-05-02,HORIZONTAL-05-03",
        "HORIZONTAL-05-04,HORIZONTAL-05-05,HORIZONTAL-05-06,HORIZONTAL-06-00,HORIZONTAL-06-01",
        "HORIZONTAL-06-02,HORIZONTAL-06-03,HORIZONTAL-06-04,HORIZONTAL-06-05,HORIZONTAL-06-06",
        "VERTICAL BACK,VERTICAL-00-00,VERTICAL-00-01,VERTICAL-00-02,VERTICAL-00-03",
        "VERTICAL-00-04,VERTICAL-00-05,VERTICAL-00-06,VERTICAL-01-00,VERTICAL-01-01",
        "VERTICAL-01-02,VERTICAL-01-03,VERTICAL-01-04,VERTICAL-01-05,VERTICAL-01-06",
        "VERTICAL-02-00,VERTICAL-02-01,VERTICAL-02-02,VERTICAL-02-03,VERTICAL-02-04",
        "VERTICAL-02-05,VERTICAL-02-06,VERTICAL-03-00,VERTICAL-03-01,VERTICAL-03-02",
        "VERTICAL-03-03,VERTICAL-03-04,VERTICAL-03-05,VERTICAL-03-06,VERTICAL-04-00",
        "VERTICAL-04-01,VERTICAL-04-02,VERTICAL-04-03,VERTICAL-04-04,VERTICAL-04-05",
        "VERTICAL-04-06,VERTICAL-05-00,VERTICAL-05-01,VERTICAL-05-02,VERTICAL-05-03",
        "VERTICAL-05-04,VERTICAL-05-05,VERTICAL-05-06,VERTICAL-06-00,VERTICAL-06-01",
        "VERTICAL-06-02,VERTICAL-06-03,VERTICAL-06-04,VERTICAL-06-05,VERTICAL-06-06"]⟩,
    ⟨127136, "PLAYING CARD",
      ["BACK,ACE OF SPADES,TWO OF SPADES,THREE OF SPADES,FOUR OF SPADES,FIVE OF SPADES",
        "SIX OF SPADES,SEVEN OF SPADES,EIGHT OF SPADES,NINE OF SPADES,TEN OF SPADES",
        "JACK OF SPADES,KNIGHT OF SPADES,QUEEN OF SPADES,KING OF SPADES"]⟩,
    ⟨127153, "PLAYING CARD",
      ["ACE OF HEARTS,TWO OF HEARTS,THREE OF HEARTS,FOUR OF HEARTS,FIVE OF HEARTS,SIX OF HEARTS",
        "SEVEN OF HEARTS,EIGHT OF HEARTS,NINE OF HEARTS,TEN OF HEARTS,JACK OF HEARTS",
        "KNIGHT OF HEARTS,QUEEN OF HEARTS,KING OF HEARTS,RED JOKER"]⟩,
    ⟨127169, "PLAYING CARD",
      ["ACE OF DIAMONDS,TWO OF DIAMONDS,THREE OF DIAMONDS,FOUR OF DIAMONDS,FIVE OF DIAMONDS",
        "SIX OF DIAMONDS,SEVEN OF DIAMONDS,EIGHT OF DIAMONDS,NINE OF DIAMONDS,TEN OF DIAMONDS",
        "JACK OF DIAMONDS,KNIGHT OF DIAMONDS,QUEEN OF DIAMONDS,KING OF DIAMONDS,BLACK JOKER"]⟩,
    ⟨127185, "PLAYING CARD",
      ["ACE OF CLUBS,TWO OF CLUBS,THREE OF CLUBS,FOUR OF CLUBS,FIVE OF CLUBS,SIX OF CLUBS",
        "SEVEN OF CLUBS,EIGHT OF CLUBS,NINE OF CLUBS,TEN OF CLUBS,JACK OF CLUBS,KNIGHT OF CLUBS",
        "QUEEN OF CLUBS,KING OF CLUBS,WHITE JOKER,FOOL,TRUMP-1,TRUMP-2,TRUMP-3,TRUMP-4,TRUMP-5",
        "TRUMP-6,TRUMP-7,TRUMP-8,TRUMP-9,TRUMP-10,TRUMP-11,TRUMP-12,TRUMP-13,TRUMP-14,TRUMP-15",
        "TRUMP-16,TRUMP-17,TRUMP-18,TRUMP-19,TRUMP-20,TRUMP-21"]⟩,
    ⟨127232, "DIGIT",
      ["ZERO FULL STOP,ZERO COMMA,ONE COMMA,TWO COMMA,THREE COMMA,FOUR COMMA,FIVE COMMA",
        "SIX COMMA,SEVEN COMMA,EIGHT COMMA,NINE COMMA"]⟩,
    ⟨127243, "DINGBAT", ["CIRCLED SANS-SERIF DIGIT ZERO,NEGATIVE CIRCLED SANS-SERIF DIGIT ZERO"]⟩,
    ⟨127245, "CIRCLED",
      ["ZERO WITH SLASH,ANTICLOCKWISE ARROW,DOLLAR SIGN WITH OVERLAID BACKSLASH"]⟩,
    ⟨127248, "PARENTHESIZED LATIN CAPITAL LETTER",
      ["A,B,C,D,E,F,G,H,I,J,K,L,M,N,O,P,Q,R,S,T,U,V,W,X,Y,Z"]⟩,
    ⟨127274, "TORTOISE SHELL BRACKETED LATIN CAPITAL LETTER", ["S"]⟩,
    ⟨127275, "CIRCLED ITALIC LATIN CAPITAL LETTER", ["C,R"]⟩,
    ⟨127277, "", ["CIRCLED CD,CIRCLED WZ,COPYLEFT SYMBOL"]⟩,
    ⟨127280, "SQUARED LATIN CAPITAL LETTER",
      ["A,B,C,D,E,F,G,H,I,J,K,L,M,N,O,P,Q,R,S,T,U,V,W,X,Y,Z"]⟩,
    ⟨127306, "SQUARED", ["HV,MV,SD,SS,PPV,WC"]⟩,
    ⟨127312, "NEGATIVE CIRCLED LATIN CAPITAL LETTER",
      ["A,B,C,D,E,F,G,H,I,J,K,L,M,N,O,P,Q,R,S,T,U,V,W,X,Y,Z"]⟩,
    ⟨127338, "RAISED", ["MC SIGN,MD SIGN,MR SIGN"]⟩,
    ⟨127341, "CIRCLED", ["CC,C WITH OVERLAID BACKSLASH,HUMAN FIGURE"]⟩,
    ⟨127344, "NEGATIVE SQUARED LATIN CAPITAL LETTER",
      ["A,B,C,D,E,F,G,H,I,J,K,L,M,N,O,P,Q,R,S,T,U,V,W,X,Y,Z"]⟩,
    ⟨127370, "CROSSED NEGATIVE SQUARED LATIN CAPITAL LETTER", ["P"]⟩,
    ⟨127371, "NEGATIVE SQUARED", ["IC,PA,SA,AB,WC"]⟩,
    ⟨127376, "SQUARE", ["DJ"]⟩,
    ⟨127377, "SQUARED",
      ["CL,COOL,FREE,ID,NEW,NG,OK,SOS,UP WITH EXCLAMATION MARK,VS,THREE D,SECOND SCREEN,TWO K",
        "FOUR K,EIGHT K,FIVE POINT ONE,SEVEN POINT ONE,TWENTY-TWO POINT TWO,SIXTY P",
        "ONE HUNDRED TWENTY P,LATIN SMALL LETTER D,HC,HDR,HI-RES,LOSSLESS,SHV,UHD,VOD"]⟩,
    ⟨127405, "MASK WORK", ["SYMBOL"]⟩,
    ⟨127462, "REGIONAL INDICATOR SYMBOL LETTER",
      ["A,B,C,D,E,F,G,H,I,J,K,L,M,N,O,P,Q,R,S,T,U,V,W,X,Y,Z"]⟩,
    ⟨127488, "SQUARE HIRAGANA", ["HOKA"]⟩,
    ⟨127489, "SQUARED KATAKANA", ["KOKO,SA"]⟩,
    ⟨127504, "SQUARED CJK UNIFIED", ["IDEOGRAPH-624B,IDEOGRAPH-5B57,IDEOGRAPH-53CC"]⟩,
    ⟨127507, "SQUARED KATAKANA", ["DE"]⟩,
    ⟨127508, "SQUARED CJK UNIFIED",
      ["IDEOGRAPH-4E8C,IDEOGRAPH-591A,IDEOGRAPH-89E3,IDEOGRAPH-5929,IDEOGRAPH-4EA4",
        "IDEOGRAPH-6620,IDEOGRAPH-7121,IDEOGRAPH-6599,IDEOGRAPH-524D,IDEOGRAPH-5F8C",
        "IDEOGRAPH-518D,IDEOGRAPH-65B0,IDEOGRAPH-521D,IDEOGRAPH-7D42,IDEOGRAPH-751F",
        "IDEOGRAPH-8CA9,IDEOGRAPH-58F0,IDEOGRAPH-5439,IDEOGRAPH-6F14,IDEOGRAPH-6295",
        "IDEOGRAPH-6355,IDEOGRAPH-4E00,IDEOGRAPH-4E09,IDEOGRAPH-904A,IDEOGRAPH-5DE6",
        "IDEOGRAPH-4E2D,IDEOGRAPH-53F3,IDEOGRAPH-6307,IDEOGRAPH-8D70,IDEOGRAPH-6253",
        "IDEOGRAPH-7981,IDEOGRAPH-7A7A,IDEOGRAPH-5408,IDEOGRAPH-6E80,IDEOGRAPH-6709",
        "IDEOGRAPH-6708,IDEOGRAPH-7533,IDEOGRAPH-5272,IDEOGRAPH-55B6,IDEOGRAPH-914D"]⟩,
    ⟨127552, "TORTOISE SHELL BRACKETED CJK UNIFIED",
      ["IDEOGRAPH-672C,IDEOGRAPH-4E09,IDEOGRAPH-4E8C,IDEOGRAPH-5B89,IDEOGRAPH-70B9",
        "IDEOGRAPH-6253,IDEOGRAPH-76D7,IDEOGRAPH-52DD,IDEOGRAPH-6557"]⟩,
    ⟨127568, "CIRCLED IDEOGRAPH", ["ADVANTAGE,ACCEPT"]⟩,
    ⟨127584, "ROUNDED SYMBOL FOR", ["FU,LU,SHOU,XI,SHUANGXI,CAI"]⟩,
    ⟨127744, "",
      ["CYCLONE,FOGGY,CLOSED UMBRELLA,NIGHT WITH STARS,SUNRISE OVER MOUNTAINS,SUNRISE",
        "CITYSCAPE AT DUSK,SUNSET OVER BUILDINGS,RAINBOW,BRIDGE AT NIGHT,WATER WAVE,VOLCANO",
        "MILKY WAY,EARTH GLOBE EUROPE-AFRICA,EARTH GLOBE AMERICAS,EARTH GLOBE ASIA-AUSTRALIA",
        "GLOBE WITH MERIDIANS,NEW MOON SYMBOL,WAXING CRESCENT MOON SYMBOL",
        "FIRST QUARTER MOON SYMBOL,WAXING GIBBOUS MOON SYMBOL,FULL MOON SYMBOL",
        "WANING GIBBOUS MOON SYMBOL,LAST QUARTER MOON SYMBOL,WANING CRESCENT MOON SYMBOL",
        "CRESCENT MOON,NEW MOON WITH FACE,FIRST QUARTER MOON WITH FACE",
        "LAST QUARTER MOON WITH FACE,FULL MOON WITH FACE,SUN WITH FACE,GLOWING STAR",
        "SHOOTING STAR,THERMOMETER,BLACK DROPLET,WHITE SUN"]⟩,
    ⟨127780, "WHITE SUN", ["WITH SMALL CLOUD,BEHIND CLOUD,BEHIND CLOUD WITH RAIN"]⟩,
    ⟨127783, "CLOUD WITH", ["RAIN,SNOW,LIGHTNING,TORNADO"]⟩,
    ⟨127787, "",
      ["FOG,WIND BLOWING FACE,HOT DOG,TACO,BURRITO,CHESTNUT,SEEDLING,EVERGREEN TREE",
        "DECIDUOUS TREE,PALM TREE,CACTUS,HOT PEPPER,TULIP,CHERRY BLOSSOM,ROSE,HIBISCUS,SUNFLOWER",
        "BLOSSOM,EAR OF MAIZE,EAR OF RICE,HERB,FOUR LEAF CLOVER,MAPLE LEAF,FALLEN LEAF",
        "LEAF FLUTTERING IN WIND,MUSHROOM,TOMATO,AUBERGINE,GRAPES,MELON,WATERMELON,TANGERINE",
        "LEMON,BANANA,PINEAPPLE,RED APPLE,GREEN APPLE,PEAR,PEACH,CHERRIES,STRAWBERRY,HAMBURGER",
        "SLICE OF PIZZA,MEAT ON BONE,POULTRY LEG,RICE CRACKER,RICE BALL,COOKED RICE",
        "CURRY AND RICE,STEAMING BOWL,SPAGHETTI,BREAD,FRENCH FRIES,ROASTED SWEET POTATO,DANGO",
        "ODEN,SUSHI,FRIED SHRIMP,FISH CAKE WITH SWIRL DESIGN,SOFT ICE CREAM,SHAVED ICE,ICE CREAM",
        "DOUGHNUT,COOKIE,CHOCOLATE BAR,CANDY,LOLLIPOP,CUSTARD,HONEY POT,SHORTCAKE,BENTO BOX",
        "POT OF FOOD,COOKING,FORK AND KNIFE,TEACUP WITHOUT HANDLE,SAKE BOTTLE AND CUP,WINE GLASS",
        "COCKTAIL GLASS,TROPICAL DRINK,BEER MUG,CLINKING BEER MUGS,BABY BOTTLE",
        "FORK AND KNIFE WITH PLATE,BOTTLE WITH POPPING CORK,POPCORN,RIBBON,WRAPPED PRESENT",
        "BIRTHDAY CAKE,JACK-O-LANTERN,CHRISTMAS TREE,FATHER CHRISTMAS,FIREWORKS",
        "FIREWORK SPARKLER,BALLOON,PARTY POPPER,CONFETTI BALL,TANABATA TREE,CROSSED FLAGS",
        "PINE DECORATION,JAPANESE DOLLS,CARP STREAMER,WIND CHIME,MOON VIEWING CEREMONY",
        "SCHOOL SATCHEL,GRADUATION CAP,HEART WITH TIP ON THE LEFT,BOUQUET OF FLOWERS",
        "MILITARY MEDAL,REMINDER RIBBON,MUSICAL KEYBOARD WITH JACKS,STUDIO MICROPHONE",
        "LEVEL SLIDER,CONTROL KNOBS,BEAMED ASCENDING MUSICAL NOTES",
        "BEAMED DESCENDING MUSICAL NOTES,FILM FRAMES,ADMISSION TICKETS,CAROUSEL HORSE",
        "FERRIS WHEEL,ROLLER COASTER,FISHING POLE AND FISH,MICROPHONE,MOVIE CAMERA,CINEMA",
        "HEADPHONE,ARTIST PALETTE,TOP HAT,CIRCUS TENT,TICKET,CLAPPER BOARD,PERFORMING ARTS",
        "VIDEO GAME,DIRECT HIT,SLOT MACHINE,BILLIARDS,GAME DIE,BOWLING,FLOWER PLAYING CARDS",
        "MUSICAL NOTE,MULTIPLE MUSICAL NOTES,SAXOPHONE,GUITAR,MUSICAL KEYBOARD,TRUMPET,VIOLIN",
        "MUSICAL SCORE,RUNNING SHIRT WITH SASH,TENNIS RACQUET AND BALL,SKI AND SKI BOOT",
        "BASKETBALL AND HOOP,CHEQUERED FLAG,SNOWBOARDER,RUNNER,SURFER,SPORTS MEDAL,TROPHY",
        "HORSE RACING,AMERICAN FOOTBALL,RUGBY FOOTBALL,SWIMMER,WEIGHT LIFTER,GOLFER",
        "RACING MOTORCYCLE,RACING CAR,CRICKET BAT AND BALL,VOLLEYBALL",
        "FIELD HOCKEY STICK AND BALL,ICE HOCKEY STICK AND PUCK,TABLE TENNIS PADDLE AND BALL",
        "SNOW CAPPED MOUNTAIN,CAMPING,BEACH WITH UMBRELLA,BUILDING CONSTRUCTION,HOUSE BUILDINGS",
        "CITYSCAPE,DERELICT HOUSE BUILDING,CLASSICAL BUILDING,DESERT,DESERT ISLAND,NATIONAL PARK",
        "STADIUM,HOUSE BUILDING,HOUSE WITH GARDEN,OFFICE BUILDING,JAPANESE POST OFFICE",
        "EUROPEAN POST OFFICE,HOSPITAL,BANK,AUTOMATED TELLER MACHINE,HOTEL,LOVE HOTEL",
        "CONVENIENCE STORE,SCHOOL,DEPARTMENT STORE,FACTORY,IZAKAYA LANTERN,JAPANESE CASTLE",
        "EUROPEAN CASTLE,WHITE PENNANT,BLACK PENNANT,WAVING WHITE FLAG,WAVING BLACK FLAG,ROSETTE",
        "BLACK ROSETTE,LABEL,BADMINTON RACQUET AND SHUTTLECOCK,BOW AND ARROW,AMPHORA"]⟩,
    ⟨127995, "EMOJI MODIFIER FITZPATRICK", ["TYPE-1-2,TYPE-3,TYPE-4,TYPE-5,TYPE-6"]⟩,
    ⟨128000, "",
      ["RAT,MOUSE,OX,WATER BUFFALO,COW,TIGER,LEOPARD,RABBIT,CAT,DRAGON,CROCODILE,WHALE,SNAIL",
        "SNAKE,HORSE,RAM,GOAT,SHEEP,MONKEY,ROOSTER,CHICKEN,DOG,PIG,BOAR,ELEPHANT,OCTOPUS",
        "SPIRAL SHELL,BUG,ANT,HONEYBEE,LADY BEETLE,FISH,TROPICAL FISH,BLOWFISH,TURTLE",
        "HATCHING CHICK,BABY CHICK,FRONT-FACING BABY CHICK,BIRD,PENGUIN,KOALA,POODLE",
        "DROMEDARY CAMEL,BACTRIAN CAMEL,DOLPHIN,MOUSE FACE,COW FACE,TIGER FACE,RABBIT FACE",
        "CAT FACE,DRAGON FACE,SPOUTING WHALE,HORSE FACE,MONKEY FACE,DOG FACE,PIG FACE,FROG FACE",
        "HAMSTER FACE,WOLF FACE,BEAR FACE,PANDA FACE,PIG NOSE,PAW PRINTS,CHIPMUNK,EYES,EYE,EAR",
        "NOSE,MOUTH,TONGUE,WHITE UP POINTING BACKHAND INDEX,WHITE DOWN POINTING BACKHAND INDEX",
        "WHITE LEFT POINTING BACKHAND INDEX,WHITE RIGHT POINTING BACKHAND INDEX,FISTED HAND SIGN",
        "WAVING HAND SIGN,OK HAND SIGN,THUMBS UP SIGN,THUMBS DOWN SIGN,CLAPPING HANDS SIGN",
        "OPEN HANDS SIGN,CROWN,WOMANS HAT,EYEGLASSES,NECKTIE,T-SHIRT,JEANS,DRESS,KIMONO,BIKINI",
        "WOMANS CLOTHES,PURSE,HANDBAG,POUCH,MANS SHOE,ATHLETIC SHOE,HIGH-HEELED SHOE",
        "WOMANS SANDAL,WOMANS BOOTS,FOOTPRINTS,BUST IN SILHOUETTE,BUSTS IN SILHOUETTE,BOY,GIRL",
        "MAN,WOMAN,FAMILY,MAN AND WOMAN HOLDING HANDS,TWO MEN HOLDING HANDS",
        "TWO WOMEN HOLDING HANDS,POLICE OFFICER,WOMAN WITH BUNNY EARS,BRIDE WITH VEIL",
        "PERSON WITH BLOND HAIR,MAN WITH GUA PI MAO,MAN WITH TURBAN,OLDER MAN,OLDER WOMAN,BABY",
        "CONSTRUCTION WORKER,PRINCESS,JAPANESE OGRE,JAPANESE GOBLIN,GHOST,BABY ANGEL",
        "EXTRATERRESTRIAL ALIEN,ALIEN MONSTER,IMP,SKULL,INFORMATION DESK PERSON,GUARDSMAN,DANCER",
        "LIPSTICK,NAIL POLISH,FACE MASSAGE,HAIRCUT,BARBER POLE,SYRINGE,PILL,KISS MARK",
        "LOVE LETTER,RING,GEM STONE,KISS,BOUQUET,COUPLE WITH HEART,WEDDING,BEATING HEART",
        "BROKEN HEART,TWO HEARTS,SPARKLING HEART,GROWING HEART,HEART WITH ARROW,BLUE HEART",
        "GREEN HEART,YELLOW HEART,PURPLE HEART,HEART WITH RIBBON,REVOLVING HEARTS",
        "HEART DECORATION,DIAMOND SHAPE WITH A DOT INSIDE,ELECTRIC LIGHT BULB,ANGER SYMBOL,BOMB",
        "SLEEPING SYMBOL,COLLISION SYMBOL,SPLASHING SWEAT SYMBOL,DROPLET,DASH SYMBOL,PILE OF POO",
        "FLEXED BICEPS,DIZZY SYMBOL,SPEECH BALLOON,THOUGHT BALLOON,WHITE FLOWER",
        "HUNDRED POINTS SYMBOL,MONEY BAG,CURRENCY EXCHANGE,HEAVY DOLLAR SIGN,CREDIT CARD"]⟩,
    ⟨128180, "BANKNOTE WITH", ["YEN SIGN,DOLLAR SIGN,EURO SIGN,POUND SIGN"]⟩,
    ⟨128184, "",
      ["MONEY WITH WINGS,CHART WITH UPWARDS TREND AND YEN SIGN,SEAT,PERSONAL COMPUTER,BRIEFCASE",
        "MINIDISC,FLOPPY DISK,OPTICAL DISC,DVD,FILE FOLDER,OPEN FILE FOLDER,PAGE WITH CURL",
        "PAGE FACING UP,CALENDAR,TEAR-OFF CALENDAR,CARD INDEX,CHART WITH UPWARDS TREND",
        "CHART WITH DOWNWARDS TREND,BAR CHART,CLIPBOARD,PUSHPIN,ROUND PUSHPIN,PAPERCLIP",
        "STRAIGHT RULER,TRIANGULAR RULER,BOOKMARK TABS,LEDGER,NOTEBOOK",
        "NOTEBOOK WITH DECORATIVE COVER,CLOSED BOOK,OPEN BOOK,GREEN BOOK,BLUE BOOK,ORANGE BOOK",
        "BOOKS,NAME BADGE,SCROLL,MEMO,TELEPHONE RECEIVER,PAGER,FAX MACHINE,SATELLITE ANTENNA",
        "PUBLIC ADDRESS LOUDSPEAKER,CHEERING MEGAPHONE,OUTBOX TRAY,INBOX TRAY,PACKAGE",
        "E-MAIL SYMBOL,INCOMING ENVELOPE,ENVELOPE WITH DOWNWARDS ARROW ABOVE",
        "CLOSED MAILBOX WITH LOWERED FLAG,CLOSED MAILBOX WITH RAISED FLAG",
        "OPEN MAILBOX WITH RAISED FLAG,OPEN MAILBOX WITH LOWERED FLAG,POSTBOX,POSTAL HORN",
        "NEWSPAPER,MOBILE PHONE,MOBILE PHONE WITH RIGHTWARDS ARROW AT LEFT,VIBRATION MODE",
        "MOBILE PHONE OFF,NO MOBILE PHONES,ANTENNA WITH BARS,CAMERA,CAMERA WITH FLASH",
        "VIDEO CAMERA,TELEVISION,RADIO,VIDEOCASSETTE,FILM PROJECTOR,PORTABLE STEREO,PRAYER BEADS",
        "TWISTED RIGHTWARDS ARROWS"]⟩,
    ⟨128257, "CLOCKWISE RIGHTWARDS AND LEFTWARDS OPEN CIRCLE",
      ["ARROWS,ARROWS WITH CIRCLED ONE OVERLAY"]⟩,
    ⟨128259, "",
      ["CLOCKWISE DOWNWARDS AND UPWARDS OPEN CIRCLE ARROWS",
        "ANTICLOCKWISE DOWNWARDS AND UPWARDS OPEN CIRCLE ARROWS,LOW BRIGHTNESS SYMBOL",
        "HIGH BRIGHTNESS SYMBOL,SPEAKER WITH CANCELLATION STROKE,SPEAKER",
        "SPEAKER WITH ONE SOUND WAVE,SPEAKER WITH THREE SOUND WAVES,BATTERY,ELECTRIC PLUG",
        "LEFT-POINTING MAGNIFYING GLASS,RIGHT-POINTING MAGNIFYING GLASS,LOCK WITH INK PEN",
        "CLOSED LOCK WITH KEY,KEY,LOCK,OPEN LOCK,BELL,BELL WITH CANCELLATION STROKE,BOOKMARK",
        "LINK SYMBOL,RADIO BUTTON,BACK WITH LEFTWARDS ARROW ABOVE,END WITH LEFTWARDS ARROW ABOVE",
        "ON WITH EXCLAMATION MARK WITH LEFT RIGHT ARROW ABOVE,SOON WITH RIGHTWARDS ARROW ABOVE",
        "TOP WITH UPWARDS ARROW ABOVE,NO ONE UNDER EIGHTEEN SYMBOL,KEYCAP TEN"]⟩,
    ⟨128288, "INPUT SYMBOL FOR",
      ["LATIN CAPITAL LETTERS,LATIN SMALL LETTERS,NUMBERS,SYMBOLS,LATIN LETTERS"]⟩,
    ⟨128293, "",
      ["FIRE,ELECTRIC TORCH,WRENCH,HAMMER,NUT AND BOLT,HOCHO,PISTOL,MICROSCOPE,TELESCOPE",
        "CRYSTAL BALL,SIX POINTED STAR WITH MIDDLE DOT,JAPANESE SYMBOL FOR BEGINNER",
        "TRIDENT EMBLEM,BLACK SQUARE BUTTON,WHITE SQUARE BUTTON,LARGE RED CIRCLE",
        "LARGE BLUE CIRCLE,LARGE ORANGE DIAMOND,LARGE BLUE DIAMOND,SMALL ORANGE DIAMOND",
        "SMALL BLUE DIAMOND,UP-POINTING RED TRIANGLE,DOWN-POINTING RED TRIANGLE",
        "UP-POINTING SMALL RED TRIANGLE,DOWN-POINTING SMALL RED TRIANGLE",
        "LOWER RIGHT SHADOWED WHITE CIRCLE,UPPER RIGHT SHADOWED WHITE CIRCLE",
        "CIRCLED CROSS POMMEE,CROSS POMMEE WITH HALF-CIRCLE BELOW,CROSS POMMEE",
        "NOTCHED LEFT SEMICIRCLE WITH THREE DOTS,NOTCHED RIGHT SEMICIRCLE WITH THREE DOTS",
        "SYMBOL FOR MARKS CHAPTER,WHITE LATIN CROSS,HEAVY LATIN CROSS,CELTIC CROSS,OM SYMBOL",
        "DOVE OF PEACE,KAABA,MOSQUE,SYNAGOGUE,MENORAH WITH NINE BRANCHES,BOWL OF HYGIEIA"]⟩,
    ⟨128336, "CLOCK FACE",
      ["ONE OCLOCK,TWO OCLOCK,THREE OCLOCK,FOUR OCLOCK,FIVE OCLOCK,SIX OCLOCK,SEVEN OCLOCK",
        "EIGHT OCLOCK,NINE OCLOCK,TEN OCLOCK,ELEVEN OCLOCK,TWELVE OCLOCK,ONE-THIRTY,TWO-THIRTY",
        "THREE-THIRTY,FOUR-THIRTY,FIVE-THIRTY,SIX-THIRTY,SEVEN-THIRTY,EIGHT-THIRTY,NINE-THIRTY",
        "TEN-THIRTY,ELEVEN-THIRTY,TWELVE-THIRTY"]⟩,
    ⟨128360, "",
      ["RIGHT SPEAKER,RIGHT SPEAKER WITH ONE SOUND WAVE,RIGHT SPEAKER WITH THREE SOUND WAVES",
        "BULLHORN,BULLHORN WITH SOUND WAVES,RINGING BELL,BOOK,CANDLE,MANTELPIECE CLOCK",
        "BLACK SKULL AND CROSSBONES,NO PIRACY,HOLE,MAN IN BUSINESS SUIT LEVITATING,SLEUTH OR SPY",
        "DARK SUNGLASSES,SPIDER,SPIDER WEB,JOYSTICK,MAN DANCING,LEFT HAND TELEPHONE RECEIVER",
        "TELEPHONE RECEIVER WITH PAGE,RIGHT HAND TELEPHONE RECEIVER,WHITE TOUCHTONE TELEPHONE",
        "BLACK TOUCHTONE TELEPHONE,TELEPHONE ON TOP OF MODEM,CLAMSHELL MOBILE PHONE",
        "BACK OF ENVELOPE,STAMPED ENVELOPE,ENVELOPE WITH LIGHTNING,FLYING ENVELOPE",
        "PEN OVER STAMPED ENVELOPE,LINKED PAPERCLIPS,BLACK PUSHPIN"]⟩,
    ⟨128393, "LOWER LEFT", ["PENCIL,BALLPOINT PEN,FOUNTAIN PEN,PAINTBRUSH,CRAYON"]⟩,
    ⟨128398, "", ["LEFT WRITING HAND,TURNED OK HAND SIGN,RAISED HAND WITH FINGERS SPLAYED"]⟩,
    ⟨128401, "REVERSED",
      ["RAISED HAND WITH FINGERS SPLAYED,THUMBS UP SIGN,THUMBS DOWN SIGN,VICTORY HAND",
        "HAND WITH MIDDLE FINGER EXTENDED"]⟩,
    ⟨128406, "",
      ["RAISED HAND WITH PART BETWEEN MIDDLE AND RING FINGERS",
        "WHITE DOWN POINTING LEFT HAND INDEX,SIDEWAYS WHITE LEFT POINTING INDEX",
        "SIDEWAYS WHITE RIGHT POINTING INDEX,SIDEWAYS BLACK LEFT POINTING INDEX",
        "SIDEWAYS BLACK RIGHT POINTING INDEX,BLACK LEFT POINTING BACKHAND INDEX",
        "BLACK RIGHT POINTING BACKHAND INDEX,SIDEWAYS WHITE UP POINTING INDEX",
        "SIDEWAYS WHITE DOWN POINTING INDEX,SIDEWAYS BLACK UP POINTING INDEX",
        "SIDEWAYS BLACK DOWN POINTING INDEX,BLACK UP POINTING BACKHAND INDEX",
        "BLACK DOWN POINTING BACKHAND INDEX,BLACK HEART,DESKTOP COMPUTER,KEYBOARD AND MOUSE",
        "THREE NETWORKED COMPUTERS,PRINTER,POCKET CALCULATOR,BLACK HARD SHELL FLOPPY DISK",
        "WHITE HARD SHELL FLOPPY DISK,SOFT SHELL FLOPPY DISK,TAPE CARTRIDGE,WIRED KEYBOARD",
        "ONE BUTTON MOUSE,TWO BUTTON MOUSE,THREE BUTTON MOUSE,TRACKBALL,OLD PERSONAL COMPUTER",
        "HARD DISK,SCREEN,PRINTER ICON,FAX ICON,OPTICAL DISC ICON"]⟩,
    ⟨128441, "DOCUMENT WITH", ["TEXT,TEXT AND PICTURE,PICTURE"]⟩,
    ⟨128444, "FRAME WITH", ["PICTURE,TILES,AN X"]⟩,
    ⟨128447, "",
      ["BLACK FOLDER,FOLDER,OPEN FOLDER,CARD INDEX DIVIDERS,CARD FILE BOX,FILE CABINET",
        "EMPTY NOTE,EMPTY NOTE PAGE,EMPTY NOTE PAD,NOTE,NOTE PAGE,NOTE PAD,EMPTY DOCUMENT",
        "EMPTY PAGE,EMPTY PAGES,DOCUMENT,PAGE,PAGES,WASTEBASKET,SPIRAL NOTE PAD",
        "SPIRAL CALENDAR PAD,DESKTOP WINDOW,MINIMIZE,MAXIMIZE,OVERLAP",
        "CLOCKWISE RIGHT AND LEFT SEMICIRCLE ARROWS,CANCELLATION X,INCREASE FONT SIZE SYMBOL",
        "DECREASE FONT SIZE SYMBOL,COMPRESSION,OLD KEY,ROLLED-UP NEWSPAPER",
        "PAGE WITH CIRCLED TEXT,STOCK CHART,DAGGER KNIFE,LIPS,SPEAKING HEAD IN SILHOUETTE"]⟩,
    ⟨128484, "THREE RAYS", ["ABOVE,BELOW,LEFT,RIGHT"]⟩,
    ⟨128488, "",
      ["LEFT SPEECH BUBBLE,RIGHT SPEECH BUBBLE,TWO SPEECH BUBBLES,THREE SPEECH BUBBLES",
        "LEFT THOUGHT BUBBLE,RIGHT THOUGHT BUBBLE,LEFT ANGER BUBBLE,RIGHT ANGER BUBBLE",
        "MOOD BUBBLE,LIGHTNING MOOD BUBBLE,LIGHTNING MOOD,BALLOT BOX WITH BALLOT,BALLOT SCRIPT X",
        "BALLOT BOX WITH SCRIPT X,BALLOT BOLD SCRIPT X,BALLOT BOX WITH BOLD SCRIPT X",
        "LIGHT CHECK MARK,BALLOT BOX WITH BOLD CHECK,WORLD MAP,MOUNT FUJI,TOKYO TOWER",
        "STATUE OF LIBERTY,SILHOUETTE OF JAPAN,MOYAI,GRINNING FACE",
        "GRINNING FACE WITH SMILING EYES,FACE WITH TEARS OF JOY"]⟩,
    ⟨128515, "SMILING FACE WITH",
      ["OPEN MOUTH,OPEN MOUTH AND SMILING EYES,OPEN MOUTH AND COLD SWEAT",
        "OPEN MOUTH AND TIGHTLY-CLOSED EYES,HALO,HORNS"]⟩,
    ⟨128521, "",
      ["WINKING FACE,SMILING FACE WITH SMILING EYES,FACE SAVOURING DELICIOUS FOOD,RELIEVED FACE",
        "SMILING FACE WITH HEART-SHAPED EYES,SMILING FACE WITH SUNGLASSES,SMIRKING FACE",
        "NEUTRAL FACE,EXPRESSIONLESS FACE,UNAMUSED FACE,FACE WITH COLD SWEAT,PENSIVE FACE",
        "CONFUSED FACE,CONFOUNDED FACE,KISSING FACE,FACE THROWING A KISS"]⟩,
    ⟨128537, "KISSING FACE WITH", ["SMILING EYES,CLOSED EYES"]⟩,
    ⟨128539, "FACE WITH STUCK-OUT",
      ["TONGUE,TONGUE AND WINKING EYE,TONGUE AND TIGHTLY-CLOSED EYES"]⟩,
    ⟨128542, "",
      ["DISAPPOINTED FACE,WORRIED FACE,ANGRY FACE,POUTING FACE,CRYING FACE,PERSEVERING FACE",
        "FACE WITH LOOK OF TRIUMPH,DISAPPOINTED BUT RELIEVED FACE,FROWNING FACE WITH OPEN MOUTH",
        "ANGUISHED FACE,FEARFUL FACE,WEARY FACE,SLEEPY FACE,TIRED FACE,GRIMACING FACE",
        "LOUDLY CRYING FACE,FACE WITH OPEN MOUTH,HUSHED FACE,FACE WITH OPEN MOUTH AND COLD SWEAT",
        "FACE SCREAMING IN FEAR,ASTONISHED FACE,FLUSHED FACE,SLEEPING FACE,DIZZY FACE",
        "FACE WITHOUT MOUTH,FACE WITH MEDICAL MASK,GRINNING CAT FACE WITH SMILING EYES",
        "CAT FACE WITH TEARS OF JOY,SMILING CAT FACE WITH OPEN MOUTH",
        "SMILING CAT FACE WITH HEART-SHAPED EYES,CAT FACE WITH WRY SMILE",
        "KISSING CAT FACE WITH CLOSED EYES,POUTING CAT FACE,CRYING CAT FACE,WEARY CAT FACE",
        "SLIGHTLY FROWNING FACE,SLIGHTLY SMILING FACE,UPSIDE-DOWN FACE,FACE WITH ROLLING EYES",
        "FACE WITH NO GOOD GESTURE,FACE WITH OK GESTURE,PERSON BOWING DEEPLY,SEE-NO-EVIL MONKEY",
        "HEAR-NO-EVIL MONKEY,SPEAK-NO-EVIL MONKEY,HAPPY PERSON RAISING ONE HAND",
        "PERSON RAISING BOTH HANDS IN CELEBRATION,PERSON FROWNING,PERSON WITH POUTING FACE",
        "PERSON WITH FOLDED HANDS,NORTH WEST POINTING LEAF,SOUTH WEST POINTING LEAF",
        "NORTH EAST POINTING LEAF,SOUTH EAST POINTING LEAF,TURNED NORTH WEST POINTING LEAF",
        "TURNED SOUTH WEST POINTING LEAF,TURNED NORTH EAST POINTING LEAF",
        "TURNED SOUTH EAST POINTING LEAF,NORTH WEST POINTING VINE LEAF",
        "SOUTH WEST POINTING VINE LEAF,NORTH EAST POINTING VINE LEAF",
        "SOUTH EAST POINTING VINE LEAF,HEAVY NORTH WEST POINTING VINE LEAF",
        "HEAVY SOUTH WEST POINTING VINE LEAF,HEAVY NORTH EAST POINTING VINE LEAF",
        "HEAVY SOUTH EAST POINTING VINE LEAF,NORTH WEST POINTING BUD,SOUTH WEST POINTING BUD",
        "NORTH EAST POINTING BUD,SOUTH EAST POINTING BUD,HEAVY NORTH WEST POINTING BUD",
        "HEAVY SOUTH WEST POINTING BUD,HEAVY NORTH EAST POINTING BUD",
        "HEAVY SOUTH EAST POINTING BUD,HOLLOW QUILT SQUARE ORNAMENT",
        "HOLLOW QUILT SQUARE ORNAMENT IN BLACK SQUARE,SOLID QUILT SQUARE ORNAMENT",
        "SOLID QUILT SQUARE ORNAMENT IN BLACK SQUARE,LEFTWARDS ROCKET,UPWARDS ROCKET",
        "RIGHTWARDS ROCKET,DOWNWARDS ROCKET,SCRIPT LIGATURE ET ORNAMENT",
        "HEAVY SCRIPT LIGATURE ET ORNAMENT,LIGATURE OPEN ET ORNAMENT",
        "HEAVY LIGATURE OPEN ET ORNAMENT,HEAVY AMPERSAND ORNAMENT,SWASH AMPERSAND ORNAMENT"]⟩,
    ⟨128630, "SANS-SERIF HEAVY",
      ["DOUBLE TURNED COMMA QUOTATION MARK ORNAMENT,DOUBLE COMMA QUOTATION MARK ORNAMENT",
        "LOW DOUBLE COMMA QUOTATION MARK ORNAMENT"]⟩,
    ⟨128633, "",
      ["HEAVY INTERROBANG ORNAMENT,SANS-SERIF INTERROBANG ORNAMENT",
        "HEAVY SANS-SERIF INTERROBANG ORNAMENT,VERY HEAVY SOLIDUS,VERY HEAVY REVERSE SOLIDUS",
        "CHECKER BOARD,REVERSE CHECKER BOARD,ROCKET,HELICOPTER,STEAM LOCOMOTIVE,RAILWAY CAR",
        "HIGH-SPEED TRAIN,HIGH-SPEED TRAIN WITH BULLET NOSE,TRAIN,METRO,LIGHT RAIL,STATION,TRAM",
        "TRAM CAR,BUS,ONCOMING BUS,TROLLEYBUS,BUS STOP,MINIBUS,AMBULANCE,FIRE ENGINE,POLICE CAR",
        "ONCOMING POLICE CAR,TAXI,ONCOMING TAXI,AUTOMOBILE,ONCOMING AUTOMOBILE",
        "RECREATIONAL VEHICLE,DELIVERY TRUCK,ARTICULATED LORRY,TRACTOR,MONORAIL,MOUNTAIN RAILWAY",
        "SUSPENSION RAILWAY,MOUNTAIN CABLEWAY,AERIAL TRAMWAY,SHIP,ROWBOAT,SPEEDBOAT",
        "HORIZONTAL TRAFFIC LIGHT,VERTICAL TRAFFIC LIGHT,CONSTRUCTION SIGN",
        "POLICE CARS REVOLVING LIGHT,TRIANGULAR FLAG ON POST,DOOR,NO ENTRY SIGN,SMOKING SYMBOL",
        "NO SMOKING SYMBOL,PUT LITTER IN ITS PLACE SYMBOL,DO NOT LITTER SYMBOL",
        "POTABLE WATER SYMBOL,NON-POTABLE WATER SYMBOL,BICYCLE,NO BICYCLES,BICYCLIST",
        "MOUNTAIN BICYCLIST,PEDESTRIAN,NO PEDESTRIANS,CHILDREN CROSSING,MENS SYMBOL",
        "WOMENS SYMBOL,RESTROOM,BABY SYMBOL,TOILET,WATER CLOSET,SHOWER,BATH,BATHTUB",
        "PASSPORT CONTROL,CUSTOMS,BAGGAGE CLAIM,LEFT LUGGAGE,TRIANGLE WITH ROUNDED CORNERS",
        "PROHIBITED SIGN,CIRCLED INFORMATION SOURCE,BOYS SYMBOL,GIRLS SYMBOL,COUCH AND LAMP",
        "SLEEPING ACCOMMODATION,SHOPPING BAGS,BELLHOP BELL,BED,PLACE OF WORSHIP,OCTAGONAL SIGN",
        "SHOPPING TROLLEY,STUPA,PAGODA,HINDU TEMPLE,HUT,ELEVATOR"]⟩,
    ⟨128733, "",
      ["PLAYGROUND SLIDE,WHEEL,RING BUOY,HAMMER AND WRENCH,SHIELD,OIL DRUM,MOTORWAY",
        "RAILWAY TRACK,MOTOR BOAT,UP-POINTING MILITARY AIRPLANE,UP-POINTING AIRPLANE",
        "UP-POINTING SMALL AIRPLANE,SMALL AIRPLANE,NORTHEAST-POINTING AIRPLANE",
        "AIRPLANE DEPARTURE,AIRPLANE ARRIVING"]⟩,
    ⟨128752, "",
      ["SATELLITE,ONCOMING FIRE ENGINE,DIESEL LOCOMOTIVE,PASSENGER SHIP,SCOOTER,MOTOR SCOOTER",
        "CANOE,SLED,FLYING SAUCER,SKATEBOARD,AUTO RICKSHAW,PICKUP TRUCK,ROLLER SKATE"]⟩,
    ⟨128768, "ALCHEMICAL SYMBOL FOR",
      ["QUINTESSENCE,AIR,FIRE,EARTH,WATER,AQUAFORTIS,AQUA REGIA,AQUA REGIA-2,AQUA VITAE",
        "AQUA VITAE-2,VINEGAR,VINEGAR-2,VINEGAR-3,SULFUR,PHILOSOPHERS SULFUR,BLACK SULFUR",
        "MERCURY SUBLIMATE,MERCURY SUBLIMATE-2,MERCURY SUBLIMATE-3,CINNABAR,SALT,NITRE,VITRIOL",
        "VITRIOL-2,ROCK SALT,ROCK SALT-2,GOLD,SILVER,IRON ORE,IRON ORE-2,CROCUS OF IRON",
        "REGULUS OF IRON,COPPER ORE,IRON-COPPER ORE,SUBLIMATE OF COPPER,CROCUS OF COPPER",
        "CROCUS OF COPPER-2,COPPER ANTIMONIATE,SALT OF COPPER ANTIMONIATE",
        "SUBLIMATE OF SALT OF COPPER,VERDIGRIS,TIN ORE,LEAD ORE,ANTIMONY ORE",
        "SUBLIMATE OF ANTIMONY,SALT OF ANTIMONY,SUBLIMATE OF SALT OF ANTIMONY",
        "VINEGAR OF ANTIMONY,REGULUS OF ANTIMONY,REGULUS OF ANTIMONY-2,REGULUS,REGULUS-2",
        "REGULUS-3,REGULUS-4,ALKALI,ALKALI-2,MARCASITE,SAL-AMMONIAC,ARSENIC,REALGAR,REALGAR-2",
        "AURIPIGMENT,BISMUTH ORE,TARTAR,TARTAR-2,QUICK LIME,BORAX,BORAX-2,BORAX-3,ALUM,OIL",
        "SPIRIT,TINCTURE,GUM,WAX,POWDER,CALX,TUTTY,CAPUT MORTUUM,SCEPTER OF JOVE,CADUCEUS",
        "TRIDENT,STARRED TRIDENT,LODESTONE,SOAP,URINE,HORSE DUNG,ASHES,POT ASHES,BRICK",
        "POWDERED BRICK,AMALGAM,STRATUM SUPER STRATUM,STRATUM SUPER STRATUM-2,SUBLIMATION",
        "PRECIPITATE,DISTILL,DISSOLVE,DISSOLVE-2,PURIFY,PUTREFACTION,CRUCIBLE,CRUCIBLE-2",
        "CRUCIBLE-3,CRUCIBLE-4,CRUCIBLE-5,ALEMBIC,BATH OF MARY,BATH OF VAPOURS,RETORT,HOUR,NIGHT",
        "DAY-NIGHT,MONTH,HALF DRAM,HALF OUNCE"]⟩,
    ⟨128896, "BLACK",
      ["LEFT-POINTING ISOSCELES RIGHT TRIANGLE,UP-POINTING ISOSCELES RIGHT TRIANGLE",
        "RIGHT-POINTING ISOSCELES RIGHT TRIANGLE,DOWN-POINTING ISOSCELES RIGHT TRIANGLE",
        "SLIGHTLY SMALL CIRCLE"]⟩,
    ⟨128901, "",
      ["MEDIUM BOLD WHITE CIRCLE,BOLD WHITE CIRCLE,HEAVY WHITE CIRCLE,VERY HEAVY WHITE CIRCLE",
        "EXTREMELY HEAVY WHITE CIRCLE,WHITE CIRCLE CONTAINING BLACK SMALL CIRCLE,ROUND TARGET",
        "BLACK TINY SQUARE,BLACK SLIGHTLY SMALL SQUARE,LIGHT WHITE SQUARE,MEDIUM WHITE SQUARE",
        "BOLD WHITE SQUARE,HEAVY WHITE SQUARE,VERY HEAVY WHITE SQUARE",
        "EXTREMELY HEAVY WHITE SQUARE,WHITE SQUARE CONTAINING BLACK VERY SMALL SQUARE",
        "WHITE SQUARE CONTAINING BLACK MEDIUM SQUARE,SQUARE TARGET,BLACK TINY DIAMOND",
        "BLACK VERY SMALL DIAMOND,BLACK MEDIUM SMALL DIAMOND",
        "WHITE DIAMOND CONTAINING BLACK VERY SMALL DIAMOND",
        "WHITE DIAMOND CONTAINING BLACK MEDIUM DIAMOND,DIAMOND TARGET,BLACK TINY LOZENGE",
        "BLACK VERY SMALL LOZENGE,BLACK MEDIUM SMALL LOZENGE",
        "WHITE LOZENGE CONTAINING BLACK SMALL LOZENGE,THIN GREEK CROSS,LIGHT GREEK CROSS",
        "MEDIUM GREEK CROSS,BOLD GREEK CROSS,VERY BOLD GREEK CROSS,VERY HEAVY GREEK CROSS",
        "EXTREMELY HEAVY GREEK CROSS,THIN SALTIRE,LIGHT SALTIRE,MEDIUM SALTIRE,BOLD SALTIRE",
        "HEAVY SALTIRE,VERY HEAVY SALTIRE,EXTREMELY HEAVY SALTIRE,LIGHT FIVE SPOKED ASTERISK",
        "MEDIUM FIVE SPOKED ASTERISK,BOLD FIVE SPOKED ASTERISK,HEAVY FIVE SPOKED ASTERISK",
        "VERY HEAVY FIVE SPOKED ASTERISK,EXTREMELY HEAVY FIVE SPOKED ASTERISK",
        "LIGHT SIX SPOKED ASTERISK,MEDIUM SIX SPOKED ASTERISK,BOLD SIX SPOKED ASTERISK",
        "HEAVY SIX SPOKED ASTERISK,VERY HEAVY SIX SPOKED ASTERISK",
        "EXTREMELY HEAVY SIX SPOKED ASTERISK,LIGHT EIGHT SPOKED ASTERISK",
        "MEDIUM EIGHT SPOKED ASTERISK,BOLD EIGHT SPOKED ASTERISK,HEAVY EIGHT SPOKED ASTERISK",
        "VERY HEAVY EIGHT SPOKED ASTERISK,LIGHT THREE POINTED BLACK STAR",
        "MEDIUM THREE POINTED BLACK STAR,THREE POINTED BLACK STAR",
        "MEDIUM THREE POINTED PINWHEEL STAR,LIGHT FOUR POINTED BLACK STAR",
        "MEDIUM FOUR POINTED BLACK STAR,FOUR POINTED BLACK STAR",
        "MEDIUM FOUR POINTED PINWHEEL STAR,REVERSE LIGHT FOUR POINTED PINWHEEL STAR",
        "LIGHT FIVE POINTED BLACK STAR,HEAVY FIVE POINTED BLACK STAR",
        "MEDIUM SIX POINTED BLACK STAR,HEAVY SIX POINTED BLACK STAR,SIX POINTED PINWHEEL STAR",
        "MEDIUM EIGHT POINTED BLACK STAR,HEAVY EIGHT POINTED BLACK STAR",
        "VERY HEAVY EIGHT POINTED BLACK STAR,HEAVY EIGHT POINTED PINWHEEL STAR",
        "LIGHT TWELVE POINTED BLACK STAR,HEAVY TWELVE POINTED BLACK STAR",
        "HEAVY TWELVE POINTED PINWHEEL STAR,CIRCLED TRIANGLE,NEGATIVE CIRCLED TRIANGLE",
        "CIRCLED SQUARE,NEGATIVE CIRCLED SQUARE"]⟩,
    ⟨128992, "LARGE",
      ["ORANGE CIRCLE,YELLOW CIRCLE,GREEN CIRCLE,PURPLE CIRCLE,BROWN CIRCLE,RED SQUARE",
        "BLUE SQUARE,ORANGE SQUARE,YELLOW SQUARE,GREEN SQUARE,PURPLE SQUARE,BROWN SQUARE"]⟩,
    ⟨129008, "HEAVY EQUALS", ["SIGN"]⟩,
    ⟨129024, "",
      ["LEFTWARDS ARROW WITH SMALL TRIANGLE ARROWHEAD",
        "UPWARDS ARROW WITH SMALL TRIANGLE ARROWHEAD",
        "RIGHTWARDS ARROW WITH SMALL TRIANGLE ARROWHEAD",
        "DOWNWARDS ARROW WITH SMALL TRIANGLE ARROWHEAD",
        "LEFTWARDS ARROW WITH MEDIUM TRIANGLE ARROWHEAD",
        "UPWARDS ARROW WITH MEDIUM TRIANGLE ARROWHEAD",
        "RIGHTWARDS ARROW WITH MEDIUM TRIANGLE ARROWHEAD",
        "DOWNWARDS ARROW WITH MEDIUM TRIANGLE ARROWHEAD",
        "LEFTWARDS ARROW WITH LARGE TRIANGLE ARROWHEAD",
        "UPWARDS ARROW WITH LARGE TRIANGLE ARROWHEAD",
        "RIGHTWARDS ARROW WITH LARGE TRIANGLE ARROWHEAD",
        "DOWNWARDS ARROW WITH LARGE TRIANGLE ARROWHEAD"]⟩,
    ⟨129040, "",
      ["LEFTWARDS ARROW WITH SMALL EQUILATERAL ARROWHEAD",
        "UPWARDS ARROW WITH SMALL EQUILATERAL ARROWHEAD",
        "RIGHTWARDS ARROW WITH SMALL EQUILATERAL ARROWHEAD",
        "DOWNWARDS ARROW WITH SMALL EQUILATERAL ARROWHEAD",
        "LEFTWARDS ARROW WITH EQUILATERAL ARROWHEAD,UPWARDS ARROW WITH EQUILATERAL ARROWHEAD",
        "RIGHTWARDS ARROW WITH EQUILATERAL ARROWHEAD,DOWNWARDS ARROW WITH EQUILATERAL ARROWHEAD"]⟩,
    ⟨129048, "HEAVY",
      ["LEFTWARDS ARROW WITH EQUILATERAL ARROWHEAD,UPWARDS ARROW WITH EQUILATERAL ARROWHEAD",
        "RIGHTWARDS ARROW WITH EQUILATERAL ARROWHEAD,DOWNWARDS ARROW WITH EQUILATERAL ARROWHEAD",
        "LEFTWARDS ARROW WITH LARGE EQUILATERAL ARROWHEAD",
        "UPWARDS ARROW WITH LARGE EQUILATERAL ARROWHEAD",
        "RIGHTWARDS ARROW WITH LARGE EQUILATERAL ARROWHEAD",
        "DOWNWARDS ARROW WITH LARGE EQUILATERAL ARROWHEAD"]⟩,
    ⟨129056, "",
      ["LEFTWARDS TRIANGLE-HEADED ARROW WITH NARROW SHAFT",
        "UPWARDS TRIANGLE-HEADED ARROW WITH NARROW SHAFT",
        "RIGHTWARDS TRIANGLE-HEADED ARROW WITH NARROW SHAFT",
        "DOWNWARDS TRIANGLE-HEADED ARROW WITH NARROW SHAFT",
        "LEFTWARDS TRIANGLE-HEADED ARROW WITH MEDIUM SHAFT",
        "UPWARDS TRIANGLE-HEADED ARROW WITH MEDIUM SHAFT",
        "RIGHTWARDS TRIANGLE-HEADED ARROW WITH MEDIUM SHAFT",
        "DOWNWARDS TRIANGLE-HEADED ARROW WITH MEDIUM SHAFT",
        "LEFTWARDS TRIANGLE-HEADED ARROW WITH BOLD SHAFT",
        "UPWARDS TRIANGLE-HEADED ARROW WITH BOLD SHAFT",
        "RIGHTWARDS TRIANGLE-HEADED ARROW WITH BOLD SHAFT",
        "DOWNWARDS TRIANGLE-HEADED ARROW WITH BOLD SHAFT",
        "LEFTWARDS TRIANGLE-HEADED ARROW WITH HEAVY SHAFT",
        "UPWARDS TRIANGLE-HEADED ARROW WITH HEAVY SHAFT",
        "RIGHTWARDS TRIANGLE-HEADED ARROW WITH HEAVY SHAFT",
        "DOWNWARDS TRIANGLE-HEADED ARROW WITH HEAVY SHAFT",
        "LEFTWARDS TRIANGLE-HEADED ARROW WITH VERY HEAVY SHAFT",
        "UPWARDS TRIANGLE-HEADED ARROW WITH VERY HEAVY SHAFT",
        "RIGHTWARDS TRIANGLE-HEADED ARROW WITH VERY HEAVY SHAFT",
        "DOWNWARDS TRIANGLE-HEADED ARROW WITH VERY HEAVY SHAFT,LEFTWARDS FINGER-POST ARROW",
        "UPWARDS FINGER-POST ARROW,RIGHTWARDS FINGER-POST ARROW,DOWNWARDS FINGER-POST ARROW",
        "LEFTWARDS SQUARED ARROW,UPWARDS SQUARED ARROW,RIGHTWARDS SQUARED ARROW",
        "DOWNWARDS SQUARED ARROW,LEFTWARDS COMPRESSED ARROW,UPWARDS COMPRESSED ARROW",
        "RIGHTWARDS COMPRESSED ARROW,DOWNWARDS COMPRESSED ARROW,LEFTWARDS HEAVY COMPRESSED ARROW",
        "UPWARDS HEAVY COMPRESSED ARROW,RIGHTWARDS HEAVY COMPRESSED ARROW",
        "DOWNWARDS HEAVY COMPRESSED ARROW,LEFTWARDS HEAVY ARROW,UPWARDS HEAVY ARROW",
        "RIGHTWARDS HEAVY ARROW,DOWNWARDS HEAVY ARROW"]⟩,
    ⟨129104, "",
      ["LEFTWARDS SANS-SERIF ARROW,UPWARDS SANS-SERIF ARROW,RIGHTWARDS SANS-SERIF ARROW",
        "DOWNWARDS SANS-SERIF ARROW,NORTH WEST SANS-SERIF ARROW,NORTH EAST SANS-SERIF ARROW",
        "SOUTH EAST SANS-SERIF ARROW,SOUTH WEST SANS-SERIF ARROW,LEFT RIGHT SANS-SERIF ARROW",
        "UP DOWN SANS-SERIF ARROW"]⟩,
    ⟨129120, "WIDE-HEADED",
      ["LEFTWARDS LIGHT BARB ARROW,UPWARDS LIGHT BARB ARROW,RIGHTWARDS LIGHT BARB ARROW",
        "DOWNWARDS LIGHT BARB ARROW,NORTH WEST LIGHT BARB ARROW,NORTH EAST LIGHT BARB ARROW",
        "SOUTH EAST LIGHT BARB ARROW,SOUTH WEST LIGHT BARB ARROW,LEFTWARDS BARB ARROW",
        "UPWARDS BARB ARROW,RIGHTWARDS BARB ARROW,DOWNWARDS BARB ARROW,NORTH WEST BARB ARROW",
        "NORTH EAST BARB ARROW,SOUTH EAST BARB ARROW,SOUTH WEST BARB ARROW",
        "LEFTWARDS MEDIUM BARB ARROW,UPWARDS MEDIUM BARB ARROW,RIGHTWARDS MEDIUM BARB ARROW",
        "DOWNWARDS MEDIUM BARB ARROW,NORTH WEST MEDIUM BARB ARROW,NORTH EAST MEDIUM BARB ARROW",
        "SOUTH EAST MEDIUM BARB ARROW,SOUTH WEST MEDIUM BARB ARROW,LEFTWARDS HEAVY BARB ARROW",
        "UPWARDS HEAVY BARB ARROW,RIGHTWARDS HEAVY BARB ARROW,DOWNWARDS HEAVY BARB ARROW",
        "NORTH WEST HEAVY BARB ARROW,NORTH EAST HEAVY BARB ARROW,SOUTH EAST HEAVY BARB ARROW",
        "SOUTH WEST HEAVY BARB ARROW,LEFTWARDS VERY HEAVY BARB ARROW",
        "UPWARDS VERY HEAVY BARB ARROW,RIGHTWARDS VERY HEAVY BARB ARROW",
        "DOWNWARDS VERY HEAVY BARB ARROW,NORTH WEST VERY HEAVY BARB ARROW",
        "NORTH EAST VERY HEAVY BARB ARROW,SOUTH EAST VERY HEAVY BARB ARROW",
        "SOUTH WEST VERY HEAVY BARB ARROW"]⟩,
    ⟨129168, "",
      ["LEFTWARDS TRIANGLE ARROWHEAD,UPWARDS TRIANGLE ARROWHEAD,RIGHTWARDS TRIANGLE ARROWHEAD",
        "DOWNWARDS TRIANGLE ARROWHEAD,LEFTWARDS WHITE ARROW WITHIN TRIANGLE ARROWHEAD",
        "UPWARDS WHITE ARROW WITHIN TRIANGLE ARROWHEAD",
        "RIGHTWARDS WHITE ARROW WITHIN TRIANGLE ARROWHEAD",
        "DOWNWARDS WHITE ARROW WITHIN TRIANGLE ARROWHEAD,LEFTWARDS ARROW WITH NOTCHED TAIL",
        "UPWARDS ARROW WITH NOTCHED TAIL,RIGHTWARDS ARROW WITH NOTCHED TAIL",
        "DOWNWARDS ARROW WITH NOTCHED TAIL"]⟩,
    ⟨129180, "HEAVY ARROW SHAFT WIDTH", ["ONE,TWO THIRDS,ONE HALF,ONE THIRD"]⟩,
    ⟨129184, "",
      ["LEFTWARDS BOTTOM-SHADED WHITE ARROW,RIGHTWARDS BOTTOM SHADED WHITE ARROW",
        "LEFTWARDS TOP SHADED WHITE ARROW,RIGHTWARDS TOP SHADED WHITE ARROW",
        "LEFTWARDS LEFT-SHADED WHITE ARROW,RIGHTWARDS RIGHT-SHADED WHITE ARROW",
        "LEFTWARDS RIGHT-SHADED WHITE ARROW,RIGHTWARDS LEFT-SHADED WHITE ARROW",
        "LEFTWARDS BACK-TILTED SHADOWED WHITE ARROW,RIGHTWARDS BACK-TILTED SHADOWED WHITE ARROW",
        "LEFTWARDS FRONT-TILTED SHADOWED WHITE ARROW",
        "RIGHTWARDS FRONT-TILTED SHADOWED WHITE ARROW"]⟩,
    ⟨129196, "WHITE ARROW SHAFT WIDTH", ["ONE,TWO THIRDS"]⟩,
    ⟨129200, "ARROW POINTING", ["UPWARDS THEN NORTH WEST,RIGHTWARDS THEN CURVING SOUTH WEST"]⟩,
    ⟨129280, "CIRCLED CROSS", ["FORMEE WITH FOUR DOTS,FORMEE WITH TWO DOTS,FORMEE"]⟩,
    ⟨129283, "LEFT HALF CIRCLE WITH", ["FOUR DOTS,THREE DOTS,TWO DOTS,DOT"]⟩,
    ⟨129287, "LEFT HALF", ["CIRCLE"]⟩,
    ⟨129288, "DOWNWARD FACING", ["HOOK,NOTCHED HOOK,HOOK WITH DOT,NOTCHED HOOK WITH DOT"]⟩,
    ⟨129292, "",
      ["PINCHED FINGERS,WHITE HEART,BROWN HEART,PINCHING HAND,ZIPPER-MOUTH FACE",
        "MONEY-MOUTH FACE,FACE WITH THERMOMETER,NERD FACE,THINKING FACE,FACE WITH HEAD-BANDAGE",
        "ROBOT FACE,HUGGING FACE,SIGN OF THE HORNS,CALL ME HAND,RAISED BACK OF HAND",
        "LEFT-FACING FIST,RIGHT-FACING FIST,HANDSHAKE,HAND WITH INDEX AND MIDDLE FINGERS CROSSED",
        "I LOVE YOU HAND SIGN,FACE WITH COWBOY HAT,CLOWN FACE,NAUSEATED FACE",
        "ROLLING ON THE FLOOR LAUGHING,DROOLING FACE,LYING FACE,FACE PALM,SNEEZING FACE",
        "FACE WITH ONE EYEBROW RAISED,GRINNING FACE WITH STAR EYES",
        "GRINNING FACE WITH ONE LARGE AND ONE SMALL EYE,FACE WITH FINGER COVERING CLOSED LIPS",
        "SERIOUS FACE WITH SYMBOLS COVERING MOUTH",
        "SMILING FACE WITH SMILING EYES AND HAND COVERING MOUTH,FACE WITH OPEN MOUTH VOMITING",
        "SHOCKED FACE WITH EXPLODING HEAD,PREGNANT WOMAN,BREAST-FEEDING,PALMS UP TOGETHER,SELFIE",
        "PRINCE,MAN IN TUXEDO,MOTHER CHRISTMAS,SHRUG,PERSON DOING CARTWHEEL,JUGGLING,FENCER",
        "MODERN PENTATHLON,WRESTLERS,WATER POLO,HANDBALL,DIVING MASK,WILTED FLOWER",
        "DRUM WITH DRUMSTICKS,CLINKING GLASSES,TUMBLER GLASS,SPOON,GOAL NET,RIFLE",
        "FIRST PLACE MEDAL,SECOND PLACE MEDAL,THIRD PLACE MEDAL,BOXING GLOVE",
        "MARTIAL ARTS UNIFORM,CURLING STONE,LACROSSE STICK AND BALL,SOFTBALL,FLYING DISC",
        "CROISSANT,AVOCADO,CUCUMBER,BACON,POTATO,CARROT,BAGUETTE BREAD,GREEN SALAD",
        "SHALLOW PAN OF FOOD,STUFFED FLATBREAD,EGG,GLASS OF MILK,PEANUTS,KIWIFRUIT,PANCAKES",
        "DUMPLING,FORTUNE COOKIE,TAKEOUT BOX,CHOPSTICKS,BOWL WITH SPOON,CUP WITH STRAW,COCONUT",
        "BROCCOLI,PIE,PRETZEL,CUT OF MEAT,SANDWICH,CANNED FOOD,LEAFY GREEN,MANGO,MOON CAKE,BAGEL",
        "SMILING FACE WITH SMILING EYES AND THREE HEARTS,YAWNING FACE,SMILING FACE WITH TEAR",
        "FACE WITH PARTY HORN AND PARTY HAT,FACE WITH UNEVEN EYES AND WAVY MOUTH,OVERHEATED FACE",
        "FREEZING FACE,NINJA,DISGUISED FACE,FACE HOLDING BACK TEARS,FACE WITH PLEADING EYES,SARI",
        "LAB COAT,GOGGLES,HIKING BOOT,FLAT SHOE,CRAB,LION FACE,SCORPION,TURKEY,UNICORN FACE",
        "EAGLE,DUCK,BAT,SHARK,OWL,FOX FACE,BUTTERFLY,DEER,GORILLA,LIZARD,RHINOCEROS,SHRIMP,SQUID",
        "GIRAFFE FACE,ZEBRA FACE,HEDGEHOG,SAUROPOD,T-REX,CRICKET,KANGAROO,LLAMA,PEACOCK",
        "HIPPOPOTAMUS,PARROT,RACCOON,LOBSTER,MOSQUITO,MICROBE,BADGER,SWAN,MAMMOTH,DODO,SLOTH",
        "OTTER,ORANGUTAN,SKUNK,FLAMINGO,OYSTER,BEAVER,BISON,SEAL,GUIDE DOG,PROBING CANE"]⟩,
    ⟨129456, "EMOJI COMPONENT", ["RED HAIR,CURLY HAIR,BALD,WHITE HAIR"]⟩,
    ⟨129460, "",
      ["BONE,LEG,FOOT,TOOTH,SUPERHERO,SUPERVILLAIN,SAFETY VEST,EAR WITH HEARING AID",
        "MOTORIZED WHEELCHAIR,MANUAL WHEELCHAIR,MECHANICAL ARM,MECHANICAL LEG,CHEESE WEDGE",
        "CUPCAKE,SALT SHAKER,BEVERAGE BOX,GARLIC,ONION,FALAFEL,WAFFLE,BUTTER,MATE DRINK,ICE CUBE",
        "BUBBLE TEA,TROLL,STANDING PERSON,KNEELING PERSON,DEAF PERSON,FACE WITH MONOCLE,ADULT",
        "CHILD,OLDER ADULT,BEARDED PERSON,PERSON WITH HEADSCARF,PERSON IN STEAMY ROOM",
        "PERSON CLIMBING,PERSON IN LOTUS POSITION,MAGE,FAIRY,VAMPIRE,MERPERSON,ELF,GENIE,ZOMBIE",
        "BRAIN,ORANGE HEART,BILLED CAP,SCARF,GLOVES,COAT,SOCKS,RED GIFT ENVELOPE,FIRECRACKER",
        "JIGSAW PUZZLE PIECE,TEST TUBE,PETRI DISH,DNA DOUBLE HELIX,COMPASS,ABACUS",
        "FIRE EXTINGUISHER,TOOLBOX,BRICK,MAGNET,LUGGAGE,LOTION BOTTLE,SPOOL OF THREAD",
        "BALL OF YARN,SAFETY PIN,TEDDY BEAR,BROOM,BASKET,ROLL OF PAPER,BAR OF SOAP,SPONGE",
        "RECEIPT,NAZAR AMULET"]⟩,
    ⟨129536, "NEUTRAL CHESS", ["KING,QUEEN,ROOK,BISHOP,KNIGHT,PAWN"]⟩,
    ⟨129542, "",
      ["WHITE CHESS KNIGHT ROTATED FORTY-FIVE DEGREES",
        "BLACK CHESS KNIGHT ROTATED FORTY-FIVE DEGREES",
        "NEUTRAL CHESS KNIGHT ROTATED FORTY-FIVE DEGREES"]⟩,
    ⟨129545, "WHITE CHESS",
      ["KING ROTATED NINETY DEGREES,QUEEN ROTATED NINETY DEGREES,ROOK ROTATED NINETY DEGREES",
        "BISHOP ROTATED NINETY DEGREES,KNIGHT ROTATED NINETY DEGREES,PAWN ROTATED NINETY DEGREES"]⟩,
    ⟨129551, "BLACK CHESS",
      ["KING ROTATED NINETY DEGREES,QUEEN ROTATED NINETY DEGREES,ROOK ROTATED NINETY DEGREES",
        "BISHOP ROTATED NINETY DEGREES,KNIGHT ROTATED NINETY DEGREES,PAWN ROTATED NINETY DEGREES"]⟩,
    ⟨129557, "NEUTRAL CHESS",
      ["KING ROTATED NINETY DEGREES,QUEEN ROTATED NINETY DEGREES,ROOK ROTATED NINETY DEGREES",
        "BISHOP ROTATED NINETY DEGREES,KNIGHT ROTATED NINETY DEGREES,PAWN ROTATED NINETY DEGREES"]⟩,
    ⟨129563, "",
      ["WHITE CHESS KNIGHT ROTATED ONE HUNDRED THIRTY-FIVE DEGREES",
        "BLACK CHESS KNIGHT ROTATED ONE HUNDRED THIRTY-FIVE DEGREES",
        "NEUTRAL CHESS KNIGHT ROTATED ONE HUNDRED THIRTY-FIVE DEGREES"]⟩,
    ⟨129566, "WHITE CHESS TURNED", ["KING,QUEEN,ROOK,BISHOP,KNIGHT,PAWN"]⟩,
    ⟨129572, "BLACK CHESS TURNED", ["KING,QUEEN,ROOK,BISHOP,KNIGHT,PAWN"]⟩,
    ⟨129578, "NEUTRAL CHESS TURNED", ["KING,QUEEN,ROOK,BISHOP,KNIGHT,PAWN"]⟩,
    ⟨129584, "",
      ["WHITE CHESS KNIGHT ROTATED TWO HUNDRED TWENTY-FIVE DEGREES",
        "BLACK CHESS KNIGHT ROTATED TWO HUNDRED TWENTY-FIVE DEGREES",
        "NEUTRAL CHESS KNIGHT ROTATED TWO HUNDRED TWENTY-FIVE DEGREES"]⟩,
    ⟨129587, "WHITE CHESS",
      ["KING ROTATED TWO HUNDRED SEVENTY DEGREES,QUEEN ROTATED TWO HUNDRED SEVENTY DEGREES",
        "ROOK ROTATED TWO HUNDRED SEVENTY DEGREES,BISHOP ROTATED TWO HUNDRED SEVENTY DEGREES",
        "KNIGHT ROTATED TWO HUNDRED SEVENTY DEGREES,PAWN ROTATED TWO HUNDRED SEVENTY DEGREES"]⟩,
    ⟨129593, "BLACK CHESS",
      ["KING ROTATED TWO HUNDRED SEVENTY DEGREES,QUEEN ROTATED TWO HUNDRED SEVENTY DEGREES",
        "ROOK ROTATED TWO HUNDRED SEVENTY DEGREES,BISHOP ROTATED TWO HUNDRED SEVENTY DEGREES",
        "KNIGHT ROTATED TWO HUNDRED SEVENTY DEGREES,PAWN ROTATED TWO HUNDRED SEVENTY DEGREES"]⟩,
    ⟨129599, "NEUTRAL CHESS",
      ["KING ROTATED TWO HUNDRED SEVENTY DEGREES,QUEEN ROTATED TWO HUNDRED SEVENTY DEGREES",
        "ROOK ROTATED TWO HUNDRED SEVENTY DEGREES,BISHOP ROTATED TWO HUNDRED SEVENTY DEGREES",
        "KNIGHT ROTATED TWO HUNDRED SEVENTY DEGREES,PAWN ROTATED TWO HUNDRED SEVENTY DEGREES"]⟩,
    ⟨129605, "",
      ["WHITE CHESS KNIGHT ROTATED THREE HUNDRED FIFTEEN DEGREES",
        "BLACK CHESS KNIGHT ROTATED THREE HUNDRED FIFTEEN DEGREES",
        "NEUTRAL CHESS KNIGHT ROTATED THREE HUNDRED FIFTEEN DEGREES,WHITE CHESS EQUIHOPPER",
        "BLACK CHESS EQUIHOPPER,NEUTRAL CHESS EQUIHOPPER",
        "WHITE CHESS EQUIHOPPER ROTATED NINETY DEGREES",
        "BLACK CHESS EQUIHOPPER ROTATED NINETY DEGREES",
        "NEUTRAL CHESS EQUIHOPPER ROTATED NINETY DEGREES"]⟩,
    ⟨129614, "WHITE CHESS", ["KNIGHT-QUEEN,KNIGHT-ROOK,KNIGHT-BISHOP"]⟩,
    ⟨129617, "BLACK CHESS", ["KNIGHT-QUEEN,KNIGHT-ROOK,KNIGHT-BISHOP"]⟩,
    ⟨129632, "XIANGQI RED", ["GENERAL,MANDARIN,ELEPHANT,HORSE,CHARIOT,CANNON,SOLDIER"]⟩,
    ⟨129639, "XIANGQI BLACK", ["GENERAL,MANDARIN,ELEPHANT,HORSE,CHARIOT,CANNON,SOLDIER"]⟩,
    ⟨129648, "", ["BALLET SHOES,ONE-PIECE SWIMSUIT,BRIEFS,SHORTS,THONG SANDAL"]⟩,
    ⟨129656, "", ["DROP OF BLOOD,ADHESIVE BANDAGE,STETHOSCOPE,X-RAY,CRUTCH"]⟩,
    ⟨129664, "", ["YO-YO,KITE,PARACHUTE,BOOMERANG,MAGIC WAND,PINATA,NESTING DOLLS"]⟩,
    ⟨129680, "",
      ["RINGED PLANET,CHAIR,RAZOR,AXE,DIYA LAMP,BANJO,MILITARY HELMET,ACCORDION,LONG DRUM,COIN",
        "CARPENTRY SAW,SCREWDRIVER,LADDER,HOOK,\x4dIRROR,WINDOW,PLUNGER,SEWING NEEDLE,KNOT",
        "BUCKET,MOUSE TRAP,TOOTHBRUSH,HEADSTONE,PLACARD,ROCK,\x4dIRROR BALL,IDENTIFICATION CARD",
        "LOW BATTERY,HAMSA"]⟩,
    ⟨129712, "",
      ["FLY,WORM,BEETLE,COCKROACH,POTTED PLANT,WOOD,FEATHER,LOTUS,CORAL,EMPTY NEST",
        "NEST WITH EGGS"]⟩,
    ⟨129728, "",
      ["ANATOMICAL HEART,LUNGS,PEOPLE HUGGING,PREGNANT MAN,PREGNANT PERSON,PERSON WITH CROWN"]⟩,
    ⟨129744, "",
      ["BLUEBERRIES,BELL PEPPER,OLIVE,FLATBREAD,TAMALE,FONDUE,TEAPOT,POURING LIQUID,BEANS,JAR"]⟩,
    ⟨129760, "",
      ["MELTING FACE,SALUTING FACE,FACE WITH OPEN EYES AND HAND OVER MOUTH",
        "FACE WITH PEEKING EYE,FACE WITH DIAGONAL MOUTH,DOTTED LINE FACE,BITING LIP,BUBBLES"]⟩,
    ⟨129776, "",
      ["HAND WITH INDEX FINGER AND THUMB CROSSED,RIGHTWARDS HAND,LEFTWARDS HAND,PALM DOWN HAND",
        "PALM UP HAND,INDEX POINTING AT THE VIEWER,HEART HANDS"]⟩,
    ⟨129792, "BLOCK",
      ["SEXTANT-1,SEXTANT-2,SEXTANT-12,SEXTANT-3,SEXTANT-13,SEXTANT-23,SEXTANT-123,SEXTANT-4",
        "SEXTANT-14,SEXTANT-24,SEXTANT-124,SEXTANT-34,SEXTANT-134,SEXTANT-234,SEXTANT-1234",
        "SEXTANT-5,SEXTANT-15,SEXTANT-25,SEXTANT-125,SEXTANT-35,SEXTANT-235,SEXTANT-1235",
        "SEXTANT-45,SEXTANT-145,SEXTANT-245,SEXTANT-1245,SEXTANT-345,SEXTANT-1345,SEXTANT-2345",
        "SEXTANT-12345,SEXTANT-6,SEXTANT-16,SEXTANT-26,SEXTANT-126,SEXTANT-36,SEXTANT-136",
        "SEXTANT-236,SEXTANT-1236,SEXTANT-46,SEXTANT-146,SEXTANT-1246,SEXTANT-346,SEXTANT-1346",
        "SEXTANT-2346,SEXTANT-12346,SEXTANT-56,SEXTANT-156,SEXTANT-256,SEXTANT-1256,SEXTANT-356",
        "SEXTANT-1356,SEXTANT-2356,SEXTANT-12356,SEXTANT-456,SEXTANT-1456,SEXTANT-2456",
        "SEXTANT-12456,SEXTANT-3456,SEXTANT-13456,SEXTANT-23456"]⟩,
    ⟨129852, "LOWER LEFT BLOCK DIAGONAL",
      ["LOWER MIDDLE LEFT TO LOWER CENTRE,LOWER MIDDLE LEFT TO LOWER RIGHT",
        "UPPER MIDDLE LEFT TO LOWER CENTRE,UPPER MIDDLE LEFT TO LOWER RIGHT",
        "UPPER LEFT TO LOWER CENTRE"]⟩,
    ⟨129857, "LOWER RIGHT BLOCK DIAGONAL UPPER MIDDLE LEFT TO UPPER", ["CENTRE,RIGHT"]⟩,
    ⟨129859, "LOWER RIGHT BLOCK DIAGONAL LOWER",
      ["MIDDLE LEFT TO UPPER CENTRE,MIDDLE LEFT TO UPPER RIGHT,LEFT TO UPPER CENTRE",
        "MIDDLE LEFT TO UPPER MIDDLE RIGHT,CENTRE TO LOWER MIDDLE RIGHT",
        "LEFT TO LOWER MIDDLE RIGHT,CENTRE TO UPPER MIDDLE RIGHT,LEFT TO UPPER MIDDLE RIGHT",
        "CENTRE TO UPPER RIGHT"]⟩,
    ⟨129868, "LOWER LEFT BLOCK DIAGONAL UPPER",
      ["CENTRE TO UPPER MIDDLE RIGHT,LEFT TO UPPER MIDDLE RIGHT,CENTRE TO LOWER MIDDLE RIGHT",
        "LEFT TO LOWER MIDDLE RIGHT,CENTRE TO LOWER RIGHT,MIDDLE LEFT TO LOWER MIDDLE RIGHT"]⟩,
    ⟨129874, "UPPER RIGHT BLOCK DIAGONAL",
      ["LOWER MIDDLE LEFT TO LOWER CENTRE,LOWER MIDDLE LEFT TO LOWER RIGHT",
        "UPPER MIDDLE LEFT TO LOWER CENTRE,UPPER MIDDLE LEFT TO LOWER RIGHT",
        "UPPER LEFT TO LOWER CENTRE"]⟩,
    ⟨129879, "UPPER LEFT BLOCK DIAGONAL UPPER MIDDLE LEFT TO UPPER", ["CENTRE,RIGHT"]⟩,
    ⟨129881, "UPPER LEFT BLOCK DIAGONAL LOWER",
      ["MIDDLE LEFT TO UPPER CENTRE,MIDDLE LEFT TO UPPER RIGHT,LEFT TO UPPER CENTRE",
        "MIDDLE LEFT TO UPPER MIDDLE RIGHT,CENTRE TO LOWER MIDDLE RIGHT",
        "LEFT TO LOWER MIDDLE RIGHT,CENTRE TO UPPER MIDDLE RIGHT,LEFT TO UPPER MIDDLE RIGHT",
        "CENTRE TO UPPER RIGHT"]⟩,
    ⟨129890, "UPPER RIGHT BLOCK DIAGONAL UPPER",
      ["CENTRE TO UPPER MIDDLE RIGHT,LEFT TO UPPER MIDDLE RIGHT,CENTRE TO LOWER MIDDLE RIGHT",
        "LEFT TO LOWER MIDDLE RIGHT,CENTRE TO LOWER RIGHT,MIDDLE LEFT TO LOWER MIDDLE RIGHT"]⟩,
    ⟨129896, "",
      ["UPPER AND RIGHT AND LOWER TRIANGULAR THREE QUARTERS BLOCK",
        "LEFT AND LOWER AND RIGHT TRIANGULAR THREE QUARTERS BLOCK",
        "UPPER AND LEFT AND LOWER TRIANGULAR THREE QUARTERS BLOCK",
        "LEFT AND UPPER AND RIGHT TRIANGULAR THREE QUARTERS BLOCK",
        "LEFT TRIANGULAR ONE QUARTER BLOCK,UPPER TRIANGULAR ONE QUARTER BLOCK",
        "RIGHT TRIANGULAR ONE QUARTER BLOCK,LOWER TRIANGULAR ONE QUARTER BLOCK"]⟩,
    ⟨129904, "VERTICAL ONE EIGHTH", ["BLOCK-2,BLOCK-3,BLOCK-4,BLOCK-5,BLOCK-6,BLOCK-7"]⟩,
    ⟨129910, "HORIZONTAL ONE EIGHTH", ["BLOCK-2,BLOCK-3,BLOCK-4,BLOCK-5,BLOCK-6,BLOCK-7"]⟩,
    ⟨129916, "",
      ["LEFT AND LOWER ONE EIGHTH BLOCK,LEFT AND UPPER ONE EIGHTH BLOCK",
        "RIGHT AND UPPER ONE EIGHTH BLOCK,RIGHT AND LOWER ONE EIGHTH BLOCK",
        "UPPER AND LOWER ONE EIGHTH BLOCK,HORIZONTAL ONE EIGHTH BLOCK-1358"]⟩,
    ⟨129922, "UPPER",
      ["ONE QUARTER BLOCK,THREE EIGHTHS BLOCK,FIVE EIGHTHS BLOCK,THREE QUARTERS BLOCK",
        "SEVEN EIGHTHS BLOCK"]⟩,
    ⟨129927, "RIGHT",
      ["ONE QUARTER BLOCK,THREE EIGHTHS BLOCK,FIVE EIGHTHS BLOCK,THREE QUARTERS BLOCK",
        "SEVEN EIGHTHS BLOCK"]⟩,
    ⟨129932, "",
      ["LEFT HALF MEDIUM SHADE,RIGHT HALF MEDIUM SHADE,UPPER HALF MEDIUM SHADE",
        "LOWER HALF MEDIUM SHADE,INVERSE MEDIUM SHADE",
        "UPPER HALF BLOCK AND LOWER HALF INVERSE MEDIUM SHADE",
        "UPPER HALF INVERSE MEDIUM SHADE AND LOWER HALF BLOCK"]⟩,
    ⟨129940, "",
      ["LEFT HALF INVERSE MEDIUM SHADE AND RIGHT HALF BLOCK,CHECKER BOARD FILL",
        "INVERSE CHECKER BOARD FILL,HEAVY HORIZONTAL FILL,UPPER LEFT TO LOWER RIGHT FILL",
        "UPPER RIGHT TO LOWER LEFT FILL,UPPER AND LOWER TRIANGULAR HALF BLOCK",
        "LEFT AND RIGHT TRIANGULAR HALF BLOCK,UPPER LEFT TRIANGULAR MEDIUM SHADE",
        "UPPER RIGHT TRIANGULAR MEDIUM SHADE,LOWER RIGHT TRIANGULAR MEDIUM SHADE",
        "LOWER LEFT TRIANGULAR MEDIUM SHADE"]⟩,
    ⟨129952, "BOX DRAWINGS LIGHT DIAGONAL",
      ["UPPER CENTRE TO MIDDLE LEFT,UPPER CENTRE TO MIDDLE RIGHT,MIDDLE LEFT TO LOWER CENTRE",
        "MIDDLE RIGHT TO LOWER CENTRE,UPPER CENTRE TO MIDDLE LEFT TO LOWER CENTRE",
        "UPPER CENTRE TO MIDDLE RIGHT TO LOWER CENTRE",
        "MIDDLE LEFT TO LOWER CENTRE TO MIDDLE RIGHT,MIDDLE LEFT TO UPPER CENTRE TO MIDDLE RIGHT",
        "UPPER CENTRE TO MIDDLE LEFT AND MIDDLE RIGHT TO LOWER CENTRE",
        "UPPER CENTRE TO MIDDLE RIGHT AND MIDDLE LEFT TO LOWER CENTRE",
        "UPPER CENTRE TO MIDDLE RIGHT TO LOWER CENTRE TO MIDDLE LEFT",
        "UPPER CENTRE TO MIDDLE LEFT TO LOWER CENTRE TO MIDDLE RIGHT",
        "MIDDLE LEFT TO UPPER CENTRE TO MIDDLE RIGHT TO LOWER CENTRE",
        "MIDDLE RIGHT TO UPPER CENTRE TO MIDDLE LEFT TO LOWER CENTRE,DIAMOND"]⟩,
    ⟨129967, "",
      ["BOX DRAWINGS LIGHT HORIZONTAL WITH VERTICAL STROKE,ARROWHEAD-SHAPED POINTER",
        "INVERSE CHECK MARK,LEFT HALF RUNNING MAN,RIGHT HALF RUNNING MAN",
        "INVERSE DOWNWARDS ARROW WITH TIP LEFTWARDS",
        "LEFTWARDS ARROW AND UPPER AND LOWER ONE EIGHTH BLOCK",
        "RIGHTWARDS ARROW AND UPPER AND LOWER ONE EIGHTH BLOCK",
        "DOWNWARDS ARROW AND RIGHT ONE EIGHTH BLOCK,UPWARDS ARROW AND RIGHT ONE EIGHTH BLOCK",
        "LEFT HALF FOLDER,RIGHT HALF FOLDER,VOIDED GREEK CROSS,RIGHT OPEN SQUARED DOT"]⟩,
    ⟨129981, "NEGATIVE DIAGONAL", ["CROSS,MIDDLE RIGHT TO LOWER CENTRE,DIAMOND"]⟩,
    ⟨129984, "",
      ["WHITE HEAVY SALTIRE WITH ROUNDED CORNERS,LEFT THIRD WHITE RIGHT POINTING INDEX",
        "MIDDLE THIRD WHITE RIGHT POINTING INDEX,RIGHT THIRD WHITE RIGHT POINTING INDEX",
        "NEGATIVE SQUARED QUESTION MARK,STICK FIGURE"]⟩,
    ⟨129990, "STICK FIGURE", ["WITH ARMS RAISED,LEANING LEFT,LEANING RIGHT,WITH DRESS"]⟩,
    ⟨129994, "WHITE UP-POINTING", ["CHEVRON"]⟩,
    ⟨130032, "SEGMENTED DIGIT", ["ZERO,ONE,TWO,THREE,FOUR,FIVE,SIX,SEVEN,EIGHT,NINE"]⟩,
    ⟨194560, "CJK COMPATIBILITY",
      ["IDEOGRAPH-2F800,IDEOGRAPH-2F801,IDEOGRAPH-2F802,IDEOGRAPH-2F803,IDEOGRAPH-2F804",
        "IDEOGRAPH-2F805,IDEOGRAPH-2F806,IDEOGRAPH-2F807,IDEOGRAPH-2F808,IDEOGRAPH-2F809",
        "IDEOGRAPH-2F80A,IDEOGRAPH-2F80B,IDEOGRAPH-2F80C,IDEOGRAPH-2F80D,IDEOGRAPH-2F80E",
        "IDEOGRAPH-2F80F,IDEOGRAPH-2F810,IDEOGRAPH-2F811,IDEOGRAPH-2F812,IDEOGRAPH-2F813",
        "IDEOGRAPH-2F814,IDEOGRAPH-2F815,IDEOGRAPH-2F816,IDEOGRAPH-2F817,IDEOGRAPH-2F818",
        "IDEOGRAPH-2F819,IDEOGRAPH-2F81A,IDEOGRAPH-2F81B,IDEOGRAPH-2F81C,IDEOGRAPH-2F81D",
        "IDEOGRAPH-2F81E,IDEOGRAPH-2F81F,IDEOGRAPH-2F820,IDEOGRAPH-2F821,IDEOGRAPH-2F822",
        "IDEOGRAPH-2F823,IDEOGRAPH-2F824,IDEOGRAPH-2F825,IDEOGRAPH-2F826,IDEOGRAPH-2F827",
        "IDEOGRAPH-2F828,IDEOGRAPH-2F829,IDEOGRAPH-2F82A,IDEOGRAPH-2F82B,IDEOGRAPH-2F82C",
        "IDEOGRAPH-2F82D,IDEOGRAPH-2F82E,IDEOGRAPH-2F82F,IDEOGRAPH-2F830,IDEOGRAPH-2F831",
        "IDEOGRAPH-2F832,IDEOGRAPH-2F833,IDEOGRAPH-2F834,IDEOGRAPH-2F835,IDEOGRAPH-2F836",
        "IDEOGRAPH-2F837,IDEOGRAPH-2F838,IDEOGRAPH-2F839,IDEOGRAPH-2F83A,IDEOGRAPH-2F83B",
        "IDEOGRAPH-2F83C,IDEOGRAPH-2F83D,IDEOGRAPH-2F83E,IDEOGRAPH-2F83F,IDEOGRAPH-2F840",
        "IDEOGRAPH-2F841,IDEOGRAPH-2F842,IDEOGRAPH-2F843,IDEOGRAPH-2F844,IDEOGRAPH-2F845",
        "IDEOGRAPH-2F846,IDEOGRAPH-2F847,IDEOGRAPH-2F848,IDEOGRAPH-2F849,IDEOGRAPH-2F84A",
        "IDEOGRAPH-2F84B,IDEOGRAPH-2F84C,IDEOGRAPH-2F84D,IDEOGRAPH-2F84E,IDEOGRAPH-2F84F",
        "IDEOGRAPH-2F850,IDEOGRAPH-2F851,IDEOGRAPH-2F852,IDEOGRAPH-2F853,IDEOGRAPH-2F854",
        "IDEOGRAPH-2F855,IDEOGRAPH-2F856,IDEOGRAPH-2F857,IDEOGRAPH-2F858,IDEOGRAPH-2F859",
        "IDEOGRAPH-2F85A,IDEOGRAPH-2F85B,IDEOGRAPH-2F85C,IDEOGRAPH-2F85D,IDEOGRAPH-2F85E",
        "IDEOGRAPH-2F85F,IDEOGRAPH-2F860,IDEOGRAPH-2F861,IDEOGRAPH-2F862,IDEOGRAPH-2F863",
        "IDEOGRAPH-2F864,IDEOGRAPH-2F865,IDEOGRAPH-2F866,IDEOGRAPH-2F867,IDEOGRAPH-2F868",
        "IDEOGRAPH-2F869,IDEOGRAPH-2F86A,IDEOGRAPH-2F86B,IDEOGRAPH-2F86C,IDEOGRAPH-2F86D",
        "IDEOGRAPH-2F86E,IDEOGRAPH-2F86F,IDEOGRAPH-2F870,IDEOGRAPH-2F871,IDEOGRAPH-2F872",
        "IDEOGRAPH-2F873,IDEOGRAPH-2F874,IDEOGRAPH-2F875,IDEOGRAPH-2F876,IDEOGRAPH-2F877",
        "IDEOGRAPH-2F878,IDEOGRAPH-2F879,IDEOGRAPH-2F87A,IDEOGRAPH-2F87B,IDEOGRAPH-2F87C",
        "IDEOGRAPH-2F87D,IDEOGRAPH-2F87E,IDEOGRAPH-2F87F,IDEOGRAPH-2F880,IDEOGRAPH-2F881",
        "IDEOGRAPH-2F882,IDEOGRAPH-2F883,IDEOGRAPH-2F884,IDEOGRAPH-2F885,IDEOGRAPH-2F886",
        "IDEOGRAPH-2F887,IDEOGRAPH-2F888,IDEOGRAPH-2F889,IDEOGRAPH-2F88A,IDEOGRAPH-2F88B",
        "IDEOGRAPH-2F88C,IDEOGRAPH-2F88D,IDEOGRAPH-2F88E,IDEOGRAPH-2F88F,IDEOGRAPH-2F890",
        "IDEOGRAPH-2F891,IDEOGRAPH-2F892,IDEOGRAPH-2F893,IDEOGRAPH-2F894,IDEOGRAPH-2F895",
        "IDEOGRAPH-2F896,IDEOGRAPH-2F897,IDEOGRAPH-2F898,IDEOGRAPH-2F899,IDEOGRAPH-2F89A",
        "IDEOGRAPH-2F89B,IDEOGRAPH-2F89C,IDEOGRAPH-2F89D,IDEOGRAPH-2F89E,IDEOGRAPH-2F89F",
        "IDEOGRAPH-2F8A0,IDEOGRAPH-2F8A1,IDEOGRAPH-2F8A2,IDEOGRAPH-2F8A3,IDEOGRAPH-2F8A4",
        "IDEOGRAPH-2F8A5,IDEOGRAPH-2F8A6,IDEOGRAPH-2F8A7,IDEOGRAPH-2F8A8,IDEOGRAPH-2F8A9",
        "IDEOGRAPH-2F8AA,IDEOGRAPH-2F8AB,IDEOGRAPH-2F8AC,IDEOGRAPH-2F8AD,IDEOGRAPH-2F8AE",
        "IDEOGRAPH-2F8AF,IDEOGRAPH-2F8B0,IDEOGRAPH-2F8B1,IDEOGRAPH-2F8B2,IDEOGRAPH-2F8B3",
        "IDEOGRAPH-2F8B4,IDEOGRAPH-2F8B5,IDEOGRAPH-2F8B6,IDEOGRAPH-2F8B7,IDEOGRAPH-2F8B8",
        "IDEOGRAPH-2F8B9,IDEOGRAPH-2F8BA,IDEOGRAPH-2F8BB,IDEOGRAPH-2F8BC,IDEOGRAPH-2F8BD",
        "IDEOGRAPH-2F8BE,IDEOGRAPH-2F8BF,IDEOGRAPH-2F8C0,IDEOGRAPH-2F8C1,IDEOGRAPH-2F8C2",
        "IDEOGRAPH-2F8C3,IDEOGRAPH-2F8C4,IDEOGRAPH-2F8C5,IDEOGRAPH-2F8C6,IDEOGRAPH-2F8C7",
        "IDEOGRAPH-2F8C8,IDEOGRAPH-2F8C9,IDEOGRAPH-2F8CA,IDEOGRAPH-2F8CB,IDEOGRAPH-2F8CC",
        "IDEOGRAPH-2F8CD,IDEOGRAPH-2F8CE,IDEOGRAPH-2F8CF,IDEOGRAPH-2F8D0,IDEOGRAPH-2F8D1",
        "IDEOGRAPH-2F8D2,IDEOGRAPH-2F8D3,IDEOGRAPH-2F8D4,IDEOGRAPH-2F8D5,IDEOGRAPH-2F8D6",
        "IDEOGRAPH-2F8D7,IDEOGRAPH-2F8D8,IDEOGRAPH-2F8D9,IDEOGRAPH-2F8DA,IDEOGRAPH-2F8DB",
        "IDEOGRAPH-2F8DC,IDEOGRAPH-2F8DD,IDEOGRAPH-2F8DE,IDEOGRAPH-2F8DF,IDEOGRAPH-2F8E0",
        "IDEOGRAPH-2F8E1,IDEOGRAPH-2F8E2,IDEOGRAPH-2F8E3,IDEOGRAPH-2F8E4,IDEOGRAPH-2F8E5",
        "IDEOGRAPH-2F8E6,IDEOGRAPH-2F8E7,IDEOGRAPH-2F8E8,IDEOGRAPH-2F8E9,IDEOGRAPH-2F8EA",
        "IDEOGRAPH-2F8EB,IDEOGRAPH-2F8EC,IDEOGRAPH-2F8ED,IDEOGRAPH-2F8EE,IDEOGRAPH-2F8EF",
        "IDEOGRAPH-2F8F0,IDEOGRAPH-2F8F1,IDEOGRAPH-2F8F2,IDEOGRAPH-2F8F3,IDEOGRAPH-2F8F4",
        "IDEOGRAPH-2F8F5,IDEOGRAPH-2F8F6,IDEOGRAPH-2F8F7,IDEOGRAPH-2F8F8,IDEOGRAPH-2F8F9",
        "IDEOGRAPH-2F8FA,IDEOGRAPH-2F8FB,IDEOGRAPH-2F8FC,IDEOGRAPH-2F8FD,IDEOGRAPH-2F8FE",
        "IDEOGRAPH-2F8FF,IDEOGRAPH-2F900,IDEOGRAPH-2F901,IDEOGRAPH-2F902,IDEOGRAPH-2F903",
        "IDEOGRAPH-2F904,IDEOGRAPH-2F905,IDEOGRAPH-2F906,IDEOGRAPH-2F907,IDEOGRAPH-2F908",
        "IDEOGRAPH-2F909,IDEOGRAPH-2F90A,IDEOGRAPH-2F90B,IDEOGRAPH-2F90C,IDEOGRAPH-2F90D",
        "IDEOGRAPH-2F90E,IDEOGRAPH-2F90F,IDEOGRAPH-2F910,IDEOGRAPH-2F911,IDEOGRAPH-2F912",
        "IDEOGRAPH-2F913,IDEOGRAPH-2F914,IDEOGRAPH-2F915,IDEOGRAPH-2F916,IDEOGRAPH-2F917",
        "IDEOGRAPH-2F918,IDEOGRAPH-2F919,IDEOGRAPH-2F91A,IDEOGRAPH-2F91B,IDEOGRAPH-2F91C",
        "IDEOGRAPH-2F91D,IDEOGRAPH-2F91E,IDEOGRAPH-2F91F,IDEOGRAPH-2F920,IDEOGRAPH-2F921",
        "IDEOGRAPH-2F922,IDEOGRAPH-2F923,IDEOGRAPH-2F924,IDEOGRAPH-2F925,IDEOGRAPH-2F926",
        "IDEOGRAPH-2F927,IDEOGRAPH-2F928,IDEOGRAPH-2F929,IDEOGRAPH-2F92A,IDEOGRAPH-2F92B",
        "IDEOGRAPH-2F92C,IDEOGRAPH-2F92D,IDEOGRAPH-2F92E,IDEOGRAPH-2F92F,IDEOGRAPH-2F930",
        "IDEOGRAPH-2F931,IDEOGRAPH-2F932,IDEOGRAPH-2F933,IDEOGRAPH-2F934,IDEOGRAPH-2F935",
        "IDEOGRAPH-2F936,IDEOGRAPH-2F937,IDEOGRAPH-2F938,IDEOGRAPH-2F939,IDEOGRAPH-2F93A",
        "IDEOGRAPH-2F93B,IDEOGRAPH-2F93C,IDEOGRAPH-2F93D,IDEOGRAPH-2F93E,IDEOGRAPH-2F93F",
        "IDEOGRAPH-2F940,IDEOGRAPH-2F941,IDEOGRAPH-2F942,IDEOGRAPH-2F943,IDEOGRAPH-2F944",
        "IDEOGRAPH-2F945,IDEOGRAPH-2F946,IDEOGRAPH-2F947,IDEOGRAPH-2F948,IDEOGRAPH-2F949",
        "IDEOGRAPH-2F94A,IDEOGRAPH-2F94B,IDEOGRAPH-2F94C,IDEOGRAPH-2F94D,IDEOGRAPH-2F94E",
        "IDEOGRAPH-2F94F,IDEOGRAPH-2F950,IDEOGRAPH-2F951,IDEOGRAPH-2F952,IDEOGRAPH-2F953",
        "IDEOGRAPH-2F954,IDEOGRAPH-2F955,IDEOGRAPH-2F956,IDEOGRAPH-2F957,IDEOGRAPH-2F958",
        "IDEOGRAPH-2F959,IDEOGRAPH-2F95A,IDEOGRAPH-2F95B,IDEOGRAPH-2F95C,IDEOGRAPH-2F95D",
        "IDEOGRAPH-2F95E,IDEOGRAPH-2F95F,IDEOGRAPH-2F960,IDEOGRAPH-2F961,IDEOGRAPH-2F962",
        "IDEOGRAPH-2F963,IDEOGRAPH-2F964,IDEOGRAPH-2F965,IDEOGRAPH-2F966,IDEOGRAPH-2F967",
        "IDEOGRAPH-2F968,IDEOGRAPH-2F969,IDEOGRAPH-2F96A,IDEOGRAPH-2F96B,IDEOGRAPH-2F96C",
        "IDEOGRAPH-2F96D,IDEOGRAPH-2F96E,IDEOGRAPH-2F96F,IDEOGRAPH-2F970,IDEOGRAPH-2F971",
        "IDEOGRAPH-2F972,IDEOGRAPH-2F973,IDEOGRAPH-2F974,IDEOGRAPH-2F975,IDEOGRAPH-2F976",
        "IDEOGRAPH-2F977,IDEOGRAPH-2F978,IDEOGRAPH-2F979,IDEOGRAPH-2F97A,IDEOGRAPH-2F97B",
        "IDEOGRAPH-2F97C,IDEOGRAPH-2F97D,IDEOGRAPH-2F97E,IDEOGRAPH-2F97F,IDEOGRAPH-2F980",
        "IDEOGRAPH-2F981,IDEOGRAPH-2F982,IDEOGRAPH-2F983,IDEOGRAPH-2F984,IDEOGRAPH-2F985",
        "IDEOGRAPH-2F986,IDEOGRAPH-2F987,IDEOGRAPH-2F988,IDEOGRAPH-2F989,IDEOGRAPH-2F98A",
        "IDEOGRAPH-2F98B,IDEOGRAPH-2F98C,IDEOGRAPH-2F98D,IDEOGRAPH-2F98E,IDEOGRAPH-2F98F",
        "IDEOGRAPH-2F990,IDEOGRAPH-2F991,IDEOGRAPH-2F992,IDEOGRAPH-2F993,IDEOGRAPH-2F994",
        "IDEOGRAPH-2F995,IDEOGRAPH-2F996,IDEOGRAPH-2F997,IDEOGRAPH-2F998,IDEOGRAPH-2F999",
        "IDEOGRAPH-2F99A,IDEOGRAPH-2F99B,IDEOGRAPH-2F99C,IDEOGRAPH-2F99D,IDEOGRAPH-2F99E",
        "IDEOGRAPH-2F99F,IDEOGRAPH-2F9A0,IDEOGRAPH-2F9A1,IDEOGRAPH-2F9A2,IDEOGRAPH-2F9A3",
        "IDEOGRAPH-2F9A4,IDEOGRAPH-2F9A5,IDEOGRAPH-2F9A6,IDEOGRAPH-2F9A7,IDEOGRAPH-2F9A8",
        "IDEOGRAPH-2F9A9,IDEOGRAPH-2F9AA,IDEOGRAPH-2F9AB,IDEOGRAPH-2F9AC,IDEOGRAPH-2F9AD",
        "IDEOGRAPH-2F9AE,IDEOGRAPH-2F9AF,IDEOGRAPH-2F9B0,IDEOGRAPH-2F9B1,IDEOGRAPH-2F9B2",
        "IDEOGRAPH-2F9B3,IDEOGRAPH-2F9B4,IDEOGRAPH-2F9B5,IDEOGRAPH-2F9B6,IDEOGRAPH-2F9B7",
        "IDEOGRAPH-2F9B8,IDEOGRAPH-2F9B9,IDEOGRAPH-2F9BA,IDEOGRAPH-2F9BB,IDEOGRAPH-2F9BC",
        "IDEOGRAPH-2F9BD,IDEOGRAPH-2F9BE,IDEOGRAPH-2F9BF,IDEOGRAPH-2F9C0,IDEOGRAPH-2F9C1",
        "IDEOGRAPH-2F9C2,IDEOGRAPH-2F9C3,IDEOGRAPH-2F9C4,IDEOGRAPH-2F9C5,IDEOGRAPH-2F9C6",
        "IDEOGRAPH-2F9C7,IDEOGRAPH-2F9C8,IDEOGRAPH-2F9C9,IDEOGRAPH-2F9CA,IDEOGRAPH-2F9CB",
        "IDEOGRAPH-2F9CC,IDEOGRAPH-2F9CD,IDEOGRAPH-2F9CE,IDEOGRAPH-2F9CF,IDEOGRAPH-2F9D0",
        "IDEOGRAPH-2F9D1,IDEOGRAPH-2F9D2,IDEOGRAPH-2F9D3,IDEOGRAPH-2F9D4,IDEOGRAPH-2F9D5",
        "IDEOGRAPH-2F9D6,IDEOGRAPH-2F9D7,IDEOGRAPH-2F9D8,IDEOGRAPH-2F9D9,IDEOGRAPH-2F9DA",
        "IDEOGRAPH-2F9DB,IDEOGRAPH-2F9DC,IDEOGRAPH-2F9DD,IDEOGRAPH-2F9DE,IDEOGRAPH-2F9DF",
        "IDEOGRAPH-2F9E0,IDEOGRAPH-2F9E1,IDEOGRAPH-2F9E2,IDEOGRAPH-2F9E3,IDEOGRAPH-2F9E4",
        "IDEOGRAPH-2F9E5,IDEOGRAPH-2F9E6,IDEOGRAPH-2F9E7,IDEOGRAPH-2F9E8,IDEOGRAPH-2F9E9",
        "IDEOGRAPH-2F9EA,IDEOGRAPH-2F9EB,IDEOGRAPH-2F9EC,IDEOGRAPH-2F9ED,IDEOGRAPH-2F9EE",
        "IDEOGRAPH-2F9EF,IDEOGRAPH-2F9F0,IDEOGRAPH-2F9F1,IDEOGRAPH-2F9F2,IDEOGRAPH-2F9F3",
        "IDEOGRAPH-2F9F4,IDEOGRAPH-2F9F5,IDEOGRAPH-2F9F6,IDEOGRAPH-2F9F7,IDEOGRAPH-2F9F8",
        "IDEOGRAPH-2F9F9,IDEOGRAPH-2F9FA,IDEOGRAPH-2F9FB,IDEOGRAPH-2F9FC,IDEOGRAPH-2F9FD",
        "IDEOGRAPH-2F9FE,IDEOGRAPH-2F9FF,IDEOGRAPH-2FA00,IDEOGRAPH-2FA01,IDEOGRAPH-2FA02",
        "IDEOGRAPH-2FA03,IDEOGRAPH-2FA04,IDEOGRAPH-2FA05,IDEOGRAPH-2FA06,IDEOGRAPH-2FA07",
        "IDEOGRAPH-2FA08,IDEOGRAPH-2FA09,IDEOGRAPH-2FA0A,IDEOGRAPH-2FA0B,IDEOGRAPH-2FA0C",
        "IDEOGRAPH-2FA0D,IDEOGRAPH-2FA0E,IDEOGRAPH-2FA0F,IDEOGRAPH-2FA10,IDEOGRAPH-2FA11",
        "IDEOGRAPH-2FA12,IDEOGRAPH-2FA13,IDEOGRAPH-2FA14,IDEOGRAPH-2FA15,IDEOGRAPH-2FA16",
        "IDEOGRAPH-2FA17,IDEOGRAPH-2FA18,IDEOGRAPH-2FA19,IDEOGRAPH-2FA1A,IDEOGRAPH-2FA1B",
        "IDEOGRAPH-2FA1C,IDEOGRAPH-2FA1D"]⟩,
    ⟨917505, "LANGUAGE", ["TAG"]⟩,
    ⟨917536, "TAG",
      ["SPACE,EXCLAMATION MARK,QUOTATION MARK,NUMBER SIGN,DOLLAR SIGN,PERCENT SIGN,AMPERSAND",
        "APOSTROPHE,LEFT PARENTHESIS,RIGHT PARENTHESIS,ASTERISK,PLUS SIGN,COMMA,HYPHEN-MINUS",
        "FULL STOP,SOLIDUS"]⟩,
    ⟨917552, "TAG DIGIT", ["ZERO,ONE,TWO,THREE,FOUR,FIVE,SIX,SEVEN,EIGHT,NINE"]⟩,
    ⟨917562, "TAG",
      ["COLON,SEMICOLON,LESS-THAN SIGN,EQUALS SIGN,GREATER-THAN SIGN,QUESTION MARK",
        "COMMERCIAL AT"]⟩,
    ⟨917569, "TAG LATIN CAPITAL LETTER", ["A,B,C,D,E,F,G,H,I,J,K,L,M,N,O,P,Q,R,S,T,U,V,W,X,Y,Z"]⟩,
    ⟨917595, "TAG",
      ["LEFT SQUARE BRACKET,REVERSE SOLIDUS,RIGHT SQUARE BRACKET,CIRCUMFLEX ACCENT,LOW LINE",
        "GRAVE ACCENT"]⟩,
    ⟨917601, "TAG LATIN SMALL LETTER", ["A,B,C,D,E,F,G,H,I,J,K,L,M,N,O,P,Q,R,S,T,U,V,W,X,Y,Z"]⟩,
    ⟨917627, "",
      ["TAG LEFT CURLY BRACKET,TAG VERTICAL LINE,TAG RIGHT CURLY BRACKET,TAG TILDE,CANCEL TAG"]⟩,
    ⟨917760, "VARIATION",
      ["SELECTOR-17,SELECTOR-18,SELECTOR-19,SELECTOR-20,SELECTOR-21,SELECTOR-22,SELECTOR-23",
        "SELECTOR-24,SELECTOR-25,SELECTOR-26,SELECTOR-27,SELECTOR-28,SELECTOR-29,SELECTOR-30",
        "SELECTOR-31,SELECTOR-32,SELECTOR-33,SELECTOR-34,SELECTOR-35,SELECTOR-36,SELECTOR-37",
        "SELECTOR-38,SELECTOR-39,SELECTOR-40,SELECTOR-41,SELECTOR-42,SELECTOR-43,SELECTOR-44",
        "SELECTOR-45,SELECTOR-46,SELECTOR-47,SELECTOR-48,SELECTOR-49,SELECTOR-50,SELECTOR-51",
        "SELECTOR-52,SELECTOR-53,SELECTOR-54,SELECTOR-55,SELECTOR-56,SELECTOR-57,SELECTOR-58",
        "SELECTOR-59,SELECTOR-60,SELECTOR-61,SELECTOR-62,SELECTOR-63,SELECTOR-64,SELECTOR-65",
        "SELECTOR-66,SELECTOR-67,SELECTOR-68,SELECTOR-69,SELECTOR-70,SELECTOR-71,SELECTOR-72",
        "SELECTOR-73,SELECTOR-74,SELECTOR-75,SELECTOR-76,SELECTOR-77,SELECTOR-78,SELECTOR-79",
        "SELECTOR-80,SELECTOR-81,SELECTOR-82,SELECTOR-83,SELECTOR-84,SELECTOR-85,SELECTOR-86",
        "SELECTOR-87,SELECTOR-88,SELECTOR-89,SELECTOR-90,SELECTOR-91,SELECTOR-92,SELECTOR-93",
        "SELECTOR-94,SELECTOR-95,SELECTOR-96,SELECTOR-97,SELECTOR-98,SELECTOR-99,SELECTOR-100",
        "SELECTOR-101,SELECTOR-102,SELECTOR-103,SELECTOR-104,SELECTOR-105,SELECTOR-106",
        "SELECTOR-107,SELECTOR-108,SELECTOR-109,SELECTOR-110,SELECTOR-111,SELECTOR-112",
        "SELECTOR-113,SELECTOR-114,SELECTOR-115,SELECTOR-116,SELECTOR-117,SELECTOR-118",
        "SELECTOR-119,SELECTOR-120,SELECTOR-121,SELECTOR-122,SELECTOR-123,SELECTOR-124",
        "SELECTOR-125,SELECTOR-126,SELECTOR-127,SELECTOR-128,SELECTOR-129,SELECTOR-130",
        "SELECTOR-131,SELECTOR-132,SELECTOR-133,SELECTOR-134,SELECTOR-135,SELECTOR-136",
        "SELECTOR-137,SELECTOR-138,SELECTOR-139,SELECTOR-140,SELECTOR-141,SELECTOR-142",
        "SELECTOR-143,SELECTOR-144,SELECTOR-145,SELECTOR-146,SELECTOR-147,SELECTOR-148",
        "SELECTOR-149,SELECTOR-150,SELECTOR-151,SELECTOR-152,SELECTOR-153,SELECTOR-154",
        "SELECTOR-155,SELECTOR-156,SELECTOR-157,SELECTOR-158,SELECTOR-159,SELECTOR-160",
        "SELECTOR-161,SELECTOR-162,SELECTOR-163,SELECTOR-164,SELECTOR-165,SELECTOR-166",
        "SELECTOR-167,SELECTOR-168,SELECTOR-169,SELECTOR-170,SELECTOR-171,SELECTOR-172",
        "SELECTOR-173,SELECTOR-174,SELECTOR-175,SELECTOR-176,SELECTOR-177,SELECTOR-178",
        "SELECTOR-179,SELECTOR-180,SELECTOR-181,SELECTOR-182,SELECTOR-183,SELECTOR-184",
        "SELECTOR-185,SELECTOR-186,SELECTOR-187,SELECTOR-188,SELECTOR-189,SELECTOR-190",
        "SELECTOR-191,SELECTOR-192,SELECTOR-193,SELECTOR-194,SELECTOR-195,SELECTOR-196",
        "SELECTOR-197,SELECTOR-198,SELECTOR-199,SELECTOR-200,SELECTOR-201,SELECTOR-202",
        "SELECTOR-203,SELECTOR-204,SELECTOR-205,SELECTOR-206,SELECTOR-207,SELECTOR-208",
        "SELECTOR-209,SELECTOR-210,SELECTOR-211,SELECTOR-212,SELECTOR-213,SELECTOR-214",
        "SELECTOR-215,SELECTOR-216,SELECTOR-217,SELECTOR-218,SELECTOR-219,SELECTOR-220",
        "SELECTOR-221,SELECTOR-222,SELECTOR-223,SELECTOR-224,SELECTOR-225,SELECTOR-226",
        "SELECTOR-227,SELECTOR-228,SELECTOR-229,SELECTOR-230,SELECTOR-231,SELECTOR-232",
        "SELECTOR-233,SELECTOR-234,SELECTOR-235,SELECTOR-236,SELECTOR-237,SELECTOR-238",
        "SELECTOR-239,SELECTOR-240,SELECTOR-241,SELECTOR-242,SELECTOR-243,SELECTOR-244",
        "SELECTOR-245,SELECTOR-246,SELECTOR-247,SELECTOR-248,SELECTOR-249,SELECTOR-250",
        "SELECTOR-251,SELECTOR-252,SELECTOR-253,SELECTOR-254,SELECTOR-255,SELECTOR-256"]⟩]

end FileTags.Text
