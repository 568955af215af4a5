import FileTags.Text.Name.Basic

/-!
# Names of characters: notations of music, mathematics and gestures

Small Khitan, additional kana, notations of music and gestures, and mathematical letters.
-/

set_option autoImplicit false

namespace FileTags.Text

def notationsNames : List NameRun :=
  [⟨101120, "KHITAN SMALL SCRIPT",
      ["CHARACTER-18B00,CHARACTER-18B01,CHARACTER-18B02,CHARACTER-18B03,CHARACTER-18B04",
        "CHARACTER-18B05,CHARACTER-18B06,CHARACTER-18B07,CHARACTER-18B08,CHARACTER-18B09",
        "CHARACTER-18B0A,CHARACTER-18B0B,CHARACTER-18B0C,CHARACTER-18B0D,CHARACTER-18B0E",
        "CHARACTER-18B0F,CHARACTER-18B10,CHARACTER-18B11,CHARACTER-18B12,CHARACTER-18B13",
        "CHARACTER-18B14,CHARACTER-18B15,CHARACTER-18B16,CHARACTER-18B17,CHARACTER-18B18",
        "CHARACTER-18B19,CHARACTER-18B1A,CHARACTER-18B1B,CHARACTER-18B1C,CHARACTER-18B1D",
        "CHARACTER-18B1E,CHARACTER-18B1F,CHARACTER-18B20,CHARACTER-18B21,CHARACTER-18B22",
        "CHARACTER-18B23,CHARACTER-18B24,CHARACTER-18B25,CHARACTER-18B26,CHARACTER-18B27",
        "CHARACTER-18B28,CHARACTER-18B29,CHARACTER-18B2A,CHARACTER-18B2B,CHARACTER-18B2C",
        "CHARACTER-18B2D,CHARACTER-18B2E,CHARACTER-18B2F,CHARACTER-18B30,CHARACTER-18B31",
        "CHARACTER-18B32,CHARACTER-18B33,CHARACTER-18B34,CHARACTER-18B35,CHARACTER-18B36",
        "CHARACTER-18B37,CHARACTER-18B38,CHARACTER-18B39,CHARACTER-18B3A,CHARACTER-18B3B",
        "CHARACTER-18B3C,CHARACTER-18B3D,CHARACTER-18B3E,CHARACTER-18B3F,CHARACTER-18B40",
        "CHARACTER-18B41,CHARACTER-18B42,CHARACTER-18B43,CHARACTER-18B44,CHARACTER-18B45",
        "CHARACTER-18B46,CHARACTER-18B47,CHARACTER-18B48,CHARACTER-18B49,CHARACTER-18B4A",
        "CHARACTER-18B4B,CHARACTER-18B4C,CHARACTER-18B4D,CHARACTER-18B4E,CHARACTER-18B4F",
        "CHARACTER-18B50,CHARACTER-18B51,CHARACTER-18B52,CHARACTER-18B53,CHARACTER-18B54",
        "CHARACTER-18B55,CHARACTER-18B56,CHARACTER-18B57,CHARACTER-18B58,CHARACTER-18B59",
        "CHARACTER-18B5A,CHARACTER-18B5B,CHARACTER-18B5C,CHARACTER-18B5D,CHARACTER-18B5E",
        "CHARACTER-18B5F,CHARACTER-18B60,CHARACTER-18B61,CHARACTER-18B62,CHARACTER-18B63",
        "CHARACTER-18B64,CHARACTER-18B65,CHARACTER-18B66,CHARACTER-18B67,CHARACTER-18B68",
        "CHARACTER-18B69,CHARACTER-18B6A,CHARACTER-18B6B,CHARACTER-18B6C,CHARACTER-18B6D",
        "CHARACTER-18B6E,CHARACTER-18B6F,CHARACTER-18B70,CHARACTER-18B71,CHARACTER-18B72",
        "CHARACTER-18B73,CHARACTER-18B74,CHARACTER-18B75,CHARACTER-18B76,CHARACTER-18B77",
        "CHARACTER-18B78,CHARACTER-18B79,CHARACTER-18B7A,CHARACTER-18B7B,CHARACTER-18B7C",
        "CHARACTER-18B7D,CHARACTER-18B7E,CHARACTER-18B7F,CHARACTER-18B80,CHARACTER-18B81",
        "CHARACTER-18B82,CHARACTER-18B83,CHARACTER-18B84,CHARACTER-18B85,CHARACTER-18B86",
        "CHARACTER-18B87,CHARACTER-18B88,CHARACTER-18B89,CHARACTER-18B8A,CHARACTER-18B8B",
        "CHARACTER-18B8C,CHARACTER-18B8D,CHARACTER-18B8E,CHARACTER-18B8F,CHARACTER-18B90",
        "CHARACTER-18B91,CHARACTER-18B92,CHARACTER-18B93,CHARACTER-18B94,CHARACTER-18B95",
        "CHARACTER-18B96,CHARACTER-18B97,CHARACTER-18B98,CHARACTER-18B99,CHARACTER-18B9A",
        "CHARACTER-18B9B,CHARACTER-18B9C,CHARACTER-18B9D,CHARACTER-18B9E,CHARACTER-18B9F",
        "CHARACTER-18BA0,CHARACTER-18BA1,CHARACTER-18BA2,CHARACTER-18BA3,CHARACTER-18BA4",
        "CHARACTER-18BA5,CHARACTER-18BA6,CHARACTER-18BA7,CHARACTER-18BA8,CHARACTER-18BA9",
        "CHARACTER-18BAA,CHARACTER-18BAB,CHARACTER-18BAC,CHARACTER-18BAD,CHARACTER-18BAE",
        "CHARACTER-18BAF,CHARACTER-18BB0,CHARACTER-18BB1,CHARACTER-18BB2,CHARACTER-18BB3",
        "CHARACTER-18BB4,CHARACTER-18BB5,CHARACTER-18BB6,CHARACTER-18BB7,CHARACTER-18BB8",
        "CHARACTER-18BB9,CHARACTER-18BBA,CHARACTER-18BBB,CHARACTER-18BBC,CHARACTER-18BBD",
        "CHARACTER-18BBE,CHARACTER-18BBF,CHARACTER-18BC0,CHARACTER-18BC1,CHARACTER-18BC2",
        "CHARACTER-18BC3,CHARACTER-18BC4,CHARACTER-18BC5,CHARACTER-18BC6,CHARACTER-18BC7",
        "CHARACTER-18BC8,CHARACTER-18BC9,CHARACTER-18BCA,CHARACTER-18BCB,CHARACTER-18BCC",
        "CHARACTER-18BCD,CHARACTER-18BCE,CHARACTER-18BCF,CHARACTER-18BD0,CHARACTER-18BD1",
        "CHARACTER-18BD2,CHARACTER-18BD3,CHARACTER-18BD4,CHARACTER-18BD5,CHARACTER-18BD6",
        "CHARACTER-18BD7,CHARACTER-18BD8,CHARACTER-18BD9,CHARACTER-18BDA,CHARACTER-18BDB",
        "CHARACTER-18BDC,CHARACTER-18BDD,CHARACTER-18BDE,CHARACTER-18BDF,CHARACTER-18BE0",
        "CHARACTER-18BE1,CHARACTER-18BE2,CHARACTER-18BE3,CHARACTER-18BE4,CHARACTER-18BE5",
        "CHARACTER-18BE6,CHARACTER-18BE7,CHARACTER-18BE8,CHARACTER-18BE9,CHARACTER-18BEA",
        "CHARACTER-18BEB,CHARACTER-18BEC,CHARACTER-18BED,CHARACTER-18BEE,CHARACTER-18BEF",
        "CHARACTER-18BF0,CHARACTER-18BF1,CHARACTER-18BF2,CHARACTER-18BF3,CHARACTER-18BF4",
        "CHARACTER-18BF5,CHARACTER-18BF6,CHARACTER-18BF7,CHARACTER-18BF8,CHARACTER-18BF9",
        "CHARACTER-18BFA,CHARACTER-18BFB,CHARACTER-18BFC,CHARACTER-18BFD,CHARACTER-18BFE",
        "CHARACTER-18BFF,CHARACTER-18C00,CHARACTER-18C01,CHARACTER-18C02,CHARACTER-18C03",
        "CHARACTER-18C04,CHARACTER-18C05,CHARACTER-18C06,CHARACTER-18C07,CHARACTER-18C08",
        "CHARACTER-18C09,CHARACTER-18C0A,CHARACTER-18C0B,CHARACTER-18C0C,CHARACTER-18C0D",
        "CHARACTER-18C0E,CHARACTER-18C0F,CHARACTER-18C10,CHARACTER-18C11,CHARACTER-18C12",
        "CHARACTER-18C13,CHARACTER-18C14,CHARACTER-18C15,CHARACTER-18C16,CHARACTER-18C17",
        "CHARACTER-18C18,CHARACTER-18C19,CHARACTER-18C1A,CHARACTER-18C1B,CHARACTER-18C1C",
        "CHARACTER-18C1D,CHARACTER-18C1E,CHARACTER-18C1F,CHARACTER-18C20,CHARACTER-18C21",
        "CHARACTER-18C22,CHARACTER-18C23,CHARACTER-18C24,CHARACTER-18C25,CHARACTER-18C26",
        "CHARACTER-18C27,CHARACTER-18C28,CHARACTER-18C29,CHARACTER-18C2A,CHARACTER-18C2B",
        "CHARACTER-18C2C,CHARACTER-18C2D,CHARACTER-18C2E,CHARACTER-18C2F,CHARACTER-18C30",
        "CHARACTER-18C31,CHARACTER-18C32,CHARACTER-18C33,CHARACTER-18C34,CHARACTER-18C35",
        "CHARACTER-18C36,CHARACTER-18C37,CHARACTER-18C38,CHARACTER-18C39,CHARACTER-18C3A",
        "CHARACTER-18C3B,CHARACTER-18C3C,CHARACTER-18C3D,CHARACTER-18C3E,CHARACTER-18C3F",
        "CHARACTER-18C40,CHARACTER-18C41,CHARACTER-18C42,CHARACTER-18C43,CHARACTER-18C44",
        "CHARACTER-18C45,CHARACTER-18C46,CHARACTER-18C47,CHARACTER-18C48,CHARACTER-18C49",
        "CHARACTER-18C4A,CHARACTER-18C4B,CHARACTER-18C4C,CHARACTER-18C4D,CHARACTER-18C4E",
        "CHARACTER-18C4F,CHARACTER-18C50,CHARACTER-18C51,CHARACTER-18C52,CHARACTER-18C53",
        "CHARACTER-18C54,CHARACTER-18C55,CHARACTER-18C56,CHARACTER-18C57,CHARACTER-18C58",
        "CHARACTER-18C59,CHARACTER-18C5A,CHARACTER-18C5B,CHARACTER-18C5C,CHARACTER-18C5D",
        "CHARACTER-18C5E,CHARACTER-18C5F,CHARACTER-18C60,CHARACTER-18C61,CHARACTER-18C62",
        "CHARACTER-18C63,CHARACTER-18C64,CHARACTER-18C65,CHARACTER-18C66,CHARACTER-18C67",
        "CHARACTER-18C68,CHARACTER-18C69,CHARACTER-18C6A,CHARACTER-18C6B,CHARACTER-18C6C",
        "CHARACTER-18C6D,CHARACTER-18C6E,CHARACTER-18C6F,CHARACTER-18C70,CHARACTER-18C71",
        "CHARACTER-18C72,CHARACTER-18C73,CHARACTER-18C74,CHARACTER-18C75,CHARACTER-18C76",
        "CHARACTER-18C77,CHARACTER-18C78,CHARACTER-18C79,CHARACTER-18C7A,CHARACTER-18C7B",
        "CHARACTER-18C7C,CHARACTER-18C7D,CHARACTER-18C7E,CHARACTER-18C7F,CHARACTER-18C80",
        "CHARACTER-18C81,CHARACTER-18C82,CHARACTER-18C83,CHARACTER-18C84,CHARACTER-18C85",
        "CHARACTER-18C86,CHARACTER-18C87,CHARACTER-18C88,CHARACTER-18C89,CHARACTER-18C8A",
        "CHARACTER-18C8B,CHARACTER-18C8C,CHARACTER-18C8D,CHARACTER-18C8E,CHARACTER-18C8F",
        "CHARACTER-18C90,CHARACTER-18C91,CHARACTER-18C92,CHARACTER-18C93,CHARACTER-18C94",
        "CHARACTER-18C95,CHARACTER-18C96,CHARACTER-18C97,CHARACTER-18C98,CHARACTER-18C99",
        "CHARACTER-18C9A,CHARACTER-18C9B,CHARACTER-18C9C,CHARACTER-18C9D,CHARACTER-18C9E",
        "CHARACTER-18C9F,CHARACTER-18CA0,CHARACTER-18CA1,CHARACTER-18CA2,CHARACTER-18CA3",
        "CHARACTER-18CA4,CHARACTER-18CA5,CHARACTER-18CA6,CHARACTER-18CA7,CHARACTER-18CA8",
        "CHARACTER-18CA9,CHARACTER-18CAA,CHARACTER-18CAB,CHARACTER-18CAC,CHARACTER-18CAD",
        "CHARACTER-18CAE,CHARACTER-18CAF,CHARACTER-18CB0,CHARACTER-18CB1,CHARACTER-18CB2",
        "CHARACTER-18CB3,CHARACTER-18CB4,CHARACTER-18CB5,CHARACTER-18CB6,CHARACTER-18CB7",
        "CHARACTER-18CB8,CHARACTER-18CB9,CHARACTER-18CBA,CHARACTER-18CBB,CHARACTER-18CBC",
        "CHARACTER-18CBD,CHARACTER-18CBE,CHARACTER-18CBF,CHARACTER-18CC0,CHARACTER-18CC1",
        "CHARACTER-18CC2,CHARACTER-18CC3,CHARACTER-18CC4,CHARACTER-18CC5,CHARACTER-18CC6",
        "CHARACTER-18CC7,CHARACTER-18CC8,CHARACTER-18CC9,CHARACTER-18CCA,CHARACTER-18CCB",
        "CHARACTER-18CCC,CHARACTER-18CCD,CHARACTER-18CCE,CHARACTER-18CCF,CHARACTER-18CD0",
        "CHARACTER-18CD1,CHARACTER-18CD2,CHARACTER-18CD3,CHARACTER-18CD4,CHARACTER-18CD5"]⟩,
    ⟨110576, "KATAKANA LETTER MINNAN", ["TONE-2,TONE-3,TONE-4,TONE-5"]⟩,
    ⟨110581, "KATAKANA LETTER MINNAN", ["TONE-7,TONE-8"]⟩,
    ⟨110583, "KATAKANA LETTER MINNAN NASALIZED", ["TONE-1,TONE-2,TONE-3,TONE-4,TONE-5"]⟩,
    ⟨110589, "KATAKANA LETTER MINNAN NASALIZED", ["TONE-7,TONE-8"]⟩,
    ⟨110592, "", ["KATAKANA LETTER ARCHAIC E,HIRAGANA LETTER ARCHAIC YE"]⟩,
    ⟨110594, "HENTAIGANA LETTER",
      ["A-1,A-2,A-3,A-WO,I-1,I-2,I-3,I-4,U-1,U-2,U-3,U-4,U-5,E-2,E-3,E-4,E-5,E-6,O-1,O-2,O-3",
        "KA-1,KA-2,KA-3,KA-4,KA-5,KA-6,KA-7,KA-8,KA-9,KA-10,KA-11,KA-KE,KI-1,KI-2,KI-3,KI-4,KI-5",
        "KI-6,KI-7,KI-8,KU-1,KU-2,KU-3,KU-4,KU-5,KU-6,KU-7,KE-1,KE-2,KE-3,KE-4,KE-5,KE-6,KO-1",
        "KO-2,KO-3,KO-KI,SA-1,SA-2,SA-3,SA-4,SA-5,SA-6,SA-7,SA-8,SI-1,SI-2,SI-3,SI-4,SI-5,SI-6",
        "SU-1,SU-2,SU-3,SU-4,SU-5,SU-6,SU-7,SU-8,SE-1,SE-2,SE-3,SE-4,SE-5,SO-1,SO-2,SO-3,SO-4",
        "SO-5,SO-6,SO-7,TA-1,TA-2,TA-3,TA-4,TI-1,TI-2,TI-3,TI-4,TI-5,TI-6,TI-7,TU-1,TU-2,TU-3",
        "TU-4,TU-TO,TE-1,TE-2,TE-3,TE-4,TE-5,TE-6,TE-7,TE-8,TE-9,TO-1,TO-2,TO-3,TO-4,TO-5,TO-6",
        "TO-RA,NA-1,NA-2,NA-3,NA-4,NA-5,NA-6,NA-7,NA-8,NA-9,NI-1,NI-2,NI-3,NI-4,NI-5,NI-6,NI-7",
        "NI-TE,NU-1,NU-2,NU-3,NE-1,NE-2,NE-3,NE-4,NE-5,NE-6,NE-KO,NO-1,NO-2,NO-3,NO-4,NO-5,HA-1",
        "HA-2,HA-3,HA-4,HA-5,HA-6,HA-7,HA-8,HA-9,HA-10,HA-11,HI-1,HI-2,HI-3,HI-4,HI-5,HI-6,HI-7",
        "HU-1,HU-2,HU-3,HE-1,HE-2,HE-3,HE-4,HE-5,HE-6,HE-7,HO-1,HO-2,HO-3,HO-4,HO-5,HO-6,HO-7",
        "HO-8,MA-1,MA-2,MA-3,MA-4,MA-5,MA-6,MA-7,MI-1,MI-2,MI-3,MI-4,MI-5,MI-6,MI-7,MU-1,MU-2",
        "MU-3,MU-4,ME-1,ME-2,ME-MA,MO-1,MO-2,MO-3,MO-4,MO-5,MO-6,YA-1,YA-2,YA-3,YA-4,YA-5,YA-YO",
        "YU-1,YU-2,YU-3,YU-4,YO-1,YO-2,YO-3,YO-4,YO-5,YO-6,RA-1,RA-2,RA-3,RA-4,RI-1,RI-2,RI-3",
        "RI-4,RI-5,RI-6,RI-7,RU-1,RU-2,RU-3,RU-4,RU-5,RU-6,RE-1,RE-2,RE-3,RE-4,RO-1,RO-2,RO-3",
        "RO-4,RO-5,RO-6,WA-1,WA-2,WA-3,WA-4,WA-5,WI-1,WI-2,WI-3,WI-4,WI-5,WE-1,WE-2,WE-3,WE-4",
        "WO-1,WO-2,WO-3,WO-4,WO-5,WO-6,WO-7,N-MU-MO-1,N-MU-MO-2"]⟩,
    ⟨110879, "HIRAGANA LETTER ARCHAIC", ["WU"]⟩,
    ⟨110880, "KATAKANA LETTER ARCHAIC", ["YI,YE,WU"]⟩,
    ⟨110928, "HIRAGANA LETTER SMALL", ["WI,WE,WO"]⟩,
    ⟨110948, "KATAKANA LETTER SMALL", ["WI,WE,WO,N"]⟩,
    ⟨110960, "NUSHU",
      ["CHARACTER-1B170,CHARACTER-1B171,CHARACTER-1B172,CHARACTER-1B173,CHARACTER-1B174",
        "CHARACTER-1B175,CHARACTER-1B176,CHARACTER-1B177,CHARACTER-1B178,CHARACTER-1B179",
        "CHARACTER-1B17A,CHARACTER-1B17B,CHARACTER-1B17C,CHARACTER-1B17D,CHARACTER-1B17E",
        "CHARACTER-1B17F,CHARACTER-1B180,CHARACTER-1B181,CHARACTER-1B182,CHARACTER-1B183",
        "CHARACTER-1B184,CHARACTER-1B185,CHARACTER-1B186,CHARACTER-1B187,CHARACTER-1B188",
        "CHARACTER-1B189,CHARACTER-1B18A,CHARACTER-1B18B,CHARACTER-1B18C,CHARACTER-1B18D",
        "CHARACTER-1B18E,CHARACTER-1B18F,CHARACTER-1B190,CHARACTER-1B191,CHARACTER-1B192",
        "CHARACTER-1B193,CHARACTER-1B194,CHARACTER-1B195,CHARACTER-1B196,CHARACTER-1B197",
        "CHARACTER-1B198,CHARACTER-1B199,CHARACTER-1B19A,CHARACTER-1B19B,CHARACTER-1B19C",
        "CHARACTER-1B19D,CHARACTER-1B19E,CHARACTER-1B19F,CHARACTER-1B1A0,CHARACTER-1B1A1",
        "CHARACTER-1B1A2,CHARACTER-1B1A3,CHARACTER-1B1A4,CHARACTER-1B1A5,CHARACTER-1B1A6",
        "CHARACTER-1B1A7,CHARACTER-1B1A8,CHARACTER-1B1A9,CHARACTER-1B1AA,CHARACTER-1B1AB",
        "CHARACTER-1B1AC,CHARACTER-1B1AD,CHARACTER-1B1AE,CHARACTER-1B1AF,CHARACTER-1B1B0",
        "CHARACTER-1B1B1,CHARACTER-1B1B2,CHARACTER-1B1B3,CHARACTER-1B1B4,CHARACTER-1B1B5",
        "CHARACTER-1B1B6,CHARACTER-1B1B7,CHARACTER-1B1B8,CHARACTER-1B1B9,CHARACTER-1B1BA",
        "CHARACTER-1B1BB,CHARACTER-1B1BC,CHARACTER-1B1BD,CHARACTER-1B1BE,CHARACTER-1B1BF",
        "CHARACTER-1B1C0,CHARACTER-1B1C1,CHARACTER-1B1C2,CHARACTER-1B1C3,CHARACTER-1B1C4",
        "CHARACTER-1B1C5,CHARACTER-1B1C6,CHARACTER-1B1C7,CHARACTER-1B1C8,CHARACTER-1B1C9",
        "CHARACTER-1B1CA,CHARACTER-1B1CB,CHARACTER-1B1CC,CHARACTER-1B1CD,CHARACTER-1B1CE",
        "CHARACTER-1B1CF,CHARACTER-1B1D0,CHARACTER-1B1D1,CHARACTER-1B1D2,CHARACTER-1B1D3",
        "CHARACTER-1B1D4,CHARACTER-1B1D5,CHARACTER-1B1D6,CHARACTER-1B1D7,CHARACTER-1B1D8",
        "CHARACTER-1B1D9,CHARACTER-1B1DA,CHARACTER-1B1DB,CHARACTER-1B1DC,CHARACTER-1B1DD",
        "CHARACTER-1B1DE,CHARACTER-1B1DF,CHARACTER-1B1E0,CHARACTER-1B1E1,CHARACTER-1B1E2",
        "CHARACTER-1B1E3,CHARACTER-1B1E4,CHARACTER-1B1E5,CHARACTER-1B1E6,CHARACTER-1B1E7",
        "CHARACTER-1B1E8,CHARACTER-1B1E9,CHARACTER-1B1EA,CHARACTER-1B1EB,CHARACTER-1B1EC",
        "CHARACTER-1B1ED,CHARACTER-1B1EE,CHARACTER-1B1EF,CHARACTER-1B1F0,CHARACTER-1B1F1",
        "CHARACTER-1B1F2,CHARACTER-1B1F3,CHARACTER-1B1F4,CHARACTER-1B1F5,CHARACTER-1B1F6",
        "CHARACTER-1B1F7,CHARACTER-1B1F8,CHARACTER-1B1F9,CHARACTER-1B1FA,CHARACTER-1B1FB",
        "CHARACTER-1B1FC,CHARACTER-1B1FD,CHARACTER-1B1FE,CHARACTER-1B1FF,CHARACTER-1B200",
        "CHARACTER-1B201,CHARACTER-1B202,CHARACTER-1B203,CHARACTER-1B204,CHARACTER-1B205",
        "CHARACTER-1B206,CHARACTER-1B207,CHARACTER-1B208,CHARACTER-1B209,CHARACTER-1B20A",
        "CHARACTER-1B20B,CHARACTER-1B20C,CHARACTER-1B20D,CHARACTER-1B20E,CHARACTER-1B20F",
        "CHARACTER-1B210,CHARACTER-1B211,CHARACTER-1B212,CHARACTER-1B213,CHARACTER-1B214",
        "CHARACTER-1B215,CHARACTER-1B216,CHARACTER-1B217,CHARACTER-1B218,CHARACTER-1B219",
        "CHARACTER-1B21A,CHARACTER-1B21B,CHARACTER-1B21C,CHARACTER-1B21D,CHARACTER-1B21E",
        "CHARACTER-1B21F,CHARACTER-1B220,CHARACTER-1B221,CHARACTER-1B222,CHARACTER-1B223",
        "CHARACTER-1B224,CHARACTER-1B225,CHARACTER-1B226,CHARACTER-1B227,CHARACTER-1B228",
        "CHARACTER-1B229,CHARACTER-1B22A,CHARACTER-1B22B,CHARACTER-1B22C,CHARACTER-1B22D",
        "CHARACTER-1B22E,CHARACTER-1B22F,CHARACTER-1B230,CHARACTER-1B231,CHARACTER-1B232",
        "CHARACTER-1B233,CHARACTER-1B234,CHARACTER-1B235,CHARACTER-1B236,CHARACTER-1B237",
        "CHARACTER-1B238,CHARACTER-1B239,CHARACTER-1B23A,CHARACTER-1B23B,CHARACTER-1B23C",
        "CHARACTER-1B23D,CHARACTER-1B23E,CHARACTER-1B23F,CHARACTER-1B240,CHARACTER-1B241",
        "CHARACTER-1B242,CHARACTER-1B243,CHARACTER-1B244,CHARACTER-1B245,CHARACTER-1B246",
        "CHARACTER-1B247,CHARACTER-1B248,CHARACTER-1B249,CHARACTER-1B24A,CHARACTER-1B24B",
        "CHARACTER-1B24C,CHARACTER-1B24D,CHARACTER-1B24E,CHARACTER-1B24F,CHARACTER-1B250",
        "CHARACTER-1B251,CHARACTER-1B252,CHARACTER-1B253,CHARACTER-1B254,CHARACTER-1B255",
        "CHARACTER-1B256,CHARACTER-1B257,CHARACTER-1B258,CHARACTER-1B259,CHARACTER-1B25A",
        "CHARACTER-1B25B,CHARACTER-1B25C,CHARACTER-1B25D,CHARACTER-1B25E,CHARACTER-1B25F",
        "CHARACTER-1B260,CHARACTER-1B261,CHARACTER-1B262,CHARACTER-1B263,CHARACTER-1B264",
        "CHARACTER-1B265,CHARACTER-1B266,CHARACTER-1B267,CHARACTER-1B268,CHARACTER-1B269",
        "CHARACTER-1B26A,CHARACTER-1B26B,CHARACTER-1B26C,CHARACTER-1B26D,CHARACTER-1B26E",
        "CHARACTER-1B26F,CHARACTER-1B270,CHARACTER-1B271,CHARACTER-1B272,CHARACTER-1B273",
        "CHARACTER-1B274,CHARACTER-1B275,CHARACTER-1B276,CHARACTER-1B277,CHARACTER-1B278",
        "CHARACTER-1B279,CHARACTER-1B27A,CHARACTER-1B27B,CHARACTER-1B27C,CHARACTER-1B27D",
        "CHARACTER-1B27E,CHARACTER-1B27F,CHARACTER-1B280,CHARACTER-1B281,CHARACTER-1B282",
        "CHARACTER-1B283,CHARACTER-1B284,CHARACTER-1B285,CHARACTER-1B286,CHARACTER-1B287",
        "CHARACTER-1B288,CHARACTER-1B289,CHARACTER-1B28A,CHARACTER-1B28B,CHARACTER-1B28C",
        "CHARACTER-1B28D,CHARACTER-1B28E,CHARACTER-1B28F,CHARACTER-1B290,CHARACTER-1B291",
        "CHARACTER-1B292,CHARACTER-1B293,CHARACTER-1B294,CHARACTER-1B295,CHARACTER-1B296",
        "CHARACTER-1B297,CHARACTER-1B298,CHARACTER-1B299,CHARACTER-1B29A,CHARACTER-1B29B",
        "CHARACTER-1B29C,CHARACTER-1B29D,CHARACTER-1B29E,CHARACTER-1B29F,CHARACTER-1B2A0",
        "CHARACTER-1B2A1,CHARACTER-1B2A2,CHARACTER-1B2A3,CHARACTER-1B2A4,CHARACTER-1B2A5",
        "CHARACTER-1B2A6,CHARACTER-1B2A7,CHARACTER-1B2A8,CHARACTER-1B2A9,CHARACTER-1B2AA",
        "CHARACTER-1B2AB,CHARACTER-1B2AC,CHARACTER-1B2AD,CHARACTER-1B2AE,CHARACTER-1B2AF",
        "CHARACTER-1B2B0,CHARACTER-1B2B1,CHARACTER-1B2B2,CHARACTER-1B2B3,CHARACTER-1B2B4",
        "CHARACTER-1B2B5,CHARACTER-1B2B6,CHARACTER-1B2B7,CHARACTER-1B2B8,CHARACTER-1B2B9",
        "CHARACTER-1B2BA,CHARACTER-1B2BB,CHARACTER-1B2BC,CHARACTER-1B2BD,CHARACTER-1B2BE",
        "CHARACTER-1B2BF,CHARACTER-1B2C0,CHARACTER-1B2C1,CHARACTER-1B2C2,CHARACTER-1B2C3",
        "CHARACTER-1B2C4,CHARACTER-1B2C5,CHARACTER-1B2C6,CHARACTER-1B2C7,CHARACTER-1B2C8",
        "CHARACTER-1B2C9,CHARACTER-1B2CA,CHARACTER-1B2CB,CHARACTER-1B2CC,CHARACTER-1B2CD",
        "CHARACTER-1B2CE,CHARACTER-1B2CF,CHARACTER-1B2D0,CHARACTER-1B2D1,CHARACTER-1B2D2",
        "CHARACTER-1B2D3,CHARACTER-1B2D4,CHARACTER-1B2D5,CHARACTER-1B2D6,CHARACTER-1B2D7",
        "CHARACTER-1B2D8,CHARACTER-1B2D9,CHARACTER-1B2DA,CHARACTER-1B2DB,CHARACTER-1B2DC",
        "CHARACTER-1B2DD,CHARACTER-1B2DE,CHARACTER-1B2DF,CHARACTER-1B2E0,CHARACTER-1B2E1",
        "CHARACTER-1B2E2,CHARACTER-1B2E3,CHARACTER-1B2E4,CHARACTER-1B2E5,CHARACTER-1B2E6",
        "CHARACTER-1B2E7,CHARACTER-1B2E8,CHARACTER-1B2E9,CHARACTER-1B2EA,CHARACTER-1B2EB",
        "CHARACTER-1B2EC,CHARACTER-1B2ED,CHARACTER-1B2EE,CHARACTER-1B2EF,CHARACTER-1B2F0",
        "CHARACTER-1B2F1,CHARACTER-1B2F2,CHARACTER-1B2F3,CHARACTER-1B2F4,CHARACTER-1B2F5",
        "CHARACTER-1B2F6,CHARACTER-1B2F7,CHARACTER-1B2F8,CHARACTER-1B2F9,CHARACTER-1B2FA",
        "CHARACTER-1B2FB"]⟩,
    ⟨113664, "DUPLOYAN LETTER",
      ["H,X,P,T,F,K,L,B,D,V,G,R,P N,D S,F N,K M,R S,TH,SLOAN DH,DH,KK,SLOAN J,HL,LH,RH,M,N,J,S",
        "M N,N M,J M,S J,M WITH DOT,N WITH DOT,J WITH DOT,J WITH DOTS INSIDE AND ABOVE",
        "S WITH DOT,S WITH DOT BELOW,M S,N S,J S,S S,M N S,N M S,J M S,S J S,J S WITH DOT,J N",
        "J N S,S T,S T R,S P,S P R,T S,T R S,W,WH,W R,S N,S M,K R S,G R S,S K,S K R,A,SLOAN OW",
        "OA,O,AOU,I,E,IE,SHORT I,UI,EE,SLOAN EH,ROMANIAN I,SLOAN EE,LONG I,YE,U,EU,XW,U N,LONG U",
        "ROMANIAN U,UH,SLOAN U,OOH,OW,OU,WA,WO,WI,WEI,WOW,NASAL U,NASAL O,NASAL I,NASAL A",
        "PERNIN AN,PERNIN AM,SLOAN EN,SLOAN AN,SLOAN ON,VOCALIC M"]⟩,
    ⟨113776, "DUPLOYAN AFFIX",
      ["LEFT HORIZONTAL SECANT,MID HORIZONTAL SECANT,RIGHT HORIZONTAL SECANT",
        "LOW VERTICAL SECANT,MID VERTICAL SECANT,HIGH VERTICAL SECANT"]⟩,
    ⟨113782, "DUPLOYAN AFFIX ATTACHED",
      ["SECANT,LEFT-TO-RIGHT SECANT,TANGENT,TAIL,E HOOK,I HOOK,TANGENT HOOK"]⟩,
    ⟨113792, "DUPLOYAN AFFIX HIGH",
      ["ACUTE,TIGHT ACUTE,GRAVE,LONG GRAVE,DOT,CIRCLE,LINE,WAVE,VERTICAL"]⟩,
    ⟨113808, "DUPLOYAN AFFIX LOW",
      ["ACUTE,TIGHT ACUTE,GRAVE,LONG GRAVE,DOT,CIRCLE,LINE,WAVE,VERTICAL,ARROW"]⟩,
    ⟨113820, "DUPLOYAN",
      ["SIGN O WITH CROSS,THICK LETTER SELECTOR,DOUBLE MARK,PUNCTUATION CHINOOK FULL STOP"]⟩,
    ⟨113824, "SHORTHAND FORMAT", ["LETTER OVERLAP,CONTINUING OVERLAP,DOWN STEP,UP STEP"]⟩,
    ⟨118528, "ZNAMENNY COMBINING MARK",
      ["GORAZDO NIZKO S KRYZHEM ON LEFT,NIZKO S KRYZHEM ON LEFT,TSATA ON LEFT",
        "GORAZDO NIZKO ON LEFT,NIZKO ON LEFT,SREDNE ON LEFT,MALO POVYSHE ON LEFT,POVYSHE ON LEFT",
        "VYSOKO ON LEFT,MALO POVYSHE S KHOKHLOM ON LEFT,POVYSHE S KHOKHLOM ON LEFT",
        "VYSOKO S KHOKHLOM ON LEFT,GORAZDO NIZKO S KRYZHEM ON RIGHT,NIZKO S KRYZHEM ON RIGHT",
        "TSATA ON RIGHT,GORAZDO NIZKO ON RIGHT,NIZKO ON RIGHT,SREDNE ON RIGHT",
        "MALO POVYSHE ON RIGHT,POVYSHE ON RIGHT,VYSOKO ON RIGHT,MALO POVYSHE S KHOKHLOM ON RIGHT",
        "POVYSHE S KHOKHLOM ON RIGHT,VYSOKO S KHOKHLOM ON RIGHT,TSATA S KRYZHEM",
        "MALO POVYSHE S KRYZHEM,STRANNO MALO POVYSHE,POVYSHE S KRYZHEM,POVYSHE STRANNO",
        "VYSOKO S KRYZHEM,MALO POVYSHE STRANNO,GORAZDO VYSOKO,ZELO,ON,RAVNO,TIKHAYA,BORZAYA",
        "UDARKA,PODVERTKA,LOMKA,KUPNAYA,KACHKA,ZEVOK,SKOBA,RAZSEKA,KRYZH ON LEFT"]⟩,
    ⟨118576, "ZNAMENNY COMBINING TONAL RANGE MARK", ["MRACHNO,SVETLO,TRESVETLO"]⟩,
    ⟨118579, "ZNAMENNY COMBINING MARK",
      ["ZADERZHKA,DEMESTVENNY ZADERZHKA,OTSECHKA,PODCHASHIE,PODCHASHIE WITH VERTICAL STROKE",
        "CHASHKA,CHASHKA POLNAYA,OBLACHKO,SOROCHYA NOZHKA,TOCHKA,DVOETOCHIE"]⟩,
    ⟨118590, "ZNAMENNY COMBINING",
      ["ATTACHING VERTICAL OMET,MARK CURVED OMET,MARK KRYZH,LOWER TONAL RANGE INDICATOR"]⟩,
    ⟨118594, "ZNAMENNY PRIZNAK MODIFIER", ["LEVEL-2,LEVEL-3,DIRECTION FLIP,KRYZH,ROG"]⟩,
    ⟨118608, "ZNAMENNY NEUME",
      ["KRYUK,KRYUK TIKHY,PARAKLIT,DVA V CHELNU,KLYUCH,ZANOZHEK,STOPITSA,STOPITSA S OCHKOM",
        "PEREVODKA,PEREVODKA NEPOSTOYANNAYA,STOPITSA WITH SOROCHYA NOZHKA,CHELYUSTKA,PALKA",
        "ZAPYATAYA"]⟩,
    ⟨118622, "ZNAMENNY NEUME GOLUBCHIK", ["BORZY,TIKHY,MRACHNY,SVETLY,TRESVETLY"]⟩,
    ⟨118627, "ZNAMENNY NEUME VRAKHIYA",
      ["PROSTAYA,MRACHNAYA,SVETLAYA,TRESVETLAYA,KLYUCHEVAYA PROSTAYA,KLYUCHEVAYA MRACHNAYA",
        "KLYUCHEVAYA SVETLAYA,KLYUCHEVAYA TRESVETLAYA"]⟩,
    ⟨118635, "ZNAMENNY NEUME",
      ["DOUBLE ZAPYATAYA,REVERSED CHELYUSTKA,DERBITSA,KHAMILO,CHASHKA,PODCHASHIE",
        "SKAMEYTSA MRACHNAYA,SKAMEYTSA SVETLAYA,SKAMEYTSA TRESVETLAYA,SKAMEYTSA TIKHAYA",
        "DEMESTVENNY KLYUCH,SKAMEYTSA KLYUCHEVAYA SVETLAYA,SKAMEYTSA KLYUCHENEPOSTOYANNAYA",
        "SKAMEYTSA KLYUCHEVAYA TIKHAYA"]⟩,
    ⟨118649, "ZNAMENNY NEUME SKAMEYTSA DVOECHELNAYA",
      ["PROSTAYA,SVETLAYA,NEPOSTOYANNAYA,KLYUCHEVAYA"]⟩,
    ⟨118653, "ZNAMENNY NEUME",
      ["SLOZHITIE,SLOZHITIE S ZAPYATOY,SLOZHITIE ZAKRYTOE,SLOZHITIE S KRYZHEM,KRYZH,ROG,FITA",
        "KOBYLA,ZMEYTSA,STATYA,STATYA S ZAPYATOY,STATYA S KRYZHEM,STATYA S ZAPYATOY I KRYZHEM",
        "STATYA S KRYZHEM I ZAPYATOY,STATYA ZAKRYTAYA,STATYA ZAKRYTAYA S ZAPYATOY,STATYA S ROGOM",
        "STATYA S DVUMYA ZAPYATYMI,STATYA S ZAPYATOY I PODCHASHIEM,POLKULIZMY",
        "STATYA NEPOSTOYANNAYA"]⟩,
    ⟨118674, "ZNAMENNY NEUME STRELA",
      ["PROSTAYA,MRACHNOTIKHAYA,KRYZHEVAYA,POLUPOVODNAYA,POVODNAYA,NEPOSTOYANNAYA",
        "KLYUCHEPOVODNAYA,KLYUCHENEPOSTOYANNAYA,TIKHAYA PUTNAYA,DVOECHELNAYA",
        "DVOECHELNOKRYZHEVAYA,DVOECHELNOPOVODNAYA,DVOECHELNAYA KLYUCHEVAYA",
        "DVOECHELNOPOVODNAYA KLYUCHEVAYA,GROMNAYA WITH SINGLE ZAPYATAYA",
        "GROMOPOVODNAYA WITH SINGLE ZAPYATAYA,GROMNAYA,GROMOPOVODNAYA",
        "GROMOPOVODNAYA WITH DOUBLE ZAPYATAYA,GROMOKRYZHEVAYA,GROMOKRYZHEVAYA POVODNAYA"]⟩,
    ⟨118695, "ZNAMENNY NEUME",
      ["MECHIK,MECHIK POVODNY,MECHIK KLYUCHEVOY,MECHIK KLYUCHEPOVODNY",
        "MECHIK KLYUCHENEPOSTOYANNY,STRELA TRYASOGLASNAYA,STRELA TRYASOPOVODNAYA",
        "STRELA TRYASOSTRELNAYA,OSOKA,OSOKA SVETLAYA,OSOKA TRESVETLAYA,OSOKA KRYUKOVAYA SVETLAYA",
        "OSOKA KLYUCHEVAYA SVETLAYA,OSOKA KLYUCHEVAYA NEPOSTOYANNAYA,STRELA KRYUKOVAYA"]⟩,
    ⟨118710, "ZNAMENNY NEUME STRELA KRYUKOVAYA",
      ["POVODNAYA,GROMNAYA WITH SINGLE ZAPYATAYA,GROMOPOVODNAYA WITH SINGLE ZAPYATAYA,GROMNAYA",
        "GROMOPOVODNAYA,GROMOPOVODNAYA WITH DOUBLE ZAPYATAYA,GROMOKRYZHEVAYA",
        "GROMOKRYZHEVAYA POVODNAYA,TRYASKA"]⟩,
    ⟨118719, "ZNAMENNY NEUME", ["KUFISMA,OBLAKO,DUDA,NEMKA,PAUK"]⟩,
    ⟨118784, "BYZANTINE MUSICAL SYMBOL",
      ["PSILI,DASEIA,PERISPOMENI,OXEIA EKFONITIKON,OXEIA DIPLI,VAREIA EKFONITIKON,VAREIA DIPLI",
        "KATHISTI,SYRMATIKI,PARAKLITIKI,YPOKRISIS,YPOKRISIS DIPLI,KREMASTI,APESO EKFONITIKON",
        "EXO EKFONITIKON,TELEIA,KENTIMATA,APOSTROFOS,APOSTROFOS DIPLI,SYNEVMA,THITA",
        "OLIGON ARCHAION,GORGON ARCHAION,PSILON,CHAMILON,VATHY,ISON ARCHAION,KENTIMA ARCHAION",
        "KENTIMATA ARCHAION,SAXIMATA,PARICHON,STAVROS APODEXIA,OXEIAI ARCHAION,VAREIAI ARCHAION",
        "APODERMA ARCHAION,APOTHEMA,KLASMA,REVMA,PIASMA ARCHAION,TINAGMA,ANATRICHISMA,SEISMA",
        "SYNAGMA ARCHAION,SYNAGMA META STAVROU,OYRANISMA ARCHAION,THEMA,LEMOI,DYO,TRIA,TESSERA",
        "KRATIMATA,APESO EXO NEO,FTHORA ARCHAION,IMIFTHORA,TROMIKON ARCHAION,KATAVA TROMIKON",
        "PELASTON,PSIFISTON,KONTEVMA,CHOREVMA ARCHAION,RAPISMA,PARAKALESMA ARCHAION",
        "PARAKLITIKI ARCHAION,ICHADIN,NANA,PETASMA,KONTEVMA ALLO,TROMIKON ALLO,STRAGGISMATA",
        "GRONTHISMATA,ISON NEO,OLIGON NEO,OXEIA NEO,PETASTI,KOUFISMA,PETASTOKOUFISMA",
        "KRATIMOKOUFISMA,PELASTON NEO,KENTIMATA NEO ANO,KENTIMA NEO ANO,YPSILI,APOSTROFOS NEO",
        "APOSTROFOI SYNDESMOS NEO,YPORROI,KRATIMOYPORROON,ELAFRON,CHAMILI,MIKRON ISON,VAREIA NEO",
        "PIASMA NEO,PSIFISTON NEO,OMALON,ANTIKENOMA,LYGISMA,PARAKLITIKI NEO,PARAKALESMA NEO",
        "ETERON PARAKALESMA,KYLISMA,ANTIKENOKYLISMA,TROMIKON NEO,EKSTREPTON,SYNAGMA NEO,SYRMA",
        "CHOREVMA NEO,EPEGERMA,SEISMA NEO,XIRON KLASMA,TROMIKOPSIFISTON,PSIFISTOLYGISMA",
        "TROMIKOLYGISMA,TROMIKOPARAKALESMA,PSIFISTOPARAKALESMA,TROMIKOSYNAGMA,PSIFISTOSYNAGMA",
        "GORGOSYNTHETON,ARGOSYNTHETON,ETERON ARGOSYNTHETON,OYRANISMA NEO,THEMATISMOS ESO",
        "THEMATISMOS EXO,THEMA APLOUN,THES KAI APOTHES,KATAVASMA,ENDOFONON,YFEN KATO,YFEN ANO",
        "STAVROS,KLASMA ANO,DIPLI ARCHAION,KRATIMA ARCHAION,KRATIMA ALLO,KRATIMA NEO",
        "APODERMA NEO,APLI,DIPLI,TRIPLI,TETRAPLI,KORONIS,LEIMMA ENOS CHRONOU,LEIMMA DYO CHRONON",
        "LEIMMA TRION CHRONON,LEIMMA TESSARON CHRONON,LEIMMA IMISEOS CHRONOU,GORGON NEO ANO",
        "GORGON PARESTIGMENON ARISTERA,GORGON PARESTIGMENON DEXIA,DIGORGON",
        "DIGORGON PARESTIGMENON ARISTERA KATO,DIGORGON PARESTIGMENON ARISTERA ANO",
        "DIGORGON PARESTIGMENON DEXIA,TRIGORGON,ARGON,IMIDIARGON,DIARGON"]⟩,
    ⟨118938, "BYZANTINE MUSICAL SYMBOL AGOGI",
      ["POLI ARGI,ARGOTERI,ARGI,METRIA,MESI,GORGI,GORGOTERI,POLI GORGI"]⟩,
    ⟨118946, "BYZANTINE MUSICAL SYMBOL MARTYRIA",
      ["PROTOS ICHOS,ALLI PROTOS ICHOS,DEYTEROS ICHOS,ALLI DEYTEROS ICHOS,TRITOS ICHOS",
        "TRIFONIAS,TETARTOS ICHOS,TETARTOS LEGETOS ICHOS,LEGETOS ICHOS,PLAGIOS ICHOS"]⟩,
    ⟨118956, "BYZANTINE MUSICAL SYMBOL",
      ["ISAKIA TELOUS ICHIMATOS,APOSTROFOI TELOUS ICHIMATOS,FANEROSIS TETRAFONIAS",
        "FANEROSIS MONOFONIAS,FANEROSIS DIFONIAS,MARTYRIA VARYS ICHOS,MARTYRIA PROTOVARYS ICHOS",
        "MARTYRIA PLAGIOS TETARTOS ICHOS,GORTHMIKON N APLOUN,GORTHMIKON N DIPLOUN",
        "ENARXIS KAI FTHORA VOU,IMIFONON,IMIFTHORON,FTHORA ARCHAION DEYTEROU ICHOU",
        "FTHORA DIATONIKI PA,FTHORA DIATONIKI NANA,FTHORA NAOS ICHOS,FTHORA DIATONIKI DI",
        "FTHORA SKLIRON DIATONON DI,FTHORA DIATONIKI KE,FTHORA DIATONIKI ZO",
        "FTHORA DIATONIKI NI KATO,FTHORA DIATONIKI NI ANO,FTHORA MALAKON CHROMA DIFONIAS",
        "FTHORA MALAKON CHROMA MONOFONIAS,FHTORA SKLIRON CHROMA VASIS",
        "FTHORA SKLIRON CHROMA SYNAFI,FTHORA NENANO,CHROA ZYGOS,CHROA KLITON,CHROA SPATHI",
        "FTHORA I YFESIS TETARTIMORION,FTHORA ENARMONIOS ANTIFONIA,YFESIS TRITIMORION",
        "DIESIS TRITIMORION,DIESIS TETARTIMORION,DIESIS APLI DYO DODEKATA",
        "DIESIS MONOGRAMMOS TESSERA DODEKATA,DIESIS DIGRAMMOS EX DODEKATA",
        "DIESIS TRIGRAMMOS OKTO DODEKATA,YFESIS APLI DYO DODEKATA",
        "YFESIS MONOGRAMMOS TESSERA DODEKATA,YFESIS DIGRAMMOS EX DODEKATA",
        "YFESIS TRIGRAMMOS OKTO DODEKATA,GENIKI DIESIS,GENIKI YFESIS,DIASTOLI APLI MIKRI",
        "DIASTOLI APLI MEGALI,DIASTOLI DIPLI,DIASTOLI THESEOS,SIMANSIS THESEOS",
        "SIMANSIS THESEOS DISIMOU,SIMANSIS THESEOS TRISIMOU,SIMANSIS THESEOS TETRASIMOU",
        "SIMANSIS ARSEOS,SIMANSIS ARSEOS DISIMOU,SIMANSIS ARSEOS TRISIMOU",
        "SIMANSIS ARSEOS TETRASIMOU,DIGRAMMA GG,DIFTOGGOS OU,STIGMA,ARKTIKO PA,ARKTIKO VOU",
        "ARKTIKO GA,ARKTIKO DI,ARKTIKO KE,ARKTIKO ZO,ARKTIKO NI,KENTIMATA NEO MESO",
        "KENTIMA NEO MESO,KENTIMATA NEO KATO,KENTIMA NEO KATO,KLASMA KATO,GORGON NEO KATO"]⟩,
    ⟨119040, "MUSICAL SYMBOL",
      ["SINGLE BARLINE,DOUBLE BARLINE,FINAL BARLINE,REVERSE FINAL BARLINE,DASHED BARLINE",
        "SHORT BARLINE,LEFT REPEAT SIGN,RIGHT REPEAT SIGN,REPEAT DOTS,DAL SEGNO,DA CAPO,SEGNO",
        "CODA,REPEATED FIGURE-1,REPEATED FIGURE-2,REPEATED FIGURE-3,FERMATA,FERMATA BELOW",
        "BREATH MARK,CAESURA,BRACE,BRACKET,ONE-LINE STAFF,TWO-LINE STAFF,THREE-LINE STAFF",
        "FOUR-LINE STAFF,FIVE-LINE STAFF,SIX-LINE STAFF,SIX-STRING FRETBOARD",
        "FOUR-STRING FRETBOARD,G CLEF,G CLEF OTTAVA ALTA,G CLEF OTTAVA BASSA,C CLEF,F CLEF",
        "F CLEF OTTAVA ALTA,F CLEF OTTAVA BASSA,DRUM CLEF-1,DRUM CLEF-2"]⟩,
    ⟨119081, "MUSICAL SYMBOL",
      ["MULTIPLE MEASURE REST,DOUBLE SHARP,DOUBLE FLAT,FLAT UP,FLAT DOWN,NATURAL UP",
        "NATURAL DOWN,SHARP UP,SHARP DOWN,QUARTER TONE SHARP,QUARTER TONE FLAT,COMMON TIME",
        "CUT TIME,OTTAVA ALTA,OTTAVA BASSA,QUINDICESIMA ALTA,QUINDICESIMA BASSA,MULTI REST",
        "WHOLE REST,HALF REST,QUARTER REST,EIGHTH REST,SIXTEENTH REST,THIRTY-SECOND REST",
        "SIXTY-FOURTH REST,ONE HUNDRED TWENTY-EIGHTH REST,X NOTEHEAD,PLUS NOTEHEAD",
        "CIRCLE X NOTEHEAD,SQUARE NOTEHEAD WHITE,SQUARE NOTEHEAD BLACK"]⟩,
    ⟨119112, "MUSICAL SYMBOL TRIANGLE NOTEHEAD",
      ["UP WHITE,UP BLACK,LEFT WHITE,LEFT BLACK,RIGHT WHITE,RIGHT BLACK,DOWN WHITE,DOWN BLACK",
        "UP RIGHT WHITE,UP RIGHT BLACK"]⟩,
    ⟨119122, "MUSICAL SYMBOL",
      ["MOON NOTEHEAD WHITE,MOON NOTEHEAD BLACK,TRIANGLE-ROUND NOTEHEAD DOWN WHITE",
        "TRIANGLE-ROUND NOTEHEAD DOWN BLACK,PARENTHESIS NOTEHEAD,VOID NOTEHEAD,NOTEHEAD BLACK",
        "NULL NOTEHEAD,CLUSTER NOTEHEAD WHITE,CLUSTER NOTEHEAD BLACK,BREVE,WHOLE NOTE,HALF NOTE",
        "QUARTER NOTE,EIGHTH NOTE,SIXTEENTH NOTE,THIRTY-SECOND NOTE,SIXTY-FOURTH NOTE",
        "ONE HUNDRED TWENTY-EIGHTH NOTE,COMBINING STEM,COMBINING SPRECHGESANG STEM",
        "COMBINING TREMOLO-1,COMBINING TREMOLO-2,COMBINING TREMOLO-3,FINGERED TREMOLO-1",
        "FINGERED TREMOLO-2,FINGERED TREMOLO-3,COMBINING AUGMENTATION DOT,COMBINING FLAG-1",
        "COMBINING FLAG-2,COMBINING FLAG-3,COMBINING FLAG-4,COMBINING FLAG-5,BEGIN BEAM,END BEAM",
        "BEGIN TIE,END TIE,BEGIN SLUR,END SLUR,BEGIN PHRASE,END PHRASE"]⟩,
    ⟨119163, "MUSICAL SYMBOL COMBINING",
      ["ACCENT,STACCATO,TENUTO,STACCATISSIMO,MARCATO,MARCATO-STACCATO,ACCENT-STACCATO,LOURE"]⟩,
    ⟨119171, "MUSICAL SYMBOL ARPEGGIATO", ["UP,DOWN"]⟩,
    ⟨119173, "MUSICAL SYMBOL COMBINING", ["DOIT,RIP,FLIP,SMEAR,BEND,DOUBLE TONGUE,TRIPLE TONGUE"]⟩,
    ⟨119180, "MUSICAL SYMBOL",
      ["RINFORZANDO,SUBITO,Z,PIANO,MEZZO,FORTE,CRESCENDO,DECRESCENDO,GRACE NOTE SLASH",
        "GRACE NOTE NO SLASH,TR,TURN,INVERTED TURN,TURN SLASH,TURN UP"]⟩,
    ⟨119195, "MUSICAL SYMBOL ORNAMENT",
      ["STROKE-1,STROKE-2,STROKE-3,STROKE-4,STROKE-5,STROKE-6,STROKE-7,STROKE-8,STROKE-9",
        "STROKE-10,STROKE-11"]⟩,
    ⟨119206, "MUSICAL SYMBOL",
      ["HAUPTSTIMME,NEBENSTIMME,END OF STIMME,DEGREE SLASH,COMBINING DOWN BOW,COMBINING UP BOW",
        "COMBINING HARMONIC,COMBINING SNAP PIZZICATO,PEDAL MARK,PEDAL UP MARK,HALF PEDAL MARK",
        "GLISSANDO UP,GLISSANDO DOWN,WITH FINGERNAILS,DAMP,DAMP ALL,MAXIMA,LONGA,BREVIS",
        "SEMIBREVIS WHITE,SEMIBREVIS BLACK,MINIMA,MINIMA BLACK,SEMIMINIMA WHITE,SEMIMINIMA BLACK",
        "FUSA WHITE,FUSA BLACK,LONGA PERFECTA REST,LONGA IMPERFECTA REST,BREVIS REST",
        "SEMIBREVIS REST,MINIMA REST,SEMIMINIMA REST"]⟩,
    ⟨119239, "MUSICAL SYMBOL TEMPUS PERFECTUM CUM PROLATIONE",
      ["PERFECTA,IMPERFECTA,PERFECTA DIMINUTION-1"]⟩,
    ⟨119242, "MUSICAL SYMBOL TEMPUS IMPERFECTUM CUM PROLATIONE",
      ["PERFECTA,IMPERFECTA,IMPERFECTA DIMINUTION-1,IMPERFECTA DIMINUTION-2",
        "IMPERFECTA DIMINUTION-3"]⟩,
    ⟨119247, "MUSICAL SYMBOL",
      ["CROIX,GREGORIAN C CLEF,GREGORIAN F CLEF,SQUARE B,VIRGA,PODATUS,CLIVIS,SCANDICUS",
        "CLIMACUS,TORCULUS,PORRECTUS,PORRECTUS FLEXUS,SCANDICUS FLEXUS,TORCULUS RESUPINUS",
        "PES SUBPUNCTIS"]⟩,
    ⟨119262, "MUSICAL SYMBOL KIEVAN",
      ["C CLEF,END OF PIECE,FINAL NOTE,RECITATIVE MARK,WHOLE NOTE,HALF NOTE",
        "QUARTER NOTE STEM DOWN,QUARTER NOTE STEM UP,EIGHTH NOTE STEM DOWN,EIGHTH NOTE STEM UP",
        "FLAT SIGN"]⟩,
    ⟨119273, "MUSICAL SYMBOL", ["SORI,KORON"]⟩,
    ⟨119296, "GREEK VOCAL NOTATION",
      ["SYMBOL-1,SYMBOL-2,SYMBOL-3,SYMBOL-4,SYMBOL-5,SYMBOL-6,SYMBOL-7,SYMBOL-8,SYMBOL-9",
        "SYMBOL-10,SYMBOL-11,SYMBOL-12,SYMBOL-13,SYMBOL-14,SYMBOL-15,SYMBOL-16,SYMBOL-17",
        "SYMBOL-18,SYMBOL-19,SYMBOL-20,SYMBOL-21,SYMBOL-22,SYMBOL-23,SYMBOL-24,SYMBOL-50",
        "SYMBOL-51,SYMBOL-52,SYMBOL-53,SYMBOL-54"]⟩,
    ⟨119325, "GREEK INSTRUMENTAL NOTATION",
      ["SYMBOL-1,SYMBOL-2,SYMBOL-4,SYMBOL-5,SYMBOL-7,SYMBOL-8,SYMBOL-11,SYMBOL-12,SYMBOL-13",
        "SYMBOL-14,SYMBOL-17,SYMBOL-18,SYMBOL-19,SYMBOL-23,SYMBOL-24,SYMBOL-25,SYMBOL-26",
        "SYMBOL-27,SYMBOL-29,SYMBOL-30,SYMBOL-32,SYMBOL-36,SYMBOL-37,SYMBOL-38,SYMBOL-39",
        "SYMBOL-40,SYMBOL-42,SYMBOL-43,SYMBOL-45,SYMBOL-47,SYMBOL-48,SYMBOL-49,SYMBOL-50",
        "SYMBOL-51,SYMBOL-52,SYMBOL-53,SYMBOL-54"]⟩,
    ⟨119362, "COMBINING GREEK MUSICAL", ["TRISEME,TETRASEME,PENTASEME"]⟩,
    ⟨119365, "GREEK MUSICAL", ["LEIMMA"]⟩,
    ⟨119520, "MAYAN NUMERAL",
      ["ZERO,ONE,TWO,THREE,FOUR,FIVE,SIX,SEVEN,EIGHT,NINE,TEN,ELEVEN,TWELVE,THIRTEEN,FOURTEEN",
        "FIFTEEN,SIXTEEN,SEVENTEEN,EIGHTEEN,NINETEEN"]⟩,
    ⟨119552, "MONOGRAM FOR", ["EARTH"]⟩,
    ⟨119553, "DIGRAM FOR", ["HEAVENLY EARTH,HUMAN EARTH,EARTHLY HEAVEN,EARTHLY HUMAN,EARTH"]⟩,
    ⟨119558, "TETRAGRAM FOR",
      ["CENTRE,FULL CIRCLE,MIRED,BARRIER,KEEPING SMALL,CONTRARIETY,ASCENT,OPPOSITION",
        "BRANCHING OUT,DEFECTIVENESS OR DISTORTION,DIVERGENCE,YOUTHFULNESS,INCREASE,PENETRATION",
        "REACH,CONTACT,HOLDING BACK,WAITING,FOLLOWING,ADVANCE,RELEASE,RESISTANCE,EASE,JOY",
        "CONTENTION,ENDEAVOUR,DUTIES,CHANGE,DECISIVENESS,BOLD RESOLUTION,PACKING,LEGION",
        "CLOSENESS,KINSHIP,GATHERING,STRENGTH,PURITY,FULLNESS,RESIDENCE,LAW OR MODEL,RESPONSE",
        "GOING TO MEET,ENCOUNTERS,STOVE,GREATNESS,ENLARGEMENT,PATTERN,RITUAL,FLIGHT",
        "VASTNESS OR WASTING,CONSTANCY,MEASURE,ETERNITY,UNITY,DIMINISHMENT,CLOSED MOUTH",
        "GUARDEDNESS,GATHERING IN,MASSING,ACCUMULATION,EMBELLISHMENT,DOUBT,WATCH,SINKING,INNER",
        "DEPARTURE,DARKENING,DIMMING,EXHAUSTION,SEVERANCE,STOPPAGE,HARDNESS,COMPLETION,CLOSURE",
        "FAILURE,AGGRAVATION,COMPLIANCE,ON THE VERGE,DIFFICULTIES,LABOURING,FOSTERING"]⟩,
    ⟨119648, "COUNTING ROD UNIT DIGIT", ["ONE,TWO,THREE,FOUR,FIVE,SIX,SEVEN,EIGHT,NINE"]⟩,
    ⟨119657, "COUNTING ROD TENS DIGIT", ["ONE,TWO,THREE,FOUR,FIVE,SIX,SEVEN,EIGHT,NINE"]⟩,
    ⟨119666, "IDEOGRAPHIC TALLY MARK", ["ONE,TWO,THREE,FOUR,FIVE"]⟩,
    ⟨119671, "TALLY MARK", ["ONE,FIVE"]⟩,
    ⟨119808, "MATHEMATICAL BOLD CAPITAL", ["A,B,C,D,E,F,G,H,I,J,K,L,M,N,O,P,Q,R,S,T,U,V,W,X,Y,Z"]⟩,
    ⟨119834, "MATHEMATICAL BOLD SMALL", ["A,B,C,D,E,F,G,H,I,J,K,L,M,N,O,P,Q,R,S,T,U,V,W,X,Y,Z"]⟩,
    ⟨119860, "MATHEMATICAL ITALIC CAPITAL",
      ["A,B,C,D,E,F,G,H,I,J,K,L,M,N,O,P,Q,R,S,T,U,V,W,X,Y,Z"]⟩,
    ⟨119886, "MATHEMATICAL ITALIC SMALL", ["A,B,C,D,E,F,G"]⟩,
    ⟨119894, "MATHEMATICAL ITALIC SMALL", ["I,J,K,L,M,N,O,P,Q,R,S,T,U,V,W,X,Y,Z"]⟩,
    ⟨119912, "MATHEMATICAL BOLD ITALIC CAPITAL",
      ["A,B,C,D,E,F,G,H,I,J,K,L,M,N,O,P,Q,R,S,T,U,V,W,X,Y,Z"]⟩,
    ⟨119938, "MATHEMATICAL BOLD ITALIC SMALL",
      ["A,B,C,D,E,F,G,H,I,J,K,L,M,N,O,P,Q,R,S,T,U,V,W,X,Y,Z"]⟩,
    ⟨119964, "MATHEMATICAL SCRIPT CAPITAL", ["A"]⟩,
    ⟨119966, "MATHEMATICAL SCRIPT CAPITAL", ["C,D"]⟩,
    ⟨119970, "MATHEMATICAL SCRIPT CAPITAL", ["G"]⟩,
    ⟨119973, "MATHEMATICAL SCRIPT CAPITAL", ["J,K"]⟩,
    ⟨119977, "MATHEMATICAL SCRIPT CAPITAL", ["N,O,P,Q"]⟩,
    ⟨119982, "MATHEMATICAL SCRIPT CAPITAL", ["S,T,U,V,W,X,Y,Z"]⟩,
    ⟨119990, "MATHEMATICAL SCRIPT SMALL", ["A,B,C,D"]⟩,
    ⟨119995, "MATHEMATICAL SCRIPT SMALL", ["F"]⟩,
    ⟨119997, "MATHEMATICAL SCRIPT SMALL", ["H,I,J,K,L,M,N"]⟩,
    ⟨120005, "MATHEMATICAL SCRIPT SMALL", ["P,Q,R,S,T,U,V,W,X,Y,Z"]⟩,
    ⟨120016, "MATHEMATICAL BOLD SCRIPT CAPITAL",
      ["A,B,C,D,E,F,G,H,I,J,K,L,M,N,O,P,Q,R,S,T,U,V,W,X,Y,Z"]⟩,
    ⟨120042, "MATHEMATICAL BOLD SCRIPT SMALL",
      ["A,B,C,D,E,F,G,H,I,J,K,L,M,N,O,P,Q,R,S,T,U,V,W,X,Y,Z"]⟩,
    ⟨120068, "MATHEMATICAL FRAKTUR CAPITAL", ["A,B"]⟩,
    ⟨120071, "MATHEMATICAL FRAKTUR CAPITAL", ["D,E,F,G"]⟩,
    ⟨120077, "MATHEMATICAL FRAKTUR CAPITAL", ["J,K,L,M,N,O,P,Q"]⟩,
    ⟨120086, "MATHEMATICAL FRAKTUR CAPITAL", ["S,T,U,V,W,X,Y"]⟩,
    ⟨120094, "MATHEMATICAL FRAKTUR SMALL", ["A,B,C,D,E,F,G,H,I,J,K,L,M,N,O,P,Q,R,S,T,U,V,W,X,Y,Z"]⟩,
    ⟨120120, "MATHEMATICAL DOUBLE-STRUCK CAPITAL", ["A,B"]⟩,
    ⟨120123, "MATHEMATICAL DOUBLE-STRUCK CAPITAL", ["D,E,F,G"]⟩,
    ⟨120128, "MATHEMATICAL DOUBLE-STRUCK CAPITAL", ["I,J,K,L,M"]⟩,
    ⟨120134, "MATHEMATICAL DOUBLE-STRUCK CAPITAL", ["O"]⟩,
    ⟨120138, "MATHEMATICAL DOUBLE-STRUCK CAPITAL", ["S,T,U,V,W,X,Y"]⟩,
    ⟨120146, "MATHEMATICAL DOUBLE-STRUCK SMALL",
      ["A,B,C,D,E,F,G,H,I,J,K,L,M,N,O,P,Q,R,S,T,U,V,W,X,Y,Z"]⟩,
    ⟨120172, "MATHEMATICAL BOLD FRAKTUR CAPITAL",
      ["A,B,C,D,E,F,G,H,I,J,K,L,M,N,O,P,Q,R,S,T,U,V,W,X,Y,Z"]⟩,
    ⟨120198, "MATHEMATICAL BOLD FRAKTUR SMALL",
      ["A,B,C,D,E,F,G,H,I,J,K,L,M,N,O,P,Q,R,S,T,U,V,W,X,Y,Z"]⟩,
    ⟨120224, "MATHEMATICAL SANS-SERIF CAPITAL",
      ["A,B,C,D,E,F,G,H,I,J,K,L,M,N,O,P,Q,R,S,T,U,V,W,X,Y,Z"]⟩,
    ⟨120250, "MATHEMATICAL SANS-SERIF SMALL",
      ["A,B,C,D,E,F,G,H,I,J,K,L,M,N,O,P,Q,R,S,T,U,V,W,X,Y,Z"]⟩,
    ⟨120276, "MATHEMATICAL SANS-SERIF BOLD CAPITAL",
      ["A,B,C,D,E,F,G,H,I,J,K,L,M,N,O,P,Q,R,S,T,U,V,W,X,Y,Z"]⟩,
    ⟨120302, "MATHEMATICAL SANS-SERIF BOLD SMALL",
      ["A,B,C,D,E,F,G,H,I,J,K,L,M,N,O,P,Q,R,S,T,U,V,W,X,Y,Z"]⟩,
    ⟨120328, "MATHEMATICAL SANS-SERIF ITALIC CAPITAL",
      ["A,B,C,D,E,F,G,H,I,J,K,L,M,N,O,P,Q,R,S,T,U,V,W,X,Y,Z"]⟩,
    ⟨120354, "MATHEMATICAL SANS-SERIF ITALIC SMALL",
      ["A,B,C,D,E,F,G,H,I,J,K,L,M,N,O,P,Q,R,S,T,U,V,W,X,Y,Z"]⟩,
    ⟨120380, "MATHEMATICAL SANS-SERIF BOLD ITALIC CAPITAL",
      ["A,B,C,D,E,F,G,H,I,J,K,L,M,N,O,P,Q,R,S,T,U,V,W,X,Y,Z"]⟩,
    ⟨120406, "MATHEMATICAL SANS-SERIF BOLD ITALIC SMALL",
      ["A,B,C,D,E,F,G,H,I,J,K,L,M,N,O,P,Q,R,S,T,U,V,W,X,Y,Z"]⟩,
    ⟨120432, "MATHEMATICAL MONOSPACE CAPITAL",
      ["A,B,C,D,E,F,G,H,I,J,K,L,M,N,O,P,Q,R,S,T,U,V,W,X,Y,Z"]⟩,
    ⟨120458, "MATHEMATICAL MONOSPACE SMALL",
      ["A,B,C,D,E,F,G,H,I,J,K,L,M,N,O,P,Q,R,S,T,U,V,W,X,Y,Z"]⟩,
    ⟨120484, "MATHEMATICAL ITALIC SMALL DOTLESS", ["I,J"]⟩,
    ⟨120488, "MATHEMATICAL BOLD CAPITAL",
      ["ALPHA,BETA,GAMMA,DELTA,EPSILON,ZETA,ETA,THETA,IOTA,KAPPA,LAMDA,MU,NU,XI,OMICRON,PI,RHO",
        "THETA SYMBOL,SIGMA,TAU,UPSILON,PHI,CHI,PSI,OMEGA"]⟩,
    ⟨120513, "MATHEMATICAL BOLD", ["NABLA"]⟩,
    ⟨120514, "MATHEMATICAL BOLD SMALL",
      ["ALPHA,BETA,GAMMA,DELTA,EPSILON,ZETA,ETA,THETA,IOTA,KAPPA,LAMDA,MU,NU,XI,OMICRON,PI,RHO",
        "FINAL SIGMA,SIGMA,TAU,UPSILON,PHI,CHI,PSI,OMEGA"]⟩,
    ⟨120539, "MATHEMATICAL BOLD",
      ["PARTIAL DIFFERENTIAL,EPSILON SYMBOL,THETA SYMBOL,KAPPA SYMBOL,PHI SYMBOL,RHO SYMBOL",
        "PI SYMBOL"]⟩,
    ⟨120546, "MATHEMATICAL ITALIC CAPITAL",
      ["ALPHA,BETA,GAMMA,DELTA,EPSILON,ZETA,ETA,THETA,IOTA,KAPPA,LAMDA,MU,NU,XI,OMICRON,PI,RHO",
        "THETA SYMBOL,SIGMA,TAU,UPSILON,PHI,CHI,PSI,OMEGA"]⟩,
    ⟨120571, "MATHEMATICAL ITALIC", ["NABLA"]⟩,
    ⟨120572, "MATHEMATICAL ITALIC SMALL",
      ["ALPHA,BETA,GAMMA,DELTA,EPSILON,ZETA,ETA,THETA,IOTA,KAPPA,LAMDA,MU,NU,XI,OMICRON,PI,RHO",
        "FINAL SIGMA,SIGMA,TAU,UPSILON,PHI,CHI,PSI,OMEGA"]⟩,
    ⟨120597, "MATHEMATICAL ITALIC",
      ["PARTIAL DIFFERENTIAL,EPSILON SYMBOL,THETA SYMBOL,KAPPA SYMBOL,PHI SYMBOL,RHO SYMBOL",
        "PI SYMBOL"]⟩,
    ⟨120604, "MATHEMATICAL BOLD ITALIC CAPITAL",
      ["ALPHA,BETA,GAMMA,DELTA,EPSILON,ZETA,ETA,THETA,IOTA,KAPPA,LAMDA,MU,NU,XI,OMICRON,PI,RHO",
        "THETA SYMBOL,SIGMA,TAU,UPSILON,PHI,CHI,PSI,OMEGA"]⟩,
    ⟨120629, "MATHEMATICAL BOLD ITALIC", ["NABLA"]⟩,
    ⟨120630, "MATHEMATICAL BOLD ITALIC SMALL",
      ["ALPHA,BETA,GAMMA,DELTA,EPSILON,ZETA,ETA,THETA,IOTA,KAPPA,LAMDA,MU,NU,XI,OMICRON,PI,RHO",
        "FINAL SIGMA,SIGMA,TAU,UPSILON,PHI,CHI,PSI,OMEGA"]⟩,
    ⟨120655, "MATHEMATICAL BOLD ITALIC",
      ["PARTIAL DIFFERENTIAL,EPSILON SYMBOL,THETA SYMBOL,KAPPA SYMBOL,PHI SYMBOL,RHO SYMBOL",
        "PI SYMBOL"]⟩,
    ⟨120662, "MATHEMATICAL SANS-SERIF BOLD CAPITAL",
      ["ALPHA,BETA,GAMMA,DELTA,EPSILON,ZETA,ETA,THETA,IOTA,KAPPA,LAMDA,MU,NU,XI,OMICRON,PI,RHO",
        "THETA SYMBOL,SIGMA,TAU,UPSILON,PHI,CHI,PSI,OMEGA"]⟩,
    ⟨120687, "MATHEMATICAL SANS-SERIF BOLD", ["NABLA"]⟩,
    ⟨120688, "MATHEMATICAL SANS-SERIF BOLD SMALL",
      ["ALPHA,BETA,GAMMA,DELTA,EPSILON,ZETA,ETA,THETA,IOTA,KAPPA,LAMDA,MU,NU,XI,OMICRON,PI,RHO",
        "FINAL SIGMA,SIGMA,TAU,UPSILON,PHI,CHI,PSI,OMEGA"]⟩,
    ⟨120713, "MATHEMATICAL SANS-SERIF BOLD",
      ["PARTIAL DIFFERENTIAL,EPSILON SYMBOL,THETA SYMBOL,KAPPA SYMBOL,PHI SYMBOL,RHO SYMBOL",
        "PI SYMBOL"]⟩,
    ⟨120720, "MATHEMATICAL SANS-SERIF BOLD ITALIC CAPITAL",
      ["ALPHA,BETA,GAMMA,DELTA,EPSILON,ZETA,ETA,THETA,IOTA,KAPPA,LAMDA,MU,NU,XI,OMICRON,PI,RHO",
        "THETA SYMBOL,SIGMA,TAU,UPSILON,PHI,CHI,PSI,OMEGA"]⟩,
    ⟨120745, "MATHEMATICAL SANS-SERIF BOLD ITALIC", ["NABLA"]⟩,
    ⟨120746, "MATHEMATICAL SANS-SERIF BOLD ITALIC SMALL",
      ["ALPHA,BETA,GAMMA,DELTA,EPSILON,ZETA,ETA,THETA,IOTA,KAPPA,LAMDA,MU,NU,XI,OMICRON,PI,RHO",
        "FINAL SIGMA,SIGMA,TAU,UPSILON,PHI,CHI,PSI,OMEGA"]⟩,
    ⟨120771, "MATHEMATICAL SANS-SERIF BOLD ITALIC",
      ["PARTIAL DIFFERENTIAL,EPSILON SYMBOL,THETA SYMBOL,KAPPA SYMBOL,PHI SYMBOL,RHO SYMBOL",
        "PI SYMBOL"]⟩,
    ⟨120778, "MATHEMATICAL BOLD", ["CAPITAL DIGAMMA,SMALL DIGAMMA"]⟩,
    ⟨120782, "MATHEMATICAL BOLD DIGIT", ["ZERO,ONE,TWO,THREE,FOUR,FIVE,SIX,SEVEN,EIGHT,NINE"]⟩,
    ⟨120792, "MATHEMATICAL DOUBLE-STRUCK DIGIT",
      ["ZERO,ONE,TWO,THREE,FOUR,FIVE,SIX,SEVEN,EIGHT,NINE"]⟩,
    ⟨120802, "MATHEMATICAL SANS-SERIF DIGIT",
      ["ZERO,ONE,TWO,THREE,FOUR,FIVE,SIX,SEVEN,EIGHT,NINE"]⟩,
    ⟨120812, "MATHEMATICAL SANS-SERIF BOLD DIGIT",
      ["ZERO,ONE,TWO,THREE,FOUR,FIVE,SIX,SEVEN,EIGHT,NINE"]⟩,
    ⟨120822, "MATHEMATICAL MONOSPACE DIGIT", ["ZERO,ONE,TWO,THREE,FOUR,FIVE,SIX,SEVEN,EIGHT,NINE"]⟩,
    ⟨120832, "SIGNWRITING",
      ["HAND-FIST INDEX,HAND-CIRCLE INDEX,HAND-CUP INDEX,HAND-OVAL INDEX,HAND-HINGE INDEX",
        "HAND-ANGLE INDEX,HAND-FIST INDEX BENT,HAND-CIRCLE INDEX BENT",
        "HAND-FIST THUMB UNDER INDEX BENT,HAND-FIST INDEX RAISED KNUCKLE,HAND-FIST INDEX CUPPED",
        "HAND-FIST INDEX HINGED,HAND-FIST INDEX HINGED LOW,HAND-CIRCLE INDEX HINGE",
        "HAND-FIST INDEX MIDDLE,HAND-CIRCLE INDEX MIDDLE"]⟩,
    ⟨120848, "SIGNWRITING HAND-FIST INDEX",
      ["MIDDLE BENT,MIDDLE RAISED KNUCKLES,MIDDLE HINGED,UP MIDDLE HINGED,HINGED MIDDLE UP",
        "MIDDLE CONJOINED,MIDDLE CONJOINED INDEX BENT,MIDDLE CONJOINED MIDDLE BENT",
        "MIDDLE CONJOINED CUPPED,MIDDLE CONJOINED HINGED,MIDDLE CROSSED"]⟩,
    ⟨120859, "SIGNWRITING",
      ["HAND-CIRCLE INDEX MIDDLE CROSSED,HAND-FIST MIDDLE BENT OVER INDEX",
        "HAND-FIST INDEX BENT OVER MIDDLE,HAND-FIST INDEX MIDDLE THUMB",
        "HAND-CIRCLE INDEX MIDDLE THUMB"]⟩,
    ⟨120864, "SIGNWRITING HAND-FIST INDEX",
      ["MIDDLE STRAIGHT THUMB BENT,MIDDLE BENT THUMB STRAIGHT,MIDDLE THUMB BENT",
        "MIDDLE HINGED SPREAD THUMB SIDE,UP MIDDLE HINGED THUMB SIDE",
        "UP MIDDLE HINGED THUMB CONJOINED,HINGED MIDDLE UP THUMB SIDE",
        "MIDDLE UP SPREAD THUMB FORWARD,MIDDLE THUMB CUPPED,MIDDLE THUMB CIRCLED",
        "MIDDLE THUMB HOOKED,MIDDLE THUMB HINGED"]⟩,
    ⟨120876, "SIGNWRITING HAND-FIST",
      ["THUMB BETWEEN INDEX MIDDLE STRAIGHT,INDEX MIDDLE CONJOINED THUMB SIDE",
        "INDEX MIDDLE CONJOINED THUMB SIDE CONJOINED,INDEX MIDDLE CONJOINED THUMB SIDE BENT",
        "MIDDLE THUMB HOOKED INDEX UP,INDEX THUMB HOOKED MIDDLE UP",
        "INDEX MIDDLE CONJOINED HINGED THUMB SIDE,INDEX MIDDLE CROSSED THUMB SIDE",
        "INDEX MIDDLE CONJOINED THUMB FORWARD,INDEX MIDDLE CONJOINED CUPPED THUMB FORWARD",
        "MIDDLE THUMB CUPPED INDEX UP,INDEX THUMB CUPPED MIDDLE UP,MIDDLE THUMB CIRCLED INDEX UP",
        "MIDDLE THUMB CIRCLED INDEX HINGED,INDEX THUMB ANGLED OUT MIDDLE UP",
        "INDEX THUMB ANGLED IN MIDDLE UP,INDEX THUMB CIRCLED MIDDLE UP",
        "INDEX MIDDLE THUMB CONJOINED HINGED,INDEX MIDDLE THUMB ANGLED OUT",
        "INDEX MIDDLE THUMB ANGLED,MIDDLE THUMB ANGLED OUT INDEX UP",
        "MIDDLE THUMB ANGLED OUT INDEX CROSSED,MIDDLE THUMB ANGLED INDEX UP",
        "INDEX THUMB HOOKED MIDDLE HINGED"]⟩,
    ⟨120900, "SIGNWRITING HAND-FLAT FOUR",
      ["FINGERS,FINGERS BENT,FINGERS HINGED,FINGERS CONJOINED,FINGERS CONJOINED SPLIT"]⟩,
    ⟨120905, "SIGNWRITING",
      ["HAND-CLAW FOUR FINGERS CONJOINED,HAND-FIST FOUR FINGERS CONJOINED BENT",
        "HAND-HINGE FOUR FINGERS CONJOINED"]⟩,
    ⟨120908, "SIGNWRITING HAND-FLAT",
      ["FIVE FINGERS SPREAD,HEEL FIVE FINGERS SPREAD,FIVE FINGERS SPREAD FOUR BENT",
        "HEEL FIVE FINGERS SPREAD FOUR BENT,FIVE FINGERS SPREAD BENT",
        "HEEL FIVE FINGERS SPREAD BENT,FIVE FINGERS SPREAD THUMB FORWARD"]⟩,
    ⟨120915, "SIGNWRITING",
      ["HAND-CUP FIVE FINGERS SPREAD,HAND-CUP FIVE FINGERS SPREAD OPEN",
        "HAND-HINGE FIVE FINGERS SPREAD OPEN,HAND-OVAL FIVE FINGERS SPREAD"]⟩,
    ⟨120919, "SIGNWRITING HAND-FLAT FIVE FINGERS SPREAD",
      ["HINGED,HINGED THUMB SIDE,HINGED NO THUMB"]⟩,
    ⟨120922, "SIGNWRITING", ["HAND-FLAT"]⟩,
    ⟨120923, "SIGNWRITING HAND-FLAT",
      ["BETWEEN PALM FACINGS,HEEL,THUMB SIDE,HEEL THUMB SIDE,THUMB BENT,THUMB FORWARD",
        "SPLIT INDEX THUMB SIDE,SPLIT CENTRE,SPLIT CENTRE THUMB SIDE",
        "SPLIT CENTRE THUMB SIDE BENT,SPLIT LITTLE"]⟩,
    ⟨120934, "SIGNWRITING",
      ["HAND-CLAW,HAND-CLAW THUMB SIDE,HAND-CLAW NO THUMB,HAND-CLAW THUMB FORWARD",
        "HAND-HOOK CURLICUE,HAND-HOOK,HAND-CUP OPEN,HAND-CUP,HAND-CUP OPEN THUMB SIDE",
        "HAND-CUP THUMB SIDE,HAND-CUP OPEN NO THUMB,HAND-CUP NO THUMB",
        "HAND-CUP OPEN THUMB FORWARD,HAND-CUP THUMB FORWARD,HAND-CURLICUE OPEN,HAND-CURLICUE",
        "HAND-CIRCLE,HAND-OVAL,HAND-OVAL THUMB SIDE,HAND-OVAL NO THUMB,HAND-OVAL THUMB FORWARD",
        "HAND-HINGE OPEN,HAND-HINGE OPEN THUMB FORWARD,HAND-HINGE"]⟩,
    ⟨120958, "SIGNWRITING HAND-HINGE",
      ["SMALL,OPEN THUMB SIDE,THUMB SIDE,OPEN NO THUMB,NO THUMB,THUMB SIDE TOUCHING INDEX",
        "THUMB BETWEEN MIDDLE RING"]⟩,
    ⟨120965, "SIGNWRITING",
      ["HAND-ANGLE,HAND-FIST INDEX MIDDLE RING,HAND-CIRCLE INDEX MIDDLE RING",
        "HAND-HINGE INDEX MIDDLE RING,HAND-ANGLE INDEX MIDDLE RING,HAND-HINGE LITTLE",
        "HAND-FIST INDEX MIDDLE RING BENT,HAND-FIST INDEX MIDDLE RING CONJOINED",
        "HAND-HINGE INDEX MIDDLE RING CONJOINED"]⟩,
    ⟨120974, "SIGNWRITING HAND-FIST LITTLE",
      ["DOWN,DOWN RIPPLE STRAIGHT,DOWN RIPPLE CURVED,DOWN OTHERS CIRCLED,UP"]⟩,
    ⟨120979, "SIGNWRITING",
      ["HAND-FIST THUMB UNDER LITTLE UP,HAND-CIRCLE LITTLE UP,HAND-OVAL LITTLE UP",
        "HAND-ANGLE LITTLE UP,HAND-FIST LITTLE RAISED KNUCKLE,HAND-FIST LITTLE BENT",
        "HAND-FIST LITTLE TOUCHES THUMB,HAND-FIST LITTLE THUMB,HAND-HINGE LITTLE THUMB",
        "HAND-FIST LITTLE INDEX THUMB,HAND-HINGE LITTLE INDEX THUMB",
        "HAND-ANGLE LITTLE INDEX THUMB INDEX THUMB OUT,HAND-ANGLE LITTLE INDEX THUMB INDEX THUMB",
        "HAND-FIST LITTLE INDEX,HAND-CIRCLE LITTLE INDEX,HAND-HINGE LITTLE INDEX",
        "HAND-ANGLE LITTLE INDEX,HAND-FIST INDEX MIDDLE LITTLE,HAND-CIRCLE INDEX MIDDLE LITTLE",
        "HAND-HINGE INDEX MIDDLE LITTLE,HAND-HINGE RING,HAND-ANGLE INDEX MIDDLE LITTLE",
        "HAND-FIST INDEX MIDDLE CROSS LITTLE,HAND-CIRCLE INDEX MIDDLE CROSS LITTLE",
        "HAND-FIST RING DOWN,HAND-HINGE RING DOWN INDEX THUMB HOOK MIDDLE",
        "HAND-ANGLE RING DOWN MIDDLE THUMB INDEX CROSS,HAND-FIST RING UP",
        "HAND-FIST RING RAISED KNUCKLE,HAND-FIST RING LITTLE,HAND-CIRCLE RING LITTLE",
        "HAND-OVAL RING LITTLE,HAND-ANGLE RING LITTLE"]⟩,
    ⟨121012, "SIGNWRITING HAND-FIST RING",
      ["MIDDLE,MIDDLE CONJOINED,MIDDLE RAISED KNUCKLES,INDEX,THUMB"]⟩,
    ⟨121017, "SIGNWRITING",
      ["HAND-HOOK RING THUMB,HAND-FIST INDEX RING LITTLE,HAND-CIRCLE INDEX RING LITTLE",
        "HAND-CURLICUE INDEX RING LITTLE ON"]⟩,
    ⟨121021, "SIGNWRITING HAND-HOOK INDEX RING LITTLE", ["OUT,IN,UNDER"]⟩,
    ⟨121024, "SIGNWRITING",
      ["HAND-CUP INDEX RING LITTLE,HAND-HINGE INDEX RING LITTLE",
        "HAND-ANGLE INDEX RING LITTLE OUT,HAND-ANGLE INDEX RING LITTLE,HAND-FIST MIDDLE DOWN",
        "HAND-HINGE MIDDLE,HAND-FIST MIDDLE UP,HAND-CIRCLE MIDDLE UP",
        "HAND-FIST MIDDLE RAISED KNUCKLE,HAND-FIST MIDDLE UP THUMB SIDE,HAND-HOOK MIDDLE THUMB",
        "HAND-FIST MIDDLE THUMB LITTLE,HAND-FIST MIDDLE LITTLE,HAND-FIST MIDDLE RING LITTLE",
        "HAND-CIRCLE MIDDLE RING LITTLE,HAND-CURLICUE MIDDLE RING LITTLE ON",
        "HAND-CUP MIDDLE RING LITTLE,HAND-HINGE MIDDLE RING LITTLE",
        "HAND-ANGLE MIDDLE RING LITTLE OUT,HAND-ANGLE MIDDLE RING LITTLE IN",
        "HAND-ANGLE MIDDLE RING LITTLE,HAND-CIRCLE MIDDLE RING LITTLE BENT"]⟩,
    ⟨121046, "SIGNWRITING HAND-CLAW MIDDLE RING LITTLE", ["CONJOINED,CONJOINED SIDE"]⟩,
    ⟨121048, "SIGNWRITING HAND-HOOK MIDDLE RING LITTLE", ["CONJOINED OUT,CONJOINED IN,CONJOINED"]⟩,
    ⟨121051, "SIGNWRITING",
      ["HAND-HINGE INDEX HINGED,HAND-FIST INDEX THUMB SIDE,HAND-HINGE INDEX THUMB SIDE"]⟩,
    ⟨121054, "SIGNWRITING HAND-FIST INDEX THUMB",
      ["SIDE THUMB DIAGONAL,SIDE THUMB CONJOINED,SIDE THUMB BENT,SIDE INDEX BENT,SIDE BOTH BENT",
        "SIDE INDEX HINGE,FORWARD INDEX STRAIGHT,FORWARD INDEX BENT,HOOK,CURLICUE",
        "CURVE THUMB INSIDE"]⟩,
    ⟨121065, "SIGNWRITING",
      ["HAND-CLAW INDEX THUMB CURVE THUMB INSIDE,HAND-FIST INDEX THUMB CURVE THUMB UNDER",
        "HAND-FIST INDEX THUMB CIRCLE,HAND-CUP INDEX THUMB,HAND-CUP INDEX THUMB OPEN"]⟩,
    ⟨121070, "SIGNWRITING HAND-HINGE INDEX", ["THUMB OPEN,THUMB LARGE,THUMB,THUMB SMALL"]⟩,
    ⟨121074, "SIGNWRITING HAND-ANGLE INDEX", ["THUMB OUT,THUMB IN,THUMB"]⟩,
    ⟨121077, "SIGNWRITING HAND-FIST", ["THUMB"]⟩,
    ⟨121078, "SIGNWRITING HAND-FIST THUMB",
      ["HEEL,SIDE DIAGONAL,SIDE CONJOINED,SIDE BENT,FORWARD,BETWEEN INDEX MIDDLE",
        "BETWEEN MIDDLE RING,BETWEEN RING LITTLE,UNDER TWO FINGERS,OVER TWO FINGERS",
        "UNDER THREE FINGERS,UNDER FOUR FINGERS,OVER FOUR RAISED KNUCKLES"]⟩,
    ⟨121091, "SIGNWRITING",
      ["HAND-FIST,HAND-FIST HEEL,TOUCH SINGLE,TOUCH MULTIPLE,TOUCH BETWEEN,GRASP SINGLE",
        "GRASP MULTIPLE,GRASP BETWEEN,STRIKE SINGLE,STRIKE MULTIPLE,STRIKE BETWEEN,BRUSH SINGLE",
        "BRUSH MULTIPLE,BRUSH BETWEEN,RUB SINGLE,RUB MULTIPLE,RUB BETWEEN,SURFACE SYMBOLS",
        "SURFACE BETWEEN,SQUEEZE LARGE SINGLE,SQUEEZE SMALL SINGLE,SQUEEZE LARGE MULTIPLE",
        "SQUEEZE SMALL MULTIPLE,SQUEEZE SEQUENTIAL,FLICK LARGE SINGLE,FLICK SMALL SINGLE",
        "FLICK LARGE MULTIPLE,FLICK SMALL MULTIPLE,FLICK SEQUENTIAL,SQUEEZE FLICK ALTERNATING"]⟩,
    ⟨121121, "SIGNWRITING MOVEMENT-HINGE",
      ["UP DOWN LARGE,UP DOWN SMALL,UP SEQUENTIAL,DOWN SEQUENTIAL,UP DOWN ALTERNATING LARGE",
        "UP DOWN ALTERNATING SMALL,SIDE TO SIDE SCISSORS"]⟩,
    ⟨121128, "SIGNWRITING",
      ["MOVEMENT-WALLPLANE FINGER CONTACT,MOVEMENT-FLOORPLANE FINGER CONTACT"]⟩,
    ⟨121130, "SIGNWRITING MOVEMENT-WALLPLANE SINGLE STRAIGHT", ["SMALL,MEDIUM,LARGE,LARGEST"]⟩,
    ⟨121134, "SIGNWRITING MOVEMENT-WALLPLANE",
      ["SINGLE WRIST FLEX,DOUBLE STRAIGHT,DOUBLE WRIST FLEX,DOUBLE ALTERNATING",
        "DOUBLE ALTERNATING WRIST FLEX,CROSS,TRIPLE STRAIGHT MOVEMENT,TRIPLE WRIST FLEX",
        "TRIPLE ALTERNATING,TRIPLE ALTERNATING WRIST FLEX,BEND SMALL,BEND MEDIUM,BEND LARGE",
        "CORNER SMALL,CORNER MEDIUM,CORNER LARGE,CORNER ROTATION,CHECK SMALL,CHECK MEDIUM",
        "CHECK LARGE,BOX SMALL,BOX MEDIUM,BOX LARGE,ZIGZAG SMALL,ZIGZAG MEDIUM,ZIGZAG LARGE",
        "PEAKS SMALL,PEAKS MEDIUM,PEAKS LARGE"]⟩,
    ⟨121163, "SIGNWRITING TRAVEL-WALLPLANE",
      ["ROTATION-WALLPLANE SINGLE,ROTATION-WALLPLANE DOUBLE,ROTATION-WALLPLANE ALTERNATING",
        "ROTATION-FLOORPLANE SINGLE,ROTATION-FLOORPLANE DOUBLE,ROTATION-FLOORPLANE ALTERNATING",
        "SHAKING,ARM SPIRAL SINGLE,ARM SPIRAL DOUBLE,ARM SPIRAL TRIPLE"]⟩,
    ⟨121173, "SIGNWRITING MOVEMENT-DIAGONAL",
      ["AWAY SMALL,AWAY MEDIUM,AWAY LARGE,AWAY LARGEST,TOWARDS SMALL,TOWARDS MEDIUM",
        "TOWARDS LARGE,TOWARDS LARGEST"]⟩,
    ⟨121181, "SIGNWRITING MOVEMENT-DIAGONAL BETWEEN",
      ["AWAY SMALL,AWAY MEDIUM,AWAY LARGE,AWAY LARGEST,TOWARDS SMALL,TOWARDS MEDIUM",
        "TOWARDS LARGE,TOWARDS LARGEST"]⟩,
    ⟨121189, "SIGNWRITING MOVEMENT-FLOORPLANE SINGLE STRAIGHT", ["SMALL,MEDIUM,LARGE,LARGEST"]⟩,
    ⟨121193, "SIGNWRITING MOVEMENT-FLOORPLANE",
      ["SINGLE WRIST FLEX,DOUBLE STRAIGHT,DOUBLE WRIST FLEX,DOUBLE ALTERNATING",
        "DOUBLE ALTERNATING WRIST FLEX,CROSS,TRIPLE STRAIGHT MOVEMENT,TRIPLE WRIST FLEX",
        "TRIPLE ALTERNATING MOVEMENT,TRIPLE ALTERNATING WRIST FLEX,BEND,CORNER SMALL",
        "CORNER MEDIUM,CORNER LARGE,CHECK,BOX SMALL,BOX MEDIUM,BOX LARGE,ZIGZAG SMALL",
        "ZIGZAG MEDIUM,ZIGZAG LARGE,PEAKS SMALL,PEAKS MEDIUM,PEAKS LARGE"]⟩,
    ⟨121217, "SIGNWRITING TRAVEL-FLOORPLANE",
      ["ROTATION-FLOORPLANE SINGLE,ROTATION-FLOORPLANE DOUBLE,ROTATION-FLOORPLANE ALTERNATING",
        "ROTATION-WALLPLANE SINGLE,ROTATION-WALLPLANE DOUBLE,ROTATION-WALLPLANE ALTERNATING",
        "SHAKING"]⟩,
    ⟨121224, "SIGNWRITING MOVEMENT-WALLPLANE CURVE",
      ["QUARTER SMALL,QUARTER MEDIUM,QUARTER LARGE,QUARTER LARGEST,HALF-CIRCLE SMALL",
        "HALF-CIRCLE MEDIUM,HALF-CIRCLE LARGE,HALF-CIRCLE LARGEST,THREE-QUARTER CIRCLE SMALL",
        "THREE-QUARTER CIRCLE MEDIUM"]⟩,
    ⟨121234, "SIGNWRITING MOVEMENT-WALLPLANE",
      ["HUMP SMALL,HUMP MEDIUM,HUMP LARGE,LOOP SMALL,LOOP MEDIUM,LOOP LARGE,LOOP SMALL DOUBLE",
        "WAVE CURVE DOUBLE SMALL,WAVE CURVE DOUBLE MEDIUM,WAVE CURVE DOUBLE LARGE",
        "WAVE CURVE TRIPLE SMALL,WAVE CURVE TRIPLE MEDIUM,WAVE CURVE TRIPLE LARGE",
        "CURVE THEN STRAIGHT,CURVED CROSS SMALL,CURVED CROSS MEDIUM"]⟩,
    ⟨121250, "SIGNWRITING ROTATION-WALLPLANE", ["SINGLE,DOUBLE,ALTERNATE"]⟩,
    ⟨121253, "SIGNWRITING MOVEMENT-WALLPLANE",
      ["SHAKING,CURVE HITTING FRONT WALL,HUMP HITTING FRONT WALL,LOOP HITTING FRONT WALL",
        "WAVE HITTING FRONT WALL"]⟩,
    ⟨121258, "SIGNWRITING ROTATION-WALLPLANE",
      ["SINGLE HITTING FRONT WALL,DOUBLE HITTING FRONT WALL,ALTERNATING HITTING FRONT WALL"]⟩,
    ⟨121261, "SIGNWRITING MOVEMENT-WALLPLANE",
      ["CURVE HITTING CHEST,HUMP HITTING CHEST,LOOP HITTING CHEST,WAVE HITTING CHEST"]⟩,
    ⟨121265, "SIGNWRITING ROTATION-WALLPLANE",
      ["SINGLE HITTING CHEST,DOUBLE HITTING CHEST,ALTERNATING HITTING CHEST"]⟩,
    ⟨121268, "SIGNWRITING MOVEMENT-WALLPLANE WAVE DIAGONAL PATH", ["SMALL,MEDIUM,LARGE"]⟩,
    ⟨121271, "SIGNWRITING MOVEMENT-FLOORPLANE CURVE HITTING CEILING", ["SMALL,LARGE"]⟩,
    ⟨121273, "SIGNWRITING MOVEMENT-FLOORPLANE HUMP HITTING CEILING",
      ["SMALL DOUBLE,LARGE DOUBLE,SMALL TRIPLE,LARGE TRIPLE"]⟩,
    ⟨121277, "SIGNWRITING MOVEMENT-FLOORPLANE LOOP HITTING CEILING",
      ["SMALL SINGLE,LARGE SINGLE,SMALL DOUBLE,LARGE DOUBLE"]⟩,
    ⟨121281, "SIGNWRITING MOVEMENT-FLOORPLANE WAVE HITTING CEILING", ["SMALL,LARGE"]⟩,
    ⟨121283, "SIGNWRITING ROTATION-FLOORPLANE",
      ["SINGLE HITTING CEILING,DOUBLE HITTING CEILING,ALTERNATING HITTING CEILING"]⟩,
    ⟨121286, "SIGNWRITING MOVEMENT-FLOORPLANE CURVE HITTING FLOOR", ["SMALL,LARGE"]⟩,
    ⟨121288, "SIGNWRITING MOVEMENT-FLOORPLANE HUMP HITTING FLOOR",
      ["SMALL DOUBLE,LARGE DOUBLE,TRIPLE SMALL TRIPLE,TRIPLE LARGE TRIPLE"]⟩,
    ⟨121292, "SIGNWRITING MOVEMENT-FLOORPLANE LOOP HITTING FLOOR",
      ["SMALL SINGLE,LARGE SINGLE,SMALL DOUBLE,LARGE DOUBLE"]⟩,
    ⟨121296, "SIGNWRITING MOVEMENT-FLOORPLANE WAVE HITTING FLOOR", ["SMALL,LARGE"]⟩,
    ⟨121298, "SIGNWRITING ROTATION-FLOORPLANE",
      ["SINGLE HITTING FLOOR,DOUBLE HITTING FLOOR,ALTERNATING HITTING FLOOR"]⟩,
    ⟨121301, "SIGNWRITING MOVEMENT-FLOORPLANE",
      ["CURVE SMALL,CURVE MEDIUM,CURVE LARGE,CURVE LARGEST,CURVE COMBINED,HUMP SMALL,LOOP SMALL",
        "WAVE SNAKE,WAVE SMALL,WAVE LARGE"]⟩,
    ⟨121311, "SIGNWRITING ROTATION-FLOORPLANE", ["SINGLE,DOUBLE,ALTERNATING"]⟩,
    ⟨121314, "SIGNWRITING MOVEMENT-FLOORPLANE SHAKING", ["PARALLEL"]⟩,
    ⟨121315, "SIGNWRITING MOVEMENT-WALLPLANE ARM CIRCLE",
      ["SMALL SINGLE,MEDIUM SINGLE,SMALL DOUBLE,MEDIUM DOUBLE"]⟩,
    ⟨121319, "SIGNWRITING MOVEMENT-FLOORPLANE ARM CIRCLE HITTING WALL",
      ["SMALL SINGLE,MEDIUM SINGLE,LARGE SINGLE,SMALL DOUBLE,MEDIUM DOUBLE,LARGE DOUBLE"]⟩,
    ⟨121325, "SIGNWRITING MOVEMENT-WALLPLANE WRIST CIRCLE FRONT", ["SINGLE,DOUBLE"]⟩,
    ⟨121327, "SIGNWRITING MOVEMENT-FLOORPLANE WRIST CIRCLE HITTING WALL", ["SINGLE,DOUBLE"]⟩,
    ⟨121329, "SIGNWRITING MOVEMENT-WALLPLANE FINGER CIRCLES", ["SINGLE,DOUBLE"]⟩,
    ⟨121331, "SIGNWRITING MOVEMENT-FLOORPLANE FINGER CIRCLES HITTING WALL", ["SINGLE,DOUBLE"]⟩,
    ⟨121333, "SIGNWRITING DYNAMIC",
      ["ARROWHEAD SMALL,ARROWHEAD LARGE,FAST,SLOW,TENSE,RELAXED,SIMULTANEOUS",
        "SIMULTANEOUS ALTERNATING,EVERY OTHER TIME,GRADUAL"]⟩,
    ⟨121343, "SIGNWRITING", ["HEAD"]⟩,
    ⟨121344, "SIGNWRITING HEAD",
      ["RIM,MOVEMENT-WALLPLANE STRAIGHT,MOVEMENT-WALLPLANE TILT,MOVEMENT-FLOORPLANE STRAIGHT",
        "MOVEMENT-WALLPLANE CURVE,MOVEMENT-FLOORPLANE CURVE,MOVEMENT CIRCLE"]⟩,
    ⟨121351, "SIGNWRITING FACE DIRECTION POSITION NOSE",
      ["FORWARD TILTING,UP OR DOWN,UP OR DOWN TILTING"]⟩,
    ⟨121354, "SIGNWRITING EYEBROWS STRAIGHT", ["UP,NEUTRAL,DOWN"]⟩,
    ⟨121357, "SIGNWRITING DREAMY EYEBROWS", ["NEUTRAL DOWN,DOWN NEUTRAL,UP NEUTRAL,NEUTRAL UP"]⟩,
    ⟨121361, "SIGNWRITING",
      ["FOREHEAD NEUTRAL,FOREHEAD CONTACT,FOREHEAD WRINKLED,EYES OPEN,EYES SQUEEZED,EYES CLOSED",
        "EYE BLINK SINGLE,EYE BLINK MULTIPLE,EYES HALF OPEN,EYES WIDE OPEN,EYES HALF CLOSED",
        "EYES WIDENING MOVEMENT,EYE WINK,EYELASHES UP,EYELASHES DOWN,EYELASHES FLUTTERING",
        "EYEGAZE-WALLPLANE STRAIGHT,EYEGAZE-WALLPLANE STRAIGHT DOUBLE",
        "EYEGAZE-WALLPLANE STRAIGHT ALTERNATING,EYEGAZE-FLOORPLANE STRAIGHT",
        "EYEGAZE-FLOORPLANE STRAIGHT DOUBLE,EYEGAZE-FLOORPLANE STRAIGHT ALTERNATING",
        "EYEGAZE-WALLPLANE CURVED,EYEGAZE-FLOORPLANE CURVED,EYEGAZE-WALLPLANE CIRCLING",
        "CHEEKS PUFFED,CHEEKS NEUTRAL,CHEEKS SUCKED,TENSE CHEEKS HIGH,TENSE CHEEKS MIDDLE",
        "TENSE CHEEKS LOW,EARS,NOSE NEUTRAL,NOSE CONTACT,NOSE WRINKLES,NOSE WIGGLES",
        "AIR BLOWING OUT,AIR SUCKING IN,AIR BLOW SMALL ROTATIONS,AIR SUCK SMALL ROTATIONS",
        "BREATH INHALE,BREATH EXHALE"]⟩,
    ⟨121403, "SIGNWRITING MOUTH",
      ["CLOSED NEUTRAL,CLOSED FORWARD,CLOSED CONTACT,SMILE,SMILE WRINKLED,SMILE OPEN,FROWN",
        "FROWN WRINKLED,FROWN OPEN,OPEN CIRCLE,OPEN FORWARD,OPEN WRINKLED,OPEN OVAL",
        "OPEN OVAL WRINKLED,OPEN OVAL YAWN,OPEN RECTANGLE,OPEN RECTANGLE WRINKLED",
        "OPEN RECTANGLE YAWN,KISS,KISS FORWARD,KISS WRINKLED,TENSE,TENSE FORWARD,TENSE SUCKED"]⟩,
    ⟨121427, "SIGNWRITING",
      ["LIPS PRESSED TOGETHER,LIP LOWER OVER UPPER,LIP UPPER OVER LOWER,MOUTH CORNERS",
        "MOUTH WRINKLES SINGLE,MOUTH WRINKLES DOUBLE,TONGUE STICKING OUT FAR,TONGUE LICKING LIPS",
        "TONGUE TIP BETWEEN LIPS,TONGUE TIP TOUCHING INSIDE MOUTH,TONGUE INSIDE MOUTH RELAXED",
        "TONGUE MOVES AGAINST CHEEK,TONGUE CENTRE STICKING OUT,TONGUE CENTRE INSIDE MOUTH,TEETH",
        "TEETH MOVEMENT,TEETH ON TONGUE,TEETH ON TONGUE MOVEMENT,TEETH ON LIPS",
        "TEETH ON LIPS MOVEMENT,TEETH BITE LIPS,MOVEMENT-WALLPLANE JAW,MOVEMENT-FLOORPLANE JAW",
        "NECK,HAIR,EXCITEMENT,SHOULDER HIP SPINE,SHOULDER HIP POSITIONS",
        "WALLPLANE SHOULDER HIP MOVE,FLOORPLANE SHOULDER HIP MOVE,SHOULDER TILTING FROM WAIST",
        "TORSO-WALLPLANE STRAIGHT STRETCH,TORSO-WALLPLANE CURVED BEND,TORSO-FLOORPLANE TWISTING",
        "UPPER BODY TILTING FROM HIP JOINTS,LIMB COMBINATION,LIMB LENGTH-1,LIMB LENGTH-2",
        "LIMB LENGTH-3,LIMB LENGTH-4,LIMB LENGTH-5,LIMB LENGTH-6,LIMB LENGTH-7,FINGER",
        "LOCATION-WALLPLANE SPACE,LOCATION-FLOORPLANE SPACE,LOCATION HEIGHT,LOCATION WIDTH",
        "LOCATION DEPTH,LOCATION HEAD NECK,LOCATION TORSO,LOCATION LIMBS DIGITS,COMMA,FULL STOP",
        "SEMICOLON,COLON,PARENTHESIS"]⟩,
    ⟨121499, "SIGNWRITING FILL", ["MODIFIER-2,MODIFIER-3,MODIFIER-4,MODIFIER-5,MODIFIER-6"]⟩,
    ⟨121505, "SIGNWRITING ROTATION",
      ["MODIFIER-2,MODIFIER-3,MODIFIER-4,MODIFIER-5,MODIFIER-6,MODIFIER-7,MODIFIER-8,MODIFIER-9",
        "MODIFIER-10,MODIFIER-11,MODIFIER-12,MODIFIER-13,MODIFIER-14,MODIFIER-15,MODIFIER-16"]⟩,
    ⟨122624, "LATIN",
      ["SMALL LETTER FENG DIGRAPH WITH TRILL,SMALL LETTER REVERSED SCRIPT G",
        "LETTER SMALL CAPITAL TURNED G,SMALL LETTER REVERSED K,LETTER SMALL CAPITAL L WITH BELT"]⟩,
    ⟨122629, "LATIN SMALL LETTER",
      ["LEZH WITH RETROFLEX HOOK,TURNED Y WITH BELT,REVERSED ENG",
        "TURNED R WITH LONG LEG AND RETROFLEX HOOK,T WITH HOOK AND RETROFLEX HOOK"]⟩,
    ⟨122634, "LATIN",
      ["LETTER RETROFLEX CLICK WITH RETROFLEX HOOK,SMALL LETTER ESH WITH DOUBLE BAR",
        "SMALL LETTER ESH WITH DOUBLE BAR AND CURL,SMALL LETTER TURNED T WITH CURL",
        "LETTER INVERTED GLOTTAL STOP WITH CURL,LETTER STRETCHED C WITH CURL",
        "LETTER SMALL CAPITAL TURNED K"]⟩,
    ⟨122641, "LATIN SMALL LETTER",
      ["L WITH FISHHOOK,DEZH DIGRAPH WITH PALATAL HOOK,L WITH BELT AND PALATAL HOOK",
        "ENG WITH PALATAL HOOK,TURNED R WITH PALATAL HOOK,R WITH FISHHOOK AND PALATAL HOOK",
        "TESH DIGRAPH WITH PALATAL HOOK,EZH WITH PALATAL HOOK,DEZH DIGRAPH WITH RETROFLEX HOOK",
        "I WITH STROKE AND RETROFLEX HOOK,O WITH RETROFLEX HOOK,TESH DIGRAPH WITH RETROFLEX HOOK",
        "C WITH RETROFLEX HOOK,S WITH CURL"]⟩]

end FileTags.Text
