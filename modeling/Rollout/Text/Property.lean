import Rollout.Text.Ranges
/-!
# Character properties

A binary property holds of a set of code points; each is kept as a table of ranges and known
by several names. The tables follow Unicode 16.0.

Every property of the Unicode database, binary or not, is known by its names
(`propertyNames`), whether or not a table of it is kept here.
-/

namespace Rollout.Text

/-- The `ASCII_Hex_Digit` property. -/
def asciiHexDigitTable : RangeTable :=
  RangeTable.ofHex (String.join [
    "30-39,41-46,61-66,"
  ])

/-- The `Alphabetic` property. -/
def alphabeticTable : RangeTable :=
  RangeTable.ofHex (String.join [
    "41-5a,61-7a,aa-aa,b5-b5,ba-ba,c0-d6,d8-f6,f8-2c1,",
    "2c6-2d1,2e0-2e4,2ec-2ec,2ee-2ee,345-345,363-374,376-377,37a-37d,",
    "37f-37f,386-386,388-38a,38c-38c,38e-3a1,3a3-3f5,3f7-481,48a-52f,",
    "531-556,559-559,560-588,5b0-5bd,5bf-5bf,5c1-5c2,5c4-5c5,5c7-5c7,",
    "5d0-5ea,5ef-5f2,610-61a,620-657,659-65f,66e-6d3,6d5-6dc,6e1-6e8,",
    "6ed-6ef,6fa-6fc,6ff-6ff,710-73f,74d-7b1,7ca-7ea,7f4-7f5,7fa-7fa,",
    "800-817,81a-82c,840-858,860-86a,870-887,889-88e,897-897,8a0-8c9,",
    "8d4-8df,8e3-8e9,8f0-93b,93d-94c,94e-950,955-963,971-983,985-98c,",
    "98f-990,993-9a8,9aa-9b0,9b2-9b2,9b6-9b9,9bd-9c4,9c7-9c8,9cb-9cc,",
    "9ce-9ce,9d7-9d7,9dc-9dd,9df-9e3,9f0-9f1,9fc-9fc,a01-a03,a05-a0a,",
    "a0f-a10,a13-a28,a2a-a30,a32-a33,a35-a36,a38-a39,a3e-a42,a47-a48,",
    "a4b-a4c,a51-a51,a59-a5c,a5e-a5e,a70-a75,a81-a83,a85-a8d,a8f-a91,",
    "a93-aa8,aaa-ab0,ab2-ab3,ab5-ab9,abd-ac5,ac7-ac9,acb-acc,ad0-ad0,",
    "ae0-ae3,af9-afc,b01-b03,b05-b0c,b0f-b10,b13-b28,b2a-b30,b32-b33,",
    "b35-b39,b3d-b44,b47-b48,b4b-b4c,b56-b57,b5c-b5d,b5f-b63,b71-b71,",
    "b82-b83,b85-b8a,b8e-b90,b92-b95,b99-b9a,b9c-b9c,b9e-b9f,ba3-ba4,",
    "ba8-baa,bae-bb9,bbe-bc2,bc6-bc8,bca-bcc,bd0-bd0,bd7-bd7,c00-c0c,",
    "c0e-c10,c12-c28,c2a-c39,c3d-c44,c46-c48,c4a-c4c,c55-c56,c58-c5a,",
    "c5d-c5d,c60-c63,c80-c83,c85-c8c,c8e-c90,c92-ca8,caa-cb3,cb5-cb9,",
    "cbd-cc4,cc6-cc8,cca-ccc,cd5-cd6,cdd-cde,ce0-ce3,cf1-cf3,d00-d0c,",
    "d0e-d10,d12-d3a,d3d-d44,d46-d48,d4a-d4c,d4e-d4e,d54-d57,d5f-d63,",
    "d7a-d7f,d81-d83,d85-d96,d9a-db1,db3-dbb,dbd-dbd,dc0-dc6,dcf-dd4,",
    "dd6-dd6,dd8-ddf,df2-df3,e01-e3a,e40-e46,e4d-e4d,e81-e82,e84-e84,",
    "e86-e8a,e8c-ea3,ea5-ea5,ea7-eb9,ebb-ebd,ec0-ec4,ec6-ec6,ecd-ecd,",
    "edc-edf,f00-f00,f40-f47,f49-f6c,f71-f83,f88-f97,f99-fbc,1000-1036,",
    "1038-1038,103b-103f,1050-108f,109a-109d,10a0-10c5,10c7-10c7,10cd-10cd,10d0-10fa,",
    "10fc-1248,124a-124d,1250-1256,1258-1258,125a-125d,1260-1288,128a-128d,1290-12b0,",
    "12b2-12b5,12b8-12be,12c0-12c0,12c2-12c5,12c8-12d6,12d8-1310,1312-1315,1318-135a,",
    "1380-138f,13a0-13f5,13f8-13fd,1401-166c,166f-167f,1681-169a,16a0-16ea,16ee-16f8,",
    "1700-1713,171f-1733,1740-1753,1760-176c,176e-1770,1772-1773,1780-17b3,17b6-17c8,",
    "17d7-17d7,17dc-17dc,1820-1878,1880-18aa,18b0-18f5,1900-191e,1920-192b,1930-1938,",
    "1950-196d,1970-1974,1980-19ab,19b0-19c9,1a00-1a1b,1a20-1a5e,1a61-1a74,1aa7-1aa7,",
    "1abf-1ac0,1acc-1ace,1b00-1b33,1b35-1b43,1b45-1b4c,1b80-1ba9,1bac-1baf,1bba-1be5,",
    "1be7-1bf1,1c00-1c36,1c4d-1c4f,1c5a-1c7d,1c80-1c8a,1c90-1cba,1cbd-1cbf,1ce9-1cec,",
    "1cee-1cf3,1cf5-1cf6,1cfa-1cfa,1d00-1dbf,1dd3-1df4,1e00-1f15,1f18-1f1d,1f20-1f45,",
    "1f48-1f4d,1f50-1f57,1f59-1f59,1f5b-1f5b,1f5d-1f5d,1f5f-1f7d,1f80-1fb4,1fb6-1fbc,",
    "1fbe-1fbe,1fc2-1fc4,1fc6-1fcc,1fd0-1fd3,1fd6-1fdb,1fe0-1fec,1ff2-1ff4,1ff6-1ffc,",
    "2071-2071,207f-207f,2090-209c,2102-2102,2107-2107,210a-2113,2115-2115,2119-211d,",
    "2124-2124,2126-2126,2128-2128,212a-212d,212f-2139,213c-213f,2145-2149,214e-214e,",
    "2160-2188,24b6-24e9,2c00-2ce4,2ceb-2cee,2cf2-2cf3,2d00-2d25,2d27-2d27,2d2d-2d2d,",
    "2d30-2d67,2d6f-2d6f,2d80-2d96,2da0-2da6,2da8-2dae,2db0-2db6,2db8-2dbe,2dc0-2dc6,",
    "2dc8-2dce,2dd0-2dd6,2dd8-2dde,2de0-2dff,2e2f-2e2f,3005-3007,3021-3029,3031-3035,",
    "3038-303c,3041-3096,309d-309f,30a1-30fa,30fc-30ff,3105-312f,3131-318e,31a0-31bf,",
    "31f0-31ff,3400-4dbf,4e00-a48c,a4d0-a4fd,a500-a60c,a610-a61f,a62a-a62b,a640-a66e,",
    "a674-a67b,a67f-a6ef,a717-a71f,a722-a788,a78b-a7cd,a7d0-a7d1,a7d3-a7d3,a7d5-a7dc,",
    "a7f2-a805,a807-a827,a840-a873,a880-a8c3,a8c5-a8c5,a8f2-a8f7,a8fb-a8fb,a8fd-a8ff,",
    "a90a-a92a,a930-a952,a960-a97c,a980-a9b2,a9b4-a9bf,a9cf-a9cf,a9e0-a9ef,a9fa-a9fe,",
    "aa00-aa36,aa40-aa4d,aa60-aa76,aa7a-aabe,aac0-aac0,aac2-aac2,aadb-aadd,aae0-aaef,",
    "aaf2-aaf5,ab01-ab06,ab09-ab0e,ab11-ab16,ab20-ab26,ab28-ab2e,ab30-ab5a,ab5c-ab69,",
    "ab70-abea,ac00-d7a3,d7b0-d7c6,d7cb-d7fb,f900-fa6d,fa70-fad9,fb00-fb06,fb13-fb17,",
    "fb1d-fb28,fb2a-fb36,fb38-fb3c,fb3e-fb3e,fb40-fb41,fb43-fb44,fb46-fbb1,fbd3-fd3d,",
    "fd50-fd8f,fd92-fdc7,fdf0-fdfb,fe70-fe74,fe76-fefc,ff21-ff3a,ff41-ff5a,ff66-ffbe,",
    "ffc2-ffc7,ffca-ffcf,ffd2-ffd7,ffda-ffdc,10000-1000b,1000d-10026,10028-1003a,1003c-1003d,",
    "1003f-1004d,10050-1005d,10080-100fa,10140-10174,10280-1029c,102a0-102d0,10300-1031f,1032d-1034a,",
    "10350-1037a,10380-1039d,103a0-103c3,103c8-103cf,103d1-103d5,10400-1049d,104b0-104d3,104d8-104fb,",
    "10500-10527,10530-10563,10570-1057a,1057c-1058a,1058c-10592,10594-10595,10597-105a1,105a3-105b1,",
    "105b3-105b9,105bb-105bc,105c0-105f3,10600-10736,10740-10755,10760-10767,10780-10785,10787-107b0,",
    "107b2-107ba,10800-10805,10808-10808,1080a-10835,10837-10838,1083c-1083c,1083f-10855,10860-10876,",
    "10880-1089e,108e0-108f2,108f4-108f5,10900-10915,10920-10939,10980-109b7,109be-109bf,10a00-10a03,",
    "10a05-10a06,10a0c-10a13,10a15-10a17,10a19-10a35,10a60-10a7c,10a80-10a9c,10ac0-10ac7,10ac9-10ae4,",
    "10b00-10b35,10b40-10b55,10b60-10b72,10b80-10b91,10c00-10c48,10c80-10cb2,10cc0-10cf2,10d00-10d27,",
    "10d4a-10d65,10d69-10d69,10d6f-10d85,10e80-10ea9,10eab-10eac,10eb0-10eb1,10ec2-10ec4,10efc-10efc,",
    "10f00-10f1c,10f27-10f27,10f30-10f45,10f70-10f81,10fb0-10fc4,10fe0-10ff6,11000-11045,11071-11075,",
    "11080-110b8,110c2-110c2,110d0-110e8,11100-11132,11144-11147,11150-11172,11176-11176,11180-111bf,",
    "111c1-111c4,111ce-111cf,111da-111da,111dc-111dc,11200-11211,11213-11234,11237-11237,1123e-11241,",
    "11280-11286,11288-11288,1128a-1128d,1128f-1129d,1129f-112a8,112b0-112e8,11300-11303,11305-1130c,",
    "1130f-11310,11313-11328,1132a-11330,11332-11333,11335-11339,1133d-11344,11347-11348,1134b-1134c,",
    "11350-11350,11357-11357,1135d-11363,11380-11389,1138b-1138b,1138e-1138e,11390-113b5,113b7-113c0,",
    "113c2-113c2,113c5-113c5,113c7-113ca,113cc-113cd,113d1-113d1,113d3-113d3,11400-11441,11443-11445,",
    "11447-1144a,1145f-11461,11480-114c1,114c4-114c5,114c7-114c7,11580-115b5,115b8-115be,115d8-115dd,",
    "11600-1163e,11640-11640,11644-11644,11680-116b5,116b8-116b8,11700-1171a,1171d-1172a,11740-11746,",
    "11800-11838,118a0-118df,118ff-11906,11909-11909,1190c-11913,11915-11916,11918-11935,11937-11938,",
    "1193b-1193c,1193f-11942,119a0-119a7,119aa-119d7,119da-119df,119e1-119e1,119e3-119e4,11a00-11a32,",
    "11a35-11a3e,11a50-11a97,11a9d-11a9d,11ab0-11af8,11bc0-11be0,11c00-11c08,11c0a-11c36,11c38-11c3e,",
    "11c40-11c40,11c72-11c8f,11c92-11ca7,11ca9-11cb6,11d00-11d06,11d08-11d09,11d0b-11d36,11d3a-11d3a,",
    "11d3c-11d3d,11d3f-11d41,11d43-11d43,11d46-11d47,11d60-11d65,11d67-11d68,11d6a-11d8e,11d90-11d91,",
    "11d93-11d96,11d98-11d98,11ee0-11ef6,11f00-11f10,11f12-11f3a,11f3e-11f40,11fb0-11fb0,12000-12399,",
    "12400-1246e,12480-12543,12f90-12ff0,13000-1342f,13441-13446,13460-143fa,14400-14646,16100-1612e,",
    "16800-16a38,16a40-16a5e,16a70-16abe,16ad0-16aed,16b00-16b2f,16b40-16b43,16b63-16b77,16b7d-16b8f,",
    "16d40-16d6c,16e40-16e7f,16f00-16f4a,16f4f-16f87,16f8f-16f9f,16fe0-16fe1,16fe3-16fe3,16ff0-16ff1,",
    "17000-187f7,18800-18cd5,18cff-18d08,1aff0-1aff3,1aff5-1affb,1affd-1affe,1b000-1b122,1b132-1b132,",
    "1b150-1b152,1b155-1b155,1b164-1b167,1b170-1b2fb,1bc00-1bc6a,1bc70-1bc7c,1bc80-1bc88,1bc90-1bc99,",
    "1bc9e-1bc9e,1d400-1d454,1d456-1d49c,1d49e-1d49f,1d4a2-1d4a2,1d4a5-1d4a6,1d4a9-1d4ac,1d4ae-1d4b9,",
    "1d4bb-1d4bb,1d4bd-1d4c3,1d4c5-1d505,1d507-1d50a,1d50d-1d514,1d516-1d51c,1d51e-1d539,1d53b-1d53e,",
    "1d540-1d544,1d546-1d546,1d54a-1d550,1d552-1d6a5,1d6a8-1d6c0,1d6c2-1d6da,1d6dc-1d6fa,1d6fc-1d714,",
    "1d716-1d734,1d736-1d74e,1d750-1d76e,1d770-1d788,1d78a-1d7a8,1d7aa-1d7c2,1d7c4-1d7cb,1df00-1df1e,",
    "1df25-1df2a,1e000-1e006,1e008-1e018,1e01b-1e021,1e023-1e024,1e026-1e02a,1e030-1e06d,1e08f-1e08f,",
    "1e100-1e12c,1e137-1e13d,1e14e-1e14e,1e290-1e2ad,1e2c0-1e2eb,1e4d0-1e4eb,1e5d0-1e5ed,1e5f0-1e5f0,",
    "1e7e0-1e7e6,1e7e8-1e7eb,1e7ed-1e7ee,1e7f0-1e7fe,1e800-1e8c4,1e900-1e943,1e947-1e947,1e94b-1e94b,",
    "1ee00-1ee03,1ee05-1ee1f,1ee21-1ee22,1ee24-1ee24,1ee27-1ee27,1ee29-1ee32,1ee34-1ee37,1ee39-1ee39,",
    "1ee3b-1ee3b,1ee42-1ee42,1ee47-1ee47,1ee49-1ee49,1ee4b-1ee4b,1ee4d-1ee4f,1ee51-1ee52,1ee54-1ee54,",
    "1ee57-1ee57,1ee59-1ee59,1ee5b-1ee5b,1ee5d-1ee5d,1ee5f-1ee5f,1ee61-1ee62,1ee64-1ee64,1ee67-1ee6a,",
    "1ee6c-1ee72,1ee74-1ee77,1ee79-1ee7c,1ee7e-1ee7e,1ee80-1ee89,1ee8b-1ee9b,1eea1-1eea3,1eea5-1eea9,",
    "1eeab-1eebb,1f130-1f149,1f150-1f169,1f170-1f189,20000-2a6df,2a700-2b739,2b740-2b81d,2b820-2cea1,",
    "2ceb0-2ebe0,2ebf0-2ee5d,2f800-2fa1d,30000-3134a,31350-323af,"
  ])

/-- The `Bidi_Control` property. -/
def bidiControlTable : RangeTable :=
  RangeTable.ofHex (String.join [
    "61c-61c,200e-200f,202a-202e,2066-2069,"
  ])

/-- The `Bidi_Mirrored` property. -/
def bidiMirroredTable : RangeTable :=
  RangeTable.ofHex (String.join [
    "28-29,3c-3c,3e-3e,5b-5b,5d-5d,7b-7b,7d-7d,ab-ab,",
    "bb-bb,f3a-f3d,169b-169c,2039-203a,2045-2046,207d-207e,208d-208e,2140-2140,",
    "2201-2204,2208-220d,2211-2211,2215-2216,221a-221d,221f-2222,2224-2224,2226-2226,",
    "222b-2233,2239-2239,223b-224c,2252-2255,225f-2260,2262-2262,2264-226b,226d-228c,",
    "228f-2292,2298-2298,22a2-22a3,22a6-22b8,22be-22bf,22c9-22cd,22d0-22d1,22d6-22ed,",
    "22f0-22ff,2308-230b,2320-2321,2329-232a,2768-2775,27c0-27c0,27c3-27c6,27c8-27c9,",
    "27cb-27cd,27d3-27d6,27dc-27de,27e2-27ef,2983-2998,299b-29a0,29a2-29af,29b8-29b8,",
    "29c0-29c5,29c9-29c9,29ce-29d2,29d4-29d5,29d8-29dc,29e1-29e1,29e3-29e5,29e8-29e9,",
    "29f4-29f9,29fc-29fd,2a0a-2a1c,2a1e-2a21,2a24-2a24,2a26-2a26,2a29-2a29,2a2b-2a2e,",
    "2a34-2a35,2a3c-2a3e,2a57-2a58,2a64-2a65,2a6a-2a6d,2a6f-2a70,2a73-2a74,2a79-2aa3,",
    "2aa6-2aad,2aaf-2ad6,2adc-2adc,2ade-2ade,2ae2-2ae6,2aec-2aee,2af3-2af3,2af7-2afb,",
    "2afd-2afd,2bfe-2bfe,2e02-2e05,2e09-2e0a,2e0c-2e0d,2e1c-2e1d,2e20-2e29,2e55-2e5c,",
    "3008-3011,3014-301b,fe59-fe5e,fe64-fe65,ff08-ff09,ff1c-ff1c,ff1e-ff1e,ff3b-ff3b,",
    "ff3d-ff3d,ff5b-ff5b,ff5d-ff5d,ff5f-ff60,ff62-ff63,1d6db-1d6db,1d715-1d715,1d74f-1d74f,",
    "1d789-1d789,1d7c3-1d7c3,"
  ])

/-- The `Case_Ignorable` property. -/
def caseIgnorableTable : RangeTable :=
  RangeTable.ofHex (String.join [
    "27-27,2e-2e,3a-3a,5e-5e,60-60,a8-a8,ad-ad,af-af,",
    "b4-b4,b7-b8,2b0-36f,374-375,37a-37a,384-385,387-387,483-489,",
    "559-559,55f-55f,591-5bd,5bf-5bf,5c1-5c2,5c4-5c5,5c7-5c7,5f4-5f4,",
    "600-605,610-61a,61c-61c,640-640,64b-65f,670-670,6d6-6dd,6df-6e8,",
    "6ea-6ed,70f-70f,711-711,730-74a,7a6-7b0,7eb-7f5,7fa-7fa,7fd-7fd,",
    "816-82d,859-85b,888-888,890-891,897-89f,8c9-902,93a-93a,93c-93c,",
    "941-948,94d-94d,951-957,962-963,971-971,981-981,9bc-9bc,9c1-9c4,",
    "9cd-9cd,9e2-9e3,9fe-9fe,a01-a02,a3c-a3c,a41-a42,a47-a48,a4b-a4d,",
    "a51-a51,a70-a71,a75-a75,a81-a82,abc-abc,ac1-ac5,ac7-ac8,acd-acd,",
    "ae2-ae3,afa-aff,b01-b01,b3c-b3c,b3f-b3f,b41-b44,b4d-b4d,b55-b56,",
    "b62-b63,b82-b82,bc0-bc0,bcd-bcd,c00-c00,c04-c04,c3c-c3c,c3e-c40,",
    "c46-c48,c4a-c4d,c55-c56,c62-c63,c81-c81,cbc-cbc,cbf-cbf,cc6-cc6,",
    "ccc-ccd,ce2-ce3,d00-d01,d3b-d3c,d41-d44,d4d-d4d,d62-d63,d81-d81,",
    "dca-dca,dd2-dd4,dd6-dd6,e31-e31,e34-e3a,e46-e4e,eb1-eb1,eb4-ebc,",
    "ec6-ec6,ec8-ece,f18-f19,f35-f35,f37-f37,f39-f39,f71-f7e,f80-f84,",
    "f86-f87,f8d-f97,f99-fbc,fc6-fc6,102d-1030,1032-1037,1039-103a,103d-103e,",
    "1058-1059,105e-1060,1071-1074,1082-1082,1085-1086,108d-108d,109d-109d,10fc-10fc,",
    "135d-135f,1712-1714,1732-1733,1752-1753,1772-1773,17b4-17b5,17b7-17bd,17c6-17c6,",
    "17c9-17d3,17d7-17d7,17dd-17dd,180b-180f,1843-1843,1885-1886,18a9-18a9,1920-1922,",
    "1927-1928,1932-1932,1939-193b,1a17-1a18,1a1b-1a1b,1a56-1a56,1a58-1a5e,1a60-1a60,",
    "1a62-1a62,1a65-1a6c,1a73-1a7c,1a7f-1a7f,1aa7-1aa7,1ab0-1ace,1b00-1b03,1b34-1b34,",
    "1b36-1b3a,1b3c-1b3c,1b42-1b42,1b6b-1b73,1b80-1b81,1ba2-1ba5,1ba8-1ba9,1bab-1bad,",
    "1be6-1be6,1be8-1be9,1bed-1bed,1bef-1bf1,1c2c-1c33,1c36-1c37,1c78-1c7d,1cd0-1cd2,",
    "1cd4-1ce0,1ce2-1ce8,1ced-1ced,1cf4-1cf4,1cf8-1cf9,1d2c-1d6a,1d78-1d78,1d9b-1dff,",
    "1fbd-1fbd,1fbf-1fc1,1fcd-1fcf,1fdd-1fdf,1fed-1fef,1ffd-1ffe,200b-200f,2018-2019,",
    "2024-2024,2027-2027,202a-202e,2060-2064,2066-206f,2071-2071,207f-207f,2090-209c,",
    "20d0-20f0,2c7c-2c7d,2cef-2cf1,2d6f-2d6f,2d7f-2d7f,2de0-2dff,2e2f-2e2f,3005-3005,",
    "302a-302d,3031-3035,303b-303b,3099-309e,30fc-30fe,a015-a015,a4f8-a4fd,a60c-a60c,",
    "a66f-a672,a674-a67d,a67f-a67f,a69c-a69f,a6f0-a6f1,a700-a721,a770-a770,a788-a78a,",
    "a7f2-a7f4,a7f8-a7f9,a802-a802,a806-a806,a80b-a80b,a825-a826,a82c-a82c,a8c4-a8c5,",
    "a8e0-a8f1,a8ff-a8ff,a926-a92d,a947-a951,a980-a982,a9b3-a9b3,a9b6-a9b9,a9bc-a9bd,",
    "a9cf-a9cf,a9e5-a9e6,aa29-aa2e,aa31-aa32,aa35-aa36,aa43-aa43,aa4c-aa4c,aa70-aa70,",
    "aa7c-aa7c,aab0-aab0,aab2-aab4,aab7-aab8,aabe-aabf,aac1-aac1,aadd-aadd,aaec-aaed,",
    "aaf3-aaf4,aaf6-aaf6,ab5b-ab5f,ab69-ab6b,abe5-abe5,abe8-abe8,abed-abed,fb1e-fb1e,",
    "fbb2-fbc2,fe00-fe0f,fe13-fe13,fe20-fe2f,fe52-fe52,fe55-fe55,feff-feff,ff07-ff07,",
    "ff0e-ff0e,ff1a-ff1a,ff3e-ff3e,ff40-ff40,ff70-ff70,ff9e-ff9f,ffe3-ffe3,fff9-fffb,",
    "101fd-101fd,102e0-102e0,10376-1037a,10780-10785,10787-107b0,107b2-107ba,10a01-10a03,10a05-10a06,",
    "10a0c-10a0f,10a38-10a3a,10a3f-10a3f,10ae5-10ae6,10d24-10d27,10d4e-10d4e,10d69-10d6d,10d6f-10d6f,",
    "10eab-10eac,10efc-10eff,10f46-10f50,10f82-10f85,11001-11001,11038-11046,11070-11070,11073-11074,",
    "1107f-11081,110b3-110b6,110b9-110ba,110bd-110bd,110c2-110c2,110cd-110cd,11100-11102,11127-1112b,",
    "1112d-11134,11173-11173,11180-11181,111b6-111be,111c9-111cc,111cf-111cf,1122f-11231,11234-11234,",
    "11236-11237,1123e-1123e,11241-11241,112df-112df,112e3-112ea,11300-11301,1133b-1133c,11340-11340,",
    "11366-1136c,11370-11374,113bb-113c0,113ce-113ce,113d0-113d0,113d2-113d2,113e1-113e2,11438-1143f,",
    "11442-11444,11446-11446,1145e-1145e,114b3-114b8,114ba-114ba,114bf-114c0,114c2-114c3,115b2-115b5,",
    "115bc-115bd,115bf-115c0,115dc-115dd,11633-1163a,1163d-1163d,1163f-11640,116ab-116ab,116ad-116ad,",
    "116b0-116b5,116b7-116b7,1171d-1171d,1171f-1171f,11722-11725,11727-1172b,1182f-11837,11839-1183a,",
    "1193b-1193c,1193e-1193e,11943-11943,119d4-119d7,119da-119db,119e0-119e0,11a01-11a0a,11a33-11a38,",
    "11a3b-11a3e,11a47-11a47,11a51-11a56,11a59-11a5b,11a8a-11a96,11a98-11a99,11c30-11c36,11c38-11c3d,",
    "11c3f-11c3f,11c92-11ca7,11caa-11cb0,11cb2-11cb3,11cb5-11cb6,11d31-11d36,11d3a-11d3a,11d3c-11d3d,",
    "11d3f-11d45,11d47-11d47,11d90-11d91,11d95-11d95,11d97-11d97,11ef3-11ef4,11f00-11f01,11f36-11f3a,",
    "11f40-11f40,11f42-11f42,11f5a-11f5a,13430-13440,13447-13455,1611e-16129,1612d-1612f,16af0-16af4,",
    "16b30-16b36,16b40-16b43,16d40-16d42,16d6b-16d6c,16f4f-16f4f,16f8f-16f9f,16fe0-16fe1,16fe3-16fe4,",
    "1aff0-1aff3,1aff5-1affb,1affd-1affe,1bc9d-1bc9e,1bca0-1bca3,1cf00-1cf2d,1cf30-1cf46,1d167-1d169,",
    "1d173-1d182,1d185-1d18b,1d1aa-1d1ad,1d242-1d244,1da00-1da36,1da3b-1da6c,1da75-1da75,1da84-1da84,",
    "1da9b-1da9f,1daa1-1daaf,1e000-1e006,1e008-1e018,1e01b-1e021,1e023-1e024,1e026-1e02a,1e030-1e06d,",
    "1e08f-1e08f,1e130-1e13d,1e2ae-1e2ae,1e2ec-1e2ef,1e4eb-1e4ef,1e5ee-1e5ef,1e8d0-1e8d6,1e944-1e94b,",
    "1f3fb-1f3ff,e0001-e0001,e0020-e007f,e0100-e01ef,"
  ])

/-- The `Cased` property. -/
def casedTable : RangeTable :=
  RangeTable.ofHex (String.join [
    "41-5a,61-7a,aa-aa,b5-b5,ba-ba,c0-d6,d8-f6,f8-1ba,",
    "1bc-1bf,1c4-293,295-2b8,2c0-2c1,2e0-2e4,345-345,370-373,376-377,",
    "37a-37d,37f-37f,386-386,388-38a,38c-38c,38e-3a1,3a3-3f5,3f7-481,",
    "48a-52f,531-556,560-588,10a0-10c5,10c7-10c7,10cd-10cd,10d0-10fa,10fc-10ff,",
    "13a0-13f5,13f8-13fd,1c80-1c8a,1c90-1cba,1cbd-1cbf,1d00-1dbf,1e00-1f15,1f18-1f1d,",
    "1f20-1f45,1f48-1f4d,1f50-1f57,1f59-1f59,1f5b-1f5b,1f5d-1f5d,1f5f-1f7d,1f80-1fb4,",
    "1fb6-1fbc,1fbe-1fbe,1fc2-1fc4,1fc6-1fcc,1fd0-1fd3,1fd6-1fdb,1fe0-1fec,1ff2-1ff4,",
    "1ff6-1ffc,2071-2071,207f-207f,2090-209c,2102-2102,2107-2107,210a-2113,2115-2115,",
    "2119-211d,2124-2124,2126-2126,2128-2128,212a-212d,212f-2134,2139-2139,213c-213f,",
    "2145-2149,214e-214e,2160-217f,2183-2184,24b6-24e9,2c00-2ce4,2ceb-2cee,2cf2-2cf3,",
    "2d00-2d25,2d27-2d27,2d2d-2d2d,a640-a66d,a680-a69d,a722-a787,a78b-a78e,a790-a7cd,",
    "a7d0-a7d1,a7d3-a7d3,a7d5-a7dc,a7f2-a7f6,a7f8-a7fa,ab30-ab5a,ab5c-ab69,ab70-abbf,",
    "fb00-fb06,fb13-fb17,ff21-ff3a,ff41-ff5a,10400-1044f,104b0-104d3,104d8-104fb,10570-1057a,",
    "1057c-1058a,1058c-10592,10594-10595,10597-105a1,105a3-105b1,105b3-105b9,105bb-105bc,10780-10780,",
    "10783-10785,10787-107b0,107b2-107ba,10c80-10cb2,10cc0-10cf2,10d50-10d65,10d70-10d85,118a0-118df,",
    "16e40-16e7f,1d400-1d454,1d456-1d49c,1d49e-1d49f,1d4a2-1d4a2,1d4a5-1d4a6,1d4a9-1d4ac,1d4ae-1d4b9,",
    "1d4bb-1d4bb,1d4bd-1d4c3,1d4c5-1d505,1d507-1d50a,1d50d-1d514,1d516-1d51c,1d51e-1d539,1d53b-1d53e,",
    "1d540-1d544,1d546-1d546,1d54a-1d550,1d552-1d6a5,1d6a8-1d6c0,1d6c2-1d6da,1d6dc-1d6fa,1d6fc-1d714,",
    "1d716-1d734,1d736-1d74e,1d750-1d76e,1d770-1d788,1d78a-1d7a8,1d7aa-1d7c2,1d7c4-1d7cb,1df00-1df09,",
    "1df0b-1df1e,1df25-1df2a,1e030-1e06d,1e900-1e943,1f130-1f149,1f150-1f169,1f170-1f189,"
  ])

/-- The `Changes_When_Casefolded` property. -/
def changesWhenCasefoldedTable : RangeTable :=
  RangeTable.ofHex (String.join [
    "41-5a,b5-b5,c0-d6,d8-df,100-100,102-102,104-104,106-106,",
    "108-108,10a-10a,10c-10c,10e-10e,110-110,112-112,114-114,116-116,",
    "118-118,11a-11a,11c-11c,11e-11e,120-120,122-122,124-124,126-126,",
    "128-128,12a-12a,12c-12c,12e-12e,130-130,132-132,134-134,136-136,",
    "139-139,13b-13b,13d-13d,13f-13f,141-141,143-143,145-145,147-147,",
    "149-14a,14c-14c,14e-14e,150-150,152-152,154-154,156-156,158-158,",
    "15a-15a,15c-15c,15e-15e,160-160,162-162,164-164,166-166,168-168,",
    "16a-16a,16c-16c,16e-16e,170-170,172-172,174-174,176-176,178-179,",
    "17b-17b,17d-17d,17f-17f,181-182,184-184,186-187,189-18b,18e-191,",
    "193-194,196-198,19c-19d,19f-1a0,1a2-1a2,1a4-1a4,1a6-1a7,1a9-1a9,",
    "1ac-1ac,1ae-1af,1b1-1b3,1b5-1b5,1b7-1b8,1bc-1bc,1c4-1c5,1c7-1c8,",
    "1ca-1cb,1cd-1cd,1cf-1cf,1d1-1d1,1d3-1d3,1d5-1d5,1d7-1d7,1d9-1d9,",
    "1db-1db,1de-1de,1e0-1e0,1e2-1e2,1e4-1e4,1e6-1e6,1e8-1e8,1ea-1ea,",
    "1ec-1ec,1ee-1ee,1f1-1f2,1f4-1f4,1f6-1f8,1fa-1fa,1fc-1fc,1fe-1fe,",
    "200-200,202-202,204-204,206-206,208-208,20a-20a,20c-20c,20e-20e,",
    "210-210,212-212,214-214,216-216,218-218,21a-21a,21c-21c,21e-21e,",
    "220-220,222-222,224-224,226-226,228-228,22a-22a,22c-22c,22e-22e,",
    "230-230,232-232,23a-23b,23d-23e,241-241,243-246,248-248,24a-24a,",
    "24c-24c,24e-24e,345-345,370-370,372-372,376-376,37f-37f,386-386,",
    "388-38a,38c-38c,38e-38f,391-3a1,3a3-3ab,3c2-3c2,3cf-3d1,3d5-3d6,",
    "3d8-3d8,3da-3da,3dc-3dc,3de-3de,3e0-3e0,3e2-3e2,3e4-3e4,3e6-3e6,",
    "3e8-3e8,3ea-3ea,3ec-3ec,3ee-3ee,3f0-3f1,3f4-3f5,3f7-3f7,3f9-3fa,",
    "3fd-42f,460-460,462-462,464-464,466-466,468-468,46a-46a,46c-46c,",
    "46e-46e,470-470,472-472,474-474,476-476,478-478,47a-47a,47c-47c,",
    "47e-47e,480-480,48a-48a,48c-48c,48e-48e,490-490,492-492,494-494,",
    "496-496,498-498,49a-49a,49c-49c,49e-49e,4a0-4a0,4a2-4a2,4a4-4a4,",
    "4a6-4a6,4a8-4a8,4aa-4aa,4ac-4ac,4ae-4ae,4b0-4b0,4b2-4b2,4b4-4b4,",
    "4b6-4b6,4b8-4b8,4ba-4ba,4bc-4bc,4be-4be,4c0-4c1,4c3-4c3,4c5-4c5,",
    "4c7-4c7,4c9-4c9,4cb-4cb,4cd-4cd,4d0-4d0,4d2-4d2,4d4-4d4,4d6-4d6,",
    "4d8-4d8,4da-4da,4dc-4dc,4de-4de,4e0-4e0,4e2-4e2,4e4-4e4,4e6-4e6,",
    "4e8-4e8,4ea-4ea,4ec-4ec,4ee-4ee,4f0-4f0,4f2-4f2,4f4-4f4,4f6-4f6,",
    "4f8-4f8,4fa-4fa,4fc-4fc,4fe-4fe,500-500,502-502,504-504,506-506,",
    "508-508,50a-50a,50c-50c,50e-50e,510-510,512-512,514-514,516-516,",
    "518-518,51a-51a,51c-51c,51e-51e,520-520,522-522,524-524,526-526,",
    "528-528,52a-52a,52c-52c,52e-52e,531-556,587-587,10a0-10c5,10c7-10c7,",
    "10cd-10cd,13f8-13fd,1c80-1c89,1c90-1cba,1cbd-1cbf,1e00-1e00,1e02-1e02,1e04-1e04,",
    "1e06-1e06,1e08-1e08,1e0a-1e0a,1e0c-1e0c,1e0e-1e0e,1e10-1e10,1e12-1e12,1e14-1e14,",
    "1e16-1e16,1e18-1e18,1e1a-1e1a,1e1c-1e1c,1e1e-1e1e,1e20-1e20,1e22-1e22,1e24-1e24,",
    "1e26-1e26,1e28-1e28,1e2a-1e2a,1e2c-1e2c,1e2e-1e2e,1e30-1e30,1e32-1e32,1e34-1e34,",
    "1e36-1e36,1e38-1e38,1e3a-1e3a,1e3c-1e3c,1e3e-1e3e,1e40-1e40,1e42-1e42,1e44-1e44,",
    "1e46-1e46,1e48-1e48,1e4a-1e4a,1e4c-1e4c,1e4e-1e4e,1e50-1e50,1e52-1e52,1e54-1e54,",
    "1e56-1e56,1e58-1e58,1e5a-1e5a,1e5c-1e5c,1e5e-1e5e,1e60-1e60,1e62-1e62,1e64-1e64,",
    "1e66-1e66,1e68-1e68,1e6a-1e6a,1e6c-1e6c,1e6e-1e6e,1e70-1e70,1e72-1e72,1e74-1e74,",
    "1e76-1e76,1e78-1e78,1e7a-1e7a,1e7c-1e7c,1e7e-1e7e,1e80-1e80,1e82-1e82,1e84-1e84,",
    "1e86-1e86,1e88-1e88,1e8a-1e8a,1e8c-1e8c,1e8e-1e8e,1e90-1e90,1e92-1e92,1e94-1e94,",
    "1e9a-1e9b,1e9e-1e9e,1ea0-1ea0,1ea2-1ea2,1ea4-1ea4,1ea6-1ea6,1ea8-1ea8,1eaa-1eaa,",
    "1eac-1eac,1eae-1eae,1eb0-1eb0,1eb2-1eb2,1eb4-1eb4,1eb6-1eb6,1eb8-1eb8,1eba-1eba,",
    "1ebc-1ebc,1ebe-1ebe,1ec0-1ec0,1ec2-1ec2,1ec4-1ec4,1ec6-1ec6,1ec8-1ec8,1eca-1eca,",
    "1ecc-1ecc,1ece-1ece,1ed0-1ed0,1ed2-1ed2,1ed4-1ed4,1ed6-1ed6,1ed8-1ed8,1eda-1eda,",
    "1edc-1edc,1ede-1ede,1ee0-1ee0,1ee2-1ee2,1ee4-1ee4,1ee6-1ee6,1ee8-1ee8,1eea-1eea,",
    "1eec-1eec,1eee-1eee,1ef0-1ef0,1ef2-1ef2,1ef4-1ef4,1ef6-1ef6,1ef8-1ef8,1efa-1efa,",
    "1efc-1efc,1efe-1efe,1f08-1f0f,1f18-1f1d,1f28-1f2f,1f38-1f3f,1f48-1f4d,1f59-1f59,",
    "1f5b-1f5b,1f5d-1f5d,1f5f-1f5f,1f68-1f6f,1f80-1faf,1fb2-1fb4,1fb7-1fbc,1fc2-1fc4,",
    "1fc7-1fcc,1fd8-1fdb,1fe8-1fec,1ff2-1ff4,1ff7-1ffc,2126-2126,212a-212b,2132-2132,",
    "2160-216f,2183-2183,24b6-24cf,2c00-2c2f,2c60-2c60,2c62-2c64,2c67-2c67,2c69-2c69,",
    "2c6b-2c6b,2c6d-2c70,2c72-2c72,2c75-2c75,2c7e-2c80,2c82-2c82,2c84-2c84,2c86-2c86,",
    "2c88-2c88,2c8a-2c8a,2c8c-2c8c,2c8e-2c8e,2c90-2c90,2c92-2c92,2c94-2c94,2c96-2c96,",
    "2c98-2c98,2c9a-2c9a,2c9c-2c9c,2c9e-2c9e,2ca0-2ca0,2ca2-2ca2,2ca4-2ca4,2ca6-2ca6,",
    "2ca8-2ca8,2caa-2caa,2cac-2cac,2cae-2cae,2cb0-2cb0,2cb2-2cb2,2cb4-2cb4,2cb6-2cb6,",
    "2cb8-2cb8,2cba-2cba,2cbc-2cbc,2cbe-2cbe,2cc0-2cc0,2cc2-2cc2,2cc4-2cc4,2cc6-2cc6,",
    "2cc8-2cc8,2cca-2cca,2ccc-2ccc,2cce-2cce,2cd0-2cd0,2cd2-2cd2,2cd4-2cd4,2cd6-2cd6,",
    "2cd8-2cd8,2cda-2cda,2cdc-2cdc,2cde-2cde,2ce0-2ce0,2ce2-2ce2,2ceb-2ceb,2ced-2ced,",
    "2cf2-2cf2,a640-a640,a642-a642,a644-a644,a646-a646,a648-a648,a64a-a64a,a64c-a64c,",
    "a64e-a64e,a650-a650,a652-a652,a654-a654,a656-a656,a658-a658,a65a-a65a,a65c-a65c,",
    "a65e-a65e,a660-a660,a662-a662,a664-a664,a666-a666,a668-a668,a66a-a66a,a66c-a66c,",
    "a680-a680,a682-a682,a684-a684,a686-a686,a688-a688,a68a-a68a,a68c-a68c,a68e-a68e,",
    "a690-a690,a692-a692,a694-a694,a696-a696,a698-a698,a69a-a69a,a722-a722,a724-a724,",
    "a726-a726,a728-a728,a72a-a72a,a72c-a72c,a72e-a72e,a732-a732,a734-a734,a736-a736,",
    "a738-a738,a73a-a73a,a73c-a73c,a73e-a73e,a740-a740,a742-a742,a744-a744,a746-a746,",
    "a748-a748,a74a-a74a,a74c-a74c,a74e-a74e,a750-a750,a752-a752,a754-a754,a756-a756,",
    "a758-a758,a75a-a75a,a75c-a75c,a75e-a75e,a760-a760,a762-a762,a764-a764,a766-a766,",
    "a768-a768,a76a-a76a,a76c-a76c,a76e-a76e,a779-a779,a77b-a77b,a77d-a77e,a780-a780,",
    "a782-a782,a784-a784,a786-a786,a78b-a78b,a78d-a78d,a790-a790,a792-a792,a796-a796,",
    "a798-a798,a79a-a79a,a79c-a79c,a79e-a79e,a7a0-a7a0,a7a2-a7a2,a7a4-a7a4,a7a6-a7a6,",
    "a7a8-a7a8,a7aa-a7ae,a7b0-a7b4,a7b6-a7b6,a7b8-a7b8,a7ba-a7ba,a7bc-a7bc,a7be-a7be,",
    "a7c0-a7c0,a7c2-a7c2,a7c4-a7c7,a7c9-a7c9,a7cb-a7cc,a7d0-a7d0,a7d6-a7d6,a7d8-a7d8,",
    "a7da-a7da,a7dc-a7dc,a7f5-a7f5,ab70-abbf,fb00-fb06,fb13-fb17,ff21-ff3a,10400-10427,",
    "104b0-104d3,10570-1057a,1057c-1058a,1058c-10592,10594-10595,10c80-10cb2,10d50-10d65,118a0-118bf,",
    "16e40-16e5f,1e900-1e921,"
  ])

/-- The `Changes_When_Casemapped` property. -/
def changesWhenCasemappedTable : RangeTable :=
  RangeTable.ofHex (String.join [
    "41-5a,61-7a,b5-b5,c0-d6,d8-f6,f8-137,139-18c,18e-1a9,",
    "1ac-1b9,1bc-1bd,1bf-1bf,1c4-220,222-233,23a-254,256-257,259-259,",
    "25b-25c,260-261,263-266,268-26c,26f-26f,271-272,275-275,27d-27d,",
    "280-280,282-283,287-28c,292-292,29d-29e,345-345,370-373,376-377,",
    "37b-37d,37f-37f,386-386,388-38a,38c-38c,38e-3a1,3a3-3d1,3d5-3f5,",
    "3f7-3fb,3fd-481,48a-52f,531-556,561-587,10a0-10c5,10c7-10c7,10cd-10cd,",
    "10d0-10fa,10fd-10ff,13a0-13f5,13f8-13fd,1c80-1c8a,1c90-1cba,1cbd-1cbf,1d79-1d79,",
    "1d7d-1d7d,1d8e-1d8e,1e00-1e9b,1e9e-1e9e,1ea0-1f15,1f18-1f1d,1f20-1f45,1f48-1f4d,",
    "1f50-1f57,1f59-1f59,1f5b-1f5b,1f5d-1f5d,1f5f-1f7d,1f80-1fb4,1fb6-1fbc,1fbe-1fbe,",
    "1fc2-1fc4,1fc6-1fcc,1fd0-1fd3,1fd6-1fdb,1fe0-1fec,1ff2-1ff4,1ff6-1ffc,2126-2126,",
    "212a-212b,2132-2132,214e-214e,2160-217f,2183-2184,24b6-24e9,2c00-2c70,2c72-2c73,",
    "2c75-2c76,2c7e-2ce3,2ceb-2cee,2cf2-2cf3,2d00-2d25,2d27-2d27,2d2d-2d2d,a640-a66d,",
    "a680-a69b,a722-a72f,a732-a76f,a779-a787,a78b-a78d,a790-a794,a796-a7ae,a7b0-a7cd,",
    "a7d0-a7d1,a7d6-a7dc,a7f5-a7f6,ab53-ab53,ab70-abbf,fb00-fb06,fb13-fb17,ff21-ff3a,",
    "ff41-ff5a,10400-1044f,104b0-104d3,104d8-104fb,10570-1057a,1057c-1058a,1058c-10592,10594-10595,",
    "10597-105a1,105a3-105b1,105b3-105b9,105bb-105bc,10c80-10cb2,10cc0-10cf2,10d50-10d65,10d70-10d85,",
    "118a0-118df,16e40-16e7f,1e900-1e943,"
  ])

/-- The `Changes_When_Lowercased` property. -/
def changesWhenLowercasedTable : RangeTable :=
  RangeTable.ofHex (String.join [
    "41-5a,c0-d6,d8-de,100-100,102-102,104-104,106-106,108-108,",
    "10a-10a,10c-10c,10e-10e,110-110,112-112,114-114,116-116,118-118,",
    "11a-11a,11c-11c,11e-11e,120-120,122-122,124-124,126-126,128-128,",
    "12a-12a,12c-12c,12e-12e,130-130,132-132,134-134,136-136,139-139,",
    "13b-13b,13d-13d,13f-13f,141-141,143-143,145-145,147-147,14a-14a,",
    "14c-14c,14e-14e,150-150,152-152,154-154,156-156,158-158,15a-15a,",
    "15c-15c,15e-15e,160-160,162-162,164-164,166-166,168-168,16a-16a,",
    "16c-16c,16e-16e,170-170,172-172,174-174,176-176,178-179,17b-17b,",
    "17d-17d,181-182,184-184,186-187,189-18b,18e-191,193-194,196-198,",
    "19c-19d,19f-1a0,1a2-1a2,1a4-1a4,1a6-1a7,1a9-1a9,1ac-1ac,1ae-1af,",
    "1b1-1b3,1b5-1b5,1b7-1b8,1bc-1bc,1c4-1c5,1c7-1c8,1ca-1cb,1cd-1cd,",
    "1cf-1cf,1d1-1d1,1d3-1d3,1d5-1d5,1d7-1d7,1d9-1d9,1db-1db,1de-1de,",
    "1e0-1e0,1e2-1e2,1e4-1e4,1e6-1e6,1e8-1e8,1ea-1ea,1ec-1ec,1ee-1ee,",
    "1f1-1f2,1f4-1f4,1f6-1f8,1fa-1fa,1fc-1fc,1fe-1fe,200-200,202-202,",
    "204-204,206-206,208-208,20a-20a,20c-20c,20e-20e,210-210,212-212,",
    "214-214,216-216,218-218,21a-21a,21c-21c,21e-21e,220-220,222-222,",
    "224-224,226-226,228-228,22a-22a,22c-22c,22e-22e,230-230,232-232,",
    "23a-23b,23d-23e,241-241,243-246,248-248,24a-24a,24c-24c,24e-24e,",
    "370-370,372-372,376-376,37f-37f,386-386,388-38a,38c-38c,38e-38f,",
    "391-3a1,3a3-3ab,3cf-3cf,3d8-3d8,3da-3da,3dc-3dc,3de-3de,3e0-3e0,",
    "3e2-3e2,3e4-3e4,3e6-3e6,3e8-3e8,3ea-3ea,3ec-3ec,3ee-3ee,3f4-3f4,",
    "3f7-3f7,3f9-3fa,3fd-42f,460-460,462-462,464-464,466-466,468-468,",
    "46a-46a,46c-46c,46e-46e,470-470,472-472,474-474,476-476,478-478,",
    "47a-47a,47c-47c,47e-47e,480-480,48a-48a,48c-48c,48e-48e,490-490,",
    "492-492,494-494,496-496,498-498,49a-49a,49c-49c,49e-49e,4a0-4a0,",
    "4a2-4a2,4a4-4a4,4a6-4a6,4a8-4a8,4aa-4aa,4ac-4ac,4ae-4ae,4b0-4b0,",
    "4b2-4b2,4b4-4b4,4b6-4b6,4b8-4b8,4ba-4ba,4bc-4bc,4be-4be,4c0-4c1,",
    "4c3-4c3,4c5-4c5,4c7-4c7,4c9-4c9,4cb-4cb,4cd-4cd,4d0-4d0,4d2-4d2,",
    "4d4-4d4,4d6-4d6,4d8-4d8,4da-4da,4dc-4dc,4de-4de,4e0-4e0,4e2-4e2,",
    "4e4-4e4,4e6-4e6,4e8-4e8,4ea-4ea,4ec-4ec,4ee-4ee,4f0-4f0,4f2-4f2,",
    "4f4-4f4,4f6-4f6,4f8-4f8,4fa-4fa,4fc-4fc,4fe-4fe,500-500,502-502,",
    "504-504,506-506,508-508,50a-50a,50c-50c,50e-50e,510-510,512-512,",
    "514-514,516-516,518-518,51a-51a,51c-51c,51e-51e,520-520,522-522,",
    "524-524,526-526,528-528,52a-52a,52c-52c,52e-52e,531-556,10a0-10c5,",
    "10c7-10c7,10cd-10cd,13a0-13f5,1c89-1c89,1c90-1cba,1cbd-1cbf,1e00-1e00,1e02-1e02,",
    "1e04-1e04,1e06-1e06,1e08-1e08,1e0a-1e0a,1e0c-1e0c,1e0e-1e0e,1e10-1e10,1e12-1e12,",
    "1e14-1e14,1e16-1e16,1e18-1e18,1e1a-1e1a,1e1c-1e1c,1e1e-1e1e,1e20-1e20,1e22-1e22,",
    "1e24-1e24,1e26-1e26,1e28-1e28,1e2a-1e2a,1e2c-1e2c,1e2e-1e2e,1e30-1e30,1e32-1e32,",
    "1e34-1e34,1e36-1e36,1e38-1e38,1e3a-1e3a,1e3c-1e3c,1e3e-1e3e,1e40-1e40,1e42-1e42,",
    "1e44-1e44,1e46-1e46,1e48-1e48,1e4a-1e4a,1e4c-1e4c,1e4e-1e4e,1e50-1e50,1e52-1e52,",
    "1e54-1e54,1e56-1e56,1e58-1e58,1e5a-1e5a,1e5c-1e5c,1e5e-1e5e,1e60-1e60,1e62-1e62,",
    "1e64-1e64,1e66-1e66,1e68-1e68,1e6a-1e6a,1e6c-1e6c,1e6e-1e6e,1e70-1e70,1e72-1e72,",
    "1e74-1e74,1e76-1e76,1e78-1e78,1e7a-1e7a,1e7c-1e7c,1e7e-1e7e,1e80-1e80,1e82-1e82,",
    "1e84-1e84,1e86-1e86,1e88-1e88,1e8a-1e8a,1e8c-1e8c,1e8e-1e8e,1e90-1e90,1e92-1e92,",
    "1e94-1e94,1e9e-1e9e,1ea0-1ea0,1ea2-1ea2,1ea4-1ea4,1ea6-1ea6,1ea8-1ea8,1eaa-1eaa,",
    "1eac-1eac,1eae-1eae,1eb0-1eb0,1eb2-1eb2,1eb4-1eb4,1eb6-1eb6,1eb8-1eb8,1eba-1eba,",
    "1ebc-1ebc,1ebe-1ebe,1ec0-1ec0,1ec2-1ec2,1ec4-1ec4,1ec6-1ec6,1ec8-1ec8,1eca-1eca,",
    "1ecc-1ecc,1ece-1ece,1ed0-1ed0,1ed2-1ed2,1ed4-1ed4,1ed6-1ed6,1ed8-1ed8,1eda-1eda,",
    "1edc-1edc,1ede-1ede,1ee0-1ee0,1ee2-1ee2,1ee4-1ee4,1ee6-1ee6,1ee8-1ee8,1eea-1eea,",
    "1eec-1eec,1eee-1eee,1ef0-1ef0,1ef2-1ef2,1ef4-1ef4,1ef6-1ef6,1ef8-1ef8,1efa-1efa,",
    "1efc-1efc,1efe-1efe,1f08-1f0f,1f18-1f1d,1f28-1f2f,1f38-1f3f,1f48-1f4d,1f59-1f59,",
    "1f5b-1f5b,1f5d-1f5d,1f5f-1f5f,1f68-1f6f,1f88-1f8f,1f98-1f9f,1fa8-1faf,1fb8-1fbc,",
    "1fc8-1fcc,1fd8-1fdb,1fe8-1fec,1ff8-1ffc,2126-2126,212a-212b,2132-2132,2160-216f,",
    "2183-2183,24b6-24cf,2c00-2c2f,2c60-2c60,2c62-2c64,2c67-2c67,2c69-2c69,2c6b-2c6b,",
    "2c6d-2c70,2c72-2c72,2c75-2c75,2c7e-2c80,2c82-2c82,2c84-2c84,2c86-2c86,2c88-2c88,",
    "2c8a-2c8a,2c8c-2c8c,2c8e-2c8e,2c90-2c90,2c92-2c92,2c94-2c94,2c96-2c96,2c98-2c98,",
    "2c9a-2c9a,2c9c-2c9c,2c9e-2c9e,2ca0-2ca0,2ca2-2ca2,2ca4-2ca4,2ca6-2ca6,2ca8-2ca8,",
    "2caa-2caa,2cac-2cac,2cae-2cae,2cb0-2cb0,2cb2-2cb2,2cb4-2cb4,2cb6-2cb6,2cb8-2cb8,",
    "2cba-2cba,2cbc-2cbc,2cbe-2cbe,2cc0-2cc0,2cc2-2cc2,2cc4-2cc4,2cc6-2cc6,2cc8-2cc8,",
    "2cca-2cca,2ccc-2ccc,2cce-2cce,2cd0-2cd0,2cd2-2cd2,2cd4-2cd4,2cd6-2cd6,2cd8-2cd8,",
    "2cda-2cda,2cdc-2cdc,2cde-2cde,2ce0-2ce0,2ce2-2ce2,2ceb-2ceb,2ced-2ced,2cf2-2cf2,",
    "a640-a640,a642-a642,a644-a644,a646-a646,a648-a648,a64a-a64a,a64c-a64c,a64e-a64e,",
    "a650-a650,a652-a652,a654-a654,a656-a656,a658-a658,a65a-a65a,a65c-a65c,a65e-a65e,",
    "a660-a660,a662-a662,a664-a664,a666-a666,a668-a668,a66a-a66a,a66c-a66c,a680-a680,",
    "a682-a682,a684-a684,a686-a686,a688-a688,a68a-a68a,a68c-a68c,a68e-a68e,a690-a690,",
    "a692-a692,a694-a694,a696-a696,a698-a698,a69a-a69a,a722-a722,a724-a724,a726-a726,",
    "a728-a728,a72a-a72a,a72c-a72c,a72e-a72e,a732-a732,a734-a734,a736-a736,a738-a738,",
    "a73a-a73a,a73c-a73c,a73e-a73e,a740-a740,a742-a742,a744-a744,a746-a746,a748-a748,",
    "a74a-a74a,a74c-a74c,a74e-a74e,a750-a750,a752-a752,a754-a754,a756-a756,a758-a758,",
    "a75a-a75a,a75c-a75c,a75e-a75e,a760-a760,a762-a762,a764-a764,a766-a766,a768-a768,",
    "a76a-a76a,a76c-a76c,a76e-a76e,a779-a779,a77b-a77b,a77d-a77e,a780-a780,a782-a782,",
    "a784-a784,a786-a786,a78b-a78b,a78d-a78d,a790-a790,a792-a792,a796-a796,a798-a798,",
    "a79a-a79a,a79c-a79c,a79e-a79e,a7a0-a7a0,a7a2-a7a2,a7a4-a7a4,a7a6-a7a6,a7a8-a7a8,",
    "a7aa-a7ae,a7b0-a7b4,a7b6-a7b6,a7b8-a7b8,a7ba-a7ba,a7bc-a7bc,a7be-a7be,a7c0-a7c0,",
    "a7c2-a7c2,a7c4-a7c7,a7c9-a7c9,a7cb-a7cc,a7d0-a7d0,a7d6-a7d6,a7d8-a7d8,a7da-a7da,",
    "a7dc-a7dc,a7f5-a7f5,ff21-ff3a,10400-10427,104b0-104d3,10570-1057a,1057c-1058a,1058c-10592,",
    "10594-10595,10c80-10cb2,10d50-10d65,118a0-118bf,16e40-16e5f,1e900-1e921,"
  ])

/-- The `Changes_When_Titlecased` property. -/
def changesWhenTitlecasedTable : RangeTable :=
  RangeTable.ofHex (String.join [
    "61-7a,b5-b5,df-f6,f8-ff,101-101,103-103,105-105,107-107,",
    "109-109,10b-10b,10d-10d,10f-10f,111-111,113-113,115-115,117-117,",
    "119-119,11b-11b,11d-11d,11f-11f,121-121,123-123,125-125,127-127,",
    "129-129,12b-12b,12d-12d,12f-12f,131-131,133-133,135-135,137-137,",
    "13a-13a,13c-13c,13e-13e,140-140,142-142,144-144,146-146,148-149,",
    "14b-14b,14d-14d,14f-14f,151-151,153-153,155-155,157-157,159-159,",
    "15b-15b,15d-15d,15f-15f,161-161,163-163,165-165,167-167,169-169,",
    "16b-16b,16d-16d,16f-16f,171-171,173-173,175-175,177-177,17a-17a,",
    "17c-17c,17e-180,183-183,185-185,188-188,18c-18c,192-192,195-195,",
    "199-19b,19e-19e,1a1-1a1,1a3-1a3,1a5-1a5,1a8-1a8,1ad-1ad,1b0-1b0,",
    "1b4-1b4,1b6-1b6,1b9-1b9,1bd-1bd,1bf-1bf,1c4-1c4,1c6-1c7,1c9-1ca,",
    "1cc-1cc,1ce-1ce,1d0-1d0,1d2-1d2,1d4-1d4,1d6-1d6,1d8-1d8,1da-1da,",
    "1dc-1dd,1df-1df,1e1-1e1,1e3-1e3,1e5-1e5,1e7-1e7,1e9-1e9,1eb-1eb,",
    "1ed-1ed,1ef-1f1,1f3-1f3,1f5-1f5,1f9-1f9,1fb-1fb,1fd-1fd,1ff-1ff,",
    "201-201,203-203,205-205,207-207,209-209,20b-20b,20d-20d,20f-20f,",
    "211-211,213-213,215-215,217-217,219-219,21b-21b,21d-21d,21f-21f,",
    "223-223,225-225,227-227,229-229,22b-22b,22d-22d,22f-22f,231-231,",
    "233-233,23c-23c,23f-240,242-242,247-247,249-249,24b-24b,24d-24d,",
    "24f-254,256-257,259-259,25b-25c,260-261,263-266,268-26c,26f-26f,",
    "271-272,275-275,27d-27d,280-280,282-283,287-28c,292-292,29d-29e,",
    "345-345,371-371,373-373,377-377,37b-37d,390-390,3ac-3ce,3d0-3d1,",
    "3d5-3d7,3d9-3d9,3db-3db,3dd-3dd,3df-3df,3e1-3e1,3e3-3e3,3e5-3e5,",
    "3e7-3e7,3e9-3e9,3eb-3eb,3ed-3ed,3ef-3f3,3f5-3f5,3f8-3f8,3fb-3fb,",
    "430-45f,461-461,463-463,465-465,467-467,469-469,46b-46b,46d-46d,",
    "46f-46f,471-471,473-473,475-475,477-477,479-479,47b-47b,47d-47d,",
    "47f-47f,481-481,48b-48b,48d-48d,48f-48f,491-491,493-493,495-495,",
    "497-497,499-499,49b-49b,49d-49d,49f-49f,4a1-4a1,4a3-4a3,4a5-4a5,",
    "4a7-4a7,4a9-4a9,4ab-4ab,4ad-4ad,4af-4af,4b1-4b1,4b3-4b3,4b5-4b5,",
    "4b7-4b7,4b9-4b9,4bb-4bb,4bd-4bd,4bf-4bf,4c2-4c2,4c4-4c4,4c6-4c6,",
    "4c8-4c8,4ca-4ca,4cc-4cc,4ce-4cf,4d1-4d1,4d3-4d3,4d5-4d5,4d7-4d7,",
    "4d9-4d9,4db-4db,4dd-4dd,4df-4df,4e1-4e1,4e3-4e3,4e5-4e5,4e7-4e7,",
    "4e9-4e9,4eb-4eb,4ed-4ed,4ef-4ef,4f1-4f1,4f3-4f3,4f5-4f5,4f7-4f7,",
    "4f9-4f9,4fb-4fb,4fd-4fd,4ff-4ff,501-501,503-503,505-505,507-507,",
    "509-509,50b-50b,50d-50d,50f-50f,511-511,513-513,515-515,517-517,",
    "519-519,51b-51b,51d-51d,51f-51f,521-521,523-523,525-525,527-527,",
    "529-529,52b-52b,52d-52d,52f-52f,561-587,13f8-13fd,1c80-1c88,1c8a-1c8a,",
    "1d79-1d79,1d7d-1d7d,1d8e-1d8e,1e01-1e01,1e03-1e03,1e05-1e05,1e07-1e07,1e09-1e09,",
    "1e0b-1e0b,1e0d-1e0d,1e0f-1e0f,1e11-1e11,1e13-1e13,1e15-1e15,1e17-1e17,1e19-1e19,",
    "1e1b-1e1b,1e1d-1e1d,1e1f-1e1f,1e21-1e21,1e23-1e23,1e25-1e25,1e27-1e27,1e29-1e29,",
    "1e2b-1e2b,1e2d-1e2d,1e2f-1e2f,1e31-1e31,1e33-1e33,1e35-1e35,1e37-1e37,1e39-1e39,",
    "1e3b-1e3b,1e3d-1e3d,1e3f-1e3f,1e41-1e41,1e43-1e43,1e45-1e45,1e47-1e47,1e49-1e49,",
    "1e4b-1e4b,1e4d-1e4d,1e4f-1e4f,1e51-1e51,1e53-1e53,1e55-1e55,1e57-1e57,1e59-1e59,",
    "1e5b-1e5b,1e5d-1e5d,1e5f-1e5f,1e61-1e61,1e63-1e63,1e65-1e65,1e67-1e67,1e69-1e69,",
    "1e6b-1e6b,1e6d-1e6d,1e6f-1e6f,1e71-1e71,1e73-1e73,1e75-1e75,1e77-1e77,1e79-1e79,",
    "1e7b-1e7b,1e7d-1e7d,1e7f-1e7f,1e81-1e81,1e83-1e83,1e85-1e85,1e87-1e87,1e89-1e89,",
    "1e8b-1e8b,1e8d-1e8d,1e8f-1e8f,1e91-1e91,1e93-1e93,1e95-1e9b,1ea1-1ea1,1ea3-1ea3,",
    "1ea5-1ea5,1ea7-1ea7,1ea9-1ea9,1eab-1eab,1ead-1ead,1eaf-1eaf,1eb1-1eb1,1eb3-1eb3,",
    "1eb5-1eb5,1eb7-1eb7,1eb9-1eb9,1ebb-1ebb,1ebd-1ebd,1ebf-1ebf,1ec1-1ec1,1ec3-1ec3,",
    "1ec5-1ec5,1ec7-1ec7,1ec9-1ec9,1ecb-1ecb,1ecd-1ecd,1ecf-1ecf,1ed1-1ed1,1ed3-1ed3,",
    "1ed5-1ed5,1ed7-1ed7,1ed9-1ed9,1edb-1edb,1edd-1edd,1edf-1edf,1ee1-1ee1,1ee3-1ee3,",
    "1ee5-1ee5,1ee7-1ee7,1ee9-1ee9,1eeb-1eeb,1eed-1eed,1eef-1eef,1ef1-1ef1,1ef3-1ef3,",
    "1ef5-1ef5,1ef7-1ef7,1ef9-1ef9,1efb-1efb,1efd-1efd,1eff-1f07,1f10-1f15,1f20-1f27,",
    "1f30-1f37,1f40-1f45,1f50-1f57,1f60-1f67,1f70-1f7d,1f80-1f87,1f90-1f97,1fa0-1fa7,",
    "1fb0-1fb4,1fb6-1fb7,1fbe-1fbe,1fc2-1fc4,1fc6-1fc7,1fd0-1fd3,1fd6-1fd7,1fe0-1fe7,",
    "1ff2-1ff4,1ff6-1ff7,214e-214e,2170-217f,2184-2184,24d0-24e9,2c30-2c5f,2c61-2c61,",
    "2c65-2c66,2c68-2c68,2c6a-2c6a,2c6c-2c6c,2c73-2c73,2c76-2c76,2c81-2c81,2c83-2c83,",
    "2c85-2c85,2c87-2c87,2c89-2c89,2c8b-2c8b,2c8d-2c8d,2c8f-2c8f,2c91-2c91,2c93-2c93,",
    "2c95-2c95,2c97-2c97,2c99-2c99,2c9b-2c9b,2c9d-2c9d,2c9f-2c9f,2ca1-2ca1,2ca3-2ca3,",
    "2ca5-2ca5,2ca7-2ca7,2ca9-2ca9,2cab-2cab,2cad-2cad,2caf-2caf,2cb1-2cb1,2cb3-2cb3,",
    "2cb5-2cb5,2cb7-2cb7,2cb9-2cb9,2cbb-2cbb,2cbd-2cbd,2cbf-2cbf,2cc1-2cc1,2cc3-2cc3,",
    "2cc5-2cc5,2cc7-2cc7,2cc9-2cc9,2ccb-2ccb,2ccd-2ccd,2ccf-2ccf,2cd1-2cd1,2cd3-2cd3,",
    "2cd5-2cd5,2cd7-2cd7,2cd9-2cd9,2cdb-2cdb,2cdd-2cdd,2cdf-2cdf,2ce1-2ce1,2ce3-2ce3,",
    "2cec-2cec,2cee-2cee,2cf3-2cf3,2d00-2d25,2d27-2d27,2d2d-2d2d,a641-a641,a643-a643,",
    "a645-a645,a647-a647,a649-a649,a64b-a64b,a64d-a64d,a64f-a64f,a651-a651,a653-a653,",
    "a655-a655,a657-a657,a659-a659,a65b-a65b,a65d-a65d,a65f-a65f,a661-a661,a663-a663,",
    "a665-a665,a667-a667,a669-a669,a66b-a66b,a66d-a66d,a681-a681,a683-a683,a685-a685,",
    "a687-a687,a689-a689,a68b-a68b,a68d-a68d,a68f-a68f,a691-a691,a693-a693,a695-a695,",
    "a697-a697,a699-a699,a69b-a69b,a723-a723,a725-a725,a727-a727,a729-a729,a72b-a72b,",
    "a72d-a72d,a72f-a72f,a733-a733,a735-a735,a737-a737,a739-a739,a73b-a73b,a73d-a73d,",
    "a73f-a73f,a741-a741,a743-a743,a745-a745,a747-a747,a749-a749,a74b-a74b,a74d-a74d,",
    "a74f-a74f,a751-a751,a753-a753,a755-a755,a757-a757,a759-a759,a75b-a75b,a75d-a75d,",
    "a75f-a75f,a761-a761,a763-a763,a765-a765,a767-a767,a769-a769,a76b-a76b,a76d-a76d,",
    "a76f-a76f,a77a-a77a,a77c-a77c,a77f-a77f,a781-a781,a783-a783,a785-a785,a787-a787,",
    "a78c-a78c,a791-a791,a793-a794,a797-a797,a799-a799,a79b-a79b,a79d-a79d,a79f-a79f,",
    "a7a1-a7a1,a7a3-a7a3,a7a5-a7a5,a7a7-a7a7,a7a9-a7a9,a7b5-a7b5,a7b7-a7b7,a7b9-a7b9,",
    "a7bb-a7bb,a7bd-a7bd,a7bf-a7bf,a7c1-a7c1,a7c3-a7c3,a7c8-a7c8,a7ca-a7ca,a7cd-a7cd,",
    "a7d1-a7d1,a7d7-a7d7,a7d9-a7d9,a7db-a7db,a7f6-a7f6,ab53-ab53,ab70-abbf,fb00-fb06,",
    "fb13-fb17,ff41-ff5a,10428-1044f,104d8-104fb,10597-105a1,105a3-105b1,105b3-105b9,105bb-105bc,",
    "10cc0-10cf2,10d70-10d85,118c0-118df,16e60-16e7f,1e922-1e943,"
  ])

/-- The `Changes_When_Uppercased` property. -/
def changesWhenUppercasedTable : RangeTable :=
  RangeTable.ofHex (String.join [
    "61-7a,b5-b5,df-f6,f8-ff,101-101,103-103,105-105,107-107,",
    "109-109,10b-10b,10d-10d,10f-10f,111-111,113-113,115-115,117-117,",
    "119-119,11b-11b,11d-11d,11f-11f,121-121,123-123,125-125,127-127,",
    "129-129,12b-12b,12d-12d,12f-12f,131-131,133-133,135-135,137-137,",
    "13a-13a,13c-13c,13e-13e,140-140,142-142,144-144,146-146,148-149,",
    "14b-14b,14d-14d,14f-14f,151-151,153-153,155-155,157-157,159-159,",
    "15b-15b,15d-15d,15f-15f,161-161,163-163,165-165,167-167,169-169,",
    "16b-16b,16d-16d,16f-16f,171-171,173-173,175-175,177-177,17a-17a,",
    "17c-17c,17e-180,183-183,185-185,188-188,18c-18c,192-192,195-195,",
    "199-19b,19e-19e,1a1-1a1,1a3-1a3,1a5-1a5,1a8-1a8,1ad-1ad,1b0-1b0,",
    "1b4-1b4,1b6-1b6,1b9-1b9,1bd-1bd,1bf-1bf,1c5-1c6,1c8-1c9,1cb-1cc,",
    "1ce-1ce,1d0-1d0,1d2-1d2,1d4-1d4,1d6-1d6,1d8-1d8,1da-1da,1dc-1dd,",
    "1df-1df,1e1-1e1,1e3-1e3,1e5-1e5,1e7-1e7,1e9-1e9,1eb-1eb,1ed-1ed,",
    "1ef-1f0,1f2-1f3,1f5-1f5,1f9-1f9,1fb-1fb,1fd-1fd,1ff-1ff,201-201,",
    "203-203,205-205,207-207,209-209,20b-20b,20d-20d,20f-20f,211-211,",
    "213-213,215-215,217-217,219-219,21b-21b,21d-21d,21f-21f,223-223,",
    "225-225,227-227,229-229,22b-22b,22d-22d,22f-22f,231-231,233-233,",
    "23c-23c,23f-240,242-242,247-247,249-249,24b-24b,24d-24d,24f-254,",
    "256-257,259-259,25b-25c,260-261,263-266,268-26c,26f-26f,271-272,",
    "275-275,27d-27d,280-280,282-283,287-28c,292-292,29d-29e,345-345,",
    "371-371,373-373,377-377,37b-37d,390-390,3ac-3ce,3d0-3d1,3d5-3d7,",
    "3d9-3d9,3db-3db,3dd-3dd,3df-3df,3e1-3e1,3e3-3e3,3e5-3e5,3e7-3e7,",
    "3e9-3e9,3eb-3eb,3ed-3ed,3ef-3f3,3f5-3f5,3f8-3f8,3fb-3fb,430-45f,",
    "461-461,463-463,465-465,467-467,469-469,46b-46b,46d-46d,46f-46f,",
    "471-471,473-473,475-475,477-477,479-479,47b-47b,47d-47d,47f-47f,",
    "481-481,48b-48b,48d-48d,48f-48f,491-491,493-493,495-495,497-497,",
    "499-499,49b-49b,49d-49d,49f-49f,4a1-4a1,4a3-4a3,4a5-4a5,4a7-4a7,",
    "4a9-4a9,4ab-4ab,4ad-4ad,4af-4af,4b1-4b1,4b3-4b3,4b5-4b5,4b7-4b7,",
    "4b9-4b9,4bb-4bb,4bd-4bd,4bf-4bf,4c2-4c2,4c4-4c4,4c6-4c6,4c8-4c8,",
    "4ca-4ca,4cc-4cc,4ce-4cf,4d1-4d1,4d3-4d3,4d5-4d5,4d7-4d7,4d9-4d9,",
    "4db-4db,4dd-4dd,4df-4df,4e1-4e1,4e3-4e3,4e5-4e5,4e7-4e7,4e9-4e9,",
    "4eb-4eb,4ed-4ed,4ef-4ef,4f1-4f1,4f3-4f3,4f5-4f5,4f7-4f7,4f9-4f9,",
    "4fb-4fb,4fd-4fd,4ff-4ff,501-501,503-503,505-505,507-507,509-509,",
    "50b-50b,50d-50d,50f-50f,511-511,513-513,515-515,517-517,519-519,",
    "51b-51b,51d-51d,51f-51f,521-521,523-523,525-525,527-527,529-529,",
    "52b-52b,52d-52d,52f-52f,561-587,10d0-10fa,10fd-10ff,13f8-13fd,1c80-1c88,",
    "1c8a-1c8a,1d79-1d79,1d7d-1d7d,1d8e-1d8e,1e01-1e01,1e03-1e03,1e05-1e05,1e07-1e07,",
    "1e09-1e09,1e0b-1e0b,1e0d-1e0d,1e0f-1e0f,1e11-1e11,1e13-1e13,1e15-1e15,1e17-1e17,",
    "1e19-1e19,1e1b-1e1b,1e1d-1e1d,1e1f-1e1f,1e21-1e21,1e23-1e23,1e25-1e25,1e27-1e27,",
    "1e29-1e29,1e2b-1e2b,1e2d-1e2d,1e2f-1e2f,1e31-1e31,1e33-1e33,1e35-1e35,1e37-1e37,",
    "1e39-1e39,1e3b-1e3b,1e3d-1e3d,1e3f-1e3f,1e41-1e41,1e43-1e43,1e45-1e45,1e47-1e47,",
    "1e49-1e49,1e4b-1e4b,1e4d-1e4d,1e4f-1e4f,1e51-1e51,1e53-1e53,1e55-1e55,1e57-1e57,",
    "1e59-1e59,1e5b-1e5b,1e5d-1e5d,1e5f-1e5f,1e61-1e61,1e63-1e63,1e65-1e65,1e67-1e67,",
    "1e69-1e69,1e6b-1e6b,1e6d-1e6d,1e6f-1e6f,1e71-1e71,1e73-1e73,1e75-1e75,1e77-1e77,",
    "1e79-1e79,1e7b-1e7b,1e7d-1e7d,1e7f-1e7f,1e81-1e81,1e83-1e83,1e85-1e85,1e87-1e87,",
    "1e89-1e89,1e8b-1e8b,1e8d-1e8d,1e8f-1e8f,1e91-1e91,1e93-1e93,1e95-1e9b,1ea1-1ea1,",
    "1ea3-1ea3,1ea5-1ea5,1ea7-1ea7,1ea9-1ea9,1eab-1eab,1ead-1ead,1eaf-1eaf,1eb1-1eb1,",
    "1eb3-1eb3,1eb5-1eb5,1eb7-1eb7,1eb9-1eb9,1ebb-1ebb,1ebd-1ebd,1ebf-1ebf,1ec1-1ec1,",
    "1ec3-1ec3,1ec5-1ec5,1ec7-1ec7,1ec9-1ec9,1ecb-1ecb,1ecd-1ecd,1ecf-1ecf,1ed1-1ed1,",
    "1ed3-1ed3,1ed5-1ed5,1ed7-1ed7,1ed9-1ed9,1edb-1edb,1edd-1edd,1edf-1edf,1ee1-1ee1,",
    "1ee3-1ee3,1ee5-1ee5,1ee7-1ee7,1ee9-1ee9,1eeb-1eeb,1eed-1eed,1eef-1eef,1ef1-1ef1,",
    "1ef3-1ef3,1ef5-1ef5,1ef7-1ef7,1ef9-1ef9,1efb-1efb,1efd-1efd,1eff-1f07,1f10-1f15,",
    "1f20-1f27,1f30-1f37,1f40-1f45,1f50-1f57,1f60-1f67,1f70-1f7d,1f80-1fb4,1fb6-1fb7,",
    "1fbc-1fbc,1fbe-1fbe,1fc2-1fc4,1fc6-1fc7,1fcc-1fcc,1fd0-1fd3,1fd6-1fd7,1fe0-1fe7,",
    "1ff2-1ff4,1ff6-1ff7,1ffc-1ffc,214e-214e,2170-217f,2184-2184,24d0-24e9,2c30-2c5f,",
    "2c61-2c61,2c65-2c66,2c68-2c68,2c6a-2c6a,2c6c-2c6c,2c73-2c73,2c76-2c76,2c81-2c81,",
    "2c83-2c83,2c85-2c85,2c87-2c87,2c89-2c89,2c8b-2c8b,2c8d-2c8d,2c8f-2c8f,2c91-2c91,",
    "2c93-2c93,2c95-2c95,2c97-2c97,2c99-2c99,2c9b-2c9b,2c9d-2c9d,2c9f-2c9f,2ca1-2ca1,",
    "2ca3-2ca3,2ca5-2ca5,2ca7-2ca7,2ca9-2ca9,2cab-2cab,2cad-2cad,2caf-2caf,2cb1-2cb1,",
    "2cb3-2cb3,2cb5-2cb5,2cb7-2cb7,2cb9-2cb9,2cbb-2cbb,2cbd-2cbd,2cbf-2cbf,2cc1-2cc1,",
    "2cc3-2cc3,2cc5-2cc5,2cc7-2cc7,2cc9-2cc9,2ccb-2ccb,2ccd-2ccd,2ccf-2ccf,2cd1-2cd1,",
    "2cd3-2cd3,2cd5-2cd5,2cd7-2cd7,2cd9-2cd9,2cdb-2cdb,2cdd-2cdd,2cdf-2cdf,2ce1-2ce1,",
    "2ce3-2ce3,2cec-2cec,2cee-2cee,2cf3-2cf3,2d00-2d25,2d27-2d27,2d2d-2d2d,a641-a641,",
    "a643-a643,a645-a645,a647-a647,a649-a649,a64b-a64b,a64d-a64d,a64f-a64f,a651-a651,",
    "a653-a653,a655-a655,a657-a657,a659-a659,a65b-a65b,a65d-a65d,a65f-a65f,a661-a661,",
    "a663-a663,a665-a665,a667-a667,a669-a669,a66b-a66b,a66d-a66d,a681-a681,a683-a683,",
    "a685-a685,a687-a687,a689-a689,a68b-a68b,a68d-a68d,a68f-a68f,a691-a691,a693-a693,",
    "a695-a695,a697-a697,a699-a699,a69b-a69b,a723-a723,a725-a725,a727-a727,a729-a729,",
    "a72b-a72b,a72d-a72d,a72f-a72f,a733-a733,a735-a735,a737-a737,a739-a739,a73b-a73b,",
    "a73d-a73d,a73f-a73f,a741-a741,a743-a743,a745-a745,a747-a747,a749-a749,a74b-a74b,",
    "a74d-a74d,a74f-a74f,a751-a751,a753-a753,a755-a755,a757-a757,a759-a759,a75b-a75b,",
    "a75d-a75d,a75f-a75f,a761-a761,a763-a763,a765-a765,a767-a767,a769-a769,a76b-a76b,",
    "a76d-a76d,a76f-a76f,a77a-a77a,a77c-a77c,a77f-a77f,a781-a781,a783-a783,a785-a785,",
    "a787-a787,a78c-a78c,a791-a791,a793-a794,a797-a797,a799-a799,a79b-a79b,a79d-a79d,",
    "a79f-a79f,a7a1-a7a1,a7a3-a7a3,a7a5-a7a5,a7a7-a7a7,a7a9-a7a9,a7b5-a7b5,a7b7-a7b7,",
    "a7b9-a7b9,a7bb-a7bb,a7bd-a7bd,a7bf-a7bf,a7c1-a7c1,a7c3-a7c3,a7c8-a7c8,a7ca-a7ca,",
    "a7cd-a7cd,a7d1-a7d1,a7d7-a7d7,a7d9-a7d9,a7db-a7db,a7f6-a7f6,ab53-ab53,ab70-abbf,",
    "fb00-fb06,fb13-fb17,ff41-ff5a,10428-1044f,104d8-104fb,10597-105a1,105a3-105b1,105b3-105b9,",
    "105bb-105bc,10cc0-10cf2,10d70-10d85,118c0-118df,16e60-16e7f,1e922-1e943,"
  ])

/-- The `Dash` property. -/
def dashTable : RangeTable :=
  RangeTable.ofHex (String.join [
    "2d-2d,58a-58a,5be-5be,1400-1400,1806-1806,2010-2015,2053-2053,207b-207b,",
    "208b-208b,2212-2212,2e17-2e17,2e1a-2e1a,2e3a-2e3b,2e40-2e40,2e5d-2e5d,301c-301c,",
    "3030-3030,30a0-30a0,fe31-fe32,fe58-fe58,fe63-fe63,ff0d-ff0d,10d6e-10d6e,10ead-10ead,"
  ])

/-- The `Default_Ignorable_Code_Point` property. -/
def defaultIgnorableCodePointTable : RangeTable :=
  RangeTable.ofHex (String.join [
    "ad-ad,34f-34f,61c-61c,115f-1160,17b4-17b5,180b-180f,200b-200f,202a-202e,",
    "2060-206f,3164-3164,fe00-fe0f,feff-feff,ffa0-ffa0,fff0-fff8,1bca0-1bca3,1d173-1d17a,",
    "e0000-e0fff,"
  ])

/-- The `Deprecated` property. -/
def deprecatedTable : RangeTable :=
  RangeTable.ofHex (String.join [
    "149-149,673-673,f77-f77,f79-f79,17a3-17a4,206a-206f,2329-232a,e0001-e0001,"
  ])

/-- The `Diacritic` property. -/
def diacriticTable : RangeTable :=
  RangeTable.ofHex (String.join [
    "5e-5e,60-60,a8-a8,af-af,b4-b4,b7-b8,2b0-34e,350-357,",
    "35d-362,374-375,37a-37a,384-385,483-487,559-559,591-5a1,5a3-5bd,",
    "5bf-5bf,5c1-5c2,5c4-5c4,64b-652,657-658,6df-6e0,6e5-6e6,6ea-6ec,",
    "730-74a,7a6-7b0,7eb-7f5,818-819,898-89f,8c9-8d2,8e3-8fe,93c-93c,",
    "94d-94d,951-954,971-971,9bc-9bc,9cd-9cd,a3c-a3c,a4d-a4d,abc-abc,",
    "acd-acd,afd-aff,b3c-b3c,b4d-b4d,b55-b55,bcd-bcd,c3c-c3c,c4d-c4d,",
    "cbc-cbc,ccd-ccd,d3b-d3c,d4d-d4d,dca-dca,e3a-e3a,e47-e4c,e4e-e4e,",
    "eba-eba,ec8-ecc,f18-f19,f35-f35,f37-f37,f39-f39,f3e-f3f,f82-f84,",
    "f86-f87,fc6-fc6,1037-1037,1039-103a,1063-1064,1069-106d,1087-108d,108f-108f,",
    "109a-109b,135d-135f,1714-1715,1734-1734,17c9-17d3,17dd-17dd,1939-193b,1a60-1a60,",
    "1a75-1a7c,1a7f-1a7f,1ab0-1abe,1ac1-1acb,1b34-1b34,1b44-1b44,1b6b-1b73,1baa-1bab,",
    "1be6-1be6,1bf2-1bf3,1c36-1c37,1c78-1c7d,1cd0-1ce8,1ced-1ced,1cf4-1cf4,1cf7-1cf9,",
    "1d2c-1d6a,1dc4-1dcf,1df5-1dff,1fbd-1fbd,1fbf-1fc1,1fcd-1fcf,1fdd-1fdf,1fed-1fef,",
    "1ffd-1ffe,2cef-2cf1,2e2f-2e2f,302a-302f,3099-309c,30fc-30fc,a66f-a66f,a67c-a67d,",
    "a67f-a67f,a69c-a69d,a6f0-a6f1,a700-a721,a788-a78a,a7f8-a7f9,a806-a806,a82c-a82c,",
    "a8c4-a8c4,a8e0-a8f1,a92b-a92e,a953-a953,a9b3-a9b3,a9c0-a9c0,a9e5-a9e5,aa7b-aa7d,",
    "aabf-aac2,aaf6-aaf6,ab5b-ab5f,ab69-ab6b,abec-abed,fb1e-fb1e,fe20-fe2f,ff3e-ff3e,",
    "ff40-ff40,ff70-ff70,ff9e-ff9f,ffe3-ffe3,102e0-102e0,10780-10785,10787-107b0,107b2-107ba,",
    "10a38-10a3a,10a3f-10a3f,10ae5-10ae6,10d22-10d27,10d4e-10d4e,10d69-10d6d,10efd-10eff,10f46-10f50,",
    "10f82-10f85,11046-11046,11070-11070,110b9-110ba,11133-11134,11173-11173,111c0-111c0,111ca-111cc,",
    "11235-11236,112e9-112ea,1133b-1133c,1134d-1134d,11366-1136c,11370-11374,113ce-113d0,113d2-113d3,",
    "113e1-113e2,11442-11442,11446-11446,114c2-114c3,115bf-115c0,1163f-1163f,116b6-116b7,1172b-1172b,",
    "11839-1183a,1193d-1193e,11943-11943,119e0-119e0,11a34-11a34,11a47-11a47,11a99-11a99,11c3f-11c3f,",
    "11d42-11d42,11d44-11d45,11d97-11d97,11f41-11f42,11f5a-11f5a,13447-13455,1612f-1612f,16af0-16af4,",
    "16b30-16b36,16d6b-16d6c,16f8f-16f9f,16ff0-16ff1,1aff0-1aff3,1aff5-1affb,1affd-1affe,1cf00-1cf2d,",
    "1cf30-1cf46,1d167-1d169,1d16d-1d172,1d17b-1d182,1d185-1d18b,1d1aa-1d1ad,1e030-1e06d,1e130-1e136,",
    "1e2ae-1e2ae,1e2ec-1e2ef,1e5ee-1e5ef,1e8d0-1e8d6,1e944-1e946,1e948-1e94a,"
  ])

/-- The `Emoji` property. -/
def emojiTable : RangeTable :=
  RangeTable.ofHex (String.join [
    "23-23,2a-2a,30-39,a9-a9,ae-ae,203c-203c,2049-2049,2122-2122,",
    "2139-2139,2194-2199,21a9-21aa,231a-231b,2328-2328,23cf-23cf,23e9-23f3,23f8-23fa,",
    "24c2-24c2,25aa-25ab,25b6-25b6,25c0-25c0,25fb-25fe,2600-2604,260e-260e,2611-2611,",
    "2614-2615,2618-2618,261d-261d,2620-2620,2622-2623,2626-2626,262a-262a,262e-262f,",
    "2638-263a,2640-2640,2642-2642,2648-2653,265f-2660,2663-2663,2665-2666,2668-2668,",
    "267b-267b,267e-267f,2692-2697,2699-2699,269b-269c,26a0-26a1,26a7-26a7,26aa-26ab,",
    "26b0-26b1,26bd-26be,26c4-26c5,26c8-26c8,26ce-26cf,26d1-26d1,26d3-26d4,26e9-26ea,",
    "26f0-26f5,26f7-26fa,26fd-26fd,2702-2702,2705-2705,2708-270d,270f-270f,2712-2712,",
    "2714-2714,2716-2716,271d-271d,2721-2721,2728-2728,2733-2734,2744-2744,2747-2747,",
    "274c-274c,274e-274e,2753-2755,2757-2757,2763-2764,2795-2797,27a1-27a1,27b0-27b0,",
    "27bf-27bf,2934-2935,2b05-2b07,2b1b-2b1c,2b50-2b50,2b55-2b55,3030-3030,303d-303d,",
    "3297-3297,3299-3299,1f004-1f004,1f0cf-1f0cf,1f170-1f171,1f17e-1f17f,1f18e-1f18e,1f191-1f19a,",
    "1f1e6-1f1ff,1f201-1f202,1f21a-1f21a,1f22f-1f22f,1f232-1f23a,1f250-1f251,1f300-1f321,1f324-1f393,",
    "1f396-1f397,1f399-1f39b,1f39e-1f3f0,1f3f3-1f3f5,1f3f7-1f4fd,1f4ff-1f53d,1f549-1f54e,1f550-1f567,",
    "1f56f-1f570,1f573-1f57a,1f587-1f587,1f58a-1f58d,1f590-1f590,1f595-1f596,1f5a4-1f5a5,1f5a8-1f5a8,",
    "1f5b1-1f5b2,1f5bc-1f5bc,1f5c2-1f5c4,1f5d1-1f5d3,1f5dc-1f5de,1f5e1-1f5e1,1f5e3-1f5e3,1f5e8-1f5e8,",
    "1f5ef-1f5ef,1f5f3-1f5f3,1f5fa-1f64f,1f680-1f6c5,1f6cb-1f6d2,1f6d5-1f6d7,1f6dc-1f6e5,1f6e9-1f6e9,",
    "1f6eb-1f6ec,1f6f0-1f6f0,1f6f3-1f6fc,1f7e0-1f7eb,1f7f0-1f7f0,1f90c-1f93a,1f93c-1f945,1f947-1f9ff,",
    "1fa70-1fa7c,1fa80-1fa89,1fa8f-1fac6,1face-1fadc,1fadf-1fae9,1faf0-1faf8,"
  ])

/-- The `Emoji_Component` property. -/
def emojiComponentTable : RangeTable :=
  RangeTable.ofHex (String.join [
    "23-23,2a-2a,30-39,200d-200d,20e3-20e3,fe0f-fe0f,1f1e6-1f1ff,1f3fb-1f3ff,",
    "1f9b0-1f9b3,e0020-e007f,"
  ])

/-- The `Emoji_Modifier` property. -/
def emojiModifierTable : RangeTable :=
  RangeTable.ofHex (String.join [
    "1f3fb-1f3ff,"
  ])

/-- The `Emoji_Modifier_Base` property. -/
def emojiModifierBaseTable : RangeTable :=
  RangeTable.ofHex (String.join [
    "261d-261d,26f9-26f9,270a-270d,1f385-1f385,1f3c2-1f3c4,1f3c7-1f3c7,1f3ca-1f3cc,1f442-1f443,",
    "1f446-1f450,1f466-1f478,1f47c-1f47c,1f481-1f483,1f485-1f487,1f48f-1f48f,1f491-1f491,1f4aa-1f4aa,",
    "1f574-1f575,1f57a-1f57a,1f590-1f590,1f595-1f596,1f645-1f647,1f64b-1f64f,1f6a3-1f6a3,1f6b4-1f6b6,",
    "1f6c0-1f6c0,1f6cc-1f6cc,1f90c-1f90c,1f90f-1f90f,1f918-1f91f,1f926-1f926,1f930-1f939,1f93c-1f93e,",
    "1f977-1f977,1f9b5-1f9b6,1f9b8-1f9b9,1f9bb-1f9bb,1f9cd-1f9cf,1f9d1-1f9dd,1fac3-1fac5,1faf0-1faf8,"
  ])

/-- The `Emoji_Presentation` property. -/
def emojiPresentationTable : RangeTable :=
  RangeTable.ofHex (String.join [
    "231a-231b,23e9-23ec,23f0-23f0,23f3-23f3,25fd-25fe,2614-2615,2648-2653,267f-267f,",
    "2693-2693,26a1-26a1,26aa-26ab,26bd-26be,26c4-26c5,26ce-26ce,26d4-26d4,26ea-26ea,",
    "26f2-26f3,26f5-26f5,26fa-26fa,26fd-26fd,2705-2705,270a-270b,2728-2728,274c-274c,",
    "274e-274e,2753-2755,2757-2757,2795-2797,27b0-27b0,27bf-27bf,2b1b-2b1c,2b50-2b50,",
    "2b55-2b55,1f004-1f004,1f0cf-1f0cf,1f18e-1f18e,1f191-1f19a,1f1e6-1f1ff,1f201-1f201,1f21a-1f21a,",
    "1f22f-1f22f,1f232-1f236,1f238-1f23a,1f250-1f251,1f300-1f320,1f32d-1f335,1f337-1f37c,1f37e-1f393,",
    "1f3a0-1f3ca,1f3cf-1f3d3,1f3e0-1f3f0,1f3f4-1f3f4,1f3f8-1f43e,1f440-1f440,1f442-1f4fc,1f4ff-1f53d,",
    "1f54b-1f54e,1f550-1f567,1f57a-1f57a,1f595-1f596,1f5a4-1f5a4,1f5fb-1f64f,1f680-1f6c5,1f6cc-1f6cc,",
    "1f6d0-1f6d2,1f6d5-1f6d7,1f6dc-1f6df,1f6eb-1f6ec,1f6f4-1f6fc,1f7e0-1f7eb,1f7f0-1f7f0,1f90c-1f93a,",
    "1f93c-1f945,1f947-1f9ff,1fa70-1fa7c,1fa80-1fa89,1fa8f-1fac6,1face-1fadc,1fadf-1fae9,1faf0-1faf8,"
  ])

/-- The `Extended_Pictographic` property. -/
def extendedPictographicTable : RangeTable :=
  RangeTable.ofHex (String.join [
    "a9-a9,ae-ae,203c-203c,2049-2049,2122-2122,2139-2139,2194-2199,21a9-21aa,",
    "231a-231b,2328-2328,2388-2388,23cf-23cf,23e9-23f3,23f8-23fa,24c2-24c2,25aa-25ab,",
    "25b6-25b6,25c0-25c0,25fb-25fe,2600-2605,2607-2612,2614-2685,2690-2705,2708-2712,",
    "2714-2714,2716-2716,271d-271d,2721-2721,2728-2728,2733-2734,2744-2744,2747-2747,",
    "274c-274c,274e-274e,2753-2755,2757-2757,2763-2767,2795-2797,27a1-27a1,27b0-27b0,",
    "27bf-27bf,2934-2935,2b05-2b07,2b1b-2b1c,2b50-2b50,2b55-2b55,3030-3030,303d-303d,",
    "3297-3297,3299-3299,1f000-1f0ff,1f10d-1f10f,1f12f-1f12f,1f16c-1f171,1f17e-1f17f,1f18e-1f18e,",
    "1f191-1f19a,1f1ad-1f1e5,1f201-1f20f,1f21a-1f21a,1f22f-1f22f,1f232-1f23a,1f23c-1f23f,1f249-1f3fa,",
    "1f400-1f53d,1f546-1f64f,1f680-1f6ff,1f774-1f77f,1f7d5-1f7ff,1f80c-1f80f,1f848-1f84f,1f85a-1f85f,",
    "1f888-1f88f,1f8ae-1f8ff,1f90c-1f93a,1f93c-1f945,1f947-1faff,1fc00-1fffd,"
  ])

/-- The `Extender` property. -/
def extenderTable : RangeTable :=
  RangeTable.ofHex (String.join [
    "b7-b7,2d0-2d1,640-640,7fa-7fa,a71-a71,b55-b55,e46-e46,ec6-ec6,",
    "180a-180a,1843-1843,1aa7-1aa7,1c36-1c36,1c7b-1c7b,3005-3005,3031-3035,309d-309e,",
    "30fc-30fe,a015-a015,a60c-a60c,a9cf-a9cf,a9e6-a9e6,aa70-aa70,aadd-aadd,aaf3-aaf4,",
    "ff70-ff70,10781-10782,10d4e-10d4e,10d6a-10d6a,10d6f-10d6f,1135d-1135d,113d2-113d3,115c6-115c8,",
    "11a98-11a98,16b42-16b43,16fe0-16fe1,16fe3-16fe3,1e13c-1e13d,1e5ef-1e5ef,1e944-1e946,"
  ])

/-- The `Grapheme_Base` property. -/
def graphemeBaseTable : RangeTable :=
  RangeTable.ofHex (String.join [
    "20-7e,a0-ac,ae-2ff,370-377,37a-37f,384-38a,38c-38c,38e-3a1,",
    "3a3-482,48a-52f,531-556,559-58a,58d-58f,5be-5be,5c0-5c0,5c3-5c3,",
    "5c6-5c6,5d0-5ea,5ef-5f4,606-60f,61b-61b,61d-64a,660-66f,671-6d5,",
    "6de-6de,6e5-6e6,6e9-6e9,6ee-70d,710-710,712-72f,74d-7a5,7b1-7b1,",
    "7c0-7ea,7f4-7fa,7fe-815,81a-81a,824-824,828-828,830-83e,840-858,",
    "85e-85e,860-86a,870-88e,8a0-8c9,903-939,93b-93b,93d-940,949-94c,",
    "94e-950,958-961,964-980,982-983,985-98c,98f-990,993-9a8,9aa-9b0,",
    "9b2-9b2,9b6-9b9,9bd-9bd,9bf-9c0,9c7-9c8,9cb-9cc,9ce-9ce,9dc-9dd,",
    "9df-9e1,9e6-9fd,a03-a03,a05-a0a,a0f-a10,a13-a28,a2a-a30,a32-a33,",
    "a35-a36,a38-a39,a3e-a40,a59-a5c,a5e-a5e,a66-a6f,a72-a74,a76-a76,",
    "a83-a83,a85-a8d,a8f-a91,a93-aa8,aaa-ab0,ab2-ab3,ab5-ab9,abd-ac0,",
    "ac9-ac9,acb-acc,ad0-ad0,ae0-ae1,ae6-af1,af9-af9,b02-b03,b05-b0c,",
    "b0f-b10,b13-b28,b2a-b30,b32-b33,b35-b39,b3d-b3d,b40-b40,b47-b48,",
    "b4b-b4c,b5c-b5d,b5f-b61,b66-b77,b83-b83,b85-b8a,b8e-b90,b92-b95,",
    "b99-b9a,b9c-b9c,b9e-b9f,ba3-ba4,ba8-baa,bae-bb9,bbf-bbf,bc1-bc2,",
    "bc6-bc8,bca-bcc,bd0-bd0,be6-bfa,c01-c03,c05-c0c,c0e-c10,c12-c28,",
    "c2a-c39,c3d-c3d,c41-c44,c58-c5a,c5d-c5d,c60-c61,c66-c6f,c77-c80,",
    "c82-c8c,c8e-c90,c92-ca8,caa-cb3,cb5-cb9,cbd-cbe,cc1-cc1,cc3-cc4,",
    "cdd-cde,ce0-ce1,ce6-cef,cf1-cf3,d02-d0c,d0e-d10,d12-d3a,d3d-d3d,",
    "d3f-d40,d46-d48,d4a-d4c,d4e-d4f,d54-d56,d58-d61,d66-d7f,d82-d83,",
    "d85-d96,d9a-db1,db3-dbb,dbd-dbd,dc0-dc6,dd0-dd1,dd8-dde,de6-def,",
    "df2-df4,e01-e30,e32-e33,e3f-e46,e4f-e5b,e81-e82,e84-e84,e86-e8a,",
    "e8c-ea3,ea5-ea5,ea7-eb0,eb2-eb3,ebd-ebd,ec0-ec4,ec6-ec6,ed0-ed9,",
    "edc-edf,f00-f17,f1a-f34,f36-f36,f38-f38,f3a-f47,f49-f6c,f7f-f7f,",
    "f85-f85,f88-f8c,fbe-fc5,fc7-fcc,fce-fda,1000-102c,1031-1031,1038-1038,",
    "103b-103c,103f-1057,105a-105d,1061-1070,1075-1081,1083-1084,1087-108c,108e-109c,",
    "109e-10c5,10c7-10c7,10cd-10cd,10d0-1248,124a-124d,1250-1256,1258-1258,125a-125d,",
    "1260-1288,128a-128d,1290-12b0,12b2-12b5,12b8-12be,12c0-12c0,12c2-12c5,12c8-12d6,",
    "12d8-1310,1312-1315,1318-135a,1360-137c,1380-1399,13a0-13f5,13f8-13fd,1400-169c,",
    "16a0-16f8,1700-1711,171f-1731,1735-1736,1740-1751,1760-176c,176e-1770,1780-17b3,",
    "17b6-17b6,17be-17c5,17c7-17c8,17d4-17dc,17e0-17e9,17f0-17f9,1800-180a,1810-1819,",
    "1820-1878,1880-1884,1887-18a8,18aa-18aa,18b0-18f5,1900-191e,1923-1926,1929-192b,",
    "1930-1931,1933-1938,1940-1940,1944-196d,1970-1974,1980-19ab,19b0-19c9,19d0-19da,",
    "19de-1a16,1a19-1a1a,1a1e-1a55,1a57-1a57,1a61-1a61,1a63-1a64,1a6d-1a72,1a80-1a89,",
    "1a90-1a99,1aa0-1aad,1b04-1b33,1b3e-1b41,1b45-1b4c,1b4e-1b6a,1b74-1b7f,1b82-1ba1,",
    "1ba6-1ba7,1bae-1be5,1be7-1be7,1bea-1bec,1bee-1bee,1bfc-1c2b,1c34-1c35,1c3b-1c49,",
    "1c4d-1c8a,1c90-1cba,1cbd-1cc7,1cd3-1cd3,1ce1-1ce1,1ce9-1cec,1cee-1cf3,1cf5-1cf7,",
    "1cfa-1cfa,1d00-1dbf,1e00-1f15,1f18-1f1d,1f20-1f45,1f48-1f4d,1f50-1f57,1f59-1f59,",
    "1f5b-1f5b,1f5d-1f5d,1f5f-1f7d,1f80-1fb4,1fb6-1fc4,1fc6-1fd3,1fd6-1fdb,1fdd-1fef,",
    "1ff2-1ff4,1ff6-1ffe,2000-200a,2010-2027,202f-205f,2070-2071,2074-208e,2090-209c,",
    "20a0-20c0,2100-218b,2190-2429,2440-244a,2460-2b73,2b76-2b95,2b97-2cee,2cf2-2cf3,",
    "2cf9-2d25,2d27-2d27,2d2d-2d2d,2d30-2d67,2d6f-2d70,2d80-2d96,2da0-2da6,2da8-2dae,",
    "2db0-2db6,2db8-2dbe,2dc0-2dc6,2dc8-2dce,2dd0-2dd6,2dd8-2dde,2e00-2e5d,2e80-2e99,",
    "2e9b-2ef3,2f00-2fd5,2ff0-3029,3030-303f,3041-3096,309b-30ff,3105-312f,3131-318e,",
    "3190-31e5,31ef-321e,3220-a48c,a490-a4c6,a4d0-a62b,a640-a66e,a673-a673,a67e-a69d,",
    "a6a0-a6ef,a6f2-a6f7,a700-a7cd,a7d0-a7d1,a7d3-a7d3,a7d5-a7dc,a7f2-a801,a803-a805,",
    "a807-a80a,a80c-a824,a827-a82b,a830-a839,a840-a877,a880-a8c3,a8ce-a8d9,a8f2-a8fe,",
    "a900-a925,a92e-a946,a952-a952,a95f-a97c,a983-a9b2,a9b4-a9b5,a9ba-a9bb,a9be-a9bf,",
    "a9c1-a9cd,a9cf-a9d9,a9de-a9e4,a9e6-a9fe,aa00-aa28,aa2f-aa30,aa33-aa34,aa40-aa42,",
    "aa44-aa4b,aa4d-aa4d,aa50-aa59,aa5c-aa7b,aa7d-aaaf,aab1-aab1,aab5-aab6,aab9-aabd,",
    "aac0-aac0,aac2-aac2,aadb-aaeb,aaee-aaf5,ab01-ab06,ab09-ab0e,ab11-ab16,ab20-ab26,",
    "ab28-ab2e,ab30-ab6b,ab70-abe4,abe6-abe7,abe9-abec,abf0-abf9,ac00-d7a3,d7b0-d7c6,",
    "d7cb-d7fb,f900-fa6d,fa70-fad9,fb00-fb06,fb13-fb17,fb1d-fb1d,fb1f-fb36,fb38-fb3c,",
    "fb3e-fb3e,fb40-fb41,fb43-fb44,fb46-fbc2,fbd3-fd8f,fd92-fdc7,fdcf-fdcf,fdf0-fdff,",
    "fe10-fe19,fe30-fe52,fe54-fe66,fe68-fe6b,fe70-fe74,fe76-fefc,ff01-ff9d,ffa0-ffbe,",
    "ffc2-ffc7,ffca-ffcf,ffd2-ffd7,ffda-ffdc,ffe0-ffe6,ffe8-ffee,fffc-fffd,10000-1000b,",
    "1000d-10026,10028-1003a,1003c-1003d,1003f-1004d,10050-1005d,10080-100fa,10100-10102,10107-10133,",
    "10137-1018e,10190-1019c,101a0-101a0,101d0-101fc,10280-1029c,102a0-102d0,102e1-102fb,10300-10323,",
    "1032d-1034a,10350-10375,10380-1039d,1039f-103c3,103c8-103d5,10400-1049d,104a0-104a9,104b0-104d3,",
    "104d8-104fb,10500-10527,10530-10563,1056f-1057a,1057c-1058a,1058c-10592,10594-10595,10597-105a1,",
    "105a3-105b1,105b3-105b9,105bb-105bc,105c0-105f3,10600-10736,10740-10755,10760-10767,10780-10785,",
    "10787-107b0,107b2-107ba,10800-10805,10808-10808,1080a-10835,10837-10838,1083c-1083c,1083f-10855,",
    "10857-1089e,108a7-108af,108e0-108f2,108f4-108f5,108fb-1091b,1091f-10939,1093f-1093f,10980-109b7,",
    "109bc-109cf,109d2-10a00,10a10-10a13,10a15-10a17,10a19-10a35,10a40-10a48,10a50-10a58,10a60-10a9f,",
    "10ac0-10ae4,10aeb-10af6,10b00-10b35,10b39-10b55,10b58-10b72,10b78-10b91,10b99-10b9c,10ba9-10baf,",
    "10c00-10c48,10c80-10cb2,10cc0-10cf2,10cfa-10d23,10d30-10d39,10d40-10d65,10d6e-10d85,10d8e-10d8f,",
    "10e60-10e7e,10e80-10ea9,10ead-10ead,10eb0-10eb1,10ec2-10ec4,10f00-10f27,10f30-10f45,10f51-10f59,",
    "10f70-10f81,10f86-10f89,10fb0-10fcb,10fe0-10ff6,11000-11000,11002-11037,11047-1104d,11052-1106f,",
    "11071-11072,11075-11075,11082-110b2,110b7-110b8,110bb-110bc,110be-110c1,110d0-110e8,110f0-110f9,",
    "11103-11126,1112c-1112c,11136-11147,11150-11172,11174-11176,11182-111b5,111bf-111bf,111c1-111c8,",
    "111cd-111ce,111d0-111df,111e1-111f4,11200-11211,11213-1122e,11232-11233,11238-1123d,1123f-11240,",
    "11280-11286,11288-11288,1128a-1128d,1128f-1129d,1129f-112a9,112b0-112de,112e0-112e2,112f0-112f9,",
    "11302-11303,11305-1130c,1130f-11310,11313-11328,1132a-11330,11332-11333,11335-11339,1133d-1133d,",
    "1133f-1133f,11341-11344,11347-11348,1134b-1134c,11350-11350,1135d-11363,11380-11389,1138b-1138b,",
    "1138e-1138e,11390-113b5,113b7-113b7,113b9-113ba,113ca-113ca,113cc-113cd,113d1-113d1,113d3-113d5,",
    "113d7-113d8,11400-11437,11440-11441,11445-11445,11447-1145b,1145d-1145d,1145f-11461,11480-114af,",
    "114b1-114b2,114b9-114b9,114bb-114bc,114be-114be,114c1-114c1,114c4-114c7,114d0-114d9,11580-115ae,",
    "115b0-115b1,115b8-115bb,115be-115be,115c1-115db,11600-11632,1163b-1163c,1163e-1163e,11641-11644,",
    "11650-11659,11660-1166c,11680-116aa,116ac-116ac,116ae-116af,116b8-116b9,116c0-116c9,116d0-116e3,",
    "11700-1171a,1171e-1171e,11720-11721,11726-11726,11730-11746,11800-1182e,11838-11838,1183b-1183b,",
    "118a0-118f2,118ff-11906,11909-11909,1190c-11913,11915-11916,11918-1192f,11931-11935,11937-11938,",
    "1193f-11942,11944-11946,11950-11959,119a0-119a7,119aa-119d3,119dc-119df,119e1-119e4,11a00-11a00,",
    "11a0b-11a32,11a39-11a3a,11a3f-11a46,11a50-11a50,11a57-11a58,11a5c-11a89,11a97-11a97,11a9a-11aa2,",
    "11ab0-11af8,11b00-11b09,11bc0-11be1,11bf0-11bf9,11c00-11c08,11c0a-11c2f,11c3e-11c3e,11c40-11c45,",
    "11c50-11c6c,11c70-11c8f,11ca9-11ca9,11cb1-11cb1,11cb4-11cb4,11d00-11d06,11d08-11d09,11d0b-11d30,",
    "11d46-11d46,11d50-11d59,11d60-11d65,11d67-11d68,11d6a-11d8e,11d93-11d94,11d96-11d96,11d98-11d98,",
    "11da0-11da9,11ee0-11ef2,11ef5-11ef8,11f02-11f10,11f12-11f35,11f3e-11f3f,11f43-11f59,11fb0-11fb0,",
    "11fc0-11ff1,11fff-12399,12400-1246e,12470-12474,12480-12543,12f90-12ff2,13000-1342f,13441-13446,",
    "13460-143fa,14400-14646,16100-1611d,1612a-1612c,16130-16139,16800-16a38,16a40-16a5e,16a60-16a69,",
    "16a6e-16abe,16ac0-16ac9,16ad0-16aed,16af5-16af5,16b00-16b2f,16b37-16b45,16b50-16b59,16b5b-16b61,",
    "16b63-16b77,16b7d-16b8f,16d40-16d79,16e40-16e9a,16f00-16f4a,16f50-16f87,16f93-16f9f,16fe0-16fe3,",
    "17000-187f7,18800-18cd5,18cff-18d08,1aff0-1aff3,1aff5-1affb,1affd-1affe,1b000-1b122,1b132-1b132,",
    "1b150-1b152,1b155-1b155,1b164-1b167,1b170-1b2fb,1bc00-1bc6a,1bc70-1bc7c,1bc80-1bc88,1bc90-1bc99,",
    "1bc9c-1bc9c,1bc9f-1bc9f,1cc00-1ccf9,1cd00-1ceb3,1cf50-1cfc3,1d000-1d0f5,1d100-1d126,1d129-1d164,",
    "1d16a-1d16c,1d183-1d184,1d18c-1d1a9,1d1ae-1d1ea,1d200-1d241,1d245-1d245,1d2c0-1d2d3,1d2e0-1d2f3,",
    "1d300-1d356,1d360-1d378,1d400-1d454,1d456-1d49c,1d49e-1d49f,1d4a2-1d4a2,1d4a5-1d4a6,1d4a9-1d4ac,",
    "1d4ae-1d4b9,1d4bb-1d4bb,1d4bd-1d4c3,1d4c5-1d505,1d507-1d50a,1d50d-1d514,1d516-1d51c,1d51e-1d539,",
    "1d53b-1d53e,1d540-1d544,1d546-1d546,1d54a-1d550,1d552-1d6a5,1d6a8-1d7cb,1d7ce-1d9ff,1da37-1da3a,",
    "1da6d-1da74,1da76-1da83,1da85-1da8b,1df00-1df1e,1df25-1df2a,1e030-1e06d,1e100-1e12c,1e137-1e13d,",
    "1e140-1e149,1e14e-1e14f,1e290-1e2ad,1e2c0-1e2eb,1e2f0-1e2f9,1e2ff-1e2ff,1e4d0-1e4eb,1e4f0-1e4f9,",
    "1e5d0-1e5ed,1e5f0-1e5fa,1e5ff-1e5ff,1e7e0-1e7e6,1e7e8-1e7eb,1e7ed-1e7ee,1e7f0-1e7fe,1e800-1e8c4,",
    "1e8c7-1e8cf,1e900-1e943,1e94b-1e94b,1e950-1e959,1e95e-1e95f,1ec71-1ecb4,1ed01-1ed3d,1ee00-1ee03,",
    "1ee05-1ee1f,1ee21-1ee22,1ee24-1ee24,1ee27-1ee27,1ee29-1ee32,1ee34-1ee37,1ee39-1ee39,1ee3b-1ee3b,",
    "1ee42-1ee42,1ee47-1ee47,1ee49-1ee49,1ee4b-1ee4b,1ee4d-1ee4f,1ee51-1ee52,1ee54-1ee54,1ee57-1ee57,",
    "1ee59-1ee59,1ee5b-1ee5b,1ee5d-1ee5d,1ee5f-1ee5f,1ee61-1ee62,1ee64-1ee64,1ee67-1ee6a,1ee6c-1ee72,",
    "1ee74-1ee77,1ee79-1ee7c,1ee7e-1ee7e,1ee80-1ee89,1ee8b-1ee9b,1eea1-1eea3,1eea5-1eea9,1eeab-1eebb,",
    "1eef0-1eef1,1f000-1f02b,1f030-1f093,1f0a0-1f0ae,1f0b1-1f0bf,1f0c1-1f0cf,1f0d1-1f0f5,1f100-1f1ad,",
    "1f1e6-1f202,1f210-1f23b,1f240-1f248,1f250-1f251,1f260-1f265,1f300-1f6d7,1f6dc-1f6ec,1f6f0-1f6fc,",
    "1f700-1f776,1f77b-1f7d9,1f7e0-1f7eb,1f7f0-1f7f0,1f800-1f80b,1f810-1f847,1f850-1f859,1f860-1f887,",
    "1f890-1f8ad,1f8b0-1f8bb,1f8c0-1f8c1,1f900-1fa53,1fa60-1fa6d,1fa70-1fa7c,1fa80-1fa89,1fa8f-1fac6,",
    "1face-1fadc,1fadf-1fae9,1faf0-1faf8,1fb00-1fb92,1fb94-1fbf9,20000-2a6df,2a700-2b739,2b740-2b81d,",
    "2b820-2cea1,2ceb0-2ebe0,2ebf0-2ee5d,2f800-2fa1d,30000-3134a,31350-323af,"
  ])

/-- The `Grapheme_Extend` property. -/
def graphemeExtendTable : RangeTable :=
  RangeTable.ofHex (String.join [
    "300-36f,483-489,591-5bd,5bf-5bf,5c1-5c2,5c4-5c5,5c7-5c7,610-61a,",
    "64b-65f,670-670,6d6-6dc,6df-6e4,6e7-6e8,6ea-6ed,711-711,730-74a,",
    "7a6-7b0,7eb-7f3,7fd-7fd,816-819,81b-823,825-827,829-82d,859-85b,",
    "897-89f,8ca-8e1,8e3-902,93a-93a,93c-93c,941-948,94d-94d,951-957,",
    "962-963,981-981,9bc-9bc,9be-9be,9c1-9c4,9cd-9cd,9d7-9d7,9e2-9e3,",
    "9fe-9fe,a01-a02,a3c-a3c,a41-a42,a47-a48,a4b-a4d,a51-a51,a70-a71,",
    "a75-a75,a81-a82,abc-abc,ac1-ac5,ac7-ac8,acd-acd,ae2-ae3,afa-aff,",
    "b01-b01,b3c-b3c,b3e-b3f,b41-b44,b4d-b4d,b55-b57,b62-b63,b82-b82,",
    "bbe-bbe,bc0-bc0,bcd-bcd,bd7-bd7,c00-c00,c04-c04,c3c-c3c,c3e-c40,",
    "c46-c48,c4a-c4d,c55-c56,c62-c63,c81-c81,cbc-cbc,cbf-cc0,cc2-cc2,",
    "cc6-cc8,cca-ccd,cd5-cd6,ce2-ce3,d00-d01,d3b-d3c,d3e-d3e,d41-d44,",
    "d4d-d4d,d57-d57,d62-d63,d81-d81,dca-dca,dcf-dcf,dd2-dd4,dd6-dd6,",
    "ddf-ddf,e31-e31,e34-e3a,e47-e4e,eb1-eb1,eb4-ebc,ec8-ece,f18-f19,",
    "f35-f35,f37-f37,f39-f39,f71-f7e,f80-f84,f86-f87,f8d-f97,f99-fbc,",
    "fc6-fc6,102d-1030,1032-1037,1039-103a,103d-103e,1058-1059,105e-1060,1071-1074,",
    "1082-1082,1085-1086,108d-108d,109d-109d,135d-135f,1712-1715,1732-1734,1752-1753,",
    "1772-1773,17b4-17b5,17b7-17bd,17c6-17c6,17c9-17d3,17dd-17dd,180b-180d,180f-180f,",
    "1885-1886,18a9-18a9,1920-1922,1927-1928,1932-1932,1939-193b,1a17-1a18,1a1b-1a1b,",
    "1a56-1a56,1a58-1a5e,1a60-1a60,1a62-1a62,1a65-1a6c,1a73-1a7c,1a7f-1a7f,1ab0-1ace,",
    "1b00-1b03,1b34-1b3d,1b42-1b44,1b6b-1b73,1b80-1b81,1ba2-1ba5,1ba8-1bad,1be6-1be6,",
    "1be8-1be9,1bed-1bed,1bef-1bf3,1c2c-1c33,1c36-1c37,1cd0-1cd2,1cd4-1ce0,1ce2-1ce8,",
    "1ced-1ced,1cf4-1cf4,1cf8-1cf9,1dc0-1dff,200c-200c,20d0-20f0,2cef-2cf1,2d7f-2d7f,",
    "2de0-2dff,302a-302f,3099-309a,a66f-a672,a674-a67d,a69e-a69f,a6f0-a6f1,a802-a802,",
    "a806-a806,a80b-a80b,a825-a826,a82c-a82c,a8c4-a8c5,a8e0-a8f1,a8ff-a8ff,a926-a92d,",
    "a947-a951,a953-a953,a980-a982,a9b3-a9b3,a9b6-a9b9,a9bc-a9bd,a9c0-a9c0,a9e5-a9e5,",
    "aa29-aa2e,aa31-aa32,aa35-aa36,aa43-aa43,aa4c-aa4c,aa7c-aa7c,aab0-aab0,aab2-aab4,",
    "aab7-aab8,aabe-aabf,aac1-aac1,aaec-aaed,aaf6-aaf6,abe5-abe5,abe8-abe8,abed-abed,",
    "fb1e-fb1e,fe00-fe0f,fe20-fe2f,ff9e-ff9f,101fd-101fd,102e0-102e0,10376-1037a,10a01-10a03,",
    "10a05-10a06,10a0c-10a0f,10a38-10a3a,10a3f-10a3f,10ae5-10ae6,10d24-10d27,10d69-10d6d,10eab-10eac,",
    "10efc-10eff,10f46-10f50,10f82-10f85,11001-11001,11038-11046,11070-11070,11073-11074,1107f-11081,",
    "110b3-110b6,110b9-110ba,110c2-110c2,11100-11102,11127-1112b,1112d-11134,11173-11173,11180-11181,",
    "111b6-111be,111c0-111c0,111c9-111cc,111cf-111cf,1122f-11231,11234-11237,1123e-1123e,11241-11241,",
    "112df-112df,112e3-112ea,11300-11301,1133b-1133c,1133e-1133e,11340-11340,1134d-1134d,11357-11357,",
    "11366-1136c,11370-11374,113b8-113b8,113bb-113c0,113c2-113c2,113c5-113c5,113c7-113c9,113ce-113d0,",
    "113d2-113d2,113e1-113e2,11438-1143f,11442-11444,11446-11446,1145e-1145e,114b0-114b0,114b3-114b8,",
    "114ba-114ba,114bd-114bd,114bf-114c0,114c2-114c3,115af-115af,115b2-115b5,115bc-115bd,115bf-115c0,",
    "115dc-115dd,11633-1163a,1163d-1163d,1163f-11640,116ab-116ab,116ad-116ad,116b0-116b7,1171d-1171d,",
    "1171f-1171f,11722-11725,11727-1172b,1182f-11837,11839-1183a,11930-11930,1193b-1193e,11943-11943,",
    "119d4-119d7,119da-119db,119e0-119e0,11a01-11a0a,11a33-11a38,11a3b-11a3e,11a47-11a47,11a51-11a56,",
    "11a59-11a5b,11a8a-11a96,11a98-11a99,11c30-11c36,11c38-11c3d,11c3f-11c3f,11c92-11ca7,11caa-11cb0,",
    "11cb2-11cb3,11cb5-11cb6,11d31-11d36,11d3a-11d3a,11d3c-11d3d,11d3f-11d45,11d47-11d47,11d90-11d91,",
    "11d95-11d95,11d97-11d97,11ef3-11ef4,11f00-11f01,11f36-11f3a,11f40-11f42,11f5a-11f5a,13440-13440,",
    "13447-13455,1611e-16129,1612d-1612f,16af0-16af4,16b30-16b36,16f4f-16f4f,16f8f-16f92,16fe4-16fe4,",
    "16ff0-16ff1,1bc9d-1bc9e,1cf00-1cf2d,1cf30-1cf46,1d165-1d169,1d16d-1d172,1d17b-1d182,1d185-1d18b,",
    "1d1aa-1d1ad,1d242-1d244,1da00-1da36,1da3b-1da6c,1da75-1da75,1da84-1da84,1da9b-1da9f,1daa1-1daaf,",
    "1e000-1e006,1e008-1e018,1e01b-1e021,1e023-1e024,1e026-1e02a,1e08f-1e08f,1e130-1e136,1e2ae-1e2ae,",
    "1e2ec-1e2ef,1e4ec-1e4ef,1e5ee-1e5ef,1e8d0-1e8d6,1e944-1e94a,e0020-e007f,e0100-e01ef,"
  ])

/-- The `Grapheme_Link` property. -/
def graphemeLinkTable : RangeTable :=
  RangeTable.ofHex (String.join [
    "94d-94d,9cd-9cd,a4d-a4d,acd-acd,b4d-b4d,bcd-bcd,c4d-c4d,ccd-ccd,",
    "d3b-d3c,d4d-d4d,dca-dca,e3a-e3a,eba-eba,f84-f84,1039-103a,1714-1715,",
    "1734-1734,17d2-17d2,1a60-1a60,1b44-1b44,1baa-1bab,1bf2-1bf3,2d7f-2d7f,a806-a806,",
    "a82c-a82c,a8c4-a8c4,a953-a953,a9c0-a9c0,aaf6-aaf6,abed-abed,10a3f-10a3f,11046-11046,",
    "11070-11070,1107f-1107f,110b9-110b9,11133-11134,111c0-111c0,11235-11235,112ea-112ea,1134d-1134d,",
    "113ce-113d0,11442-11442,114c2-114c2,115bf-115bf,1163f-1163f,116b6-116b6,1172b-1172b,11839-11839,",
    "1193d-1193e,119e0-119e0,11a34-11a34,11a47-11a47,11a99-11a99,11c3f-11c3f,11d44-11d45,11d97-11d97,",
    "11f41-11f42,1612f-1612f,"
  ])

/-- The `Hex_Digit` property. -/
def hexDigitTable : RangeTable :=
  RangeTable.ofHex (String.join [
    "30-39,41-46,61-66,ff10-ff19,ff21-ff26,ff41-ff46,"
  ])

/-- The `Hyphen` property. -/
def hyphenTable : RangeTable :=
  RangeTable.ofHex (String.join [
    "2d-2d,ad-ad,58a-58a,1806-1806,2010-2011,2e17-2e17,30fb-30fb,fe63-fe63,",
    "ff0d-ff0d,ff65-ff65,"
  ])

/-- The `IDS_Binary_Operator` property. -/
def idsBinaryOperatorTable : RangeTable :=
  RangeTable.ofHex (String.join [
    "2ff0-2ff1,2ff4-2ffd,31ef-31ef,"
  ])

/-- The `IDS_Trinary_Operator` property. -/
def idsTrinaryOperatorTable : RangeTable :=
  RangeTable.ofHex (String.join [
    "2ff2-2ff3,"
  ])

/-- The `IDS_Unary_Operator` property. -/
def idsUnaryOperatorTable : RangeTable :=
  RangeTable.ofHex (String.join [
    "2ffe-2fff,"
  ])

/-- The `ID_Compat_Math_Continue` property. -/
def idCompatMathContinueTable : RangeTable :=
  RangeTable.ofHex (String.join [
    "b2-b3,b9-b9,2070-2070,2074-207e,2080-208e,2202-2202,2207-2207,221e-221e,",
    "1d6c1-1d6c1,1d6db-1d6db,1d6fb-1d6fb,1d715-1d715,1d735-1d735,1d74f-1d74f,1d76f-1d76f,1d789-1d789,",
    "1d7a9-1d7a9,1d7c3-1d7c3,"
  ])

/-- The `ID_Compat_Math_Start` property. -/
def idCompatMathStartTable : RangeTable :=
  RangeTable.ofHex (String.join [
    "2202-2202,2207-2207,221e-221e,1d6c1-1d6c1,1d6db-1d6db,1d6fb-1d6fb,1d715-1d715,1d735-1d735,",
    "1d74f-1d74f,1d76f-1d76f,1d789-1d789,1d7a9-1d7a9,1d7c3-1d7c3,"
  ])

/-- The `ID_Continue` property. -/
def idContinueTable : RangeTable :=
  RangeTable.ofHex (String.join [
    "30-39,41-5a,5f-5f,61-7a,aa-aa,b5-b5,b7-b7,ba-ba,",
    "c0-d6,d8-f6,f8-2c1,2c6-2d1,2e0-2e4,2ec-2ec,2ee-2ee,300-374,",
    "376-377,37a-37d,37f-37f,386-38a,38c-38c,38e-3a1,3a3-3f5,3f7-481,",
    "483-487,48a-52f,531-556,559-559,560-588,591-5bd,5bf-5bf,5c1-5c2,",
    "5c4-5c5,5c7-5c7,5d0-5ea,5ef-5f2,610-61a,620-669,66e-6d3,6d5-6dc,",
    "6df-6e8,6ea-6fc,6ff-6ff,710-74a,74d-7b1,7c0-7f5,7fa-7fa,7fd-7fd,",
    "800-82d,840-85b,860-86a,870-887,889-88e,897-8e1,8e3-963,966-96f,",
    "971-983,985-98c,98f-990,993-9a8,9aa-9b0,9b2-9b2,9b6-9b9,9bc-9c4,",
    "9c7-9c8,9cb-9ce,9d7-9d7,9dc-9dd,9df-9e3,9e6-9f1,9fc-9fc,9fe-9fe,",
    "a01-a03,a05-a0a,a0f-a10,a13-a28,a2a-a30,a32-a33,a35-a36,a38-a39,",
    "a3c-a3c,a3e-a42,a47-a48,a4b-a4d,a51-a51,a59-a5c,a5e-a5e,a66-a75,",
    "a81-a83,a85-a8d,a8f-a91,a93-aa8,aaa-ab0,ab2-ab3,ab5-ab9,abc-ac5,",
    "ac7-ac9,acb-acd,ad0-ad0,ae0-ae3,ae6-aef,af9-aff,b01-b03,b05-b0c,",
    "b0f-b10,b13-b28,b2a-b30,b32-b33,b35-b39,b3c-b44,b47-b48,b4b-b4d,",
    "b55-b57,b5c-b5d,b5f-b63,b66-b6f,b71-b71,b82-b83,b85-b8a,b8e-b90,",
    "b92-b95,b99-b9a,b9c-b9c,b9e-b9f,ba3-ba4,ba8-baa,bae-bb9,bbe-bc2,",
    "bc6-bc8,bca-bcd,bd0-bd0,bd7-bd7,be6-bef,c00-c0c,c0e-c10,c12-c28,",
    "c2a-c39,c3c-c44,c46-c48,c4a-c4d,c55-c56,c58-c5a,c5d-c5d,c60-c63,",
    "c66-c6f,c80-c83,c85-c8c,c8e-c90,c92-ca8,caa-cb3,cb5-cb9,cbc-cc4,",
    "cc6-cc8,cca-ccd,cd5-cd6,cdd-cde,ce0-ce3,ce6-cef,cf1-cf3,d00-d0c,",
    "d0e-d10,d12-d44,d46-d48,d4a-d4e,d54-d57,d5f-d63,d66-d6f,d7a-d7f,",
    "d81-d83,d85-d96,d9a-db1,db3-dbb,dbd-dbd,dc0-dc6,dca-dca,dcf-dd4,",
    "dd6-dd6,dd8-ddf,de6-def,df2-df3,e01-e3a,e40-e4e,e50-e59,e81-e82,",
    "e84-e84,e86-e8a,e8c-ea3,ea5-ea5,ea7-ebd,ec0-ec4,ec6-ec6,ec8-ece,",
    "ed0-ed9,edc-edf,f00-f00,f18-f19,f20-f29,f35-f35,f37-f37,f39-f39,",
    "f3e-f47,f49-f6c,f71-f84,f86-f97,f99-fbc,fc6-fc6,1000-1049,1050-109d,",
    "10a0-10c5,10c7-10c7,10cd-10cd,10d0-10fa,10fc-1248,124a-124d,1250-1256,1258-1258,",
    "125a-125d,1260-1288,128a-128d,1290-12b0,12b2-12b5,12b8-12be,12c0-12c0,12c2-12c5,",
    "12c8-12d6,12d8-1310,1312-1315,1318-135a,135d-135f,1369-1371,1380-138f,13a0-13f5,",
    "13f8-13fd,1401-166c,166f-167f,1681-169a,16a0-16ea,16ee-16f8,1700-1715,171f-1734,",
    "1740-1753,1760-176c,176e-1770,1772-1773,1780-17d3,17d7-17d7,17dc-17dd,17e0-17e9,",
    "180b-180d,180f-1819,1820-1878,1880-18aa,18b0-18f5,1900-191e,1920-192b,1930-193b,",
    "1946-196d,1970-1974,1980-19ab,19b0-19c9,19d0-19da,1a00-1a1b,1a20-1a5e,1a60-1a7c,",
    "1a7f-1a89,1a90-1a99,1aa7-1aa7,1ab0-1abd,1abf-1ace,1b00-1b4c,1b50-1b59,1b6b-1b73,",
    "1b80-1bf3,1c00-1c37,1c40-1c49,1c4d-1c7d,1c80-1c8a,1c90-1cba,1cbd-1cbf,1cd0-1cd2,",
    "1cd4-1cfa,1d00-1f15,1f18-1f1d,1f20-1f45,1f48-1f4d,1f50-1f57,1f59-1f59,1f5b-1f5b,",
    "1f5d-1f5d,1f5f-1f7d,1f80-1fb4,1fb6-1fbc,1fbe-1fbe,1fc2-1fc4,1fc6-1fcc,1fd0-1fd3,",
    "1fd6-1fdb,1fe0-1fec,1ff2-1ff4,1ff6-1ffc,200c-200d,203f-2040,2054-2054,2071-2071,",
    "207f-207f,2090-209c,20d0-20dc,20e1-20e1,20e5-20f0,2102-2102,2107-2107,210a-2113,",
    "2115-2115,2118-211d,2124-2124,2126-2126,2128-2128,212a-2139,213c-213f,2145-2149,",
    "214e-214e,2160-2188,2c00-2ce4,2ceb-2cf3,2d00-2d25,2d27-2d27,2d2d-2d2d,2d30-2d67,",
    "2d6f-2d6f,2d7f-2d96,2da0-2da6,2da8-2dae,2db0-2db6,2db8-2dbe,2dc0-2dc6,2dc8-2dce,",
    "2dd0-2dd6,2dd8-2dde,2de0-2dff,3005-3007,3021-302f,3031-3035,3038-303c,3041-3096,",
    "3099-309f,30a1-30ff,3105-312f,3131-318e,31a0-31bf,31f0-31ff,3400-4dbf,4e00-a48c,",
    "a4d0-a4fd,a500-a60c,a610-a62b,a640-a66f,a674-a67d,a67f-a6f1,a717-a71f,a722-a788,",
    "a78b-a7cd,a7d0-a7d1,a7d3-a7d3,a7d5-a7dc,a7f2-a827,a82c-a82c,a840-a873,a880-a8c5,",
    "a8d0-a8d9,a8e0-a8f7,a8fb-a8fb,a8fd-a92d,a930-a953,a960-a97c,a980-a9c0,a9cf-a9d9,",
    "a9e0-a9fe,aa00-aa36,aa40-aa4d,aa50-aa59,aa60-aa76,aa7a-aac2,aadb-aadd,aae0-aaef,",
    "aaf2-aaf6,ab01-ab06,ab09-ab0e,ab11-ab16,ab20-ab26,ab28-ab2e,ab30-ab5a,ab5c-ab69,",
    "ab70-abea,abec-abed,abf0-abf9,ac00-d7a3,d7b0-d7c6,d7cb-d7fb,f900-fa6d,fa70-fad9,",
    "fb00-fb06,fb13-fb17,fb1d-fb28,fb2a-fb36,fb38-fb3c,fb3e-fb3e,fb40-fb41,fb43-fb44,",
    "fb46-fbb1,fbd3-fd3d,fd50-fd8f,fd92-fdc7,fdf0-fdfb,fe00-fe0f,fe20-fe2f,fe33-fe34,",
    "fe4d-fe4f,fe70-fe74,fe76-fefc,ff10-ff19,ff21-ff3a,ff3f-ff3f,ff41-ff5a,ff65-ffbe,",
    "ffc2-ffc7,ffca-ffcf,ffd2-ffd7,ffda-ffdc,10000-1000b,1000d-10026,10028-1003a,1003c-1003d,",
    "1003f-1004d,10050-1005d,10080-100fa,10140-10174,101fd-101fd,10280-1029c,102a0-102d0,102e0-102e0,",
    "10300-1031f,1032d-1034a,10350-1037a,10380-1039d,103a0-103c3,103c8-103cf,103d1-103d5,10400-1049d,",
    "104a0-104a9,104b0-104d3,104d8-104fb,10500-10527,10530-10563,10570-1057a,1057c-1058a,1058c-10592,",
    "10594-10595,10597-105a1,105a3-105b1,105b3-105b9,105bb-105bc,105c0-105f3,10600-10736,10740-10755,",
    "10760-10767,10780-10785,10787-107b0,107b2-107ba,10800-10805,10808-10808,1080a-10835,10837-10838,",
    "1083c-1083c,1083f-10855,10860-10876,10880-1089e,108e0-108f2,108f4-108f5,10900-10915,10920-10939,",
    "10980-109b7,109be-109bf,10a00-10a03,10a05-10a06,10a0c-10a13,10a15-10a17,10a19-10a35,10a38-10a3a,",
    "10a3f-10a3f,10a60-10a7c,10a80-10a9c,10ac0-10ac7,10ac9-10ae6,10b00-10b35,10b40-10b55,10b60-10b72,",
    "10b80-10b91,10c00-10c48,10c80-10cb2,10cc0-10cf2,10d00-10d27,10d30-10d39,10d40-10d65,10d69-10d6d,",
    "10d6f-10d85,10e80-10ea9,10eab-10eac,10eb0-10eb1,10ec2-10ec4,10efc-10f1c,10f27-10f27,10f30-10f50,",
    "10f70-10f85,10fb0-10fc4,10fe0-10ff6,11000-11046,11066-11075,1107f-110ba,110c2-110c2,110d0-110e8,",
    "110f0-110f9,11100-11134,11136-1113f,11144-11147,11150-11173,11176-11176,11180-111c4,111c9-111cc,",
    "111ce-111da,111dc-111dc,11200-11211,11213-11237,1123e-11241,11280-11286,11288-11288,1128a-1128d,",
    "1128f-1129d,1129f-112a8,112b0-112ea,112f0-112f9,11300-11303,11305-1130c,1130f-11310,11313-11328,",
    "1132a-11330,11332-11333,11335-11339,1133b-11344,11347-11348,1134b-1134d,11350-11350,11357-11357,",
    "1135d-11363,11366-1136c,11370-11374,11380-11389,1138b-1138b,1138e-1138e,11390-113b5,113b7-113c0,",
    "113c2-113c2,113c5-113c5,113c7-113ca,113cc-113d3,113e1-113e2,11400-1144a,11450-11459,1145e-11461,",
    "11480-114c5,114c7-114c7,114d0-114d9,11580-115b5,115b8-115c0,115d8-115dd,11600-11640,11644-11644,",
    "11650-11659,11680-116b8,116c0-116c9,116d0-116e3,11700-1171a,1171d-1172b,11730-11739,11740-11746,",
    "11800-1183a,118a0-118e9,118ff-11906,11909-11909,1190c-11913,11915-11916,11918-11935,11937-11938,",
    "1193b-11943,11950-11959,119a0-119a7,119aa-119d7,119da-119e1,119e3-119e4,11a00-11a3e,11a47-11a47,",
    "11a50-11a99,11a9d-11a9d,11ab0-11af8,11bc0-11be0,11bf0-11bf9,11c00-11c08,11c0a-11c36,11c38-11c40,",
    "11c50-11c59,11c72-11c8f,11c92-11ca7,11ca9-11cb6,11d00-11d06,11d08-11d09,11d0b-11d36,11d3a-11d3a,",
    "11d3c-11d3d,11d3f-11d47,11d50-11d59,11d60-11d65,11d67-11d68,11d6a-11d8e,11d90-11d91,11d93-11d98,",
    "11da0-11da9,11ee0-11ef6,11f00-11f10,11f12-11f3a,11f3e-11f42,11f50-11f5a,11fb0-11fb0,12000-12399,",
    "12400-1246e,12480-12543,12f90-12ff0,13000-1342f,13440-13455,13460-143fa,14400-14646,16100-16139,",
    "16800-16a38,16a40-16a5e,16a60-16a69,16a70-16abe,16ac0-16ac9,16ad0-16aed,16af0-16af4,16b00-16b36,",
    "16b40-16b43,16b50-16b59,16b63-16b77,16b7d-16b8f,16d40-16d6c,16d70-16d79,16e40-16e7f,16f00-16f4a,",
    "16f4f-16f87,16f8f-16f9f,16fe0-16fe1,16fe3-16fe4,16ff0-16ff1,17000-187f7,18800-18cd5,18cff-18d08,",
    "1aff0-1aff3,1aff5-1affb,1affd-1affe,1b000-1b122,1b132-1b132,1b150-1b152,1b155-1b155,1b164-1b167,",
    "1b170-1b2fb,1bc00-1bc6a,1bc70-1bc7c,1bc80-1bc88,1bc90-1bc99,1bc9d-1bc9e,1ccf0-1ccf9,1cf00-1cf2d,",
    "1cf30-1cf46,1d165-1d169,1d16d-1d172,1d17b-1d182,1d185-1d18b,1d1aa-1d1ad,1d242-1d244,1d400-1d454,",
    "1d456-1d49c,1d49e-1d49f,1d4a2-1d4a2,1d4a5-1d4a6,1d4a9-1d4ac,1d4ae-1d4b9,1d4bb-1d4bb,1d4bd-1d4c3,",
    "1d4c5-1d505,1d507-1d50a,1d50d-1d514,1d516-1d51c,1d51e-1d539,1d53b-1d53e,1d540-1d544,1d546-1d546,",
    "1d54a-1d550,1d552-1d6a5,1d6a8-1d6c0,1d6c2-1d6da,1d6dc-1d6fa,1d6fc-1d714,1d716-1d734,1d736-1d74e,",
    "1d750-1d76e,1d770-1d788,1d78a-1d7a8,1d7aa-1d7c2,1d7c4-1d7cb,1d7ce-1d7ff,1da00-1da36,1da3b-1da6c,",
    "1da75-1da75,1da84-1da84,1da9b-1da9f,1daa1-1daaf,1df00-1df1e,1df25-1df2a,1e000-1e006,1e008-1e018,",
    "1e01b-1e021,1e023-1e024,1e026-1e02a,1e030-1e06d,1e08f-1e08f,1e100-1e12c,1e130-1e13d,1e140-1e149,",
    "1e14e-1e14e,1e290-1e2ae,1e2c0-1e2f9,1e4d0-1e4f9,1e5d0-1e5fa,1e7e0-1e7e6,1e7e8-1e7eb,1e7ed-1e7ee,",
    "1e7f0-1e7fe,1e800-1e8c4,1e8d0-1e8d6,1e900-1e94b,1e950-1e959,1ee00-1ee03,1ee05-1ee1f,1ee21-1ee22,",
    "1ee24-1ee24,1ee27-1ee27,1ee29-1ee32,1ee34-1ee37,1ee39-1ee39,1ee3b-1ee3b,1ee42-1ee42,1ee47-1ee47,",
    "1ee49-1ee49,1ee4b-1ee4b,1ee4d-1ee4f,1ee51-1ee52,1ee54-1ee54,1ee57-1ee57,1ee59-1ee59,1ee5b-1ee5b,",
    "1ee5d-1ee5d,1ee5f-1ee5f,1ee61-1ee62,1ee64-1ee64,1ee67-1ee6a,1ee6c-1ee72,1ee74-1ee77,1ee79-1ee7c,",
    "1ee7e-1ee7e,1ee80-1ee89,1ee8b-1ee9b,1eea1-1eea3,1eea5-1eea9,1eeab-1eebb,1fbf0-1fbf9,20000-2a6df,",
    "2a700-2b739,2b740-2b81d,2b820-2cea1,2ceb0-2ebe0,2ebf0-2ee5d,2f800-2fa1d,30000-3134a,31350-323af,",
    "e0100-e01ef,"
  ])

/-- The `ID_Start` property. -/
def idStartTable : RangeTable :=
  RangeTable.ofHex (String.join [
    "41-5a,61-7a,aa-aa,b5-b5,ba-ba,c0-d6,d8-f6,f8-2c1,",
    "2c6-2d1,2e0-2e4,2ec-2ec,2ee-2ee,370-374,376-377,37a-37d,37f-37f,",
    "386-386,388-38a,38c-38c,38e-3a1,3a3-3f5,3f7-481,48a-52f,531-556,",
    "559-559,560-588,5d0-5ea,5ef-5f2,620-64a,66e-66f,671-6d3,6d5-6d5,",
    "6e5-6e6,6ee-6ef,6fa-6fc,6ff-6ff,710-710,712-72f,74d-7a5,7b1-7b1,",
    "7ca-7ea,7f4-7f5,7fa-7fa,800-815,81a-81a,824-824,828-828,840-858,",
    "860-86a,870-887,889-88e,8a0-8c9,904-939,93d-93d,950-950,958-961,",
    "971-980,985-98c,98f-990,993-9a8,9aa-9b0,9b2-9b2,9b6-9b9,9bd-9bd,",
    "9ce-9ce,9dc-9dd,9df-9e1,9f0-9f1,9fc-9fc,a05-a0a,a0f-a10,a13-a28,",
    "a2a-a30,a32-a33,a35-a36,a38-a39,a59-a5c,a5e-a5e,a72-a74,a85-a8d,",
    "a8f-a91,a93-aa8,aaa-ab0,ab2-ab3,ab5-ab9,abd-abd,ad0-ad0,ae0-ae1,",
    "af9-af9,b05-b0c,b0f-b10,b13-b28,b2a-b30,b32-b33,b35-b39,b3d-b3d,",
    "b5c-b5d,b5f-b61,b71-b71,b83-b83,b85-b8a,b8e-b90,b92-b95,b99-b9a,",
    "b9c-b9c,b9e-b9f,ba3-ba4,ba8-baa,bae-bb9,bd0-bd0,c05-c0c,c0e-c10,",
    "c12-c28,c2a-c39,c3d-c3d,c58-c5a,c5d-c5d,c60-c61,c80-c80,c85-c8c,",
    "c8e-c90,c92-ca8,caa-cb3,cb5-cb9,cbd-cbd,cdd-cde,ce0-ce1,cf1-cf2,",
    "d04-d0c,d0e-d10,d12-d3a,d3d-d3d,d4e-d4e,d54-d56,d5f-d61,d7a-d7f,",
    "d85-d96,d9a-db1,db3-dbb,dbd-dbd,dc0-dc6,e01-e30,e32-e33,e40-e46,",
    "e81-e82,e84-e84,e86-e8a,e8c-ea3,ea5-ea5,ea7-eb0,eb2-eb3,ebd-ebd,",
    "ec0-ec4,ec6-ec6,edc-edf,f00-f00,f40-f47,f49-f6c,f88-f8c,1000-102a,",
    "103f-103f,1050-1055,105a-105d,1061-1061,1065-1066,106e-1070,1075-1081,108e-108e,",
    "10a0-10c5,10c7-10c7,10cd-10cd,10d0-10fa,10fc-1248,124a-124d,1250-1256,1258-1258,",
    "125a-125d,1260-1288,128a-128d,1290-12b0,12b2-12b5,12b8-12be,12c0-12c0,12c2-12c5,",
    "12c8-12d6,12d8-1310,1312-1315,1318-135a,1380-138f,13a0-13f5,13f8-13fd,1401-166c,",
    "166f-167f,1681-169a,16a0-16ea,16ee-16f8,1700-1711,171f-1731,1740-1751,1760-176c,",
    "176e-1770,1780-17b3,17d7-17d7,17dc-17dc,1820-1878,1880-18a8,18aa-18aa,18b0-18f5,",
    "1900-191e,1950-196d,1970-1974,1980-19ab,19b0-19c9,1a00-1a16,1a20-1a54,1aa7-1aa7,",
    "1b05-1b33,1b45-1b4c,1b83-1ba0,1bae-1baf,1bba-1be5,1c00-1c23,1c4d-1c4f,1c5a-1c7d,",
    "1c80-1c8a,1c90-1cba,1cbd-1cbf,1ce9-1cec,1cee-1cf3,1cf5-1cf6,1cfa-1cfa,1d00-1dbf,",
    "1e00-1f15,1f18-1f1d,1f20-1f45,1f48-1f4d,1f50-1f57,1f59-1f59,1f5b-1f5b,1f5d-1f5d,",
    "1f5f-1f7d,1f80-1fb4,1fb6-1fbc,1fbe-1fbe,1fc2-1fc4,1fc6-1fcc,1fd0-1fd3,1fd6-1fdb,",
    "1fe0-1fec,1ff2-1ff4,1ff6-1ffc,2071-2071,207f-207f,2090-209c,2102-2102,2107-2107,",
    "210a-2113,2115-2115,2118-211d,2124-2124,2126-2126,2128-2128,212a-2139,213c-213f,",
    "2145-2149,214e-214e,2160-2188,2c00-2ce4,2ceb-2cee,2cf2-2cf3,2d00-2d25,2d27-2d27,",
    "2d2d-2d2d,2d30-2d67,2d6f-2d6f,2d80-2d96,2da0-2da6,2da8-2dae,2db0-2db6,2db8-2dbe,",
    "2dc0-2dc6,2dc8-2dce,2dd0-2dd6,2dd8-2dde,3005-3007,3021-3029,3031-3035,3038-303c,",
    "3041-3096,309b-309f,30a1-30fa,30fc-30ff,3105-312f,3131-318e,31a0-31bf,31f0-31ff,",
    "3400-4dbf,4e00-a48c,a4d0-a4fd,a500-a60c,a610-a61f,a62a-a62b,a640-a66e,a67f-a69d,",
    "a6a0-a6ef,a717-a71f,a722-a788,a78b-a7cd,a7d0-a7d1,a7d3-a7d3,a7d5-a7dc,a7f2-a801,",
    "a803-a805,a807-a80a,a80c-a822,a840-a873,a882-a8b3,a8f2-a8f7,a8fb-a8fb,a8fd-a8fe,",
    "a90a-a925,a930-a946,a960-a97c,a984-a9b2,a9cf-a9cf,a9e0-a9e4,a9e6-a9ef,a9fa-a9fe,",
    "aa00-aa28,aa40-aa42,aa44-aa4b,aa60-aa76,aa7a-aa7a,aa7e-aaaf,aab1-aab1,aab5-aab6,",
    "aab9-aabd,aac0-aac0,aac2-aac2,aadb-aadd,aae0-aaea,aaf2-aaf4,ab01-ab06,ab09-ab0e,",
    "ab11-ab16,ab20-ab26,ab28-ab2e,ab30-ab5a,ab5c-ab69,ab70-abe2,ac00-d7a3,d7b0-d7c6,",
    "d7cb-d7fb,f900-fa6d,fa70-fad9,fb00-fb06,fb13-fb17,fb1d-fb1d,fb1f-fb28,fb2a-fb36,",
    "fb38-fb3c,fb3e-fb3e,fb40-fb41,fb43-fb44,fb46-fbb1,fbd3-fd3d,fd50-fd8f,fd92-fdc7,",
    "fdf0-fdfb,fe70-fe74,fe76-fefc,ff21-ff3a,ff41-ff5a,ff66-ffbe,ffc2-ffc7,ffca-ffcf,",
    "ffd2-ffd7,ffda-ffdc,10000-1000b,1000d-10026,10028-1003a,1003c-1003d,1003f-1004d,10050-1005d,",
    "10080-100fa,10140-10174,10280-1029c,102a0-102d0,10300-1031f,1032d-1034a,10350-10375,10380-1039d,",
    "103a0-103c3,103c8-103cf,103d1-103d5,10400-1049d,104b0-104d3,104d8-104fb,10500-10527,10530-10563,",
    "10570-1057a,1057c-1058a,1058c-10592,10594-10595,10597-105a1,105a3-105b1,105b3-105b9,105bb-105bc,",
    "105c0-105f3,10600-10736,10740-10755,10760-10767,10780-10785,10787-107b0,107b2-107ba,10800-10805,",
    "10808-10808,1080a-10835,10837-10838,1083c-1083c,1083f-10855,10860-10876,10880-1089e,108e0-108f2,",
    "108f4-108f5,10900-10915,10920-10939,10980-109b7,109be-109bf,10a00-10a00,10a10-10a13,10a15-10a17,",
    "10a19-10a35,10a60-10a7c,10a80-10a9c,10ac0-10ac7,10ac9-10ae4,10b00-10b35,10b40-10b55,10b60-10b72,",
    "10b80-10b91,10c00-10c48,10c80-10cb2,10cc0-10cf2,10d00-10d23,10d4a-10d65,10d6f-10d85,10e80-10ea9,",
    "10eb0-10eb1,10ec2-10ec4,10f00-10f1c,10f27-10f27,10f30-10f45,10f70-10f81,10fb0-10fc4,10fe0-10ff6,",
    "11003-11037,11071-11072,11075-11075,11083-110af,110d0-110e8,11103-11126,11144-11144,11147-11147,",
    "11150-11172,11176-11176,11183-111b2,111c1-111c4,111da-111da,111dc-111dc,11200-11211,11213-1122b,",
    "1123f-11240,11280-11286,11288-11288,1128a-1128d,1128f-1129d,1129f-112a8,112b0-112de,11305-1130c,",
    "1130f-11310,11313-11328,1132a-11330,11332-11333,11335-11339,1133d-1133d,11350-11350,1135d-11361,",
    "11380-11389,1138b-1138b,1138e-1138e,11390-113b5,113b7-113b7,113d1-113d1,113d3-113d3,11400-11434,",
    "11447-1144a,1145f-11461,11480-114af,114c4-114c5,114c7-114c7,11580-115ae,115d8-115db,11600-1162f,",
    "11644-11644,11680-116aa,116b8-116b8,11700-1171a,11740-11746,11800-1182b,118a0-118df,118ff-11906,",
    "11909-11909,1190c-11913,11915-11916,11918-1192f,1193f-1193f,11941-11941,119a0-119a7,119aa-119d0,",
    "119e1-119e1,119e3-119e3,11a00-11a00,11a0b-11a32,11a3a-11a3a,11a50-11a50,11a5c-11a89,11a9d-11a9d,",
    "11ab0-11af8,11bc0-11be0,11c00-11c08,11c0a-11c2e,11c40-11c40,11c72-11c8f,11d00-11d06,11d08-11d09,",
    "11d0b-11d30,11d46-11d46,11d60-11d65,11d67-11d68,11d6a-11d89,11d98-11d98,11ee0-11ef2,11f02-11f02,",
    "11f04-11f10,11f12-11f33,11fb0-11fb0,12000-12399,12400-1246e,12480-12543,12f90-12ff0,13000-1342f,",
    "13441-13446,13460-143fa,14400-14646,16100-1611d,16800-16a38,16a40-16a5e,16a70-16abe,16ad0-16aed,",
    "16b00-16b2f,16b40-16b43,16b63-16b77,16b7d-16b8f,16d40-16d6c,16e40-16e7f,16f00-16f4a,16f50-16f50,",
    "16f93-16f9f,16fe0-16fe1,16fe3-16fe3,17000-187f7,18800-18cd5,18cff-18d08,1aff0-1aff3,1aff5-1affb,",
    "1affd-1affe,1b000-1b122,1b132-1b132,1b150-1b152,1b155-1b155,1b164-1b167,1b170-1b2fb,1bc00-1bc6a,",
    "1bc70-1bc7c,1bc80-1bc88,1bc90-1bc99,1d400-1d454,1d456-1d49c,1d49e-1d49f,1d4a2-1d4a2,1d4a5-1d4a6,",
    "1d4a9-1d4ac,1d4ae-1d4b9,1d4bb-1d4bb,1d4bd-1d4c3,1d4c5-1d505,1d507-1d50a,1d50d-1d514,1d516-1d51c,",
    "1d51e-1d539,1d53b-1d53e,1d540-1d544,1d546-1d546,1d54a-1d550,1d552-1d6a5,1d6a8-1d6c0,1d6c2-1d6da,",
    "1d6dc-1d6fa,1d6fc-1d714,1d716-1d734,1d736-1d74e,1d750-1d76e,1d770-1d788,1d78a-1d7a8,1d7aa-1d7c2,",
    "1d7c4-1d7cb,1df00-1df1e,1df25-1df2a,1e030-1e06d,1e100-1e12c,1e137-1e13d,1e14e-1e14e,1e290-1e2ad,",
    "1e2c0-1e2eb,1e4d0-1e4eb,1e5d0-1e5ed,1e5f0-1e5f0,1e7e0-1e7e6,1e7e8-1e7eb,1e7ed-1e7ee,1e7f0-1e7fe,",
    "1e800-1e8c4,1e900-1e943,1e94b-1e94b,1ee00-1ee03,1ee05-1ee1f,1ee21-1ee22,1ee24-1ee24,1ee27-1ee27,",
    "1ee29-1ee32,1ee34-1ee37,1ee39-1ee39,1ee3b-1ee3b,1ee42-1ee42,1ee47-1ee47,1ee49-1ee49,1ee4b-1ee4b,",
    "1ee4d-1ee4f,1ee51-1ee52,1ee54-1ee54,1ee57-1ee57,1ee59-1ee59,1ee5b-1ee5b,1ee5d-1ee5d,1ee5f-1ee5f,",
    "1ee61-1ee62,1ee64-1ee64,1ee67-1ee6a,1ee6c-1ee72,1ee74-1ee77,1ee79-1ee7c,1ee7e-1ee7e,1ee80-1ee89,",
    "1ee8b-1ee9b,1eea1-1eea3,1eea5-1eea9,1eeab-1eebb,20000-2a6df,2a700-2b739,2b740-2b81d,2b820-2cea1,",
    "2ceb0-2ebe0,2ebf0-2ee5d,2f800-2fa1d,30000-3134a,31350-323af,"
  ])

/-- The `Ideographic` property. -/
def ideographicTable : RangeTable :=
  RangeTable.ofHex (String.join [
    "3006-3007,3021-3029,3038-303a,3400-4dbf,4e00-9fff,f900-fa6d,fa70-fad9,16fe4-16fe4,",
    "17000-187f7,18800-18cd5,18cff-18d08,1b170-1b2fb,20000-2a6df,2a700-2b739,2b740-2b81d,2b820-2cea1,",
    "2ceb0-2ebe0,2ebf0-2ee5d,2f800-2fa1d,30000-3134a,31350-323af,"
  ])

/-- The `Join_Control` property. -/
def joinControlTable : RangeTable :=
  RangeTable.ofHex (String.join [
    "200c-200d,"
  ])

/-- The `Logical_Order_Exception` property. -/
def logicalOrderExceptionTable : RangeTable :=
  RangeTable.ofHex (String.join [
    "e40-e44,ec0-ec4,19b5-19b7,19ba-19ba,aab5-aab6,aab9-aab9,aabb-aabc,"
  ])

/-- The `Lowercase` property. -/
def lowercaseTable : RangeTable :=
  RangeTable.ofHex (String.join [
    "61-7a,aa-aa,b5-b5,ba-ba,df-f6,f8-ff,101-101,103-103,",
    "105-105,107-107,109-109,10b-10b,10d-10d,10f-10f,111-111,113-113,",
    "115-115,117-117,119-119,11b-11b,11d-11d,11f-11f,121-121,123-123,",
    "125-125,127-127,129-129,12b-12b,12d-12d,12f-12f,131-131,133-133,",
    "135-135,137-138,13a-13a,13c-13c,13e-13e,140-140,142-142,144-144,",
    "146-146,148-149,14b-14b,14d-14d,14f-14f,151-151,153-153,155-155,",
    "157-157,159-159,15b-15b,15d-15d,15f-15f,161-161,163-163,165-165,",
    "167-167,169-169,16b-16b,16d-16d,16f-16f,171-171,173-173,175-175,",
    "177-177,17a-17a,17c-17c,17e-180,183-183,185-185,188-188,18c-18d,",
    "192-192,195-195,199-19b,19e-19e,1a1-1a1,1a3-1a3,1a5-1a5,1a8-1a8,",
    "1aa-1ab,1ad-1ad,1b0-1b0,1b4-1b4,1b6-1b6,1b9-1ba,1bd-1bf,1c6-1c6,",
    "1c9-1c9,1cc-1cc,1ce-1ce,1d0-1d0,1d2-1d2,1d4-1d4,1d6-1d6,1d8-1d8,",
    "1da-1da,1dc-1dd,1df-1df,1e1-1e1,1e3-1e3,1e5-1e5,1e7-1e7,1e9-1e9,",
    "1eb-1eb,1ed-1ed,1ef-1f0,1f3-1f3,1f5-1f5,1f9-1f9,1fb-1fb,1fd-1fd,",
    "1ff-1ff,201-201,203-203,205-205,207-207,209-209,20b-20b,20d-20d,",
    "20f-20f,211-211,213-213,215-215,217-217,219-219,21b-21b,21d-21d,",
    "21f-21f,221-221,223-223,225-225,227-227,229-229,22b-22b,22d-22d,",
    "22f-22f,231-231,233-239,23c-23c,23f-240,242-242,247-247,249-249,",
    "24b-24b,24d-24d,24f-293,295-2b8,2c0-2c1,2e0-2e4,345-345,371-371,",
    "373-373,377-377,37a-37d,390-390,3ac-3ce,3d0-3d1,3d5-3d7,3d9-3d9,",
    "3db-3db,3dd-3dd,3df-3df,3e1-3e1,3e3-3e3,3e5-3e5,3e7-3e7,3e9-3e9,",
    "3eb-3eb,3ed-3ed,3ef-3f3,3f5-3f5,3f8-3f8,3fb-3fc,430-45f,461-461,",
    "463-463,465-465,467-467,469-469,46b-46b,46d-46d,46f-46f,471-471,",
    "473-473,475-475,477-477,479-479,47b-47b,47d-47d,47f-47f,481-481,",
    "48b-48b,48d-48d,48f-48f,491-491,493-493,495-495,497-497,499-499,",
    "49b-49b,49d-49d,49f-49f,4a1-4a1,4a3-4a3,4a5-4a5,4a7-4a7,4a9-4a9,",
    "4ab-4ab,4ad-4ad,4af-4af,4b1-4b1,4b3-4b3,4b5-4b5,4b7-4b7,4b9-4b9,",
    "4bb-4bb,4bd-4bd,4bf-4bf,4c2-4c2,4c4-4c4,4c6-4c6,4c8-4c8,4ca-4ca,",
    "4cc-4cc,4ce-4cf,4d1-4d1,4d3-4d3,4d5-4d5,4d7-4d7,4d9-4d9,4db-4db,",
    "4dd-4dd,4df-4df,4e1-4e1,4e3-4e3,4e5-4e5,4e7-4e7,4e9-4e9,4eb-4eb,",
    "4ed-4ed,4ef-4ef,4f1-4f1,4f3-4f3,4f5-4f5,4f7-4f7,4f9-4f9,4fb-4fb,",
    "4fd-4fd,4ff-4ff,501-501,503-503,505-505,507-507,509-509,50b-50b,",
    "50d-50d,50f-50f,511-511,513-513,515-515,517-517,519-519,51b-51b,",
    "51d-51d,51f-51f,521-521,523-523,525-525,527-527,529-529,52b-52b,",
    "52d-52d,52f-52f,560-588,10d0-10fa,10fc-10ff,13f8-13fd,1c80-1c88,1c8a-1c8a,",
    "1d00-1dbf,1e01-1e01,1e03-1e03,1e05-1e05,1e07-1e07,1e09-1e09,1e0b-1e0b,1e0d-1e0d,",
    "1e0f-1e0f,1e11-1e11,1e13-1e13,1e15-1e15,1e17-1e17,1e19-1e19,1e1b-1e1b,1e1d-1e1d,",
    "1e1f-1e1f,1e21-1e21,1e23-1e23,1e25-1e25,1e27-1e27,1e29-1e29,1e2b-1e2b,1e2d-1e2d,",
    "1e2f-1e2f,1e31-1e31,1e33-1e33,1e35-1e35,1e37-1e37,1e39-1e39,1e3b-1e3b,1e3d-1e3d,",
    "1e3f-1e3f,1e41-1e41,1e43-1e43,1e45-1e45,1e47-1e47,1e49-1e49,1e4b-1e4b,1e4d-1e4d,",
    "1e4f-1e4f,1e51-1e51,1e53-1e53,1e55-1e55,1e57-1e57,1e59-1e59,1e5b-1e5b,1e5d-1e5d,",
    "1e5f-1e5f,1e61-1e61,1e63-1e63,1e65-1e65,1e67-1e67,1e69-1e69,1e6b-1e6b,1e6d-1e6d,",
    "1e6f-1e6f,1e71-1e71,1e73-1e73,1e75-1e75,1e77-1e77,1e79-1e79,1e7b-1e7b,1e7d-1e7d,",
    "1e7f-1e7f,1e81-1e81,1e83-1e83,1e85-1e85,1e87-1e87,1e89-1e89,1e8b-1e8b,1e8d-1e8d,",
    "1e8f-1e8f,1e91-1e91,1e93-1e93,1e95-1e9d,1e9f-1e9f,1ea1-1ea1,1ea3-1ea3,1ea5-1ea5,",
    "1ea7-1ea7,1ea9-1ea9,1eab-1eab,1ead-1ead,1eaf-1eaf,1eb1-1eb1,1eb3-1eb3,1eb5-1eb5,",
    "1eb7-1eb7,1eb9-1eb9,1ebb-1ebb,1ebd-1ebd,1ebf-1ebf,1ec1-1ec1,1ec3-1ec3,1ec5-1ec5,",
    "1ec7-1ec7,1ec9-1ec9,1ecb-1ecb,1ecd-1ecd,1ecf-1ecf,1ed1-1ed1,1ed3-1ed3,1ed5-1ed5,",
    "1ed7-1ed7,1ed9-1ed9,1edb-1edb,1edd-1edd,1edf-1edf,1ee1-1ee1,1ee3-1ee3,1ee5-1ee5,",
    "1ee7-1ee7,1ee9-1ee9,1eeb-1eeb,1eed-1eed,1eef-1eef,1ef1-1ef1,1ef3-1ef3,1ef5-1ef5,",
    "1ef7-1ef7,1ef9-1ef9,1efb-1efb,1efd-1efd,1eff-1f07,1f10-1f15,1f20-1f27,1f30-1f37,",
    "1f40-1f45,1f50-1f57,1f60-1f67,1f70-1f7d,1f80-1f87,1f90-1f97,1fa0-1fa7,1fb0-1fb4,",
    "1fb6-1fb7,1fbe-1fbe,1fc2-1fc4,1fc6-1fc7,1fd0-1fd3,1fd6-1fd7,1fe0-1fe7,1ff2-1ff4,",
    "1ff6-1ff7,2071-2071,207f-207f,2090-209c,210a-210a,210e-210f,2113-2113,212f-212f,",
    "2134-2134,2139-2139,213c-213d,2146-2149,214e-214e,2170-217f,2184-2184,24d0-24e9,",
    "2c30-2c5f,2c61-2c61,2c65-2c66,2c68-2c68,2c6a-2c6a,2c6c-2c6c,2c71-2c71,2c73-2c74,",
    "2c76-2c7d,2c81-2c81,2c83-2c83,2c85-2c85,2c87-2c87,2c89-2c89,2c8b-2c8b,2c8d-2c8d,",
    "2c8f-2c8f,2c91-2c91,2c93-2c93,2c95-2c95,2c97-2c97,2c99-2c99,2c9b-2c9b,2c9d-2c9d,",
    "2c9f-2c9f,2ca1-2ca1,2ca3-2ca3,2ca5-2ca5,2ca7-2ca7,2ca9-2ca9,2cab-2cab,2cad-2cad,",
    "2caf-2caf,2cb1-2cb1,2cb3-2cb3,2cb5-2cb5,2cb7-2cb7,2cb9-2cb9,2cbb-2cbb,2cbd-2cbd,",
    "2cbf-2cbf,2cc1-2cc1,2cc3-2cc3,2cc5-2cc5,2cc7-2cc7,2cc9-2cc9,2ccb-2ccb,2ccd-2ccd,",
    "2ccf-2ccf,2cd1-2cd1,2cd3-2cd3,2cd5-2cd5,2cd7-2cd7,2cd9-2cd9,2cdb-2cdb,2cdd-2cdd,",
    "2cdf-2cdf,2ce1-2ce1,2ce3-2ce4,2cec-2cec,2cee-2cee,2cf3-2cf3,2d00-2d25,2d27-2d27,",
    "2d2d-2d2d,a641-a641,a643-a643,a645-a645,a647-a647,a649-a649,a64b-a64b,a64d-a64d,",
    "a64f-a64f,a651-a651,a653-a653,a655-a655,a657-a657,a659-a659,a65b-a65b,a65d-a65d,",
    "a65f-a65f,a661-a661,a663-a663,a665-a665,a667-a667,a669-a669,a66b-a66b,a66d-a66d,",
    "a681-a681,a683-a683,a685-a685,a687-a687,a689-a689,a68b-a68b,a68d-a68d,a68f-a68f,",
    "a691-a691,a693-a693,a695-a695,a697-a697,a699-a699,a69b-a69d,a723-a723,a725-a725,",
    "a727-a727,a729-a729,a72b-a72b,a72d-a72d,a72f-a731,a733-a733,a735-a735,a737-a737,",
    "a739-a739,a73b-a73b,a73d-a73d,a73f-a73f,a741-a741,a743-a743,a745-a745,a747-a747,",
    "a749-a749,a74b-a74b,a74d-a74d,a74f-a74f,a751-a751,a753-a753,a755-a755,a757-a757,",
    "a759-a759,a75b-a75b,a75d-a75d,a75f-a75f,a761-a761,a763-a763,a765-a765,a767-a767,",
    "a769-a769,a76b-a76b,a76d-a76d,a76f-a778,a77a-a77a,a77c-a77c,a77f-a77f,a781-a781,",
    "a783-a783,a785-a785,a787-a787,a78c-a78c,a78e-a78e,a791-a791,a793-a795,a797-a797,",
    "a799-a799,a79b-a79b,a79d-a79d,a79f-a79f,a7a1-a7a1,a7a3-a7a3,a7a5-a7a5,a7a7-a7a7,",
    "a7a9-a7a9,a7af-a7af,a7b5-a7b5,a7b7-a7b7,a7b9-a7b9,a7bb-a7bb,a7bd-a7bd,a7bf-a7bf,",
    "a7c1-a7c1,a7c3-a7c3,a7c8-a7c8,a7ca-a7ca,a7cd-a7cd,a7d1-a7d1,a7d3-a7d3,a7d5-a7d5,",
    "a7d7-a7d7,a7d9-a7d9,a7db-a7db,a7f2-a7f4,a7f6-a7f6,a7f8-a7fa,ab30-ab5a,ab5c-ab69,",
    "ab70-abbf,fb00-fb06,fb13-fb17,ff41-ff5a,10428-1044f,104d8-104fb,10597-105a1,105a3-105b1,",
    "105b3-105b9,105bb-105bc,10780-10780,10783-10785,10787-107b0,107b2-107ba,10cc0-10cf2,10d70-10d85,",
    "118c0-118df,16e60-16e7f,1d41a-1d433,1d44e-1d454,1d456-1d467,1d482-1d49b,1d4b6-1d4b9,1d4bb-1d4bb,",
    "1d4bd-1d4c3,1d4c5-1d4cf,1d4ea-1d503,1d51e-1d537,1d552-1d56b,1d586-1d59f,1d5ba-1d5d3,1d5ee-1d607,",
    "1d622-1d63b,1d656-1d66f,1d68a-1d6a5,1d6c2-1d6da,1d6dc-1d6e1,1d6fc-1d714,1d716-1d71b,1d736-1d74e,",
    "1d750-1d755,1d770-1d788,1d78a-1d78f,1d7aa-1d7c2,1d7c4-1d7c9,1d7cb-1d7cb,1df00-1df09,1df0b-1df1e,",
    "1df25-1df2a,1e030-1e06d,1e922-1e943,"
  ])

/-- The `Math` property. -/
def mathTable : RangeTable :=
  RangeTable.ofHex (String.join [
    "2b-2b,3c-3e,5e-5e,7c-7c,7e-7e,ac-ac,b1-b1,d7-d7,",
    "f7-f7,3d0-3d2,3d5-3d5,3f0-3f1,3f4-3f6,606-608,2016-2016,2032-2034,",
    "2040-2040,2044-2044,2052-2052,2061-2064,207a-207e,208a-208e,20d0-20dc,20e1-20e1,",
    "20e5-20e6,20eb-20ef,2102-2102,2107-2107,210a-2113,2115-2115,2118-211d,2124-2124,",
    "2128-2129,212c-212d,212f-2131,2133-2138,213c-2149,214b-214b,2190-21a7,21a9-21ae,",
    "21b0-21b1,21b6-21b7,21bc-21db,21dd-21dd,21e4-21e5,21f4-22ff,2308-230b,2320-2321,",
    "237c-237c,239b-23b5,23b7-23b7,23d0-23d0,23dc-23e2,25a0-25a1,25ae-25b7,25bc-25c1,",
    "25c6-25c7,25ca-25cb,25cf-25d3,25e2-25e2,25e4-25e4,25e7-25ec,25f8-25ff,2605-2606,",
    "2640-2640,2642-2642,2660-2663,266d-266f,27c0-27ff,2900-2aff,2b30-2b44,2b47-2b4c,",
    "fb29-fb29,fe61-fe66,fe68-fe68,ff0b-ff0b,ff1c-ff1e,ff3c-ff3c,ff3e-ff3e,ff5c-ff5c,",
    "ff5e-ff5e,ffe2-ffe2,ffe9-ffec,10d8e-10d8f,1d400-1d454,1d456-1d49c,1d49e-1d49f,1d4a2-1d4a2,",
    "1d4a5-1d4a6,1d4a9-1d4ac,1d4ae-1d4b9,1d4bb-1d4bb,1d4bd-1d4c3,1d4c5-1d505,1d507-1d50a,1d50d-1d514,",
    "1d516-1d51c,1d51e-1d539,1d53b-1d53e,1d540-1d544,1d546-1d546,1d54a-1d550,1d552-1d6a5,1d6a8-1d7cb,",
    "1d7ce-1d7ff,1ee00-1ee03,1ee05-1ee1f,1ee21-1ee22,1ee24-1ee24,1ee27-1ee27,1ee29-1ee32,1ee34-1ee37,",
    "1ee39-1ee39,1ee3b-1ee3b,1ee42-1ee42,1ee47-1ee47,1ee49-1ee49,1ee4b-1ee4b,1ee4d-1ee4f,1ee51-1ee52,",
    "1ee54-1ee54,1ee57-1ee57,1ee59-1ee59,1ee5b-1ee5b,1ee5d-1ee5d,1ee5f-1ee5f,1ee61-1ee62,1ee64-1ee64,",
    "1ee67-1ee6a,1ee6c-1ee72,1ee74-1ee77,1ee79-1ee7c,1ee7e-1ee7e,1ee80-1ee89,1ee8b-1ee9b,1eea1-1eea3,",
    "1eea5-1eea9,1eeab-1eebb,1eef0-1eef1,"
  ])

/-- The `Modifier_Combining_Mark` property. -/
def modifierCombiningMarkTable : RangeTable :=
  RangeTable.ofHex (String.join [
    "654-655,658-658,6dc-6dc,6e3-6e3,6e7-6e8,8ca-8cb,8cd-8cf,8d3-8d3,",
    "8f3-8f3,"
  ])

/-- The `Noncharacter_Code_Point` property. -/
def noncharacterCodePointTable : RangeTable :=
  RangeTable.ofHex (String.join [
    "fdd0-fdef,fffe-ffff,1fffe-1ffff,2fffe-2ffff,3fffe-3ffff,4fffe-4ffff,5fffe-5ffff,6fffe-6ffff,",
    "7fffe-7ffff,8fffe-8ffff,9fffe-9ffff,afffe-affff,bfffe-bffff,cfffe-cffff,dfffe-dffff,efffe-effff,",
    "ffffe-fffff,10fffe-10ffff,"
  ])

/-- The `Other_Alphabetic` property. -/
def otherAlphabeticTable : RangeTable :=
  RangeTable.ofHex (String.join [
    "345-345,363-36f,5b0-5bd,5bf-5bf,5c1-5c2,5c4-5c5,5c7-5c7,610-61a,",
    "64b-657,659-65f,670-670,6d6-6dc,6e1-6e4,6e7-6e8,6ed-6ed,711-711,",
    "730-73f,7a6-7b0,816-817,81b-823,825-827,829-82c,897-897,8d4-8df,",
    "8e3-8e9,8f0-903,93a-93b,93e-94c,94e-94f,955-957,962-963,981-983,",
    "9be-9c4,9c7-9c8,9cb-9cc,9d7-9d7,9e2-9e3,a01-a03,a3e-a42,a47-a48,",
    "a4b-a4c,a51-a51,a70-a71,a75-a75,a81-a83,abe-ac5,ac7-ac9,acb-acc,",
    "ae2-ae3,afa-afc,b01-b03,b3e-b44,b47-b48,b4b-b4c,b56-b57,b62-b63,",
    "b82-b82,bbe-bc2,bc6-bc8,bca-bcc,bd7-bd7,c00-c04,c3e-c44,c46-c48,",
    "c4a-c4c,c55-c56,c62-c63,c81-c83,cbe-cc4,cc6-cc8,cca-ccc,cd5-cd6,",
    "ce2-ce3,cf3-cf3,d00-d03,d3e-d44,d46-d48,d4a-d4c,d57-d57,d62-d63,",
    "d81-d83,dcf-dd4,dd6-dd6,dd8-ddf,df2-df3,e31-e31,e34-e3a,e4d-e4d,",
    "eb1-eb1,eb4-eb9,ebb-ebc,ecd-ecd,f71-f83,f8d-f97,f99-fbc,102b-1036,",
    "1038-1038,103b-103e,1056-1059,105e-1060,1062-1064,1067-106d,1071-1074,1082-108d,",
    "108f-108f,109a-109d,1712-1713,1732-1733,1752-1753,1772-1773,17b6-17c8,1885-1886,",
    "18a9-18a9,1920-192b,1930-1938,1a17-1a1b,1a55-1a5e,1a61-1a74,1abf-1ac0,1acc-1ace,",
    "1b00-1b04,1b35-1b43,1b80-1b82,1ba1-1ba9,1bac-1bad,1be7-1bf1,1c24-1c36,1dd3-1df4,",
    "24b6-24e9,2de0-2dff,a674-a67b,a69e-a69f,a802-a802,a80b-a80b,a823-a827,a880-a881,",
    "a8b4-a8c3,a8c5-a8c5,a8ff-a8ff,a926-a92a,a947-a952,a980-a983,a9b4-a9bf,a9e5-a9e5,",
    "aa29-aa36,aa43-aa43,aa4c-aa4d,aa7b-aa7d,aab0-aab0,aab2-aab4,aab7-aab8,aabe-aabe,",
    "aaeb-aaef,aaf5-aaf5,abe3-abea,fb1e-fb1e,10376-1037a,10a01-10a03,10a05-10a06,10a0c-10a0f,",
    "10d24-10d27,10d69-10d69,10eab-10eac,10efc-10efc,11000-11002,11038-11045,11073-11074,11080-11082,",
    "110b0-110b8,110c2-110c2,11100-11102,11127-11132,11145-11146,11180-11182,111b3-111bf,111ce-111cf,",
    "1122c-11234,11237-11237,1123e-1123e,11241-11241,112df-112e8,11300-11303,1133e-11344,11347-11348,",
    "1134b-1134c,11357-11357,11362-11363,113b8-113c0,113c2-113c2,113c5-113c5,113c7-113ca,113cc-113cd,",
    "11435-11441,11443-11445,114b0-114c1,115af-115b5,115b8-115be,115dc-115dd,11630-1163e,11640-11640,",
    "116ab-116b5,1171d-1172a,1182c-11838,11930-11935,11937-11938,1193b-1193c,11940-11940,11942-11942,",
    "119d1-119d7,119da-119df,119e4-119e4,11a01-11a0a,11a35-11a39,11a3b-11a3e,11a51-11a5b,11a8a-11a97,",
    "11c2f-11c36,11c38-11c3e,11c92-11ca7,11ca9-11cb6,11d31-11d36,11d3a-11d3a,11d3c-11d3d,11d3f-11d41,",
    "11d43-11d43,11d47-11d47,11d8a-11d8e,11d90-11d91,11d93-11d96,11ef3-11ef6,11f00-11f01,11f03-11f03,",
    "11f34-11f3a,11f3e-11f40,1611e-1612e,16f4f-16f4f,16f51-16f87,16f8f-16f92,16ff0-16ff1,1bc9e-1bc9e,",
    "1e000-1e006,1e008-1e018,1e01b-1e021,1e023-1e024,1e026-1e02a,1e08f-1e08f,1e947-1e947,1f130-1f149,",
    "1f150-1f169,1f170-1f189,"
  ])

/-- The `Other_Default_Ignorable_Code_Point` property. -/
def otherDefaultIgnorableCodePointTable : RangeTable :=
  RangeTable.ofHex (String.join [
    "34f-34f,115f-1160,17b4-17b5,2065-2065,3164-3164,ffa0-ffa0,fff0-fff8,e0000-e0000,",
    "e0002-e001f,e0080-e00ff,e01f0-e0fff,"
  ])

/-- The `Other_Grapheme_Extend` property. -/
def otherGraphemeExtendTable : RangeTable :=
  RangeTable.ofHex (String.join [
    "9be-9be,9d7-9d7,b3e-b3e,b57-b57,bbe-bbe,bd7-bd7,cc0-cc0,cc2-cc2,",
    "cc7-cc8,cca-ccb,cd5-cd6,d3e-d3e,d57-d57,dcf-dcf,ddf-ddf,1715-1715,",
    "1734-1734,1b35-1b35,1b3b-1b3b,1b3d-1b3d,1b43-1b44,1baa-1baa,1bf2-1bf3,200c-200c,",
    "302e-302f,a953-a953,a9c0-a9c0,ff9e-ff9f,111c0-111c0,11235-11235,1133e-1133e,1134d-1134d,",
    "11357-11357,113b8-113b8,113c2-113c2,113c5-113c5,113c7-113c9,113cf-113cf,114b0-114b0,114bd-114bd,",
    "115af-115af,116b6-116b6,11930-11930,1193d-1193d,11f41-11f41,16ff0-16ff1,1d165-1d166,1d16d-1d172,",
    "e0020-e007f,"
  ])

/-- The `Other_ID_Continue` property. -/
def otherIdContinueTable : RangeTable :=
  RangeTable.ofHex (String.join [
    "b7-b7,387-387,1369-1371,19da-19da,200c-200d,30fb-30fb,ff65-ff65,"
  ])

/-- The `Other_ID_Start` property. -/
def otherIdStartTable : RangeTable :=
  RangeTable.ofHex (String.join [
    "1885-1886,2118-2118,212e-212e,309b-309c,"
  ])

/-- The `Other_Lowercase` property. -/
def otherLowercaseTable : RangeTable :=
  RangeTable.ofHex (String.join [
    "aa-aa,ba-ba,2b0-2b8,2c0-2c1,2e0-2e4,345-345,37a-37a,10fc-10fc,",
    "1d2c-1d6a,1d78-1d78,1d9b-1dbf,2071-2071,207f-207f,2090-209c,2170-217f,24d0-24e9,",
    "2c7c-2c7d,a69c-a69d,a770-a770,a7f2-a7f4,a7f8-a7f9,ab5c-ab5f,ab69-ab69,10780-10780,",
    "10783-10785,10787-107b0,107b2-107ba,1e030-1e06d,"
  ])

/-- The `Other_Math` property. -/
def otherMathTable : RangeTable :=
  RangeTable.ofHex (String.join [
    "5e-5e,3d0-3d2,3d5-3d5,3f0-3f1,3f4-3f5,2016-2016,2032-2034,2040-2040,",
    "2061-2064,207d-207e,208d-208e,20d0-20dc,20e1-20e1,20e5-20e6,20eb-20ef,2102-2102,",
    "2107-2107,210a-2113,2115-2115,2119-211d,2124-2124,2128-2129,212c-212d,212f-2131,",
    "2133-2138,213c-213f,2145-2149,2195-2199,219c-219f,21a1-21a2,21a4-21a5,21a7-21a7,",
    "21a9-21ad,21b0-21b1,21b6-21b7,21bc-21cd,21d0-21d1,21d3-21d3,21d5-21db,21dd-21dd,",
    "21e4-21e5,2308-230b,23b4-23b5,23b7-23b7,23d0-23d0,23e2-23e2,25a0-25a1,25ae-25b6,",
    "25bc-25c0,25c6-25c7,25ca-25cb,25cf-25d3,25e2-25e2,25e4-25e4,25e7-25ec,2605-2606,",
    "2640-2640,2642-2642,2660-2663,266d-266e,27c5-27c6,27e6-27ef,2983-2998,29d8-29db,",
    "29fc-29fd,fe61-fe61,fe63-fe63,fe68-fe68,ff3c-ff3c,ff3e-ff3e,1d400-1d454,1d456-1d49c,",
    "1d49e-1d49f,1d4a2-1d4a2,1d4a5-1d4a6,1d4a9-1d4ac,1d4ae-1d4b9,1d4bb-1d4bb,1d4bd-1d4c3,1d4c5-1d505,",
    "1d507-1d50a,1d50d-1d514,1d516-1d51c,1d51e-1d539,1d53b-1d53e,1d540-1d544,1d546-1d546,1d54a-1d550,",
    "1d552-1d6a5,1d6a8-1d6c0,1d6c2-1d6da,1d6dc-1d6fa,1d6fc-1d714,1d716-1d734,1d736-1d74e,1d750-1d76e,",
    "1d770-1d788,1d78a-1d7a8,1d7aa-1d7c2,1d7c4-1d7cb,1d7ce-1d7ff,1ee00-1ee03,1ee05-1ee1f,1ee21-1ee22,",
    "1ee24-1ee24,1ee27-1ee27,1ee29-1ee32,1ee34-1ee37,1ee39-1ee39,1ee3b-1ee3b,1ee42-1ee42,1ee47-1ee47,",
    "1ee49-1ee49,1ee4b-1ee4b,1ee4d-1ee4f,1ee51-1ee52,1ee54-1ee54,1ee57-1ee57,1ee59-1ee59,1ee5b-1ee5b,",
    "1ee5d-1ee5d,1ee5f-1ee5f,1ee61-1ee62,1ee64-1ee64,1ee67-1ee6a,1ee6c-1ee72,1ee74-1ee77,1ee79-1ee7c,",
    "1ee7e-1ee7e,1ee80-1ee89,1ee8b-1ee9b,1eea1-1eea3,1eea5-1eea9,1eeab-1eebb,"
  ])

/-- The `Other_Uppercase` property. -/
def otherUppercaseTable : RangeTable :=
  RangeTable.ofHex (String.join [
    "2160-216f,24b6-24cf,1f130-1f149,1f150-1f169,1f170-1f189,"
  ])

/-- The `Pattern_Syntax` property. -/
def patternSyntaxTable : RangeTable :=
  RangeTable.ofHex (String.join [
    "21-2f,3a-40,5b-5e,60-60,7b-7e,a1-a7,a9-a9,ab-ac,",
    "ae-ae,b0-b1,b6-b6,bb-bb,bf-bf,d7-d7,f7-f7,2010-2027,",
    "2030-203e,2041-2053,2055-205e,2190-245f,2500-2775,2794-2bff,2e00-2e7f,3001-3003,",
    "3008-3020,3030-3030,fd3e-fd3f,fe45-fe46,"
  ])

/-- The `Pattern_White_Space` property. -/
def patternWhiteSpaceTable : RangeTable :=
  RangeTable.ofHex (String.join [
    "9-d,20-20,85-85,200e-200f,2028-2029,"
  ])

/-- The `Prepended_Concatenation_Mark` property. -/
def prependedConcatenationMarkTable : RangeTable :=
  RangeTable.ofHex (String.join [
    "600-605,6dd-6dd,70f-70f,890-891,8e2-8e2,110bd-110bd,110cd-110cd,"
  ])

/-- The `Quotation_Mark` property. -/
def quotationMarkTable : RangeTable :=
  RangeTable.ofHex (String.join [
    "22-22,27-27,ab-ab,bb-bb,2018-201f,2039-203a,2e42-2e42,300c-300f,",
    "301d-301f,fe41-fe44,ff02-ff02,ff07-ff07,ff62-ff63,"
  ])

/-- The `Radical` property. -/
def radicalTable : RangeTable :=
  RangeTable.ofHex (String.join [
    "2e80-2e99,2e9b-2ef3,2f00-2fd5,"
  ])

/-- The `Regional_Indicator` property. -/
def regionalIndicatorTable : RangeTable :=
  RangeTable.ofHex (String.join [
    "1f1e6-1f1ff,"
  ])

/-- The `Sentence_Terminal` property. -/
def sentenceTerminalTable : RangeTable :=
  RangeTable.ofHex (String.join [
    "21-21,2e-2e,3f-3f,589-589,61d-61f,6d4-6d4,700-702,7f9-7f9,",
    "837-837,839-839,83d-83e,964-965,104a-104b,1362-1362,1367-1368,166e-166e,",
    "1735-1736,17d4-17d5,1803-1803,1809-1809,1944-1945,1aa8-1aab,1b4e-1b4f,1b5a-1b5b,",
    "1b5e-1b5f,1b7d-1b7f,1c3b-1c3c,1c7e-1c7f,2024-2024,203c-203d,2047-2049,2cf9-2cfb,",
    "2e2e-2e2e,2e3c-2e3c,2e53-2e54,3002-3002,a4ff-a4ff,a60e-a60f,a6f3-a6f3,a6f7-a6f7,",
    "a876-a877,a8ce-a8cf,a92f-a92f,a9c8-a9c9,aa5d-aa5f,aaf0-aaf1,abeb-abeb,fe12-fe12,",
    "fe15-fe16,fe52-fe52,fe56-fe57,ff01-ff01,ff0e-ff0e,ff1f-ff1f,ff61-ff61,10a56-10a57,",
    "10f55-10f59,10f86-10f89,11047-11048,110be-110c1,11141-11143,111c5-111c6,111cd-111cd,111de-111df,",
    "11238-11239,1123b-1123c,112a9-112a9,113d4-113d5,1144b-1144c,115c2-115c3,115c9-115d7,11641-11642,",
    "1173c-1173e,11944-11944,11946-11946,11a42-11a43,11a9b-11a9c,11c41-11c42,11ef7-11ef8,11f43-11f44,",
    "16a6e-16a6f,16af5-16af5,16b37-16b38,16b44-16b44,16d6e-16d6f,16e98-16e98,1bc9f-1bc9f,1da88-1da88,"
  ])

/-- The `Soft_Dotted` property. -/
def softDottedTable : RangeTable :=
  RangeTable.ofHex (String.join [
    "69-6a,12f-12f,249-249,268-268,29d-29d,2b2-2b2,3f3-3f3,456-456,",
    "458-458,1d62-1d62,1d96-1d96,1da4-1da4,1da8-1da8,1e2d-1e2d,1ecb-1ecb,2071-2071,",
    "2148-2149,2c7c-2c7c,1d422-1d423,1d456-1d457,1d48a-1d48b,1d4be-1d4bf,1d4f2-1d4f3,1d526-1d527,",
    "1d55a-1d55b,1d58e-1d58f,1d5c2-1d5c3,1d5f6-1d5f7,1d62a-1d62b,1d65e-1d65f,1d692-1d693,1df1a-1df1a,",
    "1e04c-1e04d,1e068-1e068,"
  ])

/-- The `Terminal_Punctuation` property. -/
def terminalPunctuationTable : RangeTable :=
  RangeTable.ofHex (String.join [
    "21-21,2c-2c,2e-2e,3a-3b,3f-3f,37e-37e,387-387,589-589,",
    "5c3-5c3,60c-60c,61b-61b,61d-61f,6d4-6d4,700-70a,70c-70c,7f8-7f9,",
    "830-835,837-83e,85e-85e,964-965,e5a-e5b,f08-f08,f0d-f12,104a-104b,",
    "1361-1368,166e-166e,16eb-16ed,1735-1736,17d4-17d6,17da-17da,1802-1805,1808-1809,",
    "1944-1945,1aa8-1aab,1b4e-1b4f,1b5a-1b5b,1b5d-1b5f,1b7d-1b7f,1c3b-1c3f,1c7e-1c7f,",
    "2024-2024,203c-203d,2047-2049,2cf9-2cfb,2e2e-2e2e,2e3c-2e3c,2e41-2e41,2e4c-2e4c,",
    "2e4e-2e4f,2e53-2e54,3001-3002,a4fe-a4ff,a60d-a60f,a6f3-a6f7,a876-a877,a8ce-a8cf,",
    "a92f-a92f,a9c7-a9c9,aa5d-aa5f,aadf-aadf,aaf0-aaf1,abeb-abeb,fe12-fe12,fe15-fe16,",
    "fe50-fe52,fe54-fe57,ff01-ff01,ff0c-ff0c,ff0e-ff0e,ff1a-ff1b,ff1f-ff1f,ff61-ff61,",
    "ff64-ff64,1039f-1039f,103d0-103d0,10857-10857,1091f-1091f,10a56-10a57,10af0-10af5,10b3a-10b3f,",
    "10b99-10b9c,10f55-10f59,10f86-10f89,11047-1104d,110be-110c1,11141-11143,111c5-111c6,111cd-111cd,",
    "111de-111df,11238-1123c,112a9-112a9,113d4-113d5,1144b-1144d,1145a-1145b,115c2-115c5,115c9-115d7,",
    "11641-11642,1173c-1173e,11944-11944,11946-11946,11a42-11a43,11a9b-11a9c,11aa1-11aa2,11c41-11c43,",
    "11c71-11c71,11ef7-11ef8,11f43-11f44,12470-12474,16a6e-16a6f,16af5-16af5,16b37-16b39,16b44-16b44,",
    "16d6e-16d6f,16e97-16e98,1bc9f-1bc9f,1da87-1da8a,"
  ])

/-- The `Unified_Ideograph` property. -/
def unifiedIdeographTable : RangeTable :=
  RangeTable.ofHex (String.join [
    "3400-4dbf,4e00-9fff,fa0e-fa0f,fa11-fa11,fa13-fa14,fa1f-fa1f,fa21-fa21,fa23-fa24,",
    "fa27-fa29,20000-2a6df,2a700-2b739,2b740-2b81d,2b820-2cea1,2ceb0-2ebe0,2ebf0-2ee5d,30000-3134a,",
    "31350-323af,"
  ])

/-- The `Uppercase` property. -/
def uppercaseTable : RangeTable :=
  RangeTable.ofHex (String.join [
    "41-5a,c0-d6,d8-de,100-100,102-102,104-104,106-106,108-108,",
    "10a-10a,10c-10c,10e-10e,110-110,112-112,114-114,116-116,118-118,",
    "11a-11a,11c-11c,11e-11e,120-120,122-122,124-124,126-126,128-128,",
    "12a-12a,12c-12c,12e-12e,130-130,132-132,134-134,136-136,139-139,",
    "13b-13b,13d-13d,13f-13f,141-141,143-143,145-145,147-147,14a-14a,",
    "14c-14c,14e-14e,150-150,152-152,154-154,156-156,158-158,15a-15a,",
    "15c-15c,15e-15e,160-160,162-162,164-164,166-166,168-168,16a-16a,",
    "16c-16c,16e-16e,170-170,172-172,174-174,176-176,178-179,17b-17b,",
    "17d-17d,181-182,184-184,186-187,189-18b,18e-191,193-194,196-198,",
    "19c-19d,19f-1a0,1a2-1a2,1a4-1a4,1a6-1a7,1a9-1a9,1ac-1ac,1ae-1af,",
    "1b1-1b3,1b5-1b5,1b7-1b8,1bc-1bc,1c4-1c4,1c7-1c7,1ca-1ca,1cd-1cd,",
    "1cf-1cf,1d1-1d1,1d3-1d3,1d5-1d5,1d7-1d7,1d9-1d9,1db-1db,1de-1de,",
    "1e0-1e0,1e2-1e2,1e4-1e4,1e6-1e6,1e8-1e8,1ea-1ea,1ec-1ec,1ee-1ee,",
    "1f1-1f1,1f4-1f4,1f6-1f8,1fa-1fa,1fc-1fc,1fe-1fe,200-200,202-202,",
    "204-204,206-206,208-208,20a-20a,20c-20c,20e-20e,210-210,212-212,",
    "214-214,216-216,218-218,21a-21a,21c-21c,21e-21e,220-220,222-222,",
    "224-224,226-226,228-228,22a-22a,22c-22c,22e-22e,230-230,232-232,",
    "23a-23b,23d-23e,241-241,243-246,248-248,24a-24a,24c-24c,24e-24e,",
    "370-370,372-372,376-376,37f-37f,386-386,388-38a,38c-38c,38e-38f,",
    "391-3a1,3a3-3ab,3cf-3cf,3d2-3d4,3d8-3d8,3da-3da,3dc-3dc,3de-3de,",
    "3e0-3e0,3e2-3e2,3e4-3e4,3e6-3e6,3e8-3e8,3ea-3ea,3ec-3ec,3ee-3ee,",
    "3f4-3f4,3f7-3f7,3f9-3fa,3fd-42f,460-460,462-462,464-464,466-466,",
    "468-468,46a-46a,46c-46c,46e-46e,470-470,472-472,474-474,476-476,",
    "478-478,47a-47a,47c-47c,47e-47e,480-480,48a-48a,48c-48c,48e-48e,",
    "490-490,492-492,494-494,496-496,498-498,49a-49a,49c-49c,49e-49e,",
    "4a0-4a0,4a2-4a2,4a4-4a4,4a6-4a6,4a8-4a8,4aa-4aa,4ac-4ac,4ae-4ae,",
    "4b0-4b0,4b2-4b2,4b4-4b4,4b6-4b6,4b8-4b8,4ba-4ba,4bc-4bc,4be-4be,",
    "4c0-4c1,4c3-4c3,4c5-4c5,4c7-4c7,4c9-4c9,4cb-4cb,4cd-4cd,4d0-4d0,",
    "4d2-4d2,4d4-4d4,4d6-4d6,4d8-4d8,4da-4da,4dc-4dc,4de-4de,4e0-4e0,",
    "4e2-4e2,4e4-4e4,4e6-4e6,4e8-4e8,4ea-4ea,4ec-4ec,4ee-4ee,4f0-4f0,",
    "4f2-4f2,4f4-4f4,4f6-4f6,4f8-4f8,4fa-4fa,4fc-4fc,4fe-4fe,500-500,",
    "502-502,504-504,506-506,508-508,50a-50a,50c-50c,50e-50e,510-510,",
    "512-512,514-514,516-516,518-518,51a-51a,51c-51c,51e-51e,520-520,",
    "522-522,524-524,526-526,528-528,52a-52a,52c-52c,52e-52e,531-556,",
    "10a0-10c5,10c7-10c7,10cd-10cd,13a0-13f5,1c89-1c89,1c90-1cba,1cbd-1cbf,1e00-1e00,",
    "1e02-1e02,1e04-1e04,1e06-1e06,1e08-1e08,1e0a-1e0a,1e0c-1e0c,1e0e-1e0e,1e10-1e10,",
    "1e12-1e12,1e14-1e14,1e16-1e16,1e18-1e18,1e1a-1e1a,1e1c-1e1c,1e1e-1e1e,1e20-1e20,",
    "1e22-1e22,1e24-1e24,1e26-1e26,1e28-1e28,1e2a-1e2a,1e2c-1e2c,1e2e-1e2e,1e30-1e30,",
    "1e32-1e32,1e34-1e34,1e36-1e36,1e38-1e38,1e3a-1e3a,1e3c-1e3c,1e3e-1e3e,1e40-1e40,",
    "1e42-1e42,1e44-1e44,1e46-1e46,1e48-1e48,1e4a-1e4a,1e4c-1e4c,1e4e-1e4e,1e50-1e50,",
    "1e52-1e52,1e54-1e54,1e56-1e56,1e58-1e58,1e5a-1e5a,1e5c-1e5c,1e5e-1e5e,1e60-1e60,",
    "1e62-1e62,1e64-1e64,1e66-1e66,1e68-1e68,1e6a-1e6a,1e6c-1e6c,1e6e-1e6e,1e70-1e70,",
    "1e72-1e72,1e74-1e74,1e76-1e76,1e78-1e78,1e7a-1e7a,1e7c-1e7c,1e7e-1e7e,1e80-1e80,",
    "1e82-1e82,1e84-1e84,1e86-1e86,1e88-1e88,1e8a-1e8a,1e8c-1e8c,1e8e-1e8e,1e90-1e90,",
    "1e92-1e92,1e94-1e94,1e9e-1e9e,1ea0-1ea0,1ea2-1ea2,1ea4-1ea4,1ea6-1ea6,1ea8-1ea8,",
    "1eaa-1eaa,1eac-1eac,1eae-1eae,1eb0-1eb0,1eb2-1eb2,1eb4-1eb4,1eb6-1eb6,1eb8-1eb8,",
    "1eba-1eba,1ebc-1ebc,1ebe-1ebe,1ec0-1ec0,1ec2-1ec2,1ec4-1ec4,1ec6-1ec6,1ec8-1ec8,",
    "1eca-1eca,1ecc-1ecc,1ece-1ece,1ed0-1ed0,1ed2-1ed2,1ed4-1ed4,1ed6-1ed6,1ed8-1ed8,",
    "1eda-1eda,1edc-1edc,1ede-1ede,1ee0-1ee0,1ee2-1ee2,1ee4-1ee4,1ee6-1ee6,1ee8-1ee8,",
    "1eea-1eea,1eec-1eec,1eee-1eee,1ef0-1ef0,1ef2-1ef2,1ef4-1ef4,1ef6-1ef6,1ef8-1ef8,",
    "1efa-1efa,1efc-1efc,1efe-1efe,1f08-1f0f,1f18-1f1d,1f28-1f2f,1f38-1f3f,1f48-1f4d,",
    "1f59-1f59,1f5b-1f5b,1f5d-1f5d,1f5f-1f5f,1f68-1f6f,1fb8-1fbb,1fc8-1fcb,1fd8-1fdb,",
    "1fe8-1fec,1ff8-1ffb,2102-2102,2107-2107,210b-210d,2110-2112,2115-2115,2119-211d,",
    "2124-2124,2126-2126,2128-2128,212a-212d,2130-2133,213e-213f,2145-2145,2160-216f,",
    "2183-2183,24b6-24cf,2c00-2c2f,2c60-2c60,2c62-2c64,2c67-2c67,2c69-2c69,2c6b-2c6b,",
    "2c6d-2c70,2c72-2c72,2c75-2c75,2c7e-2c80,2c82-2c82,2c84-2c84,2c86-2c86,2c88-2c88,",
    "2c8a-2c8a,2c8c-2c8c,2c8e-2c8e,2c90-2c90,2c92-2c92,2c94-2c94,2c96-2c96,2c98-2c98,",
    "2c9a-2c9a,2c9c-2c9c,2c9e-2c9e,2ca0-2ca0,2ca2-2ca2,2ca4-2ca4,2ca6-2ca6,2ca8-2ca8,",
    "2caa-2caa,2cac-2cac,2cae-2cae,2cb0-2cb0,2cb2-2cb2,2cb4-2cb4,2cb6-2cb6,2cb8-2cb8,",
    "2cba-2cba,2cbc-2cbc,2cbe-2cbe,2cc0-2cc0,2cc2-2cc2,2cc4-2cc4,2cc6-2cc6,2cc8-2cc8,",
    "2cca-2cca,2ccc-2ccc,2cce-2cce,2cd0-2cd0,2cd2-2cd2,2cd4-2cd4,2cd6-2cd6,2cd8-2cd8,",
    "2cda-2cda,2cdc-2cdc,2cde-2cde,2ce0-2ce0,2ce2-2ce2,2ceb-2ceb,2ced-2ced,2cf2-2cf2,",
    "a640-a640,a642-a642,a644-a644,a646-a646,a648-a648,a64a-a64a,a64c-a64c,a64e-a64e,",
    "a650-a650,a652-a652,a654-a654,a656-a656,a658-a658,a65a-a65a,a65c-a65c,a65e-a65e,",
    "a660-a660,a662-a662,a664-a664,a666-a666,a668-a668,a66a-a66a,a66c-a66c,a680-a680,",
    "a682-a682,a684-a684,a686-a686,a688-a688,a68a-a68a,a68c-a68c,a68e-a68e,a690-a690,",
    "a692-a692,a694-a694,a696-a696,a698-a698,a69a-a69a,a722-a722,a724-a724,a726-a726,",
    "a728-a728,a72a-a72a,a72c-a72c,a72e-a72e,a732-a732,a734-a734,a736-a736,a738-a738,",
    "a73a-a73a,a73c-a73c,a73e-a73e,a740-a740,a742-a742,a744-a744,a746-a746,a748-a748,",
    "a74a-a74a,a74c-a74c,a74e-a74e,a750-a750,a752-a752,a754-a754,a756-a756,a758-a758,",
    "a75a-a75a,a75c-a75c,a75e-a75e,a760-a760,a762-a762,a764-a764,a766-a766,a768-a768,",
    "a76a-a76a,a76c-a76c,a76e-a76e,a779-a779,a77b-a77b,a77d-a77e,a780-a780,a782-a782,",
    "a784-a784,a786-a786,a78b-a78b,a78d-a78d,a790-a790,a792-a792,a796-a796,a798-a798,",
    "a79a-a79a,a79c-a79c,a79e-a79e,a7a0-a7a0,a7a2-a7a2,a7a4-a7a4,a7a6-a7a6,a7a8-a7a8,",
    "a7aa-a7ae,a7b0-a7b4,a7b6-a7b6,a7b8-a7b8,a7ba-a7ba,a7bc-a7bc,a7be-a7be,a7c0-a7c0,",
    "a7c2-a7c2,a7c4-a7c7,a7c9-a7c9,a7cb-a7cc,a7d0-a7d0,a7d6-a7d6,a7d8-a7d8,a7da-a7da,",
    "a7dc-a7dc,a7f5-a7f5,ff21-ff3a,10400-10427,104b0-104d3,10570-1057a,1057c-1058a,1058c-10592,",
    "10594-10595,10c80-10cb2,10d50-10d65,118a0-118bf,16e40-16e5f,1d400-1d419,1d434-1d44d,1d468-1d481,",
    "1d49c-1d49c,1d49e-1d49f,1d4a2-1d4a2,1d4a5-1d4a6,1d4a9-1d4ac,1d4ae-1d4b5,1d4d0-1d4e9,1d504-1d505,",
    "1d507-1d50a,1d50d-1d514,1d516-1d51c,1d538-1d539,1d53b-1d53e,1d540-1d544,1d546-1d546,1d54a-1d550,",
    "1d56c-1d585,1d5a0-1d5b9,1d5d4-1d5ed,1d608-1d621,1d63c-1d655,1d670-1d689,1d6a8-1d6c0,1d6e2-1d6fa,",
    "1d71c-1d734,1d756-1d76e,1d790-1d7a8,1d7ca-1d7ca,1e900-1e921,1f130-1f149,1f150-1f169,1f170-1f189,"
  ])

/-- The `Variation_Selector` property. -/
def variationSelectorTable : RangeTable :=
  RangeTable.ofHex (String.join [
    "180b-180d,180f-180f,fe00-fe0f,e0100-e01ef,"
  ])

/-- The `White_Space` property. -/
def whiteSpaceTable : RangeTable :=
  RangeTable.ofHex (String.join [
    "9-d,20-20,85-85,a0-a0,1680-1680,2000-200a,2028-2029,202f-202f,",
    "205f-205f,3000-3000,"
  ])

/-- The `XID_Continue` property. -/
def xidContinueTable : RangeTable :=
  RangeTable.ofHex (String.join [
    "30-39,41-5a,5f-5f,61-7a,aa-aa,b5-b5,b7-b7,ba-ba,",
    "c0-d6,d8-f6,f8-2c1,2c6-2d1,2e0-2e4,2ec-2ec,2ee-2ee,300-374,",
    "376-377,37b-37d,37f-37f,386-38a,38c-38c,38e-3a1,3a3-3f5,3f7-481,",
    "483-487,48a-52f,531-556,559-559,560-588,591-5bd,5bf-5bf,5c1-5c2,",
    "5c4-5c5,5c7-5c7,5d0-5ea,5ef-5f2,610-61a,620-669,66e-6d3,6d5-6dc,",
    "6df-6e8,6ea-6fc,6ff-6ff,710-74a,74d-7b1,7c0-7f5,7fa-7fa,7fd-7fd,",
    "800-82d,840-85b,860-86a,870-887,889-88e,897-8e1,8e3-963,966-96f,",
    "971-983,985-98c,98f-990,993-9a8,9aa-9b0,9b2-9b2,9b6-9b9,9bc-9c4,",
    "9c7-9c8,9cb-9ce,9d7-9d7,9dc-9dd,9df-9e3,9e6-9f1,9fc-9fc,9fe-9fe,",
    "a01-a03,a05-a0a,a0f-a10,a13-a28,a2a-a30,a32-a33,a35-a36,a38-a39,",
    "a3c-a3c,a3e-a42,a47-a48,a4b-a4d,a51-a51,a59-a5c,a5e-a5e,a66-a75,",
    "a81-a83,a85-a8d,a8f-a91,a93-aa8,aaa-ab0,ab2-ab3,ab5-ab9,abc-ac5,",
    "ac7-ac9,acb-acd,ad0-ad0,ae0-ae3,ae6-aef,af9-aff,b01-b03,b05-b0c,",
    "b0f-b10,b13-b28,b2a-b30,b32-b33,b35-b39,b3c-b44,b47-b48,b4b-b4d,",
    "b55-b57,b5c-b5d,b5f-b63,b66-b6f,b71-b71,b82-b83,b85-b8a,b8e-b90,",
    "b92-b95,b99-b9a,b9c-b9c,b9e-b9f,ba3-ba4,ba8-baa,bae-bb9,bbe-bc2,",
    "bc6-bc8,bca-bcd,bd0-bd0,bd7-bd7,be6-bef,c00-c0c,c0e-c10,c12-c28,",
    "c2a-c39,c3c-c44,c46-c48,c4a-c4d,c55-c56,c58-c5a,c5d-c5d,c60-c63,",
    "c66-c6f,c80-c83,c85-c8c,c8e-c90,c92-ca8,caa-cb3,cb5-cb9,cbc-cc4,",
    "cc6-cc8,cca-ccd,cd5-cd6,cdd-cde,ce0-ce3,ce6-cef,cf1-cf3,d00-d0c,",
    "d0e-d10,d12-d44,d46-d48,d4a-d4e,d54-d57,d5f-d63,d66-d6f,d7a-d7f,",
    "d81-d83,d85-d96,d9a-db1,db3-dbb,dbd-dbd,dc0-dc6,dca-dca,dcf-dd4,",
    "dd6-dd6,dd8-ddf,de6-def,df2-df3,e01-e3a,e40-e4e,e50-e59,e81-e82,",
    "e84-e84,e86-e8a,e8c-ea3,ea5-ea5,ea7-ebd,ec0-ec4,ec6-ec6,ec8-ece,",
    "ed0-ed9,edc-edf,f00-f00,f18-f19,f20-f29,f35-f35,f37-f37,f39-f39,",
    "f3e-f47,f49-f6c,f71-f84,f86-f97,f99-fbc,fc6-fc6,1000-1049,1050-109d,",
    "10a0-10c5,10c7-10c7,10cd-10cd,10d0-10fa,10fc-1248,124a-124d,1250-1256,1258-1258,",
    "125a-125d,1260-1288,128a-128d,1290-12b0,12b2-12b5,12b8-12be,12c0-12c0,12c2-12c5,",
    "12c8-12d6,12d8-1310,1312-1315,1318-135a,135d-135f,1369-1371,1380-138f,13a0-13f5,",
    "13f8-13fd,1401-166c,166f-167f,1681-169a,16a0-16ea,16ee-16f8,1700-1715,171f-1734,",
    "1740-1753,1760-176c,176e-1770,1772-1773,1780-17d3,17d7-17d7,17dc-17dd,17e0-17e9,",
    "180b-180d,180f-1819,1820-1878,1880-18aa,18b0-18f5,1900-191e,1920-192b,1930-193b,",
    "1946-196d,1970-1974,1980-19ab,19b0-19c9,19d0-19da,1a00-1a1b,1a20-1a5e,1a60-1a7c,",
    "1a7f-1a89,1a90-1a99,1aa7-1aa7,1ab0-1abd,1abf-1ace,1b00-1b4c,1b50-1b59,1b6b-1b73,",
    "1b80-1bf3,1c00-1c37,1c40-1c49,1c4d-1c7d,1c80-1c8a,1c90-1cba,1cbd-1cbf,1cd0-1cd2,",
    "1cd4-1cfa,1d00-1f15,1f18-1f1d,1f20-1f45,1f48-1f4d,1f50-1f57,1f59-1f59,1f5b-1f5b,",
    "1f5d-1f5d,1f5f-1f7d,1f80-1fb4,1fb6-1fbc,1fbe-1fbe,1fc2-1fc4,1fc6-1fcc,1fd0-1fd3,",
    "1fd6-1fdb,1fe0-1fec,1ff2-1ff4,1ff6-1ffc,200c-200d,203f-2040,2054-2054,2071-2071,",
    "207f-207f,2090-209c,20d0-20dc,20e1-20e1,20e5-20f0,2102-2102,2107-2107,210a-2113,",
    "2115-2115,2118-211d,2124-2124,2126-2126,2128-2128,212a-2139,213c-213f,2145-2149,",
    "214e-214e,2160-2188,2c00-2ce4,2ceb-2cf3,2d00-2d25,2d27-2d27,2d2d-2d2d,2d30-2d67,",
    "2d6f-2d6f,2d7f-2d96,2da0-2da6,2da8-2dae,2db0-2db6,2db8-2dbe,2dc0-2dc6,2dc8-2dce,",
    "2dd0-2dd6,2dd8-2dde,2de0-2dff,3005-3007,3021-302f,3031-3035,3038-303c,3041-3096,",
    "3099-309a,309d-309f,30a1-30ff,3105-312f,3131-318e,31a0-31bf,31f0-31ff,3400-4dbf,",
    "4e00-a48c,a4d0-a4fd,a500-a60c,a610-a62b,a640-a66f,a674-a67d,a67f-a6f1,a717-a71f,",
    "a722-a788,a78b-a7cd,a7d0-a7d1,a7d3-a7d3,a7d5-a7dc,a7f2-a827,a82c-a82c,a840-a873,",
    "a880-a8c5,a8d0-a8d9,a8e0-a8f7,a8fb-a8fb,a8fd-a92d,a930-a953,a960-a97c,a980-a9c0,",
    "a9cf-a9d9,a9e0-a9fe,aa00-aa36,aa40-aa4d,aa50-aa59,aa60-aa76,aa7a-aac2,aadb-aadd,",
    "aae0-aaef,aaf2-aaf6,ab01-ab06,ab09-ab0e,ab11-ab16,ab20-ab26,ab28-ab2e,ab30-ab5a,",
    "ab5c-ab69,ab70-abea,abec-abed,abf0-abf9,ac00-d7a3,d7b0-d7c6,d7cb-d7fb,f900-fa6d,",
    "fa70-fad9,fb00-fb06,fb13-fb17,fb1d-fb28,fb2a-fb36,fb38-fb3c,fb3e-fb3e,fb40-fb41,",
    "fb43-fb44,fb46-fbb1,fbd3-fc5d,fc64-fd3d,fd50-fd8f,fd92-fdc7,fdf0-fdf9,fe00-fe0f,",
    "fe20-fe2f,fe33-fe34,fe4d-fe4f,fe71-fe71,fe73-fe73,fe77-fe77,fe79-fe79,fe7b-fe7b,",
    "fe7d-fe7d,fe7f-fefc,ff10-ff19,ff21-ff3a,ff3f-ff3f,ff41-ff5a,ff65-ffbe,ffc2-ffc7,",
    "ffca-ffcf,ffd2-ffd7,ffda-ffdc,10000-1000b,1000d-10026,10028-1003a,1003c-1003d,1003f-1004d,",
    "10050-1005d,10080-100fa,10140-10174,101fd-101fd,10280-1029c,102a0-102d0,102e0-102e0,10300-1031f,",
    "1032d-1034a,10350-1037a,10380-1039d,103a0-103c3,103c8-103cf,103d1-103d5,10400-1049d,104a0-104a9,",
    "104b0-104d3,104d8-104fb,10500-10527,10530-10563,10570-1057a,1057c-1058a,1058c-10592,10594-10595,",
    "10597-105a1,105a3-105b1,105b3-105b9,105bb-105bc,105c0-105f3,10600-10736,10740-10755,10760-10767,",
    "10780-10785,10787-107b0,107b2-107ba,10800-10805,10808-10808,1080a-10835,10837-10838,1083c-1083c,",
    "1083f-10855,10860-10876,10880-1089e,108e0-108f2,108f4-108f5,10900-10915,10920-10939,10980-109b7,",
    "109be-109bf,10a00-10a03,10a05-10a06,10a0c-10a13,10a15-10a17,10a19-10a35,10a38-10a3a,10a3f-10a3f,",
    "10a60-10a7c,10a80-10a9c,10ac0-10ac7,10ac9-10ae6,10b00-10b35,10b40-10b55,10b60-10b72,10b80-10b91,",
    "10c00-10c48,10c80-10cb2,10cc0-10cf2,10d00-10d27,10d30-10d39,10d40-10d65,10d69-10d6d,10d6f-10d85,",
    "10e80-10ea9,10eab-10eac,10eb0-10eb1,10ec2-10ec4,10efc-10f1c,10f27-10f27,10f30-10f50,10f70-10f85,",
    "10fb0-10fc4,10fe0-10ff6,11000-11046,11066-11075,1107f-110ba,110c2-110c2,110d0-110e8,110f0-110f9,",
    "11100-11134,11136-1113f,11144-11147,11150-11173,11176-11176,11180-111c4,111c9-111cc,111ce-111da,",
    "111dc-111dc,11200-11211,11213-11237,1123e-11241,11280-11286,11288-11288,1128a-1128d,1128f-1129d,",
    "1129f-112a8,112b0-112ea,112f0-112f9,11300-11303,11305-1130c,1130f-11310,11313-11328,1132a-11330,",
    "11332-11333,11335-11339,1133b-11344,11347-11348,1134b-1134d,11350-11350,11357-11357,1135d-11363,",
    "11366-1136c,11370-11374,11380-11389,1138b-1138b,1138e-1138e,11390-113b5,113b7-113c0,113c2-113c2,",
    "113c5-113c5,113c7-113ca,113cc-113d3,113e1-113e2,11400-1144a,11450-11459,1145e-11461,11480-114c5,",
    "114c7-114c7,114d0-114d9,11580-115b5,115b8-115c0,115d8-115dd,11600-11640,11644-11644,11650-11659,",
    "11680-116b8,116c0-116c9,116d0-116e3,11700-1171a,1171d-1172b,11730-11739,11740-11746,11800-1183a,",
    "118a0-118e9,118ff-11906,11909-11909,1190c-11913,11915-11916,11918-11935,11937-11938,1193b-11943,",
    "11950-11959,119a0-119a7,119aa-119d7,119da-119e1,119e3-119e4,11a00-11a3e,11a47-11a47,11a50-11a99,",
    "11a9d-11a9d,11ab0-11af8,11bc0-11be0,11bf0-11bf9,11c00-11c08,11c0a-11c36,11c38-11c40,11c50-11c59,",
    "11c72-11c8f,11c92-11ca7,11ca9-11cb6,11d00-11d06,11d08-11d09,11d0b-11d36,11d3a-11d3a,11d3c-11d3d,",
    "11d3f-11d47,11d50-11d59,11d60-11d65,11d67-11d68,11d6a-11d8e,11d90-11d91,11d93-11d98,11da0-11da9,",
    "11ee0-11ef6,11f00-11f10,11f12-11f3a,11f3e-11f42,11f50-11f5a,11fb0-11fb0,12000-12399,12400-1246e,",
    "12480-12543,12f90-12ff0,13000-1342f,13440-13455,13460-143fa,14400-14646,16100-16139,16800-16a38,",
    "16a40-16a5e,16a60-16a69,16a70-16abe,16ac0-16ac9,16ad0-16aed,16af0-16af4,16b00-16b36,16b40-16b43,",
    "16b50-16b59,16b63-16b77,16b7d-16b8f,16d40-16d6c,16d70-16d79,16e40-16e7f,16f00-16f4a,16f4f-16f87,",
    "16f8f-16f9f,16fe0-16fe1,16fe3-16fe4,16ff0-16ff1,17000-187f7,18800-18cd5,18cff-18d08,1aff0-1aff3,",
    "1aff5-1affb,1affd-1affe,1b000-1b122,1b132-1b132,1b150-1b152,1b155-1b155,1b164-1b167,1b170-1b2fb,",
    "1bc00-1bc6a,1bc70-1bc7c,1bc80-1bc88,1bc90-1bc99,1bc9d-1bc9e,1ccf0-1ccf9,1cf00-1cf2d,1cf30-1cf46,",
    "1d165-1d169,1d16d-1d172,1d17b-1d182,1d185-1d18b,1d1aa-1d1ad,1d242-1d244,1d400-1d454,1d456-1d49c,",
    "1d49e-1d49f,1d4a2-1d4a2,1d4a5-1d4a6,1d4a9-1d4ac,1d4ae-1d4b9,1d4bb-1d4bb,1d4bd-1d4c3,1d4c5-1d505,",
    "1d507-1d50a,1d50d-1d514,1d516-1d51c,1d51e-1d539,1d53b-1d53e,1d540-1d544,1d546-1d546,1d54a-1d550,",
    "1d552-1d6a5,1d6a8-1d6c0,1d6c2-1d6da,1d6dc-1d6fa,1d6fc-1d714,1d716-1d734,1d736-1d74e,1d750-1d76e,",
    "1d770-1d788,1d78a-1d7a8,1d7aa-1d7c2,1d7c4-1d7cb,1d7ce-1d7ff,1da00-1da36,1da3b-1da6c,1da75-1da75,",
    "1da84-1da84,1da9b-1da9f,1daa1-1daaf,1df00-1df1e,1df25-1df2a,1e000-1e006,1e008-1e018,1e01b-1e021,",
    "1e023-1e024,1e026-1e02a,1e030-1e06d,1e08f-1e08f,1e100-1e12c,1e130-1e13d,1e140-1e149,1e14e-1e14e,",
    "1e290-1e2ae,1e2c0-1e2f9,1e4d0-1e4f9,1e5d0-1e5fa,1e7e0-1e7e6,1e7e8-1e7eb,1e7ed-1e7ee,1e7f0-1e7fe,",
    "1e800-1e8c4,1e8d0-1e8d6,1e900-1e94b,1e950-1e959,1ee00-1ee03,1ee05-1ee1f,1ee21-1ee22,1ee24-1ee24,",
    "1ee27-1ee27,1ee29-1ee32,1ee34-1ee37,1ee39-1ee39,1ee3b-1ee3b,1ee42-1ee42,1ee47-1ee47,1ee49-1ee49,",
    "1ee4b-1ee4b,1ee4d-1ee4f,1ee51-1ee52,1ee54-1ee54,1ee57-1ee57,1ee59-1ee59,1ee5b-1ee5b,1ee5d-1ee5d,",
    "1ee5f-1ee5f,1ee61-1ee62,1ee64-1ee64,1ee67-1ee6a,1ee6c-1ee72,1ee74-1ee77,1ee79-1ee7c,1ee7e-1ee7e,",
    "1ee80-1ee89,1ee8b-1ee9b,1eea1-1eea3,1eea5-1eea9,1eeab-1eebb,1fbf0-1fbf9,20000-2a6df,2a700-2b739,",
    "2b740-2b81d,2b820-2cea1,2ceb0-2ebe0,2ebf0-2ee5d,2f800-2fa1d,30000-3134a,31350-323af,e0100-e01ef,"
  ])

/-- The `XID_Start` property. -/
def xidStartTable : RangeTable :=
  RangeTable.ofHex (String.join [
    "41-5a,61-7a,aa-aa,b5-b5,ba-ba,c0-d6,d8-f6,f8-2c1,",
    "2c6-2d1,2e0-2e4,2ec-2ec,2ee-2ee,370-374,376-377,37b-37d,37f-37f,",
    "386-386,388-38a,38c-38c,38e-3a1,3a3-3f5,3f7-481,48a-52f,531-556,",
    "559-559,560-588,5d0-5ea,5ef-5f2,620-64a,66e-66f,671-6d3,6d5-6d5,",
    "6e5-6e6,6ee-6ef,6fa-6fc,6ff-6ff,710-710,712-72f,74d-7a5,7b1-7b1,",
    "7ca-7ea,7f4-7f5,7fa-7fa,800-815,81a-81a,824-824,828-828,840-858,",
    "860-86a,870-887,889-88e,8a0-8c9,904-939,93d-93d,950-950,958-961,",
    "971-980,985-98c,98f-990,993-9a8,9aa-9b0,9b2-9b2,9b6-9b9,9bd-9bd,",
    "9ce-9ce,9dc-9dd,9df-9e1,9f0-9f1,9fc-9fc,a05-a0a,a0f-a10,a13-a28,",
    "a2a-a30,a32-a33,a35-a36,a38-a39,a59-a5c,a5e-a5e,a72-a74,a85-a8d,",
    "a8f-a91,a93-aa8,aaa-ab0,ab2-ab3,ab5-ab9,abd-abd,ad0-ad0,ae0-ae1,",
    "af9-af9,b05-b0c,b0f-b10,b13-b28,b2a-b30,b32-b33,b35-b39,b3d-b3d,",
    "b5c-b5d,b5f-b61,b71-b71,b83-b83,b85-b8a,b8e-b90,b92-b95,b99-b9a,",
    "b9c-b9c,b9e-b9f,ba3-ba4,ba8-baa,bae-bb9,bd0-bd0,c05-c0c,c0e-c10,",
    "c12-c28,c2a-c39,c3d-c3d,c58-c5a,c5d-c5d,c60-c61,c80-c80,c85-c8c,",
    "c8e-c90,c92-ca8,caa-cb3,cb5-cb9,cbd-cbd,cdd-cde,ce0-ce1,cf1-cf2,",
    "d04-d0c,d0e-d10,d12-d3a,d3d-d3d,d4e-d4e,d54-d56,d5f-d61,d7a-d7f,",
    "d85-d96,d9a-db1,db3-dbb,dbd-dbd,dc0-dc6,e01-e30,e32-e32,e40-e46,",
    "e81-e82,e84-e84,e86-e8a,e8c-ea3,ea5-ea5,ea7-eb0,eb2-eb2,ebd-ebd,",
    "ec0-ec4,ec6-ec6,edc-edf,f00-f00,f40-f47,f49-f6c,f88-f8c,1000-102a,",
    "103f-103f,1050-1055,105a-105d,1061-1061,1065-1066,106e-1070,1075-1081,108e-108e,",
    "10a0-10c5,10c7-10c7,10cd-10cd,10d0-10fa,10fc-1248,124a-124d,1250-1256,1258-1258,",
    "125a-125d,1260-1288,128a-128d,1290-12b0,12b2-12b5,12b8-12be,12c0-12c0,12c2-12c5,",
    "12c8-12d6,12d8-1310,1312-1315,1318-135a,1380-138f,13a0-13f5,13f8-13fd,1401-166c,",
    "166f-167f,1681-169a,16a0-16ea,16ee-16f8,1700-1711,171f-1731,1740-1751,1760-176c,",
    "176e-1770,1780-17b3,17d7-17d7,17dc-17dc,1820-1878,1880-18a8,18aa-18aa,18b0-18f5,",
    "1900-191e,1950-196d,1970-1974,1980-19ab,19b0-19c9,1a00-1a16,1a20-1a54,1aa7-1aa7,",
    "1b05-1b33,1b45-1b4c,1b83-1ba0,1bae-1baf,1bba-1be5,1c00-1c23,1c4d-1c4f,1c5a-1c7d,",
    "1c80-1c8a,1c90-1cba,1cbd-1cbf,1ce9-1cec,1cee-1cf3,1cf5-1cf6,1cfa-1cfa,1d00-1dbf,",
    "1e00-1f15,1f18-1f1d,1f20-1f45,1f48-1f4d,1f50-1f57,1f59-1f59,1f5b-1f5b,1f5d-1f5d,",
    "1f5f-1f7d,1f80-1fb4,1fb6-1fbc,1fbe-1fbe,1fc2-1fc4,1fc6-1fcc,1fd0-1fd3,1fd6-1fdb,",
    "1fe0-1fec,1ff2-1ff4,1ff6-1ffc,2071-2071,207f-207f,2090-209c,2102-2102,2107-2107,",
    "210a-2113,2115-2115,2118-211d,2124-2124,2126-2126,2128-2128,212a-2139,213c-213f,",
    "2145-2149,214e-214e,2160-2188,2c00-2ce4,2ceb-2cee,2cf2-2cf3,2d00-2d25,2d27-2d27,",
    "2d2d-2d2d,2d30-2d67,2d6f-2d6f,2d80-2d96,2da0-2da6,2da8-2dae,2db0-2db6,2db8-2dbe,",
    "2dc0-2dc6,2dc8-2dce,2dd0-2dd6,2dd8-2dde,3005-3007,3021-3029,3031-3035,3038-303c,",
    "3041-3096,309d-309f,30a1-30fa,30fc-30ff,3105-312f,3131-318e,31a0-31bf,31f0-31ff,",
    "3400-4dbf,4e00-a48c,a4d0-a4fd,a500-a60c,a610-a61f,a62a-a62b,a640-a66e,a67f-a69d,",
    "a6a0-a6ef,a717-a71f,a722-a788,a78b-a7cd,a7d0-a7d1,a7d3-a7d3,a7d5-a7dc,a7f2-a801,",
    "a803-a805,a807-a80a,a80c-a822,a840-a873,a882-a8b3,a8f2-a8f7,a8fb-a8fb,a8fd-a8fe,",
    "a90a-a925,a930-a946,a960-a97c,a984-a9b2,a9cf-a9cf,a9e0-a9e4,a9e6-a9ef,a9fa-a9fe,",
    "aa00-aa28,aa40-aa42,aa44-aa4b,aa60-aa76,aa7a-aa7a,aa7e-aaaf,aab1-aab1,aab5-aab6,",
    "aab9-aabd,aac0-aac0,aac2-aac2,aadb-aadd,aae0-aaea,aaf2-aaf4,ab01-ab06,ab09-ab0e,",
    "ab11-ab16,ab20-ab26,ab28-ab2e,ab30-ab5a,ab5c-ab69,ab70-abe2,ac00-d7a3,d7b0-d7c6,",
    "d7cb-d7fb,f900-fa6d,fa70-fad9,fb00-fb06,fb13-fb17,fb1d-fb1d,fb1f-fb28,fb2a-fb36,",
    "fb38-fb3c,fb3e-fb3e,fb40-fb41,fb43-fb44,fb46-fbb1,fbd3-fc5d,fc64-fd3d,fd50-fd8f,",
    "fd92-fdc7,fdf0-fdf9,fe71-fe71,fe73-fe73,fe77-fe77,fe79-fe79,fe7b-fe7b,fe7d-fe7d,",
    "fe7f-fefc,ff21-ff3a,ff41-ff5a,ff66-ff9d,ffa0-ffbe,ffc2-ffc7,ffca-ffcf,ffd2-ffd7,",
    "ffda-ffdc,10000-1000b,1000d-10026,10028-1003a,1003c-1003d,1003f-1004d,10050-1005d,10080-100fa,",
    "10140-10174,10280-1029c,102a0-102d0,10300-1031f,1032d-1034a,10350-10375,10380-1039d,103a0-103c3,",
    "103c8-103cf,103d1-103d5,10400-1049d,104b0-104d3,104d8-104fb,10500-10527,10530-10563,10570-1057a,",
    "1057c-1058a,1058c-10592,10594-10595,10597-105a1,105a3-105b1,105b3-105b9,105bb-105bc,105c0-105f3,",
    "10600-10736,10740-10755,10760-10767,10780-10785,10787-107b0,107b2-107ba,10800-10805,10808-10808,",
    "1080a-10835,10837-10838,1083c-1083c,1083f-10855,10860-10876,10880-1089e,108e0-108f2,108f4-108f5,",
    "10900-10915,10920-10939,10980-109b7,109be-109bf,10a00-10a00,10a10-10a13,10a15-10a17,10a19-10a35,",
    "10a60-10a7c,10a80-10a9c,10ac0-10ac7,10ac9-10ae4,10b00-10b35,10b40-10b55,10b60-10b72,10b80-10b91,",
    "10c00-10c48,10c80-10cb2,10cc0-10cf2,10d00-10d23,10d4a-10d65,10d6f-10d85,10e80-10ea9,10eb0-10eb1,",
    "10ec2-10ec4,10f00-10f1c,10f27-10f27,10f30-10f45,10f70-10f81,10fb0-10fc4,10fe0-10ff6,11003-11037,",
    "11071-11072,11075-11075,11083-110af,110d0-110e8,11103-11126,11144-11144,11147-11147,11150-11172,",
    "11176-11176,11183-111b2,111c1-111c4,111da-111da,111dc-111dc,11200-11211,11213-1122b,1123f-11240,",
    "11280-11286,11288-11288,1128a-1128d,1128f-1129d,1129f-112a8,112b0-112de,11305-1130c,1130f-11310,",
    "11313-11328,1132a-11330,11332-11333,11335-11339,1133d-1133d,11350-11350,1135d-11361,11380-11389,",
    "1138b-1138b,1138e-1138e,11390-113b5,113b7-113b7,113d1-113d1,113d3-113d3,11400-11434,11447-1144a,",
    "1145f-11461,11480-114af,114c4-114c5,114c7-114c7,11580-115ae,115d8-115db,11600-1162f,11644-11644,",
    "11680-116aa,116b8-116b8,11700-1171a,11740-11746,11800-1182b,118a0-118df,118ff-11906,11909-11909,",
    "1190c-11913,11915-11916,11918-1192f,1193f-1193f,11941-11941,119a0-119a7,119aa-119d0,119e1-119e1,",
    "119e3-119e3,11a00-11a00,11a0b-11a32,11a3a-11a3a,11a50-11a50,11a5c-11a89,11a9d-11a9d,11ab0-11af8,",
    "11bc0-11be0,11c00-11c08,11c0a-11c2e,11c40-11c40,11c72-11c8f,11d00-11d06,11d08-11d09,11d0b-11d30,",
    "11d46-11d46,11d60-11d65,11d67-11d68,11d6a-11d89,11d98-11d98,11ee0-11ef2,11f02-11f02,11f04-11f10,",
    "11f12-11f33,11fb0-11fb0,12000-12399,12400-1246e,12480-12543,12f90-12ff0,13000-1342f,13441-13446,",
    "13460-143fa,14400-14646,16100-1611d,16800-16a38,16a40-16a5e,16a70-16abe,16ad0-16aed,16b00-16b2f,",
    "16b40-16b43,16b63-16b77,16b7d-16b8f,16d40-16d6c,16e40-16e7f,16f00-16f4a,16f50-16f50,16f93-16f9f,",
    "16fe0-16fe1,16fe3-16fe3,17000-187f7,18800-18cd5,18cff-18d08,1aff0-1aff3,1aff5-1affb,1affd-1affe,",
    "1b000-1b122,1b132-1b132,1b150-1b152,1b155-1b155,1b164-1b167,1b170-1b2fb,1bc00-1bc6a,1bc70-1bc7c,",
    "1bc80-1bc88,1bc90-1bc99,1d400-1d454,1d456-1d49c,1d49e-1d49f,1d4a2-1d4a2,1d4a5-1d4a6,1d4a9-1d4ac,",
    "1d4ae-1d4b9,1d4bb-1d4bb,1d4bd-1d4c3,1d4c5-1d505,1d507-1d50a,1d50d-1d514,1d516-1d51c,1d51e-1d539,",
    "1d53b-1d53e,1d540-1d544,1d546-1d546,1d54a-1d550,1d552-1d6a5,1d6a8-1d6c0,1d6c2-1d6da,1d6dc-1d6fa,",
    "1d6fc-1d714,1d716-1d734,1d736-1d74e,1d750-1d76e,1d770-1d788,1d78a-1d7a8,1d7aa-1d7c2,1d7c4-1d7cb,",
    "1df00-1df1e,1df25-1df2a,1e030-1e06d,1e100-1e12c,1e137-1e13d,1e14e-1e14e,1e290-1e2ad,1e2c0-1e2eb,",
    "1e4d0-1e4eb,1e5d0-1e5ed,1e5f0-1e5f0,1e7e0-1e7e6,1e7e8-1e7eb,1e7ed-1e7ee,1e7f0-1e7fe,1e800-1e8c4,",
    "1e900-1e943,1e94b-1e94b,1ee00-1ee03,1ee05-1ee1f,1ee21-1ee22,1ee24-1ee24,1ee27-1ee27,1ee29-1ee32,",
    "1ee34-1ee37,1ee39-1ee39,1ee3b-1ee3b,1ee42-1ee42,1ee47-1ee47,1ee49-1ee49,1ee4b-1ee4b,1ee4d-1ee4f,",
    "1ee51-1ee52,1ee54-1ee54,1ee57-1ee57,1ee59-1ee59,1ee5b-1ee5b,1ee5d-1ee5d,1ee5f-1ee5f,1ee61-1ee62,",
    "1ee64-1ee64,1ee67-1ee6a,1ee6c-1ee72,1ee74-1ee77,1ee79-1ee7c,1ee7e-1ee7e,1ee80-1ee89,1ee8b-1ee9b,",
    "1eea1-1eea3,1eea5-1eea9,1eeab-1eebb,20000-2a6df,2a700-2b739,2b740-2b81d,2b820-2cea1,2ceb0-2ebe0,",
    "2ebf0-2ee5d,2f800-2fa1d,30000-3134a,31350-323af,"
  ])

/-- Each binary property with a table: its names, the full name first, then its table. -/
def binaryProperties : List (List String × RangeTable) :=
  [
    (["ASCII_Hex_Digit", "AHex"], asciiHexDigitTable),
    (["Alphabetic", "Alpha"], alphabeticTable),
    (["Bidi_Control", "Bidi_C"], bidiControlTable),
    (["Bidi_Mirrored", "Bidi_M"], bidiMirroredTable),
    (["Case_Ignorable", "CI"], caseIgnorableTable),
    (["Cased"], casedTable),
    (["Changes_When_Casefolded", "CWCF"], changesWhenCasefoldedTable),
    (["Changes_When_Casemapped", "CWCM"], changesWhenCasemappedTable),
    (["Changes_When_Lowercased", "CWL"], changesWhenLowercasedTable),
    (["Changes_When_Titlecased", "CWT"], changesWhenTitlecasedTable),
    (["Changes_When_Uppercased", "CWU"], changesWhenUppercasedTable),
    (["Dash"], dashTable),
    (["Default_Ignorable_Code_Point", "DI"], defaultIgnorableCodePointTable),
    (["Deprecated", "Dep"], deprecatedTable),
    (["Diacritic", "Dia"], diacriticTable),
    (["Emoji"], emojiTable),
    (["Emoji_Component", "EComp"], emojiComponentTable),
    (["Emoji_Modifier", "EMod"], emojiModifierTable),
    (["Emoji_Modifier_Base", "EBase"], emojiModifierBaseTable),
    (["Emoji_Presentation", "EPres"], emojiPresentationTable),
    (["Extended_Pictographic", "ExtPict"], extendedPictographicTable),
    (["Extender", "Ext"], extenderTable),
    (["Grapheme_Base", "Gr_Base"], graphemeBaseTable),
    (["Grapheme_Extend", "Gr_Ext"], graphemeExtendTable),
    (["Grapheme_Link", "Gr_Link"], graphemeLinkTable),
    (["Hex_Digit", "Hex"], hexDigitTable),
    (["Hyphen"], hyphenTable),
    (["IDS_Binary_Operator", "IDSB"], idsBinaryOperatorTable),
    (["IDS_Trinary_Operator", "IDST"], idsTrinaryOperatorTable),
    (["IDS_Unary_Operator", "IDSU"], idsUnaryOperatorTable),
    (["ID_Compat_Math_Continue"], idCompatMathContinueTable),
    (["ID_Compat_Math_Start"], idCompatMathStartTable),
    (["ID_Continue", "IDC"], idContinueTable),
    (["ID_Start", "IDS"], idStartTable),
    (["Ideographic", "Ideo"], ideographicTable),
    (["Join_Control", "Join_C"], joinControlTable),
    (["Logical_Order_Exception", "LOE"], logicalOrderExceptionTable),
    (["Lowercase", "Lower"], lowercaseTable),
    (["Math"], mathTable),
    (["Modifier_Combining_Mark", "MCM"], modifierCombiningMarkTable),
    (["Noncharacter_Code_Point", "NChar"], noncharacterCodePointTable),
    (["Other_Alphabetic", "OAlpha"], otherAlphabeticTable),
    (["Other_Default_Ignorable_Code_Point", "ODI"], otherDefaultIgnorableCodePointTable),
    (["Other_Grapheme_Extend", "OGr_Ext"], otherGraphemeExtendTable),
    (["Other_ID_Continue", "OIDC"], otherIdContinueTable),
    (["Other_ID_Start", "OIDS"], otherIdStartTable),
    (["Other_Lowercase", "OLower"], otherLowercaseTable),
    (["Other_Math", "OMath"], otherMathTable),
    (["Other_Uppercase", "OUpper"], otherUppercaseTable),
    (["Pattern_Syntax", "Pat_Syn"], patternSyntaxTable),
    (["Pattern_White_Space", "Pat_WS"], patternWhiteSpaceTable),
    (["Prepended_Concatenation_Mark", "PCM"], prependedConcatenationMarkTable),
    (["Quotation_Mark", "QMark"], quotationMarkTable),
    (["Radical"], radicalTable),
    (["Regional_Indicator", "RI"], regionalIndicatorTable),
    (["Sentence_Terminal", "STerm"], sentenceTerminalTable),
    (["Soft_Dotted", "SD"], softDottedTable),
    (["Terminal_Punctuation", "Term"], terminalPunctuationTable),
    (["Unified_Ideograph", "UIdeo"], unifiedIdeographTable),
    (["Uppercase", "Upper"], uppercaseTable),
    (["Variation_Selector", "VS"], variationSelectorTable),
    (["White_Space", "WSpace", "space"], whiteSpaceTable),
    (["XID_Continue", "XIDC"], xidContinueTable),
    (["XID_Start", "XIDS"], xidStartTable)
  ]

/-- Every property of the Unicode database: its full name first, then its other names. -/
def propertyNames : List (List String) :=
  [
    ["kAccountingNumeric", "cjkAccountingNumeric"],
    ["kOtherNumeric", "cjkOtherNumeric"],
    ["kPrimaryNumeric", "cjkPrimaryNumeric"],
    ["Numeric_Value", "nv"],
    ["Bidi_Mirroring_Glyph", "bmg"],
    ["Bidi_Paired_Bracket", "bpb"],
    ["Case_Folding", "cf"],
    ["kCompatibilityVariant", "cjkCompatibilityVariant"],
    ["Decomposition_Mapping", "dm"],
    ["Equivalent_Unified_Ideograph", "EqUIdeo"],
    ["FC_NFKC_Closure", "FC_NFKC"],
    ["Lowercase_Mapping", "lc"],
    ["NFKC_Casefold", "NFKC_CF"],
    ["NFKC_Simple_Casefold", "NFKC_SCF"],
    ["Simple_Case_Folding", "scf", "sfc"],
    ["Simple_Lowercase_Mapping", "slc"],
    ["Simple_Titlecase_Mapping", "stc"],
    ["Simple_Uppercase_Mapping", "suc"],
    ["Titlecase_Mapping", "tc"],
    ["Uppercase_Mapping", "uc"],
    ["kIICore", "cjkIICore"],
    ["kIRG_GSource", "cjkIRG_GSource"],
    ["kIRG_HSource", "cjkIRG_HSource"],
    ["kIRG_JSource", "cjkIRG_JSource"],
    ["kIRG_KPSource", "cjkIRG_KPSource"],
    ["kIRG_KSource", "cjkIRG_KSource"],
    ["kIRG_MSource", "cjkIRG_MSource"],
    ["kIRG_SSource", "cjkIRG_SSource"],
    ["kIRG_TSource", "cjkIRG_TSource"],
    ["kIRG_UKSource", "cjkIRG_UKSource"],
    ["kIRG_USource", "cjkIRG_USource"],
    ["kIRG_VSource", "cjkIRG_VSource"],
    ["kRSUnicode", "cjkRSUnicode", "Unicode_Radical_Stroke", "URS"],
    ["kUnihanCore2020", "cjkUnihanCore2020"],
    ["ISO_Comment", "isc"],
    ["Jamo_Short_Name", "JSN"],
    ["kEH_Cat"],
    ["kEH_Desc"],
    ["kEH_HG"],
    ["kEH_IFAO"],
    ["kEH_JSesh"],
    ["Name", "na"],
    ["Unicode_1_Name", "na1"],
    ["Name_Alias"],
    ["Script_Extensions", "scx"],
    ["Age", "age"],
    ["Block", "blk"],
    ["Script", "sc"],
    ["Bidi_Class", "bc"],
    ["Bidi_Paired_Bracket_Type", "bpt"],
    ["Canonical_Combining_Class", "ccc"],
    ["Decomposition_Type", "dt"],
    ["East_Asian_Width", "ea"],
    ["General_Category", "gc"],
    ["Grapheme_Cluster_Break", "GCB"],
    ["Hangul_Syllable_Type", "hst"],
    ["Indic_Conjunct_Break", "InCB"],
    ["Indic_Positional_Category", "InPC"],
    ["Indic_Syllabic_Category", "InSC"],
    ["Joining_Group", "jg"],
    ["Joining_Type", "jt"],
    ["Line_Break", "lb"],
    ["NFC_Quick_Check", "NFC_QC"],
    ["NFD_Quick_Check", "NFD_QC"],
    ["NFKC_Quick_Check", "NFKC_QC"],
    ["NFKD_Quick_Check", "NFKD_QC"],
    ["Numeric_Type", "nt"],
    ["Sentence_Break", "SB"],
    ["Vertical_Orientation", "vo"],
    ["Word_Break", "WB"],
    ["ASCII_Hex_Digit", "AHex"],
    ["Alphabetic", "Alpha"],
    ["Bidi_Control", "Bidi_C"],
    ["Bidi_Mirrored", "Bidi_M"],
    ["Cased"],
    ["Composition_Exclusion", "CE"],
    ["Case_Ignorable", "CI"],
    ["Full_Composition_Exclusion", "Comp_Ex"],
    ["Changes_When_Casefolded", "CWCF"],
    ["Changes_When_Casemapped", "CWCM"],
    ["Changes_When_NFKC_Casefolded", "CWKCF"],
    ["Changes_When_Lowercased", "CWL"],
    ["Changes_When_Titlecased", "CWT"],
    ["Changes_When_Uppercased", "CWU"],
    ["Dash"],
    ["Deprecated", "Dep"],
    ["Default_Ignorable_Code_Point", "DI"],
    ["Diacritic", "Dia"],
    ["Emoji_Modifier_Base", "EBase"],
    ["Emoji_Component", "EComp"],
    ["Emoji_Modifier", "EMod"],
    ["Emoji"],
    ["Emoji_Presentation", "EPres"],
    ["Extender", "Ext"],
    ["Extended_Pictographic", "ExtPict"],
    ["Grapheme_Base", "Gr_Base"],
    ["Grapheme_Extend", "Gr_Ext"],
    ["Grapheme_Link", "Gr_Link"],
    ["Hex_Digit", "Hex"],
    ["Hyphen"],
    ["ID_Compat_Math_Continue"],
    ["ID_Compat_Math_Start"],
    ["ID_Continue", "IDC"],
    ["Ideographic", "Ideo"],
    ["ID_Start", "IDS"],
    ["IDS_Binary_Operator", "IDSB"],
    ["IDS_Trinary_Operator", "IDST"],
    ["IDS_Unary_Operator", "IDSU"],
    ["Join_Control", "Join_C"],
    ["kEH_NoMirror"],
    ["kEH_NoRotate"],
    ["Logical_Order_Exception", "LOE"],
    ["Lowercase", "Lower"],
    ["Math"],
    ["Modifier_Combining_Mark", "MCM"],
    ["Noncharacter_Code_Point", "NChar"],
    ["Other_Alphabetic", "OAlpha"],
    ["Other_Default_Ignorable_Code_Point", "ODI"],
    ["Other_Grapheme_Extend", "OGr_Ext"],
    ["Other_ID_Continue", "OIDC"],
    ["Other_ID_Start", "OIDS"],
    ["Other_Lowercase", "OLower"],
    ["Other_Math", "OMath"],
    ["Other_Uppercase", "OUpper"],
    ["Pattern_Syntax", "Pat_Syn"],
    ["Pattern_White_Space", "Pat_WS"],
    ["Prepended_Concatenation_Mark", "PCM"],
    ["Quotation_Mark", "QMark"],
    ["Radical"],
    ["Regional_Indicator", "RI"],
    ["Soft_Dotted", "SD"],
    ["Sentence_Terminal", "STerm"],
    ["Terminal_Punctuation", "Term"],
    ["Unified_Ideograph", "UIdeo"],
    ["Uppercase", "Upper"],
    ["Variation_Selector", "VS"],
    ["White_Space", "WSpace", "space"],
    ["XID_Continue", "XIDC"],
    ["XID_Start", "XIDS"],
    ["Expands_On_NFC", "XO_NFC"],
    ["Expands_On_NFD", "XO_NFD"],
    ["Expands_On_NFKC", "XO_NFKC"],
    ["Expands_On_NFKD", "XO_NFKD"]
  ]

end Rollout.Text
