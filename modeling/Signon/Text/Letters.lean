import Signon.Text.Table

/-!
Letters and digits in the sense of Unicode: the derived property Alphabetic, and the general
category Number (decimal digits, letter numbers and other numbers).
-/

namespace Signon.Text

/-- Ranges of code points with the property Alphabetic. -/
def alphabeticTable : Array Entry := decodeTable
  (String.join [
    "41-5A,61-7A,AA,B5,BA,C0-D6,D8-F6,F8-2C1,2C6-2D1,2E0-2E4,2EC,2EE,345,370-374,376-377,",
    "37A-37D,37F,386,388-38A,38C,38E-3A1,3A3-3F5,3F7-481,48A-52F,531-556,559,560-588,5B0-5BD,",
    "5BF,5C1-5C2,5C4-5C5,5C7,5D0-5EA,5EF-5F2,610-61A,620-657,659-65F,66E-6D3,6D5-6DC,6E1-6E8,",
    "6ED-6EF,6FA-6FC,6FF,710-73F,74D-7B1,7CA-7EA,7F4-7F5,7FA,800-817,81A-82C,840-858,860-86A,",
    "870-887,889-88E,8A0-8C9,8D4-8DF,8E3-8E9,8F0-93B,93D-94C,94E-950,955-963,971-983,985-98C,",
    "98F-990,993-9A8,9AA-9B0,9B2,9B6-9B9,9BD-9C4,9C7-9C8,9CB-9CC,9CE,9D7,9DC-9DD,9DF-9E3,",
    "9F0-9F1,9FC,A01-A03,A05-A0A,A0F-A10,A13-A28,A2A-A30,A32-A33,A35-A36,A38-A39,A3E-A42,",
    "A47-A48,A4B-A4C,A51,A59-A5C,A5E,A70-A75,A81-A83,A85-A8D,A8F-A91,A93-AA8,AAA-AB0,AB2-AB3,",
    "AB5-AB9,ABD-AC5,AC7-AC9,ACB-ACC,AD0,AE0-AE3,AF9-AFC,B01-B03,B05-B0C,B0F-B10,B13-B28,",
    "B2A-B30,B32-B33,B35-B39,B3D-B44,B47-B48,B4B-B4C,B56-B57,B5C-B5D,B5F-B63,B71,B82-B83,",
    "B85-B8A,B8E-B90,B92-B95,B99-B9A,B9C,B9E-B9F,BA3-BA4,BA8-BAA,BAE-BB9,BBE-BC2,BC6-BC8,",
    "BCA-BCC,BD0,BD7,C00-C0C,C0E-C10,C12-C28,C2A-C39,C3D-C44,C46-C48,C4A-C4C,C55-C56,C58-C5A,",
    "C5D,C60-C63,C80-C83,C85-C8C,C8E-C90,C92-CA8,CAA-CB3,CB5-CB9,CBD-CC4,CC6-CC8,CCA-CCC,",
    "CD5-CD6,CDD-CDE,CE0-CE3,CF1-CF3,D00-D0C,D0E-D10,D12-D3A,D3D-D44,D46-D48,D4A-D4C,D4E,",
    "D54-D57,D5F-D63,D7A-D7F,D81-D83,D85-D96,D9A-DB1,DB3-DBB,DBD,DC0-DC6,DCF-DD4,DD6,DD8-DDF,",
    "DF2-DF3,E01-E3A,E40-E46,E4D,E81-E82,E84,E86-E8A,E8C-EA3,EA5,EA7-EB9,EBB-EBD,EC0-EC4,EC6,",
    "ECD,EDC-EDF,F00,F40-F47,F49-F6C,F71-F83,F88-F97,F99-FBC,1000-1036,1038,103B-103F,",
    "1050-108F,109A-109D,10A0-10C5,10C7,10CD,10D0-10FA,10FC-1248,124A-124D,1250-1256,1258,",
    "125A-125D,1260-1288,128A-128D,1290-12B0,12B2-12B5,12B8-12BE,12C0,12C2-12C5,12C8-12D6,",
    "12D8-1310,1312-1315,1318-135A,1380-138F,13A0-13F5,13F8-13FD,1401-166C,166F-167F,1681-169A,",
    "16A0-16EA,16EE-16F8,1700-1713,171F-1733,1740-1753,1760-176C,176E-1770,1772-1773,1780-17B3,",
    "17B6-17C8,17D7,17DC,1820-1878,1880-18AA,18B0-18F5,1900-191E,1920-192B,1930-1938,1950-196D,",
    "1970-1974,1980-19AB,19B0-19C9,1A00-1A1B,1A20-1A5E,1A61-1A74,1AA7,1ABF-1AC0,1ACC-1ACE,",
    "1B00-1B33,1B35-1B43,1B45-1B4C,1B80-1BA9,1BAC-1BAF,1BBA-1BE5,1BE7-1BF1,1C00-1C36,1C4D-1C4F,",
    "1C5A-1C7D,1C80-1C88,1C90-1CBA,1CBD-1CBF,1CE9-1CEC,1CEE-1CF3,1CF5-1CF6,1CFA,1D00-1DBF,",
    "1DE7-1DF4,1E00-1F15,1F18-1F1D,1F20-1F45,1F48-1F4D,1F50-1F57,1F59,1F5B,1F5D,1F5F-1F7D,",
    "1F80-1FB4,1FB6-1FBC,1FBE,1FC2-1FC4,1FC6-1FCC,1FD0-1FD3,1FD6-1FDB,1FE0-1FEC,1FF2-1FF4,",
    "1FF6-1FFC,2071,207F,2090-209C,2102,2107,210A-2113,2115,2119-211D,2124,2126,2128,212A-212D,",
    "212F-2139,213C-213F,2145-2149,214E,2160-2188,24B6-24E9,2C00-2CE4,2CEB-2CEE,2CF2-2CF3,",
    "2D00-2D25,2D27,2D2D,2D30-2D67,2D6F,2D80-2D96,2DA0-2DA6,2DA8-2DAE,2DB0-2DB6,2DB8-2DBE,",
    "2DC0-2DC6,2DC8-2DCE,2DD0-2DD6,2DD8-2DDE,2DE0-2DFF,2E2F,3005-3007,3021-3029,3031-3035,",
    "3038-303C,3041-3096,309D-309F,30A1-30FA,30FC-30FF,3105-312F,3131-318E,31A0-31BF,31F0-31FF,",
    "3400-4DBF,4E00-A48C,A4D0-A4FD,A500-A60C,A610-A61F,A62A-A62B,A640-A66E,A674-A67B,A67F-A6EF,",
    "A717-A71F,A722-A788,A78B-A7CA,A7D0-A7D1,A7D3,A7D5-A7D9,A7F2-A805,A807-A827,A840-A873,",
    "A880-A8C3,A8C5,A8F2-A8F7,A8FB,A8FD-A8FF,A90A-A92A,A930-A952,A960-A97C,A980-A9B2,A9B4-A9BF,",
    "A9CF,A9E0-A9EF,A9FA-A9FE,AA00-AA36,AA40-AA4D,AA60-AA76,AA7A-AABE,AAC0,AAC2,AADB-AADD,",
    "AAE0-AAEF,AAF2-AAF5,AB01-AB06,AB09-AB0E,AB11-AB16,AB20-AB26,AB28-AB2E,AB30-AB5A,AB5C-AB69,",
    "AB70-ABEA,AC00-D7A3,D7B0-D7C6,D7CB-D7FB,F900-FA6D,FA70-FAD9,FB00-FB06,FB13-FB17,FB1D-FB28,",
    "FB2A-FB36,FB38-FB3C,FB3E,FB40-FB41,FB43-FB44,FB46-FBB1,FBD3-FD3D,FD50-FD8F,FD92-FDC7,",
    "FDF0-FDFB,FE70-FE74,FE76-FEFC,FF21-FF3A,FF41-FF5A,FF66-FFBE,FFC2-FFC7,FFCA-FFCF,FFD2-FFD7,",
    "FFDA-FFDC,10000-1000B,1000D-10026,10028-1003A,1003C-1003D,1003F-1004D,10050-1005D,",
    "10080-100FA,10140-10174,10280-1029C,102A0-102D0,10300-1031F,1032D-1034A,10350-1037A,",
    "10380-1039D,103A0-103C3,103C8-103CF,103D1-103D5,10400-1049D,104B0-104D3,104D8-104FB,",
    "10500-10527,10530-10563,10570-1057A,1057C-1058A,1058C-10592,10594-10595,10597-105A1,",
    "105A3-105B1,105B3-105B9,105BB-105BC,10600-10736,10740-10755,10760-10767,10780-10785,",
    "10787-107B0,107B2-107BA,10800-10805,10808,1080A-10835,10837-10838,1083C,1083F-10855,",
    "10860-10876,10880-1089E,108E0-108F2,108F4-108F5,10900-10915,10920-10939,10980-109B7,",
    "109BE-109BF,10A00-10A03,10A05-10A06,10A0C-10A13,10A15-10A17,10A19-10A35,10A60-10A7C,",
    "10A80-10A9C,10AC0-10AC7,10AC9-10AE4,10B00-10B35,10B40-10B55,10B60-10B72,10B80-10B91,",
    "10C00-10C48,10C80-10CB2,10CC0-10CF2,10D00-10D27,10E80-10EA9,10EAB-10EAC,10EB0-10EB1,",
    "10F00-10F1C,10F27,10F30-10F45,10F70-10F81,10FB0-10FC4,10FE0-10FF6,11000-11045,11071-11075,",
    "11080-110B8,110C2,110D0-110E8,11100-11132,11144-11147,11150-11172,11176,11180-111BF,",
    "111C1-111C4,111CE-111CF,111DA,111DC,11200-11211,11213-11234,11237,1123E-11241,11280-11286,",
    "11288,1128A-1128D,1128F-1129D,1129F-112A8,112B0-112E8,11300-11303,11305-1130C,1130F-11310,",
    "11313-11328,1132A-11330,11332-11333,11335-11339,1133D-11344,11347-11348,1134B-1134C,11350,",
    "11357,1135D-11363,11400-11441,11443-11445,11447-1144A,1145F-11461,11480-114C1,114C4-114C5,",
    "114C7,11580-115B5,115B8-115BE,115D8-115DD,11600-1163E,11640,11644,11680-116B5,116B8,",
    "11700-1171A,1171D-1172A,11740-11746,11800-11838,118A0-118DF,118FF-11906,11909,1190C-11913,",
    "11915-11916,11918-11935,11937-11938,1193B-1193C,1193F-11942,119A0-119A7,119AA-119D7,",
    "119DA-119DF,119E1,119E3-119E4,11A00-11A32,11A35-11A3E,11A50-11A97,11A9D,11AB0-11AF8,",
    "11C00-11C08,11C0A-11C36,11C38-11C3E,11C40,11C72-11C8F,11C92-11CA7,11CA9-11CB6,11D00-11D06,",
    "11D08-11D09,11D0B-11D36,11D3A,11D3C-11D3D,11D3F-11D41,11D43,11D46-11D47,11D60-11D65,",
    "11D67-11D68,11D6A-11D8E,11D90-11D91,11D93-11D96,11D98,11EE0-11EF6,11F00-11F10,11F12-11F3A,",
    "11F3E-11F40,11FB0,12000-12399,12400-1246E,12480-12543,12F90-12FF0,13000-1342F,13441-13446,",
    "14400-14646,16800-16A38,16A40-16A5E,16A70-16ABE,16AD0-16AED,16B00-16B2F,16B40-16B43,",
    "16B63-16B77,16B7D-16B8F,16E40-16E7F,16F00-16F4A,16F4F-16F87,16F8F-16F9F,16FE0-16FE1,16FE3,",
    "16FF0-16FF1,17000-187F7,18800-18CD5,18D00-18D08,1AFF0-1AFF3,1AFF5-1AFFB,1AFFD-1AFFE,",
    "1B000-1B122,1B132,1B150-1B152,1B155,1B164-1B167,1B170-1B2FB,1BC00-1BC6A,1BC70-1BC7C,",
    "1BC80-1BC88,1BC90-1BC99,1BC9E,1D400-1D454,1D456-1D49C,1D49E-1D49F,1D4A2,1D4A5-1D4A6,",
    "1D4A9-1D4AC,1D4AE-1D4B9,1D4BB,1D4BD-1D4C3,1D4C5-1D505,1D507-1D50A,1D50D-1D514,1D516-1D51C,",
    "1D51E-1D539,1D53B-1D53E,1D540-1D544,1D546,1D54A-1D550,1D552-1D6A5,1D6A8-1D6C0,1D6C2-1D6DA,",
    "1D6DC-1D6FA,1D6FC-1D714,1D716-1D734,1D736-1D74E,1D750-1D76E,1D770-1D788,1D78A-1D7A8,",
    "1D7AA-1D7C2,1D7C4-1D7CB,1DF00-1DF1E,1DF25-1DF2A,1E000-1E006,1E008-1E018,1E01B-1E021,",
    "1E023-1E024,1E026-1E02A,1E030-1E06D,1E08F,1E100-1E12C,1E137-1E13D,1E14E,1E290-1E2AD,",
    "1E2C0-1E2EB,1E4D0-1E4EB,1E7E0-1E7E6,1E7E8-1E7EB,1E7ED-1E7EE,1E7F0-1E7FE,1E800-1E8C4,",
    "1E900-1E943,1E947,1E94B,1EE00-1EE03,1EE05-1EE1F,1EE21-1EE22,1EE24,1EE27,1EE29-1EE32,",
    "1EE34-1EE37,1EE39,1EE3B,1EE42,1EE47,1EE49,1EE4B,1EE4D-1EE4F,1EE51-1EE52,1EE54,1EE57,1EE59,",
    "1EE5B,1EE5D,1EE5F,1EE61-1EE62,1EE64,1EE67-1EE6A,1EE6C-1EE72,1EE74-1EE77,1EE79-1EE7C,1EE7E,",
    "1EE80-1EE89,1EE8B-1EE9B,1EEA1-1EEA3,1EEA5-1EEA9,1EEAB-1EEBB,1F130-1F149,1F150-1F169,",
    "1F170-1F189,20000-2A6DF,2A700-2B739,2B740-2B81D,2B820-2CEA1,2CEB0-2EBE0,2F800-2FA1D,",
    "30000-3134A,31350-323AF"])

/-- Ranges of code points of general category Number. -/
def numericTable : Array Entry := decodeTable
  (String.join [
    "30-39,B2-B3,B9,BC-BE,660-669,6F0-6F9,7C0-7C9,966-96F,9E6-9EF,9F4-9F9,A66-A6F,AE6-AEF,",
    "B66-B6F,B72-B77,BE6-BF2,C66-C6F,C78-C7E,CE6-CEF,D58-D5E,D66-D78,DE6-DEF,E50-E59,ED0-ED9,",
    "F20-F33,1040-1049,1090-1099,1369-137C,16EE-16F0,17E0-17E9,17F0-17F9,1810-1819,1946-194F,",
    "19D0-19DA,1A80-1A89,1A90-1A99,1B50-1B59,1BB0-1BB9,1C40-1C49,1C50-1C59,2070,2074-2079,",
    "2080-2089,2150-2182,2185-2189,2460-249B,24EA-24FF,2776-2793,2CFD,3007,3021-3029,3038-303A,",
    "3192-3195,3220-3229,3248-324F,3251-325F,3280-3289,32B1-32BF,A620-A629,A6E6-A6EF,A830-A835,",
    "A8D0-A8D9,A900-A909,A9D0-A9D9,A9F0-A9F9,AA50-AA59,ABF0-ABF9,FF10-FF19,10107-10133,",
    "10140-10178,1018A-1018B,102E1-102FB,10320-10323,10341,1034A,103D1-103D5,104A0-104A9,",
    "10858-1085F,10879-1087F,108A7-108AF,108FB-108FF,10916-1091B,109BC-109BD,109C0-109CF,",
    "109D2-109FF,10A40-10A48,10A7D-10A7E,10A9D-10A9F,10AEB-10AEF,10B58-10B5F,10B78-10B7F,",
    "10BA9-10BAF,10CFA-10CFF,10D30-10D39,10E60-10E7E,10F1D-10F26,10F51-10F54,10FC5-10FCB,",
    "11052-1106F,110F0-110F9,11136-1113F,111D0-111D9,111E1-111F4,112F0-112F9,11450-11459,",
    "114D0-114D9,11650-11659,116C0-116C9,11730-1173B,118E0-118F2,11950-11959,11C50-11C6C,",
    "11D50-11D59,11DA0-11DA9,11F50-11F59,11FC0-11FD4,12400-1246E,16A60-16A69,16AC0-16AC9,",
    "16B50-16B59,16B5B-16B61,16E80-16E96,1D2C0-1D2D3,1D2E0-1D2F3,1D360-1D378,1D7CE-1D7FF,",
    "1E140-1E149,1E2F0-1E2F9,1E4F0-1E4F9,1E8C7-1E8CF,1E950-1E959,1EC71-1ECAB,1ECAD-1ECAF,",
    "1ECB1-1ECB4,1ED01-1ED2D,1ED2F-1ED3D,1F100-1F10C,1FBF0-1FBF9"])

def isAlphabetic (c : Char) : Bool :=
  if c.toNat < 0x80 then ('a' ≤ c ∧ c ≤ 'z') || ('A' ≤ c ∧ c ≤ 'Z')
  else member alphabeticTable c.toNat

def isNumeric (c : Char) : Bool :=
  if c.toNat < 0x80 then '0' ≤ c ∧ c ≤ '9'
  else member numericTable c.toNat

def isAlphanumeric (c : Char) : Bool :=
  isAlphabetic c || isNumeric c

end Signon.Text
