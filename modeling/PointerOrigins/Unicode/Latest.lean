import PointerOrigins.Unicode.Category
import PointerOrigins.Unicode.Property

/-!
Version 17.0 of the standard, where it goes beyond the other tables, which follow version 16.0.
-/

namespace PointerOrigins.Unicode

/-- The runs of the general categories that version 17.0 gave anew: a start in hexadecimal, then the category's
code, or `-` where the category has stayed.
-/
def latestTable : List String :=
  [ "0:- 295:Lo 296:- 88F:Lo 890:- C5C:Lo C5D:- CDC:Lo CDD:- 1ACF:Mn 1ADE:- 1AE0:Mn 1AEC:-",
    "20C1:Sc 20C2:- 2B96:So 2B97:- A7CE:Lu A7CF:Ll A7D0:- A7D2:Lu A7D3:- A7D4:Lu A7D5:- A7F1:Lm",
    "A7F2:- FBC3:So FBD3:- FD90:So FD92:- FDC8:So FDCF:- 10940:Lo 1095A:- 10EC5:Lm 10EC6:Lo",
    "10EC8:- 10ED0:Po 10ED1:So 10ED9:- 10EFA:Mn 10EFC:- 11B60:Mn 11B61:Mc 11B62:Mn 11B65:Mc",
    "11B66:Mn 11B67:Mc 11B68:- 11DB0:Lo 11DD9:Lm 11DDA:Lo 11DDC:- 11DE0:Nd 11DEA:- 16EA0:Lu",
    "16EB9:- 16EBB:Ll 16ED4:- 16FF2:Lm 16FF4:Nl 16FF7:- 187F8:Lo 18800:- 18D09:Lo 18D1F:-",
    "18D80:Lo 18DF3:- 1CCFA:So 1CCFD:- 1CEBA:So 1CED1:- 1CEE0:So 1CEF0:Sm 1CEF1:- 1E6C0:Lo",
    "1E6DF:- 1E6E0:Lo 1E6E3:Mn 1E6E4:Lo 1E6E6:Mn 1E6E7:Lo 1E6EE:Mn 1E6F0:Lo 1E6F5:Mn 1E6F6:-",
    "1E6FE:Lo 1E6FF:Lm 1E700:- 1F6D8:So 1F6D9:- 1F777:So 1F77B:- 1F8D0:Sm 1F8D9:- 1FA54:So",
    "1FA58:- 1FA8A:So 1FA8B:- 1FA8E:So 1FA8F:- 1FAC8:So 1FAC9:- 1FACD:So 1FACE:- 1FAEA:So 1FAEB:-",
    "1FAEF:So 1FAF0:- 1FBFA:So 1FBFB:- 2B73A:Lo 2B740:- 2CEA2:Lo 2CEAE:- 323B0:Lo 3347A:-" ]

/-- The runs of the general categories that version 17.0 gave anew. -/
def latestRuns : List Run :=
  runs latestTable

/-- The general category of a code point in version 17.0. -/
def latestCategory (code : Nat) : String :=
  match valueAt latestRuns code with
  | "-" => category code
  | value => value

/-- The alphabetic code points that version 17.0 added. -/
def latestAlphabeticTable : List String :=
  [ "88F C5C CDC A7CE-A7CF A7D2 A7D4 A7F1 10940-10959 10EC5-10EC7 10EFA-10EFB 11B60-11B67",
    "11DB0-11DDB 16EA0-16EB8 16EBB-16ED3 16FF2-16FF6 187F8-187FF 18D09-18D1E 18D80-18DF2",
    "1E6C0-1E6DE 1E6E0-1E6F5 1E6FE-1E6FF 2B73A-2B73F 2CEA2-2CEAD 323B0-33479" ]

/-- The alphabetic code points in version 17.0. -/
def latestAlphabetic : List Range :=
  ranges alphabetic ++ ranges latestAlphabeticTable

/-- The code points that extend a grapheme and that version 17.0 added. -/
def latestGraphemeExtendTable : List String :=
  [ "1ACF-1ADD 1AE0-1AEB 10EFA-10EFB 11B60 11B62-11B64 11B66 1E6E3 1E6E6 1E6EE-1E6EF 1E6F5" ]

/-- The code points that extend a grapheme in version 17.0. -/
def latestGraphemeExtend : List Range :=
  ranges graphemeExtend ++ ranges latestGraphemeExtendTable

end PointerOrigins.Unicode
