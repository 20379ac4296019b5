import PointerOrigins.Unicode.Ranges

/-!
Where a text may be broken: the part that each code point plays in the limits of grapheme clusters, words
and sentences, as runs.
-/

namespace PointerOrigins.Unicode

/-- The runs of the grapheme cluster breaks: a start in hexadecimal, then the value, or `-` where there is none. -/
def clusterBreakTable : List String :=
  [ "0:Control A:LF B:Control D:CR E:Control 20:- 7F:Control A0:- AD:Control AE:- 300:Extend",
    "370:- 483:Extend 48A:- 591:Extend 5BE:- 5BF:Extend 5C0:- 5C1:Extend 5C3:- 5C4:Extend 5C6:-",
    "5C7:Extend 5C8:- 600:Prepend 606:- 610:Extend 61B:- 61C:Control 61D:- 64B:Extend 660:-",
    "670:Extend 671:- 6D6:Extend 6DD:Prepend 6DE:- 6DF:Extend 6E5:- 6E7:Extend 6E9:- 6EA:Extend",
    "6EE:- 70F:Prepend 710:- 711:Extend 712:- 730:Extend 74B:- 7A6:Extend 7B1:- 7EB:Extend 7F4:-",
    "7FD:Extend 7FE:- 816:Extend 81A:- 81B:Extend 824:- 825:Extend 828:- 829:Extend 82E:-",
    "859:Extend 85C:- 890:Prepend 892:- 897:Extend 8A0:- 8CA:Extend 8E2:Prepend 8E3:Extend",
    "903:SpacingMark 904:- 93A:Extend 93B:SpacingMark 93C:Extend 93D:- 93E:SpacingMark 941:Extend",
    "949:SpacingMark 94D:Extend 94E:SpacingMark 950:- 951:Extend 958:- 962:Extend 964:-",
    "981:Extend 982:SpacingMark 984:- 9BC:Extend 9BD:- 9BE:Extend 9BF:SpacingMark 9C1:Extend",
    "9C5:- 9C7:SpacingMark 9C9:- 9CB:SpacingMark 9CD:Extend 9CE:- 9D7:Extend 9D8:- 9E2:Extend",
    "9E4:- 9FE:Extend 9FF:- A01:Extend A03:SpacingMark A04:- A3C:Extend A3D:- A3E:SpacingMark",
    "A41:Extend A43:- A47:Extend A49:- A4B:Extend A4E:- A51:Extend A52:- A70:Extend A72:-",
    "A75:Extend A76:- A81:Extend A83:SpacingMark A84:- ABC:Extend ABD:- ABE:SpacingMark",
    "AC1:Extend AC6:- AC7:Extend AC9:SpacingMark ACA:- ACB:SpacingMark ACD:Extend ACE:-",
    "AE2:Extend AE4:- AFA:Extend B00:- B01:Extend B02:SpacingMark B04:- B3C:Extend B3D:-",
    "B3E:Extend B40:SpacingMark B41:Extend B45:- B47:SpacingMark B49:- B4B:SpacingMark B4D:Extend",
    "B4E:- B55:Extend B58:- B62:Extend B64:- B82:Extend B83:- BBE:Extend BBF:SpacingMark",
    "BC0:Extend BC1:SpacingMark BC3:- BC6:SpacingMark BC9:- BCA:SpacingMark BCD:Extend BCE:-",
    "BD7:Extend BD8:- C00:Extend C01:SpacingMark C04:Extend C05:- C3C:Extend C3D:- C3E:Extend",
    "C41:SpacingMark C45:- C46:Extend C49:- C4A:Extend C4E:- C55:Extend C57:- C62:Extend C64:-",
    "C81:Extend C82:SpacingMark C84:- CBC:Extend CBD:- CBE:SpacingMark CBF:Extend CC1:SpacingMark",
    "CC2:Extend CC3:SpacingMark CC5:- CC6:Extend CC9:- CCA:Extend CCE:- CD5:Extend CD7:-",
    "CE2:Extend CE4:- CF3:SpacingMark CF4:- D00:Extend D02:SpacingMark D04:- D3B:Extend D3D:-",
    "D3E:Extend D3F:SpacingMark D41:Extend D45:- D46:SpacingMark D49:- D4A:SpacingMark D4D:Extend",
    "D4E:Prepend D4F:- D57:Extend D58:- D62:Extend D64:- D81:Extend D82:SpacingMark D84:-",
    "DCA:Extend DCB:- DCF:Extend DD0:SpacingMark DD2:Extend DD5:- DD6:Extend DD7:-",
    "DD8:SpacingMark DDF:Extend DE0:- DF2:SpacingMark DF4:- E31:Extend E32:- E33:SpacingMark",
    "E34:Extend E3B:- E47:Extend E4F:- EB1:Extend EB2:- EB3:SpacingMark EB4:Extend EBD:-",
    "EC8:Extend ECF:- F18:Extend F1A:- F35:Extend F36:- F37:Extend F38:- F39:Extend F3A:-",
    "F3E:SpacingMark F40:- F71:Extend F7F:SpacingMark F80:Extend F85:- F86:Extend F88:-",
    "F8D:Extend F98:- F99:Extend FBD:- FC6:Extend FC7:- 102D:Extend 1031:SpacingMark 1032:Extend",
    "1038:- 1039:Extend 103B:SpacingMark 103D:Extend 103F:- 1056:SpacingMark 1058:Extend 105A:-",
    "105E:Extend 1061:- 1071:Extend 1075:- 1082:Extend 1083:- 1084:SpacingMark 1085:Extend 1087:-",
    "108D:Extend 108E:- 109D:Extend 109E:- 1100:L 1160:V 11A8:T 1200:- 135D:Extend 1360:-",
    "1712:Extend 1716:- 1732:Extend 1735:- 1752:Extend 1754:- 1772:Extend 1774:- 17B4:Extend",
    "17B6:SpacingMark 17B7:Extend 17BE:SpacingMark 17C6:Extend 17C7:SpacingMark 17C9:Extend",
    "17D4:- 17DD:Extend 17DE:- 180B:Extend 180E:Control 180F:Extend 1810:- 1885:Extend 1887:-",
    "18A9:Extend 18AA:- 1920:Extend 1923:SpacingMark 1927:Extend 1929:SpacingMark 192C:-",
    "1930:SpacingMark 1932:Extend 1933:SpacingMark 1939:Extend 193C:- 1A17:Extend",
    "1A19:SpacingMark 1A1B:Extend 1A1C:- 1A55:SpacingMark 1A56:Extend 1A57:SpacingMark",
    "1A58:Extend 1A5F:- 1A60:Extend 1A61:- 1A62:Extend 1A63:- 1A65:Extend 1A6D:SpacingMark",
    "1A73:Extend 1A7D:- 1A7F:Extend 1A80:- 1AB0:Extend 1ACF:- 1B00:Extend 1B04:SpacingMark 1B05:-",
    "1B34:Extend 1B3E:SpacingMark 1B42:Extend 1B45:- 1B6B:Extend 1B74:- 1B80:Extend",
    "1B82:SpacingMark 1B83:- 1BA1:SpacingMark 1BA2:Extend 1BA6:SpacingMark 1BA8:Extend 1BAE:-",
    "1BE6:Extend 1BE7:SpacingMark 1BE8:Extend 1BEA:SpacingMark 1BED:Extend 1BEE:SpacingMark",
    "1BEF:Extend 1BF4:- 1C24:SpacingMark 1C2C:Extend 1C34:SpacingMark 1C36:Extend 1C38:-",
    "1CD0:Extend 1CD3:- 1CD4:Extend 1CE1:SpacingMark 1CE2:Extend 1CE9:- 1CED:Extend 1CEE:-",
    "1CF4:Extend 1CF5:- 1CF7:SpacingMark 1CF8:Extend 1CFA:- 1DC0:Extend 1E00:- 200B:Control",
    "200C:Extend 200D:ZWJ 200E:Control 2010:- 2028:Control 202F:- 2060:Control 2070:- 20D0:Extend",
    "20F1:- 2CEF:Extend 2CF2:- 2D7F:Extend 2D80:- 2DE0:Extend 2E00:- 302A:Extend 3030:-",
    "3099:Extend 309B:- A66F:Extend A673:- A674:Extend A67E:- A69E:Extend A6A0:- A6F0:Extend",
    "A6F2:- A802:Extend A803:- A806:Extend A807:- A80B:Extend A80C:- A823:SpacingMark A825:Extend",
    "A827:SpacingMark A828:- A82C:Extend A82D:- A880:SpacingMark A882:- A8B4:SpacingMark",
    "A8C4:Extend A8C6:- A8E0:Extend A8F2:- A8FF:Extend A900:- A926:Extend A92E:- A947:Extend",
    "A952:SpacingMark A953:Extend A954:- A960:L A97D:- A980:Extend A983:SpacingMark A984:-",
    "A9B3:Extend A9B4:SpacingMark A9B6:Extend A9BA:SpacingMark A9BC:Extend A9BE:SpacingMark",
    "A9C0:Extend A9C1:- A9E5:Extend A9E6:- AA29:Extend AA2F:SpacingMark AA31:Extend",
    "AA33:SpacingMark AA35:Extend AA37:- AA43:Extend AA44:- AA4C:Extend AA4D:SpacingMark AA4E:-",
    "AA7C:Extend AA7D:- AAB0:Extend AAB1:- AAB2:Extend AAB5:- AAB7:Extend AAB9:- AABE:Extend",
    "AAC0:- AAC1:Extend AAC2:- AAEB:SpacingMark AAEC:Extend AAEE:SpacingMark AAF0:-",
    "AAF5:SpacingMark AAF6:Extend AAF7:- ABE3:SpacingMark ABE5:Extend ABE6:SpacingMark",
    "ABE8:Extend ABE9:SpacingMark ABEB:- ABEC:SpacingMark ABED:Extend ABEE:- AC00:Syllable D7A4:-",
    "D7B0:V D7C7:- D7CB:T D7FC:- FB1E:Extend FB1F:- FE00:Extend FE10:- FE20:Extend FE30:-",
    "FEFF:Control FF00:- FF9E:Extend FFA0:- FFF0:Control FFFC:- 101FD:Extend 101FE:- 102E0:Extend",
    "102E1:- 10376:Extend 1037B:- 10A01:Extend 10A04:- 10A05:Extend 10A07:- 10A0C:Extend 10A10:-",
    "10A38:Extend 10A3B:- 10A3F:Extend 10A40:- 10AE5:Extend 10AE7:- 10D24:Extend 10D28:-",
    "10D69:Extend 10D6E:- 10EAB:Extend 10EAD:- 10EFC:Extend 10F00:- 10F46:Extend 10F51:-",
    "10F82:Extend 10F86:- 11000:SpacingMark 11001:Extend 11002:SpacingMark 11003:- 11038:Extend",
    "11047:- 11070:Extend 11071:- 11073:Extend 11075:- 1107F:Extend 11082:SpacingMark 11083:-",
    "110B0:SpacingMark 110B3:Extend 110B7:SpacingMark 110B9:Extend 110BB:- 110BD:Prepend 110BE:-",
    "110C2:Extend 110C3:- 110CD:Prepend 110CE:- 11100:Extend 11103:- 11127:Extend",
    "1112C:SpacingMark 1112D:Extend 11135:- 11145:SpacingMark 11147:- 11173:Extend 11174:-",
    "11180:Extend 11182:SpacingMark 11183:- 111B3:SpacingMark 111B6:Extend 111BF:SpacingMark",
    "111C0:Extend 111C1:- 111C2:Prepend 111C4:- 111C9:Extend 111CD:- 111CE:SpacingMark",
    "111CF:Extend 111D0:- 1122C:SpacingMark 1122F:Extend 11232:SpacingMark 11234:Extend 11238:-",
    "1123E:Extend 1123F:- 11241:Extend 11242:- 112DF:Extend 112E0:SpacingMark 112E3:Extend",
    "112EB:- 11300:Extend 11302:SpacingMark 11304:- 1133B:Extend 1133D:- 1133E:Extend",
    "1133F:SpacingMark 11340:Extend 11341:SpacingMark 11345:- 11347:SpacingMark 11349:-",
    "1134B:SpacingMark 1134D:Extend 1134E:- 11357:Extend 11358:- 11362:SpacingMark 11364:-",
    "11366:Extend 1136D:- 11370:Extend 11375:- 113B8:Extend 113B9:SpacingMark 113BB:Extend",
    "113C1:- 113C2:Extend 113C3:- 113C5:Extend 113C6:- 113C7:Extend 113CA:SpacingMark 113CB:-",
    "113CC:SpacingMark 113CE:Extend 113D1:Prepend 113D2:Extend 113D3:- 113E1:Extend 113E3:-",
    "11435:SpacingMark 11438:Extend 11440:SpacingMark 11442:Extend 11445:SpacingMark 11446:Extend",
    "11447:- 1145E:Extend 1145F:- 114B0:Extend 114B1:SpacingMark 114B3:Extend 114B9:SpacingMark",
    "114BA:Extend 114BB:SpacingMark 114BD:Extend 114BE:SpacingMark 114BF:Extend 114C1:SpacingMark",
    "114C2:Extend 114C4:- 115AF:Extend 115B0:SpacingMark 115B2:Extend 115B6:- 115B8:SpacingMark",
    "115BC:Extend 115BE:SpacingMark 115BF:Extend 115C1:- 115DC:Extend 115DE:- 11630:SpacingMark",
    "11633:Extend 1163B:SpacingMark 1163D:Extend 1163E:SpacingMark 1163F:Extend 11641:-",
    "116AB:Extend 116AC:SpacingMark 116AD:Extend 116AE:SpacingMark 116B0:Extend 116B8:-",
    "1171D:Extend 1171E:SpacingMark 1171F:Extend 11720:- 11722:Extend 11726:SpacingMark",
    "11727:Extend 1172C:- 1182C:SpacingMark 1182F:Extend 11838:SpacingMark 11839:Extend 1183B:-",
    "11930:Extend 11931:SpacingMark 11936:- 11937:SpacingMark 11939:- 1193B:Extend 1193F:Prepend",
    "11940:SpacingMark 11941:Prepend 11942:SpacingMark 11943:Extend 11944:- 119D1:SpacingMark",
    "119D4:Extend 119D8:- 119DA:Extend 119DC:SpacingMark 119E0:Extend 119E1:- 119E4:SpacingMark",
    "119E5:- 11A01:Extend 11A0B:- 11A33:Extend 11A39:SpacingMark 11A3A:Prepend 11A3B:Extend",
    "11A3F:- 11A47:Extend 11A48:- 11A51:Extend 11A57:SpacingMark 11A59:Extend 11A5C:-",
    "11A84:Prepend 11A8A:Extend 11A97:SpacingMark 11A98:Extend 11A9A:- 11C2F:SpacingMark",
    "11C30:Extend 11C37:- 11C38:Extend 11C3E:SpacingMark 11C3F:Extend 11C40:- 11C92:Extend",
    "11CA8:- 11CA9:SpacingMark 11CAA:Extend 11CB1:SpacingMark 11CB2:Extend 11CB4:SpacingMark",
    "11CB5:Extend 11CB7:- 11D31:Extend 11D37:- 11D3A:Extend 11D3B:- 11D3C:Extend 11D3E:-",
    "11D3F:Extend 11D46:Prepend 11D47:Extend 11D48:- 11D8A:SpacingMark 11D8F:- 11D90:Extend",
    "11D92:- 11D93:SpacingMark 11D95:Extend 11D96:SpacingMark 11D97:Extend 11D98:- 11EF3:Extend",
    "11EF5:SpacingMark 11EF7:- 11F00:Extend 11F02:Prepend 11F03:SpacingMark 11F04:-",
    "11F34:SpacingMark 11F36:Extend 11F3B:- 11F3E:SpacingMark 11F40:Extend 11F43:- 11F5A:Extend",
    "11F5B:- 13430:Control 13440:Extend 13441:- 13447:Extend 13456:- 1611E:Extend",
    "1612A:SpacingMark 1612D:Extend 16130:- 16AF0:Extend 16AF5:- 16B30:Extend 16B37:- 16D63:V",
    "16D64:- 16D67:V 16D6B:- 16F4F:Extend 16F50:- 16F51:SpacingMark 16F88:- 16F8F:Extend 16F93:-",
    "16FE4:Extend 16FE5:- 16FF0:Extend 16FF2:- 1BC9D:Extend 1BC9F:- 1BCA0:Control 1BCA4:-",
    "1CF00:Extend 1CF2E:- 1CF30:Extend 1CF47:- 1D165:Extend 1D16A:- 1D16D:Extend 1D173:Control",
    "1D17B:Extend 1D183:- 1D185:Extend 1D18C:- 1D1AA:Extend 1D1AE:- 1D242:Extend 1D245:-",
    "1DA00:Extend 1DA37:- 1DA3B:Extend 1DA6D:- 1DA75:Extend 1DA76:- 1DA84:Extend 1DA85:-",
    "1DA9B:Extend 1DAA0:- 1DAA1:Extend 1DAB0:- 1E000:Extend 1E007:- 1E008:Extend 1E019:-",
    "1E01B:Extend 1E022:- 1E023:Extend 1E025:- 1E026:Extend 1E02B:- 1E08F:Extend 1E090:-",
    "1E130:Extend 1E137:- 1E2AE:Extend 1E2AF:- 1E2EC:Extend 1E2F0:- 1E4EC:Extend 1E4F0:-",
    "1E5EE:Extend 1E5F0:- 1E8D0:Extend 1E8D7:- 1E944:Extend 1E94B:- 1F1E6:Regional_Indicator",
    "1F200:- 1F3FB:Extend 1F400:- E0000:Control E0020:Extend E0080:Control E0100:Extend",
    "E01F0:Control E1000:-" ]

/-- The values of the grapheme cluster breaks: a value, then the names that stand for it. -/
def clusterBreakNames : List String :=
  [ "CR cr",
    "Control cn control",
    "Extend ex extend",
    "L l",
    "LF lf",
    "LV lv",
    "LVT lvt",
    "Prepend pp prepend",
    "Regional_Indicator ri regionalindicator",
    "SpacingMark sm spacingmark",
    "T t",
    "V v",
    "ZWJ zwj" ]

/-- The Hangul syllables: each block of 28 starts with the one that has no final consonant. -/
def syllableRanges : String → List Range
  | "LV" => (List.range 399).map fun block => ⟨0xAC00 + 28 * block, 0xAC00 + 28 * block⟩
  | "LVT" => (List.range 399).map fun block => ⟨0xAC00 + 28 * block + 1, 0xAC00 + 28 * block + 27⟩
  | _ => []

/-- The code points with a value of the grapheme cluster breaks. -/
def clusterBreakRanges? (name : String) : Option (List Range) :=
  (codeOf? clusterBreakNames name).map fun code =>
    select (runs clusterBreakTable) (· = code) ++ syllableRanges code

/-- The runs of the word breaks: a start in hexadecimal, then the value, or `-` where there is none. -/
def wordBreakTable : List String :=
  [ "0:- A:LF B:Newline D:CR E:- 20:WSegSpace 21:- 22:Double_Quote 23:- 27:Single_Quote 28:-",
    "2C:MidNum 2D:- 2E:MidNumLet 2F:- 30:Numeric 3A:MidLetter 3B:MidNum 3C:- 41:ALetter 5B:-",
    "5F:ExtendNumLet 60:- 61:ALetter 7B:- 85:Newline 86:- AA:ALetter AB:- AD:Format AE:-",
    "B5:ALetter B6:- B7:MidLetter B8:- BA:ALetter BB:- C0:ALetter D7:- D8:ALetter F7:- F8:ALetter",
    "2D8:- 2DE:ALetter 300:Extend 370:ALetter 375:- 376:ALetter 378:- 37A:ALetter 37E:MidNum",
    "37F:ALetter 380:- 386:ALetter 387:MidLetter 388:ALetter 38B:- 38C:ALetter 38D:- 38E:ALetter",
    "3A2:- 3A3:ALetter 3F6:- 3F7:ALetter 482:- 483:Extend 48A:ALetter 530:- 531:ALetter 557:-",
    "559:ALetter 55D:- 55E:ALetter 55F:MidLetter 560:ALetter 589:MidNum 58A:ALetter 58B:-",
    "591:Extend 5BE:- 5BF:Extend 5C0:- 5C1:Extend 5C3:- 5C4:Extend 5C6:- 5C7:Extend 5C8:-",
    "5D0:Hebrew_Letter 5EB:- 5EF:Hebrew_Letter 5F3:ALetter 5F4:MidLetter 5F5:- 600:Numeric 606:-",
    "60C:MidNum 60E:- 610:Extend 61B:- 61C:Format 61D:- 620:ALetter 64B:Extend 660:Numeric 66A:-",
    "66B:Numeric 66C:MidNum 66D:- 66E:ALetter 670:Extend 671:ALetter 6D4:- 6D5:ALetter 6D6:Extend",
    "6DD:Numeric 6DE:- 6DF:Extend 6E5:ALetter 6E7:Extend 6E9:- 6EA:Extend 6EE:ALetter 6F0:Numeric",
    "6FA:ALetter 6FD:- 6FF:ALetter 700:- 70F:ALetter 711:Extend 712:ALetter 730:Extend 74B:-",
    "74D:ALetter 7A6:Extend 7B1:ALetter 7B2:- 7C0:Numeric 7CA:ALetter 7EB:Extend 7F4:ALetter",
    "7F6:- 7F8:MidNum 7F9:- 7FA:ALetter 7FB:- 7FD:Extend 7FE:- 800:ALetter 816:Extend 81A:ALetter",
    "81B:Extend 824:ALetter 825:Extend 828:ALetter 829:Extend 82E:- 840:ALetter 859:Extend 85C:-",
    "860:ALetter 86B:- 870:ALetter 888:- 889:ALetter 88F:- 890:Numeric 892:- 897:Extend",
    "8A0:ALetter 8CA:Extend 8E2:Numeric 8E3:Extend 904:ALetter 93A:Extend 93D:ALetter 93E:Extend",
    "950:ALetter 951:Extend 958:ALetter 962:Extend 964:- 966:Numeric 970:- 971:ALetter 981:Extend",
    "984:- 985:ALetter 98D:- 98F:ALetter 991:- 993:ALetter 9A9:- 9AA:ALetter 9B1:- 9B2:ALetter",
    "9B3:- 9B6:ALetter 9BA:- 9BC:Extend 9BD:ALetter 9BE:Extend 9C5:- 9C7:Extend 9C9:- 9CB:Extend",
    "9CE:ALetter 9CF:- 9D7:Extend 9D8:- 9DC:ALetter 9DE:- 9DF:ALetter 9E2:Extend 9E4:-",
    "9E6:Numeric 9F0:ALetter 9F2:- 9FC:ALetter 9FD:- 9FE:Extend 9FF:- A01:Extend A04:-",
    "A05:ALetter A0B:- A0F:ALetter A11:- A13:ALetter A29:- A2A:ALetter A31:- A32:ALetter A34:-",
    "A35:ALetter A37:- A38:ALetter A3A:- A3C:Extend A3D:- A3E:Extend A43:- A47:Extend A49:-",
    "A4B:Extend A4E:- A51:Extend A52:- A59:ALetter A5D:- A5E:ALetter A5F:- A66:Numeric A70:Extend",
    "A72:ALetter A75:Extend A76:- A81:Extend A84:- A85:ALetter A8E:- A8F:ALetter A92:-",
    "A93:ALetter AA9:- AAA:ALetter AB1:- AB2:ALetter AB4:- AB5:ALetter ABA:- ABC:Extend",
    "ABD:ALetter ABE:Extend AC6:- AC7:Extend ACA:- ACB:Extend ACE:- AD0:ALetter AD1:- AE0:ALetter",
    "AE2:Extend AE4:- AE6:Numeric AF0:- AF9:ALetter AFA:Extend B00:- B01:Extend B04:- B05:ALetter",
    "B0D:- B0F:ALetter B11:- B13:ALetter B29:- B2A:ALetter B31:- B32:ALetter B34:- B35:ALetter",
    "B3A:- B3C:Extend B3D:ALetter B3E:Extend B45:- B47:Extend B49:- B4B:Extend B4E:- B55:Extend",
    "B58:- B5C:ALetter B5E:- B5F:ALetter B62:Extend B64:- B66:Numeric B70:- B71:ALetter B72:-",
    "B82:Extend B83:ALetter B84:- B85:ALetter B8B:- B8E:ALetter B91:- B92:ALetter B96:-",
    "B99:ALetter B9B:- B9C:ALetter B9D:- B9E:ALetter BA0:- BA3:ALetter BA5:- BA8:ALetter BAB:-",
    "BAE:ALetter BBA:- BBE:Extend BC3:- BC6:Extend BC9:- BCA:Extend BCE:- BD0:ALetter BD1:-",
    "BD7:Extend BD8:- BE6:Numeric BF0:- C00:Extend C05:ALetter C0D:- C0E:ALetter C11:-",
    "C12:ALetter C29:- C2A:ALetter C3A:- C3C:Extend C3D:ALetter C3E:Extend C45:- C46:Extend C49:-",
    "C4A:Extend C4E:- C55:Extend C57:- C58:ALetter C5B:- C5D:ALetter C5E:- C60:ALetter C62:Extend",
    "C64:- C66:Numeric C70:- C80:ALetter C81:Extend C84:- C85:ALetter C8D:- C8E:ALetter C91:-",
    "C92:ALetter CA9:- CAA:ALetter CB4:- CB5:ALetter CBA:- CBC:Extend CBD:ALetter CBE:Extend",
    "CC5:- CC6:Extend CC9:- CCA:Extend CCE:- CD5:Extend CD7:- CDD:ALetter CDF:- CE0:ALetter",
    "CE2:Extend CE4:- CE6:Numeric CF0:- CF1:ALetter CF3:Extend CF4:- D00:Extend D04:ALetter D0D:-",
    "D0E:ALetter D11:- D12:ALetter D3B:Extend D3D:ALetter D3E:Extend D45:- D46:Extend D49:-",
    "D4A:Extend D4E:ALetter D4F:- D54:ALetter D57:Extend D58:- D5F:ALetter D62:Extend D64:-",
    "D66:Numeric D70:- D7A:ALetter D80:- D81:Extend D84:- D85:ALetter D97:- D9A:ALetter DB2:-",
    "DB3:ALetter DBC:- DBD:ALetter DBE:- DC0:ALetter DC7:- DCA:Extend DCB:- DCF:Extend DD5:-",
    "DD6:Extend DD7:- DD8:Extend DE0:- DE6:Numeric DF0:- DF2:Extend DF4:- E31:Extend E32:-",
    "E34:Extend E3B:- E47:Extend E4F:- E50:Numeric E5A:- EB1:Extend EB2:- EB4:Extend EBD:-",
    "EC8:Extend ECF:- ED0:Numeric EDA:- F00:ALetter F01:- F18:Extend F1A:- F20:Numeric F2A:-",
    "F35:Extend F36:- F37:Extend F38:- F39:Extend F3A:- F3E:Extend F40:ALetter F48:- F49:ALetter",
    "F6D:- F71:Extend F85:- F86:Extend F88:ALetter F8D:Extend F98:- F99:Extend FBD:- FC6:Extend",
    "FC7:- 102B:Extend 103F:- 1040:Numeric 104A:- 1056:Extend 105A:- 105E:Extend 1061:-",
    "1062:Extend 1065:- 1067:Extend 106E:- 1071:Extend 1075:- 1082:Extend 108E:- 108F:Extend",
    "1090:Numeric 109A:Extend 109E:- 10A0:ALetter 10C6:- 10C7:ALetter 10C8:- 10CD:ALetter 10CE:-",
    "10D0:ALetter 10FB:- 10FC:ALetter 1249:- 124A:ALetter 124E:- 1250:ALetter 1257:- 1258:ALetter",
    "1259:- 125A:ALetter 125E:- 1260:ALetter 1289:- 128A:ALetter 128E:- 1290:ALetter 12B1:-",
    "12B2:ALetter 12B6:- 12B8:ALetter 12BF:- 12C0:ALetter 12C1:- 12C2:ALetter 12C6:- 12C8:ALetter",
    "12D7:- 12D8:ALetter 1311:- 1312:ALetter 1316:- 1318:ALetter 135B:- 135D:Extend 1360:-",
    "1380:ALetter 1390:- 13A0:ALetter 13F6:- 13F8:ALetter 13FE:- 1401:ALetter 166D:- 166F:ALetter",
    "1680:WSegSpace 1681:ALetter 169B:- 16A0:ALetter 16EB:- 16EE:ALetter 16F9:- 1700:ALetter",
    "1712:Extend 1716:- 171F:ALetter 1732:Extend 1735:- 1740:ALetter 1752:Extend 1754:-",
    "1760:ALetter 176D:- 176E:ALetter 1771:- 1772:Extend 1774:- 17B4:Extend 17D4:- 17DD:Extend",
    "17DE:- 17E0:Numeric 17EA:- 180B:Extend 180E:Format 180F:Extend 1810:Numeric 181A:-",
    "1820:ALetter 1879:- 1880:ALetter 1885:Extend 1887:ALetter 18A9:Extend 18AA:ALetter 18AB:-",
    "18B0:ALetter 18F6:- 1900:ALetter 191F:- 1920:Extend 192C:- 1930:Extend 193C:- 1946:Numeric",
    "1950:- 19D0:Numeric 19DA:- 1A00:ALetter 1A17:Extend 1A1C:- 1A55:Extend 1A5F:- 1A60:Extend",
    "1A7D:- 1A7F:Extend 1A80:Numeric 1A8A:- 1A90:Numeric 1A9A:- 1AB0:Extend 1ACF:- 1B00:Extend",
    "1B05:ALetter 1B34:Extend 1B45:ALetter 1B4D:- 1B50:Numeric 1B5A:- 1B6B:Extend 1B74:-",
    "1B80:Extend 1B83:ALetter 1BA1:Extend 1BAE:ALetter 1BB0:Numeric 1BBA:ALetter 1BE6:Extend",
    "1BF4:- 1C00:ALetter 1C24:Extend 1C38:- 1C40:Numeric 1C4A:- 1C4D:ALetter 1C50:Numeric",
    "1C5A:ALetter 1C7E:- 1C80:ALetter 1C8B:- 1C90:ALetter 1CBB:- 1CBD:ALetter 1CC0:- 1CD0:Extend",
    "1CD3:- 1CD4:Extend 1CE9:ALetter 1CED:Extend 1CEE:ALetter 1CF4:Extend 1CF5:ALetter",
    "1CF7:Extend 1CFA:ALetter 1CFB:- 1D00:ALetter 1DC0:Extend 1E00:ALetter 1F16:- 1F18:ALetter",
    "1F1E:- 1F20:ALetter 1F46:- 1F48:ALetter 1F4E:- 1F50:ALetter 1F58:- 1F59:ALetter 1F5A:-",
    "1F5B:ALetter 1F5C:- 1F5D:ALetter 1F5E:- 1F5F:ALetter 1F7E:- 1F80:ALetter 1FB5:- 1FB6:ALetter",
    "1FBD:- 1FBE:ALetter 1FBF:- 1FC2:ALetter 1FC5:- 1FC6:ALetter 1FCD:- 1FD0:ALetter 1FD4:-",
    "1FD6:ALetter 1FDC:- 1FE0:ALetter 1FED:- 1FF2:ALetter 1FF5:- 1FF6:ALetter 1FFD:-",
    "2000:WSegSpace 2007:- 2008:WSegSpace 200B:- 200C:Extend 200D:ZWJ 200E:Format 2010:-",
    "2018:MidNumLet 201A:- 2024:MidNumLet 2025:- 2027:MidLetter 2028:Newline 202A:Format",
    "202F:ExtendNumLet 2030:- 203F:ExtendNumLet 2041:- 2044:MidNum 2045:- 2054:ExtendNumLet",
    "2055:- 205F:WSegSpace 2060:Format 2065:- 2066:Format 2070:- 2071:ALetter 2072:- 207F:ALetter",
    "2080:- 2090:ALetter 209D:- 20D0:Extend 20F1:- 2102:ALetter 2103:- 2107:ALetter 2108:-",
    "210A:ALetter 2114:- 2115:ALetter 2116:- 2119:ALetter 211E:- 2124:ALetter 2125:- 2126:ALetter",
    "2127:- 2128:ALetter 2129:- 212A:ALetter 212E:- 212F:ALetter 213A:- 213C:ALetter 2140:-",
    "2145:ALetter 214A:- 214E:ALetter 214F:- 2160:ALetter 2189:- 24B6:ALetter 24EA:- 2C00:ALetter",
    "2CE5:- 2CEB:ALetter 2CEF:Extend 2CF2:ALetter 2CF4:- 2D00:ALetter 2D26:- 2D27:ALetter 2D28:-",
    "2D2D:ALetter 2D2E:- 2D30:ALetter 2D68:- 2D6F:ALetter 2D70:- 2D7F:Extend 2D80:ALetter 2D97:-",
    "2DA0:ALetter 2DA7:- 2DA8:ALetter 2DAF:- 2DB0:ALetter 2DB7:- 2DB8:ALetter 2DBF:- 2DC0:ALetter",
    "2DC7:- 2DC8:ALetter 2DCF:- 2DD0:ALetter 2DD7:- 2DD8:ALetter 2DDF:- 2DE0:Extend 2E00:-",
    "2E2F:ALetter 2E30:- 3000:WSegSpace 3001:- 3005:ALetter 3006:- 302A:Extend 3030:-",
    "3031:Katakana 3036:- 303B:ALetter 303D:- 3099:Extend 309B:Katakana 309D:- 30A0:Katakana",
    "30FB:- 30FC:Katakana 3100:- 3105:ALetter 3130:- 3131:ALetter 318F:- 31A0:ALetter 31C0:-",
    "31F0:Katakana 3200:- 32D0:Katakana 32FF:- 3300:Katakana 3358:- A000:ALetter A48D:-",
    "A4D0:ALetter A4FE:- A500:ALetter A60D:- A610:ALetter A620:Numeric A62A:ALetter A62C:-",
    "A640:ALetter A66F:Extend A673:- A674:Extend A67E:- A67F:ALetter A69E:Extend A6A0:ALetter",
    "A6F0:Extend A6F2:- A708:ALetter A7CE:- A7D0:ALetter A7D2:- A7D3:ALetter A7D4:- A7D5:ALetter",
    "A7DD:- A7F2:ALetter A802:Extend A803:ALetter A806:Extend A807:ALetter A80B:Extend",
    "A80C:ALetter A823:Extend A828:- A82C:Extend A82D:- A840:ALetter A874:- A880:Extend",
    "A882:ALetter A8B4:Extend A8C6:- A8D0:Numeric A8DA:- A8E0:Extend A8F2:ALetter A8F8:-",
    "A8FB:ALetter A8FC:- A8FD:ALetter A8FF:Extend A900:Numeric A90A:ALetter A926:Extend A92E:-",
    "A930:ALetter A947:Extend A954:- A960:ALetter A97D:- A980:Extend A984:ALetter A9B3:Extend",
    "A9C1:- A9CF:ALetter A9D0:Numeric A9DA:- A9E5:Extend A9E6:- A9F0:Numeric A9FA:- AA00:ALetter",
    "AA29:Extend AA37:- AA40:ALetter AA43:Extend AA44:ALetter AA4C:Extend AA4E:- AA50:Numeric",
    "AA5A:- AA7B:Extend AA7E:- AAB0:Extend AAB1:- AAB2:Extend AAB5:- AAB7:Extend AAB9:-",
    "AABE:Extend AAC0:- AAC1:Extend AAC2:- AAE0:ALetter AAEB:Extend AAF0:- AAF2:ALetter",
    "AAF5:Extend AAF7:- AB01:ALetter AB07:- AB09:ALetter AB0F:- AB11:ALetter AB17:- AB20:ALetter",
    "AB27:- AB28:ALetter AB2F:- AB30:ALetter AB6A:- AB70:ALetter ABE3:Extend ABEB:- ABEC:Extend",
    "ABEE:- ABF0:Numeric ABFA:- AC00:ALetter D7A4:- D7B0:ALetter D7C7:- D7CB:ALetter D7FC:-",
    "FB00:ALetter FB07:- FB13:ALetter FB18:- FB1D:Hebrew_Letter FB1E:Extend FB1F:Hebrew_Letter",
    "FB29:- FB2A:Hebrew_Letter FB37:- FB38:Hebrew_Letter FB3D:- FB3E:Hebrew_Letter FB3F:-",
    "FB40:Hebrew_Letter FB42:- FB43:Hebrew_Letter FB45:- FB46:Hebrew_Letter FB50:ALetter FBB2:-",
    "FBD3:ALetter FD3E:- FD50:ALetter FD90:- FD92:ALetter FDC8:- FDF0:ALetter FDFC:- FE00:Extend",
    "FE10:MidNum FE11:- FE13:MidLetter FE14:MidNum FE15:- FE20:Extend FE30:- FE33:ExtendNumLet",
    "FE35:- FE4D:ExtendNumLet FE50:MidNum FE51:- FE52:MidNumLet FE53:- FE54:MidNum FE55:MidLetter",
    "FE56:- FE70:ALetter FE75:- FE76:ALetter FEFD:- FEFF:Format FF00:- FF07:MidNumLet FF08:-",
    "FF0C:MidNum FF0D:- FF0E:MidNumLet FF0F:- FF10:Numeric FF1A:MidLetter FF1B:MidNum FF1C:-",
    "FF21:ALetter FF3B:- FF3F:ExtendNumLet FF40:- FF41:ALetter FF5B:- FF66:Katakana FF9E:Extend",
    "FFA0:ALetter FFBF:- FFC2:ALetter FFC8:- FFCA:ALetter FFD0:- FFD2:ALetter FFD8:- FFDA:ALetter",
    "FFDD:- FFF9:Format FFFC:- 10000:ALetter 1000C:- 1000D:ALetter 10027:- 10028:ALetter 1003B:-",
    "1003C:ALetter 1003E:- 1003F:ALetter 1004E:- 10050:ALetter 1005E:- 10080:ALetter 100FB:-",
    "10140:ALetter 10175:- 101FD:Extend 101FE:- 10280:ALetter 1029D:- 102A0:ALetter 102D1:-",
    "102E0:Extend 102E1:- 10300:ALetter 10320:- 1032D:ALetter 1034B:- 10350:ALetter 10376:Extend",
    "1037B:- 10380:ALetter 1039E:- 103A0:ALetter 103C4:- 103C8:ALetter 103D0:- 103D1:ALetter",
    "103D6:- 10400:ALetter 1049E:- 104A0:Numeric 104AA:- 104B0:ALetter 104D4:- 104D8:ALetter",
    "104FC:- 10500:ALetter 10528:- 10530:ALetter 10564:- 10570:ALetter 1057B:- 1057C:ALetter",
    "1058B:- 1058C:ALetter 10593:- 10594:ALetter 10596:- 10597:ALetter 105A2:- 105A3:ALetter",
    "105B2:- 105B3:ALetter 105BA:- 105BB:ALetter 105BD:- 105C0:ALetter 105F4:- 10600:ALetter",
    "10737:- 10740:ALetter 10756:- 10760:ALetter 10768:- 10780:ALetter 10786:- 10787:ALetter",
    "107B1:- 107B2:ALetter 107BB:- 10800:ALetter 10806:- 10808:ALetter 10809:- 1080A:ALetter",
    "10836:- 10837:ALetter 10839:- 1083C:ALetter 1083D:- 1083F:ALetter 10856:- 10860:ALetter",
    "10877:- 10880:ALetter 1089F:- 108E0:ALetter 108F3:- 108F4:ALetter 108F6:- 10900:ALetter",
    "10916:- 10920:ALetter 1093A:- 10980:ALetter 109B8:- 109BE:ALetter 109C0:- 10A00:ALetter",
    "10A01:Extend 10A04:- 10A05:Extend 10A07:- 10A0C:Extend 10A10:ALetter 10A14:- 10A15:ALetter",
    "10A18:- 10A19:ALetter 10A36:- 10A38:Extend 10A3B:- 10A3F:Extend 10A40:- 10A60:ALetter",
    "10A7D:- 10A80:ALetter 10A9D:- 10AC0:ALetter 10AC8:- 10AC9:ALetter 10AE5:Extend 10AE7:-",
    "10B00:ALetter 10B36:- 10B40:ALetter 10B56:- 10B60:ALetter 10B73:- 10B80:ALetter 10B92:-",
    "10C00:ALetter 10C49:- 10C80:ALetter 10CB3:- 10CC0:ALetter 10CF3:- 10D00:ALetter 10D24:Extend",
    "10D28:- 10D30:Numeric 10D3A:- 10D40:Numeric 10D4A:ALetter 10D66:- 10D69:Extend 10D6E:-",
    "10D6F:ALetter 10D86:- 10E80:ALetter 10EAA:- 10EAB:Extend 10EAD:- 10EB0:ALetter 10EB2:-",
    "10EC2:ALetter 10EC5:- 10EFC:Extend 10F00:ALetter 10F1D:- 10F27:ALetter 10F28:- 10F30:ALetter",
    "10F46:Extend 10F51:- 10F70:ALetter 10F82:Extend 10F86:- 10FB0:ALetter 10FC5:- 10FE0:ALetter",
    "10FF7:- 11000:Extend 11003:ALetter 11038:Extend 11047:- 11066:Numeric 11070:Extend",
    "11071:ALetter 11073:Extend 11075:ALetter 11076:- 1107F:Extend 11083:ALetter 110B0:Extend",
    "110BB:- 110BD:Numeric 110BE:- 110C2:Extend 110C3:- 110CD:Numeric 110CE:- 110D0:ALetter",
    "110E9:- 110F0:Numeric 110FA:- 11100:Extend 11103:ALetter 11127:Extend 11135:- 11136:Numeric",
    "11140:- 11144:ALetter 11145:Extend 11147:ALetter 11148:- 11150:ALetter 11173:Extend 11174:-",
    "11176:ALetter 11177:- 11180:Extend 11183:ALetter 111B3:Extend 111C1:ALetter 111C5:-",
    "111C9:Extend 111CD:- 111CE:Extend 111D0:Numeric 111DA:ALetter 111DB:- 111DC:ALetter 111DD:-",
    "11200:ALetter 11212:- 11213:ALetter 1122C:Extend 11238:- 1123E:Extend 1123F:ALetter",
    "11241:Extend 11242:- 11280:ALetter 11287:- 11288:ALetter 11289:- 1128A:ALetter 1128E:-",
    "1128F:ALetter 1129E:- 1129F:ALetter 112A9:- 112B0:ALetter 112DF:Extend 112EB:- 112F0:Numeric",
    "112FA:- 11300:Extend 11304:- 11305:ALetter 1130D:- 1130F:ALetter 11311:- 11313:ALetter",
    "11329:- 1132A:ALetter 11331:- 11332:ALetter 11334:- 11335:ALetter 1133A:- 1133B:Extend",
    "1133D:ALetter 1133E:Extend 11345:- 11347:Extend 11349:- 1134B:Extend 1134E:- 11350:ALetter",
    "11351:- 11357:Extend 11358:- 1135D:ALetter 11362:Extend 11364:- 11366:Extend 1136D:-",
    "11370:Extend 11375:- 11380:ALetter 1138A:- 1138B:ALetter 1138C:- 1138E:ALetter 1138F:-",
    "11390:ALetter 113B6:- 113B7:ALetter 113B8:Extend 113C1:- 113C2:Extend 113C3:- 113C5:Extend",
    "113C6:- 113C7:Extend 113CB:- 113CC:Extend 113D1:ALetter 113D2:Extend 113D3:ALetter 113D4:-",
    "113E1:Extend 113E3:- 11400:ALetter 11435:Extend 11447:ALetter 1144B:- 11450:Numeric 1145A:-",
    "1145E:Extend 1145F:ALetter 11462:- 11480:ALetter 114B0:Extend 114C4:ALetter 114C6:-",
    "114C7:ALetter 114C8:- 114D0:Numeric 114DA:- 11580:ALetter 115AF:Extend 115B6:- 115B8:Extend",
    "115C1:- 115D8:ALetter 115DC:Extend 115DE:- 11600:ALetter 11630:Extend 11641:- 11644:ALetter",
    "11645:- 11650:Numeric 1165A:- 11680:ALetter 116AB:Extend 116B8:ALetter 116B9:- 116C0:Numeric",
    "116CA:- 116D0:Numeric 116E4:- 1171D:Extend 1172C:- 11730:Numeric 1173A:- 11800:ALetter",
    "1182C:Extend 1183B:- 118A0:ALetter 118E0:Numeric 118EA:- 118FF:ALetter 11907:- 11909:ALetter",
    "1190A:- 1190C:ALetter 11914:- 11915:ALetter 11917:- 11918:ALetter 11930:Extend 11936:-",
    "11937:Extend 11939:- 1193B:Extend 1193F:ALetter 11940:Extend 11941:ALetter 11942:Extend",
    "11944:- 11950:Numeric 1195A:- 119A0:ALetter 119A8:- 119AA:ALetter 119D1:Extend 119D8:-",
    "119DA:Extend 119E1:ALetter 119E2:- 119E3:ALetter 119E4:Extend 119E5:- 11A00:ALetter",
    "11A01:Extend 11A0B:ALetter 11A33:Extend 11A3A:ALetter 11A3B:Extend 11A3F:- 11A47:Extend",
    "11A48:- 11A50:ALetter 11A51:Extend 11A5C:ALetter 11A8A:Extend 11A9A:- 11A9D:ALetter 11A9E:-",
    "11AB0:ALetter 11AF9:- 11BC0:ALetter 11BE1:- 11BF0:Numeric 11BFA:- 11C00:ALetter 11C09:-",
    "11C0A:ALetter 11C2F:Extend 11C37:- 11C38:Extend 11C40:ALetter 11C41:- 11C50:Numeric 11C5A:-",
    "11C72:ALetter 11C90:- 11C92:Extend 11CA8:- 11CA9:Extend 11CB7:- 11D00:ALetter 11D07:-",
    "11D08:ALetter 11D0A:- 11D0B:ALetter 11D31:Extend 11D37:- 11D3A:Extend 11D3B:- 11D3C:Extend",
    "11D3E:- 11D3F:Extend 11D46:ALetter 11D47:Extend 11D48:- 11D50:Numeric 11D5A:- 11D60:ALetter",
    "11D66:- 11D67:ALetter 11D69:- 11D6A:ALetter 11D8A:Extend 11D8F:- 11D90:Extend 11D92:-",
    "11D93:Extend 11D98:ALetter 11D99:- 11DA0:Numeric 11DAA:- 11EE0:ALetter 11EF3:Extend 11EF7:-",
    "11F00:Extend 11F02:ALetter 11F03:Extend 11F04:ALetter 11F11:- 11F12:ALetter 11F34:Extend",
    "11F3B:- 11F3E:Extend 11F43:- 11F50:Numeric 11F5A:Extend 11F5B:- 11FB0:ALetter 11FB1:-",
    "12000:ALetter 1239A:- 12400:ALetter 1246F:- 12480:ALetter 12544:- 12F90:ALetter 12FF1:-",
    "13000:ALetter 13430:Format 13440:Extend 13441:ALetter 13447:Extend 13456:- 13460:ALetter",
    "143FB:- 14400:ALetter 14647:- 16100:ALetter 1611E:Extend 16130:Numeric 1613A:- 16800:ALetter",
    "16A39:- 16A40:ALetter 16A5F:- 16A60:Numeric 16A6A:- 16A70:ALetter 16ABF:- 16AC0:Numeric",
    "16ACA:- 16AD0:ALetter 16AEE:- 16AF0:Extend 16AF5:- 16B00:ALetter 16B30:Extend 16B37:-",
    "16B40:ALetter 16B44:- 16B50:Numeric 16B5A:- 16B63:ALetter 16B78:- 16B7D:ALetter 16B90:-",
    "16D40:ALetter 16D6D:- 16D70:Numeric 16D7A:- 16E40:ALetter 16E80:- 16F00:ALetter 16F4B:-",
    "16F4F:Extend 16F50:ALetter 16F51:Extend 16F88:- 16F8F:Extend 16F93:ALetter 16FA0:-",
    "16FE0:ALetter 16FE2:- 16FE3:ALetter 16FE4:Extend 16FE5:- 16FF0:Extend 16FF2:- 1AFF0:Katakana",
    "1AFF4:- 1AFF5:Katakana 1AFFC:- 1AFFD:Katakana 1AFFF:- 1B000:Katakana 1B001:- 1B120:Katakana",
    "1B123:- 1B155:Katakana 1B156:- 1B164:Katakana 1B168:- 1BC00:ALetter 1BC6B:- 1BC70:ALetter",
    "1BC7D:- 1BC80:ALetter 1BC89:- 1BC90:ALetter 1BC9A:- 1BC9D:Extend 1BC9F:- 1BCA0:Format",
    "1BCA4:- 1CCF0:Numeric 1CCFA:- 1CF00:Extend 1CF2E:- 1CF30:Extend 1CF47:- 1D165:Extend 1D16A:-",
    "1D16D:Extend 1D173:Format 1D17B:Extend 1D183:- 1D185:Extend 1D18C:- 1D1AA:Extend 1D1AE:-",
    "1D242:Extend 1D245:- 1D400:ALetter 1D455:- 1D456:ALetter 1D49D:- 1D49E:ALetter 1D4A0:-",
    "1D4A2:ALetter 1D4A3:- 1D4A5:ALetter 1D4A7:- 1D4A9:ALetter 1D4AD:- 1D4AE:ALetter 1D4BA:-",
    "1D4BB:ALetter 1D4BC:- 1D4BD:ALetter 1D4C4:- 1D4C5:ALetter 1D506:- 1D507:ALetter 1D50B:-",
    "1D50D:ALetter 1D515:- 1D516:ALetter 1D51D:- 1D51E:ALetter 1D53A:- 1D53B:ALetter 1D53F:-",
    "1D540:ALetter 1D545:- 1D546:ALetter 1D547:- 1D54A:ALetter 1D551:- 1D552:ALetter 1D6A6:-",
    "1D6A8:ALetter 1D6C1:- 1D6C2:ALetter 1D6DB:- 1D6DC:ALetter 1D6FB:- 1D6FC:ALetter 1D715:-",
    "1D716:ALetter 1D735:- 1D736:ALetter 1D74F:- 1D750:ALetter 1D76F:- 1D770:ALetter 1D789:-",
    "1D78A:ALetter 1D7A9:- 1D7AA:ALetter 1D7C3:- 1D7C4:ALetter 1D7CC:- 1D7CE:Numeric 1D800:-",
    "1DA00:Extend 1DA37:- 1DA3B:Extend 1DA6D:- 1DA75:Extend 1DA76:- 1DA84:Extend 1DA85:-",
    "1DA9B:Extend 1DAA0:- 1DAA1:Extend 1DAB0:- 1DF00:ALetter 1DF1F:- 1DF25:ALetter 1DF2B:-",
    "1E000:Extend 1E007:- 1E008:Extend 1E019:- 1E01B:Extend 1E022:- 1E023:Extend 1E025:-",
    "1E026:Extend 1E02B:- 1E030:ALetter 1E06E:- 1E08F:Extend 1E090:- 1E100:ALetter 1E12D:-",
    "1E130:Extend 1E137:ALetter 1E13E:- 1E140:Numeric 1E14A:- 1E14E:ALetter 1E14F:- 1E290:ALetter",
    "1E2AE:Extend 1E2AF:- 1E2C0:ALetter 1E2EC:Extend 1E2F0:Numeric 1E2FA:- 1E4D0:ALetter",
    "1E4EC:Extend 1E4F0:Numeric 1E4FA:- 1E5D0:ALetter 1E5EE:Extend 1E5F0:ALetter 1E5F1:Numeric",
    "1E5FB:- 1E7E0:ALetter 1E7E7:- 1E7E8:ALetter 1E7EC:- 1E7ED:ALetter 1E7EF:- 1E7F0:ALetter",
    "1E7FF:- 1E800:ALetter 1E8C5:- 1E8D0:Extend 1E8D7:- 1E900:ALetter 1E944:Extend 1E94B:ALetter",
    "1E94C:- 1E950:Numeric 1E95A:- 1EE00:ALetter 1EE04:- 1EE05:ALetter 1EE20:- 1EE21:ALetter",
    "1EE23:- 1EE24:ALetter 1EE25:- 1EE27:ALetter 1EE28:- 1EE29:ALetter 1EE33:- 1EE34:ALetter",
    "1EE38:- 1EE39:ALetter 1EE3A:- 1EE3B:ALetter 1EE3C:- 1EE42:ALetter 1EE43:- 1EE47:ALetter",
    "1EE48:- 1EE49:ALetter 1EE4A:- 1EE4B:ALetter 1EE4C:- 1EE4D:ALetter 1EE50:- 1EE51:ALetter",
    "1EE53:- 1EE54:ALetter 1EE55:- 1EE57:ALetter 1EE58:- 1EE59:ALetter 1EE5A:- 1EE5B:ALetter",
    "1EE5C:- 1EE5D:ALetter 1EE5E:- 1EE5F:ALetter 1EE60:- 1EE61:ALetter 1EE63:- 1EE64:ALetter",
    "1EE65:- 1EE67:ALetter 1EE6B:- 1EE6C:ALetter 1EE73:- 1EE74:ALetter 1EE78:- 1EE79:ALetter",
    "1EE7D:- 1EE7E:ALetter 1EE7F:- 1EE80:ALetter 1EE8A:- 1EE8B:ALetter 1EE9C:- 1EEA1:ALetter",
    "1EEA4:- 1EEA5:ALetter 1EEAA:- 1EEAB:ALetter 1EEBC:- 1F130:ALetter 1F14A:- 1F150:ALetter",
    "1F16A:- 1F170:ALetter 1F18A:- 1F1E6:Regional_Indicator 1F200:- 1F3FB:Extend 1F400:-",
    "1FBF0:Numeric 1FBFA:- E0001:Format E0002:- E0020:Extend E0080:- E0100:Extend E01F0:-" ]

/-- The values of the word breaks: a value, then the names that stand for it. -/
def wordBreakNames : List String :=
  [ "ALetter le aletter",
    "CR cr",
    "Double_Quote dq doublequote",
    "Extend extend",
    "ExtendNumLet ex extendnumlet",
    "Format fo format",
    "Hebrew_Letter hl hebrewletter",
    "Katakana ka katakana",
    "LF lf",
    "MidLetter ml midletter",
    "MidNum mn midnum",
    "MidNumLet mb midnumlet",
    "Newline nl newline",
    "Numeric nu numeric",
    "Regional_Indicator ri regionalindicator",
    "Single_Quote sq singlequote",
    "WSegSpace wsegspace",
    "ZWJ zwj" ]

/-- The code points with a value of the word breaks. -/
def wordBreakRanges? (name : String) : Option (List Range) :=
  (codeOf? wordBreakNames name).map fun code => select (runs wordBreakTable) (· = code)

/-- The runs of the sentence breaks: a start in hexadecimal, then the value, or `-` where there is none. -/
def sentenceBreakTable : List String :=
  [ "0:- 9:Sp A:LF B:Sp D:CR E:- 20:Sp 21:STerm 22:Close 23:- 27:Close 2A:- 2C:SContinue 2E:ATerm",
    "2F:- 30:Numeric 3A:SContinue 3C:- 3F:STerm 40:- 41:Upper 5B:Close 5C:- 5D:Close 5E:-",
    "61:Lower 7B:Close 7C:- 7D:Close 7E:- 85:Sep 86:- A0:Sp A1:- AA:Lower AB:Close AC:- AD:Format",
    "AE:- B5:Lower B6:- BA:Lower BB:Close BC:- C0:Upper D7:- D8:Upper DF:Lower F7:- F8:Lower",
    "100:Upper 101:Lower 102:Upper 103:Lower 104:Upper 105:Lower 106:Upper 107:Lower 108:Upper",
    "109:Lower 10A:Upper 10B:Lower 10C:Upper 10D:Lower 10E:Upper 10F:Lower 110:Upper 111:Lower",
    "112:Upper 113:Lower 114:Upper 115:Lower 116:Upper 117:Lower 118:Upper 119:Lower 11A:Upper",
    "11B:Lower 11C:Upper 11D:Lower 11E:Upper 11F:Lower 120:Upper 121:Lower 122:Upper 123:Lower",
    "124:Upper 125:Lower 126:Upper 127:Lower 128:Upper 129:Lower 12A:Upper 12B:Lower 12C:Upper",
    "12D:Lower 12E:Upper 12F:Lower 130:Upper 131:Lower 132:Upper 133:Lower 134:Upper 135:Lower",
    "136:Upper 137:Lower 139:Upper 13A:Lower 13B:Upper 13C:Lower 13D:Upper 13E:Lower 13F:Upper",
    "140:Lower 141:Upper 142:Lower 143:Upper 144:Lower 145:Upper 146:Lower 147:Upper 148:Lower",
    "14A:Upper 14B:Lower 14C:Upper 14D:Lower 14E:Upper 14F:Lower 150:Upper 151:Lower 152:Upper",
    "153:Lower 154:Upper 155:Lower 156:Upper 157:Lower 158:Upper 159:Lower 15A:Upper 15B:Lower",
    "15C:Upper 15D:Lower 15E:Upper 15F:Lower 160:Upper 161:Lower 162:Upper 163:Lower 164:Upper",
    "165:Lower 166:Upper 167:Lower 168:Upper 169:Lower 16A:Upper 16B:Lower 16C:Upper 16D:Lower",
    "16E:Upper 16F:Lower 170:Upper 171:Lower 172:Upper 173:Lower 174:Upper 175:Lower 176:Upper",
    "177:Lower 178:Upper 17A:Lower 17B:Upper 17C:Lower 17D:Upper 17E:Lower 181:Upper 183:Lower",
    "184:Upper 185:Lower 186:Upper 188:Lower 189:Upper 18C:Lower 18E:Upper 192:Lower 193:Upper",
    "195:Lower 196:Upper 199:Lower 19C:Upper 19E:Lower 19F:Upper 1A1:Lower 1A2:Upper 1A3:Lower",
    "1A4:Upper 1A5:Lower 1A6:Upper 1A8:Lower 1A9:Upper 1AA:Lower 1AC:Upper 1AD:Lower 1AE:Upper",
    "1B0:Lower 1B1:Upper 1B4:Lower 1B5:Upper 1B6:Lower 1B7:Upper 1B9:Lower 1BB:OLetter 1BC:Upper",
    "1BD:Lower 1C0:OLetter 1C4:Upper 1C6:Lower 1C7:Upper 1C9:Lower 1CA:Upper 1CC:Lower 1CD:Upper",
    "1CE:Lower 1CF:Upper 1D0:Lower 1D1:Upper 1D2:Lower 1D3:Upper 1D4:Lower 1D5:Upper 1D6:Lower",
    "1D7:Upper 1D8:Lower 1D9:Upper 1DA:Lower 1DB:Upper 1DC:Lower 1DE:Upper 1DF:Lower 1E0:Upper",
    "1E1:Lower 1E2:Upper 1E3:Lower 1E4:Upper 1E5:Lower 1E6:Upper 1E7:Lower 1E8:Upper 1E9:Lower",
    "1EA:Upper 1EB:Lower 1EC:Upper 1ED:Lower 1EE:Upper 1EF:Lower 1F1:Upper 1F3:Lower 1F4:Upper",
    "1F5:Lower 1F6:Upper 1F9:Lower 1FA:Upper 1FB:Lower 1FC:Upper 1FD:Lower 1FE:Upper 1FF:Lower",
    "200:Upper 201:Lower 202:Upper 203:Lower 204:Upper 205:Lower 206:Upper 207:Lower 208:Upper",
    "209:Lower 20A:Upper 20B:Lower 20C:Upper 20D:Lower 20E:Upper 20F:Lower 210:Upper 211:Lower",
    "212:Upper 213:Lower 214:Upper 215:Lower 216:Upper 217:Lower 218:Upper 219:Lower 21A:Upper",
    "21B:Lower 21C:Upper 21D:Lower 21E:Upper 21F:Lower 220:Upper 221:Lower 222:Upper 223:Lower",
    "224:Upper 225:Lower 226:Upper 227:Lower 228:Upper 229:Lower 22A:Upper 22B:Lower 22C:Upper",
    "22D:Lower 22E:Upper 22F:Lower 230:Upper 231:Lower 232:Upper 233:Lower 23A:Upper 23C:Lower",
    "23D:Upper 23F:Lower 241:Upper 242:Lower 243:Upper 247:Lower 248:Upper 249:Lower 24A:Upper",
    "24B:Lower 24C:Upper 24D:Lower 24E:Upper 24F:Lower 294:OLetter 295:Lower 2B9:OLetter",
    "2C0:Lower 2C2:- 2C6:OLetter 2D2:- 2E0:Lower 2E5:- 2EC:OLetter 2ED:- 2EE:OLetter 2EF:-",
    "300:Extend 370:Upper 371:Lower 372:Upper 373:Lower 374:OLetter 375:- 376:Upper 377:Lower",
    "378:- 37A:Lower 37E:SContinue 37F:Upper 380:- 386:Upper 387:- 388:Upper 38B:- 38C:Upper",
    "38D:- 38E:Upper 390:Lower 391:Upper 3A2:- 3A3:Upper 3AC:Lower 3CF:Upper 3D0:Lower 3D2:Upper",
    "3D5:Lower 3D8:Upper 3D9:Lower 3DA:Upper 3DB:Lower 3DC:Upper 3DD:Lower 3DE:Upper 3DF:Lower",
    "3E0:Upper 3E1:Lower 3E2:Upper 3E3:Lower 3E4:Upper 3E5:Lower 3E6:Upper 3E7:Lower 3E8:Upper",
    "3E9:Lower 3EA:Upper 3EB:Lower 3EC:Upper 3ED:Lower 3EE:Upper 3EF:Lower 3F4:Upper 3F5:Lower",
    "3F6:- 3F7:Upper 3F8:Lower 3F9:Upper 3FB:Lower 3FD:Upper 430:Lower 460:Upper 461:Lower",
    "462:Upper 463:Lower 464:Upper 465:Lower 466:Upper 467:Lower 468:Upper 469:Lower 46A:Upper",
    "46B:Lower 46C:Upper 46D:Lower 46E:Upper 46F:Lower 470:Upper 471:Lower 472:Upper 473:Lower",
    "474:Upper 475:Lower 476:Upper 477:Lower 478:Upper 479:Lower 47A:Upper 47B:Lower 47C:Upper",
    "47D:Lower 47E:Upper 47F:Lower 480:Upper 481:Lower 482:- 483:Extend 48A:Upper 48B:Lower",
    "48C:Upper 48D:Lower 48E:Upper 48F:Lower 490:Upper 491:Lower 492:Upper 493:Lower 494:Upper",
    "495:Lower 496:Upper 497:Lower 498:Upper 499:Lower 49A:Upper 49B:Lower 49C:Upper 49D:Lower",
    "49E:Upper 49F:Lower 4A0:Upper 4A1:Lower 4A2:Upper 4A3:Lower 4A4:Upper 4A5:Lower 4A6:Upper",
    "4A7:Lower 4A8:Upper 4A9:Lower 4AA:Upper 4AB:Lower 4AC:Upper 4AD:Lower 4AE:Upper 4AF:Lower",
    "4B0:Upper 4B1:Lower 4B2:Upper 4B3:Lower 4B4:Upper 4B5:Lower 4B6:Upper 4B7:Lower 4B8:Upper",
    "4B9:Lower 4BA:Upper 4BB:Lower 4BC:Upper 4BD:Lower 4BE:Upper 4BF:Lower 4C0:Upper 4C2:Lower",
    "4C3:Upper 4C4:Lower 4C5:Upper 4C6:Lower 4C7:Upper 4C8:Lower 4C9:Upper 4CA:Lower 4CB:Upper",
    "4CC:Lower 4CD:Upper 4CE:Lower 4D0:Upper 4D1:Lower 4D2:Upper 4D3:Lower 4D4:Upper 4D5:Lower",
    "4D6:Upper 4D7:Lower 4D8:Upper 4D9:Lower 4DA:Upper 4DB:Lower 4DC:Upper 4DD:Lower 4DE:Upper",
    "4DF:Lower 4E0:Upper 4E1:Lower 4E2:Upper 4E3:Lower 4E4:Upper 4E5:Lower 4E6:Upper 4E7:Lower",
    "4E8:Upper 4E9:Lower 4EA:Upper 4EB:Lower 4EC:Upper 4ED:Lower 4EE:Upper 4EF:Lower 4F0:Upper",
    "4F1:Lower 4F2:Upper 4F3:Lower 4F4:Upper 4F5:Lower 4F6:Upper 4F7:Lower 4F8:Upper 4F9:Lower",
    "4FA:Upper 4FB:Lower 4FC:Upper 4FD:Lower 4FE:Upper 4FF:Lower 500:Upper 501:Lower 502:Upper",
    "503:Lower 504:Upper 505:Lower 506:Upper 507:Lower 508:Upper 509:Lower 50A:Upper 50B:Lower",
    "50C:Upper 50D:Lower 50E:Upper 50F:Lower 510:Upper 511:Lower 512:Upper 513:Lower 514:Upper",
    "515:Lower 516:Upper 517:Lower 518:Upper 519:Lower 51A:Upper 51B:Lower 51C:Upper 51D:Lower",
    "51E:Upper 51F:Lower 520:Upper 521:Lower 522:Upper 523:Lower 524:Upper 525:Lower 526:Upper",
    "527:Lower 528:Upper 529:Lower 52A:Upper 52B:Lower 52C:Upper 52D:Lower 52E:Upper 52F:Lower",
    "530:- 531:Upper 557:- 559:OLetter 55A:- 55D:SContinue 55E:- 560:Lower 589:STerm 58A:-",
    "591:Extend 5BE:- 5BF:Extend 5C0:- 5C1:Extend 5C3:- 5C4:Extend 5C6:- 5C7:Extend 5C8:-",
    "5D0:OLetter 5EB:- 5EF:OLetter 5F4:- 600:Numeric 606:- 60C:SContinue 60E:- 610:Extend 61B:-",
    "61C:Format 61D:STerm 620:OLetter 64B:Extend 660:Numeric 66A:- 66B:Numeric 66D:- 66E:OLetter",
    "670:Extend 671:OLetter 6D4:STerm 6D5:OLetter 6D6:Extend 6DD:Numeric 6DE:- 6DF:Extend",
    "6E5:OLetter 6E7:Extend 6E9:- 6EA:Extend 6EE:OLetter 6F0:Numeric 6FA:OLetter 6FD:-",
    "6FF:OLetter 700:STerm 703:- 70F:OLetter 711:Extend 712:OLetter 730:Extend 74B:- 74D:OLetter",
    "7A6:Extend 7B1:OLetter 7B2:- 7C0:Numeric 7CA:OLetter 7EB:Extend 7F4:OLetter 7F6:-",
    "7F8:SContinue 7F9:STerm 7FA:OLetter 7FB:- 7FD:Extend 7FE:- 800:OLetter 816:Extend",
    "81A:OLetter 81B:Extend 824:OLetter 825:Extend 828:OLetter 829:Extend 82E:- 837:STerm 838:-",
    "839:STerm 83A:- 83D:STerm 83F:- 840:OLetter 859:Extend 85C:- 860:OLetter 86B:- 870:OLetter",
    "888:- 889:OLetter 88F:- 890:Numeric 892:- 897:Extend 8A0:OLetter 8CA:Extend 8E2:Numeric",
    "8E3:Extend 904:OLetter 93A:Extend 93D:OLetter 93E:Extend 950:OLetter 951:Extend 958:OLetter",
    "962:Extend 964:STerm 966:Numeric 970:- 971:OLetter 981:Extend 984:- 985:OLetter 98D:-",
    "98F:OLetter 991:- 993:OLetter 9A9:- 9AA:OLetter 9B1:- 9B2:OLetter 9B3:- 9B6:OLetter 9BA:-",
    "9BC:Extend 9BD:OLetter 9BE:Extend 9C5:- 9C7:Extend 9C9:- 9CB:Extend 9CE:OLetter 9CF:-",
    "9D7:Extend 9D8:- 9DC:OLetter 9DE:- 9DF:OLetter 9E2:Extend 9E4:- 9E6:Numeric 9F0:OLetter",
    "9F2:- 9FC:OLetter 9FD:- 9FE:Extend 9FF:- A01:Extend A04:- A05:OLetter A0B:- A0F:OLetter",
    "A11:- A13:OLetter A29:- A2A:OLetter A31:- A32:OLetter A34:- A35:OLetter A37:- A38:OLetter",
    "A3A:- A3C:Extend A3D:- A3E:Extend A43:- A47:Extend A49:- A4B:Extend A4E:- A51:Extend A52:-",
    "A59:OLetter A5D:- A5E:OLetter A5F:- A66:Numeric A70:Extend A72:OLetter A75:Extend A76:-",
    "A81:Extend A84:- A85:OLetter A8E:- A8F:OLetter A92:- A93:OLetter AA9:- AAA:OLetter AB1:-",
    "AB2:OLetter AB4:- AB5:OLetter ABA:- ABC:Extend ABD:OLetter ABE:Extend AC6:- AC7:Extend ACA:-",
    "ACB:Extend ACE:- AD0:OLetter AD1:- AE0:OLetter AE2:Extend AE4:- AE6:Numeric AF0:-",
    "AF9:OLetter AFA:Extend B00:- B01:Extend B04:- B05:OLetter B0D:- B0F:OLetter B11:-",
    "B13:OLetter B29:- B2A:OLetter B31:- B32:OLetter B34:- B35:OLetter B3A:- B3C:Extend",
    "B3D:OLetter B3E:Extend B45:- B47:Extend B49:- B4B:Extend B4E:- B55:Extend B58:- B5C:OLetter",
    "B5E:- B5F:OLetter B62:Extend B64:- B66:Numeric B70:- B71:OLetter B72:- B82:Extend",
    "B83:OLetter B84:- B85:OLetter B8B:- B8E:OLetter B91:- B92:OLetter B96:- B99:OLetter B9B:-",
    "B9C:OLetter B9D:- B9E:OLetter BA0:- BA3:OLetter BA5:- BA8:OLetter BAB:- BAE:OLetter BBA:-",
    "BBE:Extend BC3:- BC6:Extend BC9:- BCA:Extend BCE:- BD0:OLetter BD1:- BD7:Extend BD8:-",
    "BE6:Numeric BF0:- C00:Extend C05:OLetter C0D:- C0E:OLetter C11:- C12:OLetter C29:-",
    "C2A:OLetter C3A:- C3C:Extend C3D:OLetter C3E:Extend C45:- C46:Extend C49:- C4A:Extend C4E:-",
    "C55:Extend C57:- C58:OLetter C5B:- C5D:OLetter C5E:- C60:OLetter C62:Extend C64:-",
    "C66:Numeric C70:- C80:OLetter C81:Extend C84:- C85:OLetter C8D:- C8E:OLetter C91:-",
    "C92:OLetter CA9:- CAA:OLetter CB4:- CB5:OLetter CBA:- CBC:Extend CBD:OLetter CBE:Extend",
    "CC5:- CC6:Extend CC9:- CCA:Extend CCE:- CD5:Extend CD7:- CDD:OLetter CDF:- CE0:OLetter",
    "CE2:Extend CE4:- CE6:Numeric CF0:- CF1:OLetter CF3:Extend CF4:- D00:Extend D04:OLetter D0D:-",
    "D0E:OLetter D11:- D12:OLetter D3B:Extend D3D:OLetter D3E:Extend D45:- D46:Extend D49:-",
    "D4A:Extend D4E:OLetter D4F:- D54:OLetter D57:Extend D58:- D5F:OLetter D62:Extend D64:-",
    "D66:Numeric D70:- D7A:OLetter D80:- D81:Extend D84:- D85:OLetter D97:- D9A:OLetter DB2:-",
    "DB3:OLetter DBC:- DBD:OLetter DBE:- DC0:OLetter DC7:- DCA:Extend DCB:- DCF:Extend DD5:-",
    "DD6:Extend DD7:- DD8:Extend DE0:- DE6:Numeric DF0:- DF2:Extend DF4:- E01:OLetter E31:Extend",
    "E32:OLetter E34:Extend E3B:- E40:OLetter E47:Extend E4F:- E50:Numeric E5A:- E81:OLetter",
    "E83:- E84:OLetter E85:- E86:OLetter E8B:- E8C:OLetter EA4:- EA5:OLetter EA6:- EA7:OLetter",
    "EB1:Extend EB2:OLetter EB4:Extend EBD:OLetter EBE:- EC0:OLetter EC5:- EC6:OLetter EC7:-",
    "EC8:Extend ECF:- ED0:Numeric EDA:- EDC:OLetter EE0:- F00:OLetter F01:- F18:Extend F1A:-",
    "F20:Numeric F2A:- F35:Extend F36:- F37:Extend F38:- F39:Extend F3A:Close F3E:Extend",
    "F40:OLetter F48:- F49:OLetter F6D:- F71:Extend F85:- F86:Extend F88:OLetter F8D:Extend F98:-",
    "F99:Extend FBD:- FC6:Extend FC7:- 1000:OLetter 102B:Extend 103F:OLetter 1040:Numeric",
    "104A:STerm 104C:- 1050:OLetter 1056:Extend 105A:OLetter 105E:Extend 1061:OLetter 1062:Extend",
    "1065:OLetter 1067:Extend 106E:OLetter 1071:Extend 1075:OLetter 1082:Extend 108E:OLetter",
    "108F:Extend 1090:Numeric 109A:Extend 109E:- 10A0:Upper 10C6:- 10C7:Upper 10C8:- 10CD:Upper",
    "10CE:- 10D0:OLetter 10FB:- 10FC:Lower 10FD:OLetter 1249:- 124A:OLetter 124E:- 1250:OLetter",
    "1257:- 1258:OLetter 1259:- 125A:OLetter 125E:- 1260:OLetter 1289:- 128A:OLetter 128E:-",
    "1290:OLetter 12B1:- 12B2:OLetter 12B6:- 12B8:OLetter 12BF:- 12C0:OLetter 12C1:- 12C2:OLetter",
    "12C6:- 12C8:OLetter 12D7:- 12D8:OLetter 1311:- 1312:OLetter 1316:- 1318:OLetter 135B:-",
    "135D:Extend 1360:- 1362:STerm 1363:- 1367:STerm 1369:- 1380:OLetter 1390:- 13A0:Upper 13F6:-",
    "13F8:Lower 13FE:- 1401:OLetter 166D:- 166E:STerm 166F:OLetter 1680:Sp 1681:OLetter",
    "169B:Close 169D:- 16A0:OLetter 16EB:- 16EE:OLetter 16F9:- 1700:OLetter 1712:Extend 1716:-",
    "171F:OLetter 1732:Extend 1735:STerm 1737:- 1740:OLetter 1752:Extend 1754:- 1760:OLetter",
    "176D:- 176E:OLetter 1771:- 1772:Extend 1774:- 1780:OLetter 17B4:Extend 17D4:STerm 17D6:-",
    "17D7:OLetter 17D8:- 17DC:OLetter 17DD:Extend 17DE:- 17E0:Numeric 17EA:- 1802:SContinue",
    "1803:STerm 1804:- 1808:SContinue 1809:STerm 180A:- 180B:Extend 180E:Format 180F:Extend",
    "1810:Numeric 181A:- 1820:OLetter 1879:- 1880:OLetter 1885:Extend 1887:OLetter 18A9:Extend",
    "18AA:OLetter 18AB:- 18B0:OLetter 18F6:- 1900:OLetter 191F:- 1920:Extend 192C:- 1930:Extend",
    "193C:- 1944:STerm 1946:Numeric 1950:OLetter 196E:- 1970:OLetter 1975:- 1980:OLetter 19AC:-",
    "19B0:OLetter 19CA:- 19D0:Numeric 19DA:- 1A00:OLetter 1A17:Extend 1A1C:- 1A20:OLetter",
    "1A55:Extend 1A5F:- 1A60:Extend 1A7D:- 1A7F:Extend 1A80:Numeric 1A8A:- 1A90:Numeric 1A9A:-",
    "1AA7:OLetter 1AA8:STerm 1AAC:- 1AB0:Extend 1ACF:- 1B00:Extend 1B05:OLetter 1B34:Extend",
    "1B45:OLetter 1B4D:- 1B4E:STerm 1B50:Numeric 1B5A:STerm 1B5C:- 1B5E:STerm 1B60:- 1B6B:Extend",
    "1B74:- 1B7D:STerm 1B80:Extend 1B83:OLetter 1BA1:Extend 1BAE:OLetter 1BB0:Numeric",
    "1BBA:OLetter 1BE6:Extend 1BF4:- 1C00:OLetter 1C24:Extend 1C38:- 1C3B:STerm 1C3D:-",
    "1C40:Numeric 1C4A:- 1C4D:OLetter 1C50:Numeric 1C5A:OLetter 1C7E:STerm 1C80:Lower 1C89:Upper",
    "1C8A:Lower 1C8B:- 1C90:OLetter 1CBB:- 1CBD:OLetter 1CC0:- 1CD0:Extend 1CD3:- 1CD4:Extend",
    "1CE9:OLetter 1CED:Extend 1CEE:OLetter 1CF4:Extend 1CF5:OLetter 1CF7:Extend 1CFA:OLetter",
    "1CFB:- 1D00:Lower 1DC0:Extend 1E00:Upper 1E01:Lower 1E02:Upper 1E03:Lower 1E04:Upper",
    "1E05:Lower 1E06:Upper 1E07:Lower 1E08:Upper 1E09:Lower 1E0A:Upper 1E0B:Lower 1E0C:Upper",
    "1E0D:Lower 1E0E:Upper 1E0F:Lower 1E10:Upper 1E11:Lower 1E12:Upper 1E13:Lower 1E14:Upper",
    "1E15:Lower 1E16:Upper 1E17:Lower 1E18:Upper 1E19:Lower 1E1A:Upper 1E1B:Lower 1E1C:Upper",
    "1E1D:Lower 1E1E:Upper 1E1F:Lower 1E20:Upper 1E21:Lower 1E22:Upper 1E23:Lower 1E24:Upper",
    "1E25:Lower 1E26:Upper 1E27:Lower 1E28:Upper 1E29:Lower 1E2A:Upper 1E2B:Lower 1E2C:Upper",
    "1E2D:Lower 1E2E:Upper 1E2F:Lower 1E30:Upper 1E31:Lower 1E32:Upper 1E33:Lower 1E34:Upper",
    "1E35:Lower 1E36:Upper 1E37:Lower 1E38:Upper 1E39:Lower 1E3A:Upper 1E3B:Lower 1E3C:Upper",
    "1E3D:Lower 1E3E:Upper 1E3F:Lower 1E40:Upper 1E41:Lower 1E42:Upper 1E43:Lower 1E44:Upper",
    "1E45:Lower 1E46:Upper 1E47:Lower 1E48:Upper 1E49:Lower 1E4A:Upper 1E4B:Lower 1E4C:Upper",
    "1E4D:Lower 1E4E:Upper 1E4F:Lower 1E50:Upper 1E51:Lower 1E52:Upper 1E53:Lower 1E54:Upper",
    "1E55:Lower 1E56:Upper 1E57:Lower 1E58:Upper 1E59:Lower 1E5A:Upper 1E5B:Lower 1E5C:Upper",
    "1E5D:Lower 1E5E:Upper 1E5F:Lower 1E60:Upper 1E61:Lower 1E62:Upper 1E63:Lower 1E64:Upper",
    "1E65:Lower 1E66:Upper 1E67:Lower 1E68:Upper 1E69:Lower 1E6A:Upper 1E6B:Lower 1E6C:Upper",
    "1E6D:Lower 1E6E:Upper 1E6F:Lower 1E70:Upper 1E71:Lower 1E72:Upper 1E73:Lower 1E74:Upper",
    "1E75:Lower 1E76:Upper 1E77:Lower 1E78:Upper 1E79:Lower 1E7A:Upper 1E7B:Lower 1E7C:Upper",
    "1E7D:Lower 1E7E:Upper 1E7F:Lower 1E80:Upper 1E81:Lower 1E82:Upper 1E83:Lower 1E84:Upper",
    "1E85:Lower 1E86:Upper 1E87:Lower 1E88:Upper 1E89:Lower 1E8A:Upper 1E8B:Lower 1E8C:Upper",
    "1E8D:Lower 1E8E:Upper 1E8F:Lower 1E90:Upper 1E91:Lower 1E92:Upper 1E93:Lower 1E94:Upper",
    "1E95:Lower 1E9E:Upper 1E9F:Lower 1EA0:Upper 1EA1:Lower 1EA2:Upper 1EA3:Lower 1EA4:Upper",
    "1EA5:Lower 1EA6:Upper 1EA7:Lower 1EA8:Upper 1EA9:Lower 1EAA:Upper 1EAB:Lower 1EAC:Upper",
    "1EAD:Lower 1EAE:Upper 1EAF:Lower 1EB0:Upper 1EB1:Lower 1EB2:Upper 1EB3:Lower 1EB4:Upper",
    "1EB5:Lower 1EB6:Upper 1EB7:Lower 1EB8:Upper 1EB9:Lower 1EBA:Upper 1EBB:Lower 1EBC:Upper",
    "1EBD:Lower 1EBE:Upper 1EBF:Lower 1EC0:Upper 1EC1:Lower 1EC2:Upper 1EC3:Lower 1EC4:Upper",
    "1EC5:Lower 1EC6:Upper 1EC7:Lower 1EC8:Upper 1EC9:Lower 1ECA:Upper 1ECB:Lower 1ECC:Upper",
    "1ECD:Lower 1ECE:Upper 1ECF:Lower 1ED0:Upper 1ED1:Lower 1ED2:Upper 1ED3:Lower 1ED4:Upper",
    "1ED5:Lower 1ED6:Upper 1ED7:Lower 1ED8:Upper 1ED9:Lower 1EDA:Upper 1EDB:Lower 1EDC:Upper",
    "1EDD:Lower 1EDE:Upper 1EDF:Lower 1EE0:Upper 1EE1:Lower 1EE2:Upper 1EE3:Lower 1EE4:Upper",
    "1EE5:Lower 1EE6:Upper 1EE7:Lower 1EE8:Upper 1EE9:Lower 1EEA:Upper 1EEB:Lower 1EEC:Upper",
    "1EED:Lower 1EEE:Upper 1EEF:Lower 1EF0:Upper 1EF1:Lower 1EF2:Upper 1EF3:Lower 1EF4:Upper",
    "1EF5:Lower 1EF6:Upper 1EF7:Lower 1EF8:Upper 1EF9:Lower 1EFA:Upper 1EFB:Lower 1EFC:Upper",
    "1EFD:Lower 1EFE:Upper 1EFF:Lower 1F08:Upper 1F10:Lower 1F16:- 1F18:Upper 1F1E:- 1F20:Lower",
    "1F28:Upper 1F30:Lower 1F38:Upper 1F40:Lower 1F46:- 1F48:Upper 1F4E:- 1F50:Lower 1F58:-",
    "1F59:Upper 1F5A:- 1F5B:Upper 1F5C:- 1F5D:Upper 1F5E:- 1F5F:Upper 1F60:Lower 1F68:Upper",
    "1F70:Lower 1F7E:- 1F80:Lower 1F88:Upper 1F90:Lower 1F98:Upper 1FA0:Lower 1FA8:Upper",
    "1FB0:Lower 1FB5:- 1FB6:Lower 1FB8:Upper 1FBD:- 1FBE:Lower 1FBF:- 1FC2:Lower 1FC5:-",
    "1FC6:Lower 1FC8:Upper 1FCD:- 1FD0:Lower 1FD4:- 1FD6:Lower 1FD8:Upper 1FDC:- 1FE0:Lower",
    "1FE8:Upper 1FED:- 1FF2:Lower 1FF5:- 1FF6:Lower 1FF8:Upper 1FFD:- 2000:Sp 200B:Format",
    "200C:Extend 200E:Format 2010:- 2013:SContinue 2015:- 2018:Close 2020:- 2024:ATerm 2025:-",
    "2028:Sep 202A:Format 202F:Sp 2030:- 2039:Close 203B:- 203C:STerm 203E:- 2045:Close",
    "2047:STerm 204A:- 205F:Sp 2060:Format 2065:- 2066:Format 2070:- 2071:Lower 2072:- 207D:Close",
    "207F:Lower 2080:- 208D:Close 208F:- 2090:Lower 209D:- 20D0:Extend 20F1:- 2102:Upper 2103:-",
    "2107:Upper 2108:- 210A:Lower 210B:Upper 210E:Lower 2110:Upper 2113:Lower 2114:- 2115:Upper",
    "2116:- 2119:Upper 211E:- 2124:Upper 2125:- 2126:Upper 2127:- 2128:Upper 2129:- 212A:Upper",
    "212E:- 212F:Lower 2130:Upper 2134:Lower 2135:OLetter 2139:Lower 213A:- 213C:Lower 213E:Upper",
    "2140:- 2145:Upper 2146:Lower 214A:- 214E:Lower 214F:- 2160:Upper 2170:Lower 2180:OLetter",
    "2183:Upper 2184:Lower 2185:OLetter 2189:- 2308:Close 230C:- 2329:Close 232B:- 24B6:Upper",
    "24D0:Lower 24EA:- 275B:Close 2761:- 2768:Close 2776:- 27C5:Close 27C7:- 27E6:Close 27F0:-",
    "2983:Close 2999:- 29D8:Close 29DC:- 29FC:Close 29FE:- 2C00:Upper 2C30:Lower 2C60:Upper",
    "2C61:Lower 2C62:Upper 2C65:Lower 2C67:Upper 2C68:Lower 2C69:Upper 2C6A:Lower 2C6B:Upper",
    "2C6C:Lower 2C6D:Upper 2C71:Lower 2C72:Upper 2C73:Lower 2C75:Upper 2C76:Lower 2C7E:Upper",
    "2C81:Lower 2C82:Upper 2C83:Lower 2C84:Upper 2C85:Lower 2C86:Upper 2C87:Lower 2C88:Upper",
    "2C89:Lower 2C8A:Upper 2C8B:Lower 2C8C:Upper 2C8D:Lower 2C8E:Upper 2C8F:Lower 2C90:Upper",
    "2C91:Lower 2C92:Upper 2C93:Lower 2C94:Upper 2C95:Lower 2C96:Upper 2C97:Lower 2C98:Upper",
    "2C99:Lower 2C9A:Upper 2C9B:Lower 2C9C:Upper 2C9D:Lower 2C9E:Upper 2C9F:Lower 2CA0:Upper",
    "2CA1:Lower 2CA2:Upper 2CA3:Lower 2CA4:Upper 2CA5:Lower 2CA6:Upper 2CA7:Lower 2CA8:Upper",
    "2CA9:Lower 2CAA:Upper 2CAB:Lower 2CAC:Upper 2CAD:Lower 2CAE:Upper 2CAF:Lower 2CB0:Upper",
    "2CB1:Lower 2CB2:Upper 2CB3:Lower 2CB4:Upper 2CB5:Lower 2CB6:Upper 2CB7:Lower 2CB8:Upper",
    "2CB9:Lower 2CBA:Upper 2CBB:Lower 2CBC:Upper 2CBD:Lower 2CBE:Upper 2CBF:Lower 2CC0:Upper",
    "2CC1:Lower 2CC2:Upper 2CC3:Lower 2CC4:Upper 2CC5:Lower 2CC6:Upper 2CC7:Lower 2CC8:Upper",
    "2CC9:Lower 2CCA:Upper 2CCB:Lower 2CCC:Upper 2CCD:Lower 2CCE:Upper 2CCF:Lower 2CD0:Upper",
    "2CD1:Lower 2CD2:Upper 2CD3:Lower 2CD4:Upper 2CD5:Lower 2CD6:Upper 2CD7:Lower 2CD8:Upper",
    "2CD9:Lower 2CDA:Upper 2CDB:Lower 2CDC:Upper 2CDD:Lower 2CDE:Upper 2CDF:Lower 2CE0:Upper",
    "2CE1:Lower 2CE2:Upper 2CE3:Lower 2CE5:- 2CEB:Upper 2CEC:Lower 2CED:Upper 2CEE:Lower",
    "2CEF:Extend 2CF2:Upper 2CF3:Lower 2CF4:- 2CF9:STerm 2CFC:- 2D00:Lower 2D26:- 2D27:Lower",
    "2D28:- 2D2D:Lower 2D2E:- 2D30:OLetter 2D68:- 2D6F:OLetter 2D70:- 2D7F:Extend 2D80:OLetter",
    "2D97:- 2DA0:OLetter 2DA7:- 2DA8:OLetter 2DAF:- 2DB0:OLetter 2DB7:- 2DB8:OLetter 2DBF:-",
    "2DC0:OLetter 2DC7:- 2DC8:OLetter 2DCF:- 2DD0:OLetter 2DD7:- 2DD8:OLetter 2DDF:- 2DE0:Extend",
    "2E00:Close 2E0E:- 2E1C:Close 2E1E:- 2E20:Close 2E2A:- 2E2E:STerm 2E2F:OLetter 2E30:-",
    "2E3C:STerm 2E3D:- 2E42:Close 2E43:- 2E53:STerm 2E55:Close 2E5D:- 3000:Sp 3001:SContinue",
    "3002:STerm 3003:- 3005:OLetter 3008:Close 3012:- 3014:Close 301C:- 301D:Close 3020:-",
    "3021:OLetter 302A:Extend 3030:- 3031:OLetter 3036:- 3038:OLetter 303D:- 3041:OLetter 3097:-",
    "3099:Extend 309B:- 309D:OLetter 30A0:- 30A1:OLetter 30FB:- 30FC:OLetter 3100:- 3105:OLetter",
    "3130:- 3131:OLetter 318F:- 31A0:OLetter 31C0:- 31F0:OLetter 3200:- 3400:OLetter 4DC0:-",
    "4E00:OLetter A48D:- A4D0:OLetter A4FE:- A4FF:STerm A500:OLetter A60D:- A60E:STerm",
    "A610:OLetter A620:Numeric A62A:OLetter A62C:- A640:Upper A641:Lower A642:Upper A643:Lower",
    "A644:Upper A645:Lower A646:Upper A647:Lower A648:Upper A649:Lower A64A:Upper A64B:Lower",
    "A64C:Upper A64D:Lower A64E:Upper A64F:Lower A650:Upper A651:Lower A652:Upper A653:Lower",
    "A654:Upper A655:Lower A656:Upper A657:Lower A658:Upper A659:Lower A65A:Upper A65B:Lower",
    "A65C:Upper A65D:Lower A65E:Upper A65F:Lower A660:Upper A661:Lower A662:Upper A663:Lower",
    "A664:Upper A665:Lower A666:Upper A667:Lower A668:Upper A669:Lower A66A:Upper A66B:Lower",
    "A66C:Upper A66D:Lower A66E:OLetter A66F:Extend A673:- A674:Extend A67E:- A67F:OLetter",
    "A680:Upper A681:Lower A682:Upper A683:Lower A684:Upper A685:Lower A686:Upper A687:Lower",
    "A688:Upper A689:Lower A68A:Upper A68B:Lower A68C:Upper A68D:Lower A68E:Upper A68F:Lower",
    "A690:Upper A691:Lower A692:Upper A693:Lower A694:Upper A695:Lower A696:Upper A697:Lower",
    "A698:Upper A699:Lower A69A:Upper A69B:Lower A69E:Extend A6A0:OLetter A6F0:Extend A6F2:-",
    "A6F3:STerm A6F4:- A6F7:STerm A6F8:- A717:OLetter A720:- A722:Upper A723:Lower A724:Upper",
    "A725:Lower A726:Upper A727:Lower A728:Upper A729:Lower A72A:Upper A72B:Lower A72C:Upper",
    "A72D:Lower A72E:Upper A72F:Lower A732:Upper A733:Lower A734:Upper A735:Lower A736:Upper",
    "A737:Lower A738:Upper A739:Lower A73A:Upper A73B:Lower A73C:Upper A73D:Lower A73E:Upper",
    "A73F:Lower A740:Upper A741:Lower A742:Upper A743:Lower A744:Upper A745:Lower A746:Upper",
    "A747:Lower A748:Upper A749:Lower A74A:Upper A74B:Lower A74C:Upper A74D:Lower A74E:Upper",
    "A74F:Lower A750:Upper A751:Lower A752:Upper A753:Lower A754:Upper A755:Lower A756:Upper",
    "A757:Lower A758:Upper A759:Lower A75A:Upper A75B:Lower A75C:Upper A75D:Lower A75E:Upper",
    "A75F:Lower A760:Upper A761:Lower A762:Upper A763:Lower A764:Upper A765:Lower A766:Upper",
    "A767:Lower A768:Upper A769:Lower A76A:Upper A76B:Lower A76C:Upper A76D:Lower A76E:Upper",
    "A76F:Lower A779:Upper A77A:Lower A77B:Upper A77C:Lower A77D:Upper A77F:Lower A780:Upper",
    "A781:Lower A782:Upper A783:Lower A784:Upper A785:Lower A786:Upper A787:Lower A788:OLetter",
    "A789:- A78B:Upper A78C:Lower A78D:Upper A78E:Lower A78F:OLetter A790:Upper A791:Lower",
    "A792:Upper A793:Lower A796:Upper A797:Lower A798:Upper A799:Lower A79A:Upper A79B:Lower",
    "A79C:Upper A79D:Lower A79E:Upper A79F:Lower A7A0:Upper A7A1:Lower A7A2:Upper A7A3:Lower",
    "A7A4:Upper A7A5:Lower A7A6:Upper A7A7:Lower A7A8:Upper A7A9:Lower A7AA:Upper A7AF:Lower",
    "A7B0:Upper A7B5:Lower A7B6:Upper A7B7:Lower A7B8:Upper A7B9:Lower A7BA:Upper A7BB:Lower",
    "A7BC:Upper A7BD:Lower A7BE:Upper A7BF:Lower A7C0:Upper A7C1:Lower A7C2:Upper A7C3:Lower",
    "A7C4:Upper A7C8:Lower A7C9:Upper A7CA:Lower A7CB:Upper A7CD:Lower A7CE:- A7D0:Upper",
    "A7D1:Lower A7D2:- A7D3:Lower A7D4:- A7D5:Lower A7D6:Upper A7D7:Lower A7D8:Upper A7D9:Lower",
    "A7DA:Upper A7DB:Lower A7DC:Upper A7DD:- A7F2:Lower A7F5:Upper A7F6:Lower A7F7:OLetter",
    "A7F8:Lower A7FB:OLetter A802:Extend A803:OLetter A806:Extend A807:OLetter A80B:Extend",
    "A80C:OLetter A823:Extend A828:- A82C:Extend A82D:- A840:OLetter A874:- A876:STerm A878:-",
    "A880:Extend A882:OLetter A8B4:Extend A8C6:- A8CE:STerm A8D0:Numeric A8DA:- A8E0:Extend",
    "A8F2:OLetter A8F8:- A8FB:OLetter A8FC:- A8FD:OLetter A8FF:Extend A900:Numeric A90A:OLetter",
    "A926:Extend A92E:- A92F:STerm A930:OLetter A947:Extend A954:- A960:OLetter A97D:-",
    "A980:Extend A984:OLetter A9B3:Extend A9C1:- A9C8:STerm A9CA:- A9CF:OLetter A9D0:Numeric",
    "A9DA:- A9E0:OLetter A9E5:Extend A9E6:OLetter A9F0:Numeric A9FA:OLetter A9FF:- AA00:OLetter",
    "AA29:Extend AA37:- AA40:OLetter AA43:Extend AA44:OLetter AA4C:Extend AA4E:- AA50:Numeric",
    "AA5A:- AA5D:STerm AA60:OLetter AA77:- AA7A:OLetter AA7B:Extend AA7E:OLetter AAB0:Extend",
    "AAB1:OLetter AAB2:Extend AAB5:OLetter AAB7:Extend AAB9:OLetter AABE:Extend AAC0:OLetter",
    "AAC1:Extend AAC2:OLetter AAC3:- AADB:OLetter AADE:- AAE0:OLetter AAEB:Extend AAF0:STerm",
    "AAF2:OLetter AAF5:Extend AAF7:- AB01:OLetter AB07:- AB09:OLetter AB0F:- AB11:OLetter AB17:-",
    "AB20:OLetter AB27:- AB28:OLetter AB2F:- AB30:Lower AB5B:- AB5C:Lower AB6A:- AB70:Lower",
    "ABC0:OLetter ABE3:Extend ABEB:STerm ABEC:Extend ABEE:- ABF0:Numeric ABFA:- AC00:OLetter",
    "D7A4:- D7B0:OLetter D7C7:- D7CB:OLetter D7FC:- F900:OLetter FA6E:- FA70:OLetter FADA:-",
    "FB00:Lower FB07:- FB13:Lower FB18:- FB1D:OLetter FB1E:Extend FB1F:OLetter FB29:-",
    "FB2A:OLetter FB37:- FB38:OLetter FB3D:- FB3E:OLetter FB3F:- FB40:OLetter FB42:- FB43:OLetter",
    "FB45:- FB46:OLetter FBB2:- FBD3:OLetter FD3E:Close FD40:- FD50:OLetter FD90:- FD92:OLetter",
    "FDC8:- FDF0:OLetter FDFC:- FE00:Extend FE10:SContinue FE12:STerm FE13:SContinue FE15:STerm",
    "FE17:Close FE19:- FE20:Extend FE30:- FE31:SContinue FE33:- FE35:Close FE45:- FE47:Close",
    "FE49:- FE50:SContinue FE52:ATerm FE53:- FE54:SContinue FE56:STerm FE58:SContinue FE59:Close",
    "FE5F:- FE63:SContinue FE64:- FE70:OLetter FE75:- FE76:OLetter FEFD:- FEFF:Format FF00:-",
    "FF01:STerm FF02:- FF08:Close FF0A:- FF0C:SContinue FF0E:ATerm FF0F:- FF10:Numeric",
    "FF1A:SContinue FF1C:- FF1F:STerm FF20:- FF21:Upper FF3B:Close FF3C:- FF3D:Close FF3E:-",
    "FF41:Lower FF5B:Close FF5C:- FF5D:Close FF5E:- FF5F:Close FF61:STerm FF62:Close",
    "FF64:SContinue FF65:- FF66:OLetter FF9E:Extend FFA0:OLetter FFBF:- FFC2:OLetter FFC8:-",
    "FFCA:OLetter FFD0:- FFD2:OLetter FFD8:- FFDA:OLetter FFDD:- FFF9:Format FFFC:- 10000:OLetter",
    "1000C:- 1000D:OLetter 10027:- 10028:OLetter 1003B:- 1003C:OLetter 1003E:- 1003F:OLetter",
    "1004E:- 10050:OLetter 1005E:- 10080:OLetter 100FB:- 10140:OLetter 10175:- 101FD:Extend",
    "101FE:- 10280:OLetter 1029D:- 102A0:OLetter 102D1:- 102E0:Extend 102E1:- 10300:OLetter",
    "10320:- 1032D:OLetter 1034B:- 10350:OLetter 10376:Extend 1037B:- 10380:OLetter 1039E:-",
    "103A0:OLetter 103C4:- 103C8:OLetter 103D0:- 103D1:OLetter 103D6:- 10400:Upper 10428:Lower",
    "10450:OLetter 1049E:- 104A0:Numeric 104AA:- 104B0:Upper 104D4:- 104D8:Lower 104FC:-",
    "10500:OLetter 10528:- 10530:OLetter 10564:- 10570:Upper 1057B:- 1057C:Upper 1058B:-",
    "1058C:Upper 10593:- 10594:Upper 10596:- 10597:Lower 105A2:- 105A3:Lower 105B2:- 105B3:Lower",
    "105BA:- 105BB:Lower 105BD:- 105C0:OLetter 105F4:- 10600:OLetter 10737:- 10740:OLetter",
    "10756:- 10760:OLetter 10768:- 10780:Lower 10781:OLetter 10783:Lower 10786:- 10787:Lower",
    "107B1:- 107B2:Lower 107BB:- 10800:OLetter 10806:- 10808:OLetter 10809:- 1080A:OLetter",
    "10836:- 10837:OLetter 10839:- 1083C:OLetter 1083D:- 1083F:OLetter 10856:- 10860:OLetter",
    "10877:- 10880:OLetter 1089F:- 108E0:OLetter 108F3:- 108F4:OLetter 108F6:- 10900:OLetter",
    "10916:- 10920:OLetter 1093A:- 10980:OLetter 109B8:- 109BE:OLetter 109C0:- 10A00:OLetter",
    "10A01:Extend 10A04:- 10A05:Extend 10A07:- 10A0C:Extend 10A10:OLetter 10A14:- 10A15:OLetter",
    "10A18:- 10A19:OLetter 10A36:- 10A38:Extend 10A3B:- 10A3F:Extend 10A40:- 10A56:STerm 10A58:-",
    "10A60:OLetter 10A7D:- 10A80:OLetter 10A9D:- 10AC0:OLetter 10AC8:- 10AC9:OLetter 10AE5:Extend",
    "10AE7:- 10B00:OLetter 10B36:- 10B40:OLetter 10B56:- 10B60:OLetter 10B73:- 10B80:OLetter",
    "10B92:- 10C00:OLetter 10C49:- 10C80:Upper 10CB3:- 10CC0:Lower 10CF3:- 10D00:OLetter",
    "10D24:Extend 10D28:- 10D30:Numeric 10D3A:- 10D40:Numeric 10D4A:OLetter 10D50:Upper 10D66:-",
    "10D69:Extend 10D6E:- 10D6F:OLetter 10D70:Lower 10D86:- 10E80:OLetter 10EAA:- 10EAB:Extend",
    "10EAD:- 10EB0:OLetter 10EB2:- 10EC2:OLetter 10EC5:- 10EFC:Extend 10F00:OLetter 10F1D:-",
    "10F27:OLetter 10F28:- 10F30:OLetter 10F46:Extend 10F51:- 10F55:STerm 10F5A:- 10F70:OLetter",
    "10F82:Extend 10F86:STerm 10F8A:- 10FB0:OLetter 10FC5:- 10FE0:OLetter 10FF7:- 11000:Extend",
    "11003:OLetter 11038:Extend 11047:STerm 11049:- 11066:Numeric 11070:Extend 11071:OLetter",
    "11073:Extend 11075:OLetter 11076:- 1107F:Extend 11083:OLetter 110B0:Extend 110BB:-",
    "110BD:Numeric 110BE:STerm 110C2:Extend 110C3:- 110CD:Numeric 110CE:- 110D0:OLetter 110E9:-",
    "110F0:Numeric 110FA:- 11100:Extend 11103:OLetter 11127:Extend 11135:- 11136:Numeric 11140:-",
    "11141:STerm 11144:OLetter 11145:Extend 11147:OLetter 11148:- 11150:OLetter 11173:Extend",
    "11174:- 11176:OLetter 11177:- 11180:Extend 11183:OLetter 111B3:Extend 111C1:OLetter",
    "111C5:STerm 111C7:- 111C9:Extend 111CD:STerm 111CE:Extend 111D0:Numeric 111DA:OLetter",
    "111DB:- 111DC:OLetter 111DD:- 111DE:STerm 111E0:- 11200:OLetter 11212:- 11213:OLetter",
    "1122C:Extend 11238:STerm 1123A:- 1123B:STerm 1123D:- 1123E:Extend 1123F:OLetter 11241:Extend",
    "11242:- 11280:OLetter 11287:- 11288:OLetter 11289:- 1128A:OLetter 1128E:- 1128F:OLetter",
    "1129E:- 1129F:OLetter 112A9:STerm 112AA:- 112B0:OLetter 112DF:Extend 112EB:- 112F0:Numeric",
    "112FA:- 11300:Extend 11304:- 11305:OLetter 1130D:- 1130F:OLetter 11311:- 11313:OLetter",
    "11329:- 1132A:OLetter 11331:- 11332:OLetter 11334:- 11335:OLetter 1133A:- 1133B:Extend",
    "1133D:OLetter 1133E:Extend 11345:- 11347:Extend 11349:- 1134B:Extend 1134E:- 11350:OLetter",
    "11351:- 11357:Extend 11358:- 1135D:OLetter 11362:Extend 11364:- 11366:Extend 1136D:-",
    "11370:Extend 11375:- 11380:OLetter 1138A:- 1138B:OLetter 1138C:- 1138E:OLetter 1138F:-",
    "11390:OLetter 113B6:- 113B7:OLetter 113B8:Extend 113C1:- 113C2:Extend 113C3:- 113C5:Extend",
    "113C6:- 113C7:Extend 113CB:- 113CC:Extend 113D1:OLetter 113D2:Extend 113D3:OLetter",
    "113D4:STerm 113D6:- 113E1:Extend 113E3:- 11400:OLetter 11435:Extend 11447:OLetter",
    "1144B:STerm 1144D:- 11450:Numeric 1145A:- 1145E:Extend 1145F:OLetter 11462:- 11480:OLetter",
    "114B0:Extend 114C4:OLetter 114C6:- 114C7:OLetter 114C8:- 114D0:Numeric 114DA:- 11580:OLetter",
    "115AF:Extend 115B6:- 115B8:Extend 115C1:- 115C2:STerm 115C4:- 115C9:STerm 115D8:OLetter",
    "115DC:Extend 115DE:- 11600:OLetter 11630:Extend 11641:STerm 11643:- 11644:OLetter 11645:-",
    "11650:Numeric 1165A:- 11680:OLetter 116AB:Extend 116B8:OLetter 116B9:- 116C0:Numeric 116CA:-",
    "116D0:Numeric 116E4:- 11700:OLetter 1171B:- 1171D:Extend 1172C:- 11730:Numeric 1173A:-",
    "1173C:STerm 1173F:- 11740:OLetter 11747:- 11800:OLetter 1182C:Extend 1183B:- 118A0:Upper",
    "118C0:Lower 118E0:Numeric 118EA:- 118FF:OLetter 11907:- 11909:OLetter 1190A:- 1190C:OLetter",
    "11914:- 11915:OLetter 11917:- 11918:OLetter 11930:Extend 11936:- 11937:Extend 11939:-",
    "1193B:Extend 1193F:OLetter 11940:Extend 11941:OLetter 11942:Extend 11944:STerm 11945:-",
    "11946:STerm 11947:- 11950:Numeric 1195A:- 119A0:OLetter 119A8:- 119AA:OLetter 119D1:Extend",
    "119D8:- 119DA:Extend 119E1:OLetter 119E2:- 119E3:OLetter 119E4:Extend 119E5:- 11A00:OLetter",
    "11A01:Extend 11A0B:OLetter 11A33:Extend 11A3A:OLetter 11A3B:Extend 11A3F:- 11A42:STerm",
    "11A44:- 11A47:Extend 11A48:- 11A50:OLetter 11A51:Extend 11A5C:OLetter 11A8A:Extend 11A9A:-",
    "11A9B:STerm 11A9D:OLetter 11A9E:- 11AB0:OLetter 11AF9:- 11BC0:OLetter 11BE1:- 11BF0:Numeric",
    "11BFA:- 11C00:OLetter 11C09:- 11C0A:OLetter 11C2F:Extend 11C37:- 11C38:Extend 11C40:OLetter",
    "11C41:STerm 11C43:- 11C50:Numeric 11C5A:- 11C72:OLetter 11C90:- 11C92:Extend 11CA8:-",
    "11CA9:Extend 11CB7:- 11D00:OLetter 11D07:- 11D08:OLetter 11D0A:- 11D0B:OLetter 11D31:Extend",
    "11D37:- 11D3A:Extend 11D3B:- 11D3C:Extend 11D3E:- 11D3F:Extend 11D46:OLetter 11D47:Extend",
    "11D48:- 11D50:Numeric 11D5A:- 11D60:OLetter 11D66:- 11D67:OLetter 11D69:- 11D6A:OLetter",
    "11D8A:Extend 11D8F:- 11D90:Extend 11D92:- 11D93:Extend 11D98:OLetter 11D99:- 11DA0:Numeric",
    "11DAA:- 11EE0:OLetter 11EF3:Extend 11EF7:STerm 11EF9:- 11F00:Extend 11F02:OLetter",
    "11F03:Extend 11F04:OLetter 11F11:- 11F12:OLetter 11F34:Extend 11F3B:- 11F3E:Extend",
    "11F43:STerm 11F45:- 11F50:Numeric 11F5A:Extend 11F5B:- 11FB0:OLetter 11FB1:- 12000:OLetter",
    "1239A:- 12400:OLetter 1246F:- 12480:OLetter 12544:- 12F90:OLetter 12FF1:- 13000:OLetter",
    "13430:Format 13440:Extend 13441:OLetter 13447:Extend 13456:- 13460:OLetter 143FB:-",
    "14400:OLetter 14647:- 16100:OLetter 1611E:Extend 16130:Numeric 1613A:- 16800:OLetter 16A39:-",
    "16A40:OLetter 16A5F:- 16A60:Numeric 16A6A:- 16A6E:STerm 16A70:OLetter 16ABF:- 16AC0:Numeric",
    "16ACA:- 16AD0:OLetter 16AEE:- 16AF0:Extend 16AF5:STerm 16AF6:- 16B00:OLetter 16B30:Extend",
    "16B37:STerm 16B39:- 16B40:OLetter 16B44:STerm 16B45:- 16B50:Numeric 16B5A:- 16B63:OLetter",
    "16B78:- 16B7D:OLetter 16B90:- 16D40:OLetter 16D6D:- 16D6E:STerm 16D70:Numeric 16D7A:-",
    "16E40:Upper 16E60:Lower 16E80:- 16E98:STerm 16E99:- 16F00:OLetter 16F4B:- 16F4F:Extend",
    "16F50:OLetter 16F51:Extend 16F88:- 16F8F:Extend 16F93:OLetter 16FA0:- 16FE0:OLetter 16FE2:-",
    "16FE3:OLetter 16FE4:Extend 16FE5:- 16FF0:Extend 16FF2:- 17000:OLetter 187F8:- 18800:OLetter",
    "18CD6:- 18CFF:OLetter 18D09:- 1AFF0:OLetter 1AFF4:- 1AFF5:OLetter 1AFFC:- 1AFFD:OLetter",
    "1AFFF:- 1B000:OLetter 1B123:- 1B132:OLetter 1B133:- 1B150:OLetter 1B153:- 1B155:OLetter",
    "1B156:- 1B164:OLetter 1B168:- 1B170:OLetter 1B2FC:- 1BC00:OLetter 1BC6B:- 1BC70:OLetter",
    "1BC7D:- 1BC80:OLetter 1BC89:- 1BC90:OLetter 1BC9A:- 1BC9D:Extend 1BC9F:STerm 1BCA0:Format",
    "1BCA4:- 1CCF0:Numeric 1CCFA:- 1CF00:Extend 1CF2E:- 1CF30:Extend 1CF47:- 1D165:Extend 1D16A:-",
    "1D16D:Extend 1D173:Format 1D17B:Extend 1D183:- 1D185:Extend 1D18C:- 1D1AA:Extend 1D1AE:-",
    "1D242:Extend 1D245:- 1D400:Upper 1D41A:Lower 1D434:Upper 1D44E:Lower 1D455:- 1D456:Lower",
    "1D468:Upper 1D482:Lower 1D49C:Upper 1D49D:- 1D49E:Upper 1D4A0:- 1D4A2:Upper 1D4A3:-",
    "1D4A5:Upper 1D4A7:- 1D4A9:Upper 1D4AD:- 1D4AE:Upper 1D4B6:Lower 1D4BA:- 1D4BB:Lower 1D4BC:-",
    "1D4BD:Lower 1D4C4:- 1D4C5:Lower 1D4D0:Upper 1D4EA:Lower 1D504:Upper 1D506:- 1D507:Upper",
    "1D50B:- 1D50D:Upper 1D515:- 1D516:Upper 1D51D:- 1D51E:Lower 1D538:Upper 1D53A:- 1D53B:Upper",
    "1D53F:- 1D540:Upper 1D545:- 1D546:Upper 1D547:- 1D54A:Upper 1D551:- 1D552:Lower 1D56C:Upper",
    "1D586:Lower 1D5A0:Upper 1D5BA:Lower 1D5D4:Upper 1D5EE:Lower 1D608:Upper 1D622:Lower",
    "1D63C:Upper 1D656:Lower 1D670:Upper 1D68A:Lower 1D6A6:- 1D6A8:Upper 1D6C1:- 1D6C2:Lower",
    "1D6DB:- 1D6DC:Lower 1D6E2:Upper 1D6FB:- 1D6FC:Lower 1D715:- 1D716:Lower 1D71C:Upper 1D735:-",
    "1D736:Lower 1D74F:- 1D750:Lower 1D756:Upper 1D76F:- 1D770:Lower 1D789:- 1D78A:Lower",
    "1D790:Upper 1D7A9:- 1D7AA:Lower 1D7C3:- 1D7C4:Lower 1D7CA:Upper 1D7CB:Lower 1D7CC:-",
    "1D7CE:Numeric 1D800:- 1DA00:Extend 1DA37:- 1DA3B:Extend 1DA6D:- 1DA75:Extend 1DA76:-",
    "1DA84:Extend 1DA85:- 1DA88:STerm 1DA89:- 1DA9B:Extend 1DAA0:- 1DAA1:Extend 1DAB0:-",
    "1DF00:Lower 1DF0A:OLetter 1DF0B:Lower 1DF1F:- 1DF25:Lower 1DF2B:- 1E000:Extend 1E007:-",
    "1E008:Extend 1E019:- 1E01B:Extend 1E022:- 1E023:Extend 1E025:- 1E026:Extend 1E02B:-",
    "1E030:Lower 1E06E:- 1E08F:Extend 1E090:- 1E100:OLetter 1E12D:- 1E130:Extend 1E137:OLetter",
    "1E13E:- 1E140:Numeric 1E14A:- 1E14E:OLetter 1E14F:- 1E290:OLetter 1E2AE:Extend 1E2AF:-",
    "1E2C0:OLetter 1E2EC:Extend 1E2F0:Numeric 1E2FA:- 1E4D0:OLetter 1E4EC:Extend 1E4F0:Numeric",
    "1E4FA:- 1E5D0:OLetter 1E5EE:Extend 1E5F0:OLetter 1E5F1:Numeric 1E5FB:- 1E7E0:OLetter 1E7E7:-",
    "1E7E8:OLetter 1E7EC:- 1E7ED:OLetter 1E7EF:- 1E7F0:OLetter 1E7FF:- 1E800:OLetter 1E8C5:-",
    "1E8D0:Extend 1E8D7:- 1E900:Upper 1E922:Lower 1E944:Extend 1E94B:OLetter 1E94C:-",
    "1E950:Numeric 1E95A:- 1EE00:OLetter 1EE04:- 1EE05:OLetter 1EE20:- 1EE21:OLetter 1EE23:-",
    "1EE24:OLetter 1EE25:- 1EE27:OLetter 1EE28:- 1EE29:OLetter 1EE33:- 1EE34:OLetter 1EE38:-",
    "1EE39:OLetter 1EE3A:- 1EE3B:OLetter 1EE3C:- 1EE42:OLetter 1EE43:- 1EE47:OLetter 1EE48:-",
    "1EE49:OLetter 1EE4A:- 1EE4B:OLetter 1EE4C:- 1EE4D:OLetter 1EE50:- 1EE51:OLetter 1EE53:-",
    "1EE54:OLetter 1EE55:- 1EE57:OLetter 1EE58:- 1EE59:OLetter 1EE5A:- 1EE5B:OLetter 1EE5C:-",
    "1EE5D:OLetter 1EE5E:- 1EE5F:OLetter 1EE60:- 1EE61:OLetter 1EE63:- 1EE64:OLetter 1EE65:-",
    "1EE67:OLetter 1EE6B:- 1EE6C:OLetter 1EE73:- 1EE74:OLetter 1EE78:- 1EE79:OLetter 1EE7D:-",
    "1EE7E:OLetter 1EE7F:- 1EE80:OLetter 1EE8A:- 1EE8B:OLetter 1EE9C:- 1EEA1:OLetter 1EEA4:-",
    "1EEA5:OLetter 1EEAA:- 1EEAB:OLetter 1EEBC:- 1F130:Upper 1F14A:- 1F150:Upper 1F16A:-",
    "1F170:Upper 1F18A:- 1F676:Close 1F679:- 1FBF0:Numeric 1FBFA:- 20000:OLetter 2A6E0:-",
    "2A700:OLetter 2B73A:- 2B740:OLetter 2B81E:- 2B820:OLetter 2CEA2:- 2CEB0:OLetter 2EBE1:-",
    "2EBF0:OLetter 2EE5E:- 2F800:OLetter 2FA1E:- 30000:OLetter 3134B:- 31350:OLetter 323B0:-",
    "E0001:Format E0002:- E0020:Extend E0080:- E0100:Extend E01F0:-" ]

/-- The values of the sentence breaks: a value, then the names that stand for it. -/
def sentenceBreakNames : List String :=
  [ "ATerm at aterm",
    "CR cr",
    "Close cl close",
    "Extend ex extend",
    "Format fo format",
    "LF lf",
    "Lower lo lower",
    "Numeric nu numeric",
    "OLetter le oletter",
    "SContinue sc scontinue",
    "STerm st sterm",
    "Sep se sep",
    "Sp sp",
    "Upper up upper" ]

/-- The code points with a value of the sentence breaks. -/
def sentenceBreakRanges? (name : String) : Option (List Range) :=
  (codeOf? sentenceBreakNames name).map fun code => select (runs sentenceBreakTable) (· = code)

end PointerOrigins.Unicode
