import AgentSandbox.Text.Table

/-!
# Marks

A mark belongs to the character before it.  `isMark` holds of every mark and `isNonspacing` of those
that take no room of their own.  Marks stand in a fixed order by their `combiningClass`, which is
zero for whatever is not to be moved.  The tables are those of Unicode 17.
-/

namespace AgentSandbox.Text

/-- The marks: `n` for those that take no room of their own, `s` for all others. -/
def markTable : Table Bool := Table.read (· == ['=', 'n']) "
  300-36F=n 483-489=n 591-5BD=n 5BF=n 5C1-5C2=n 5C4-5C5=n 5C7=n 610-61A=n 64B-65F=n 670=n 6D6-6DC=n
  6DF-6E4=n 6E7-6E8=n 6EA-6ED=n 711=n 730-74A=n 7A6-7B0=n 7EB-7F3=n 7FD=n 816-819=n 81B-823=n
  825-827=n 829-82D=n 859-85B=n 897-89F=n 8CA-8E1=n 8E3-902=n 903=s 93A=n 93B=s 93C=n 93E-940=s
  941-948=n 949-94C=s 94D=n 94E-94F=s 951-957=n 962-963=n 981=n 982-983=s 9BC=n 9BE-9C0=s 9C1-9C4=n
  9C7-9C8=s 9CB-9CC=s 9CD=n 9D7=s 9E2-9E3=n 9FE=n A01-A02=n A03=s A3C=n A3E-A40=s A41-A42=n
  A47-A48=n A4B-A4D=n A51=n A70-A71=n A75=n A81-A82=n A83=s ABC=n ABE-AC0=s AC1-AC5=n AC7-AC8=n
  AC9=s ACB-ACC=s ACD=n AE2-AE3=n AFA-AFF=n B01=n B02-B03=s B3C=n B3E=s B3F=n B40=s B41-B44=n
  B47-B48=s B4B-B4C=s B4D=n B55-B56=n B57=s B62-B63=n B82=n BBE-BBF=s BC0=n BC1-BC2=s BC6-BC8=s
  BCA-BCC=s BCD=n BD7=s C00=n C01-C03=s C04=n C3C=n C3E-C40=n C41-C44=s C46-C48=n C4A-C4D=n
  C55-C56=n C62-C63=n C81=n C82-C83=s CBC=n CBE=s CBF=n CC0-CC4=s CC6=n CC7-CC8=s CCA-CCB=s
  CCC-CCD=n CD5-CD6=s CE2-CE3=n CF3=s D00-D01=n D02-D03=s D3B-D3C=n D3E-D40=s D41-D44=n D46-D48=s
  D4A-D4C=s D4D=n D57=s D62-D63=n D81=n D82-D83=s DCA=n DCF-DD1=s DD2-DD4=n DD6=n DD8-DDF=s
  DF2-DF3=s E31=n E34-E3A=n E47-E4E=n EB1=n EB4-EBC=n EC8-ECE=n F18-F19=n F35=n F37=n F39=n
  F3E-F3F=s F71-F7E=n F7F=s F80-F84=n F86-F87=n F8D-F97=n F99-FBC=n FC6=n 102B-102C=s 102D-1030=n
  1031=s 1032-1037=n 1038=s 1039-103A=n 103B-103C=s 103D-103E=n 1056-1057=s 1058-1059=n 105E-1060=n
  1062-1064=s 1067-106D=s 1071-1074=n 1082=n 1083-1084=s 1085-1086=n 1087-108C=s 108D=n 108F=s
  109A-109C=s 109D=n 135D-135F=n 1712-1714=n 1715=s 1732-1733=n 1734=s 1752-1753=n 1772-1773=n
  17B4-17B5=n 17B6=s 17B7-17BD=n 17BE-17C5=s 17C6=n 17C7-17C8=s 17C9-17D3=n 17DD=n 180B-180D=n
  180F=n 1885-1886=n 18A9=n 1920-1922=n 1923-1926=s 1927-1928=n 1929-192B=s 1930-1931=s 1932=n
  1933-1938=s 1939-193B=n 1A17-1A18=n 1A19-1A1A=s 1A1B=n 1A55=s 1A56=n 1A57=s 1A58-1A5E=n 1A60=n
  1A61=s 1A62=n 1A63-1A64=s 1A65-1A6C=n 1A6D-1A72=s 1A73-1A7C=n 1A7F=n 1AB0-1ADD=n 1AE0-1AEB=n
  1B00-1B03=n 1B04=s 1B34=n 1B35=s 1B36-1B3A=n 1B3B=s 1B3C=n 1B3D-1B41=s 1B42=n 1B43-1B44=s
  1B6B-1B73=n 1B80-1B81=n 1B82=s 1BA1=s 1BA2-1BA5=n 1BA6-1BA7=s 1BA8-1BA9=n 1BAA=s 1BAB-1BAD=n
  1BE6=n 1BE7=s 1BE8-1BE9=n 1BEA-1BEC=s 1BED=n 1BEE=s 1BEF-1BF1=n 1BF2-1BF3=s 1C24-1C2B=s
  1C2C-1C33=n 1C34-1C35=s 1C36-1C37=n 1CD0-1CD2=n 1CD4-1CE0=n 1CE1=s 1CE2-1CE8=n 1CED=n 1CF4=n
  1CF7=s 1CF8-1CF9=n 1DC0-1DFF=n 20D0-20F0=n 2CEF-2CF1=n 2D7F=n 2DE0-2DFF=n 302A-302D=n 302E-302F=s
  3099-309A=n A66F-A672=n A674-A67D=n A69E-A69F=n A6F0-A6F1=n A802=n A806=n A80B=n A823-A824=s
  A825-A826=n A827=s A82C=n A880-A881=s A8B4-A8C3=s A8C4-A8C5=n A8E0-A8F1=n A8FF=n A926-A92D=n
  A947-A951=n A952-A953=s A980-A982=n A983=s A9B3=n A9B4-A9B5=s A9B6-A9B9=n A9BA-A9BB=s A9BC-A9BD=n
  A9BE-A9C0=s A9E5=n AA29-AA2E=n AA2F-AA30=s AA31-AA32=n AA33-AA34=s AA35-AA36=n AA43=n AA4C=n
  AA4D=s AA7B=s AA7C=n AA7D=s AAB0=n AAB2-AAB4=n AAB7-AAB8=n AABE-AABF=n AAC1=n AAEB=s AAEC-AAED=n
  AAEE-AAEF=s AAF5=s AAF6=n ABE3-ABE4=s ABE5=n ABE6-ABE7=s ABE8=n ABE9-ABEA=s ABEC=s ABED=n FB1E=n
  FE00-FE0F=n FE20-FE2F=n 101FD=n 102E0=n 10376-1037A=n 10A01-10A03=n 10A05-10A06=n 10A0C-10A0F=n
  10A38-10A3A=n 10A3F=n 10AE5-10AE6=n 10D24-10D27=n 10D69-10D6D=n 10EAB-10EAC=n 10EFA-10EFF=n
  10F46-10F50=n 10F82-10F85=n 11000=s 11001=n 11002=s 11038-11046=n 11070=n 11073-11074=n
  1107F-11081=n 11082=s 110B0-110B2=s 110B3-110B6=n 110B7-110B8=s 110B9-110BA=n 110C2=n
  11100-11102=n 11127-1112B=n 1112C=s 1112D-11134=n 11145-11146=s 11173=n 11180-11181=n 11182=s
  111B3-111B5=s 111B6-111BE=n 111BF-111C0=s 111C9-111CC=n 111CE=s 111CF=n 1122C-1122E=s
  1122F-11231=n 11232-11233=s 11234=n 11235=s 11236-11237=n 1123E=n 11241=n 112DF=n 112E0-112E2=s
  112E3-112EA=n 11300-11301=n 11302-11303=s 1133B-1133C=n 1133E-1133F=s 11340=n 11341-11344=s
  11347-11348=s 1134B-1134D=s 11357=s 11362-11363=s 11366-1136C=n 11370-11374=n 113B8-113BA=s
  113BB-113C0=n 113C2=s 113C5=s 113C7-113CA=s 113CC-113CD=s 113CE=n 113CF=s 113D0=n 113D2=n
  113E1-113E2=n 11435-11437=s 11438-1143F=n 11440-11441=s 11442-11444=n 11445=s 11446=n 1145E=n
  114B0-114B2=s 114B3-114B8=n 114B9=s 114BA=n 114BB-114BE=s 114BF-114C0=n 114C1=s 114C2-114C3=n
  115AF-115B1=s 115B2-115B5=n 115B8-115BB=s 115BC-115BD=n 115BE=s 115BF-115C0=n 115DC-115DD=n
  11630-11632=s 11633-1163A=n 1163B-1163C=s 1163D=n 1163E=s 1163F-11640=n 116AB=n 116AC=s 116AD=n
  116AE-116AF=s 116B0-116B5=n 116B6=s 116B7=n 1171D=n 1171E=s 1171F=n 11720-11721=s 11722-11725=n
  11726=s 11727-1172B=n 1182C-1182E=s 1182F-11837=n 11838=s 11839-1183A=n 11930-11935=s
  11937-11938=s 1193B-1193C=n 1193D=s 1193E=n 11940=s 11942=s 11943=n 119D1-119D3=s 119D4-119D7=n
  119DA-119DB=n 119DC-119DF=s 119E0=n 119E4=s 11A01-11A0A=n 11A33-11A38=n 11A39=s 11A3B-11A3E=n
  11A47=n 11A51-11A56=n 11A57-11A58=s 11A59-11A5B=n 11A8A-11A96=n 11A97=s 11A98-11A99=n 11B60=n
  11B61=s 11B62-11B64=n 11B65=s 11B66=n 11B67=s 11C2F=s 11C30-11C36=n 11C38-11C3D=n 11C3E=s 11C3F=n
  11C92-11CA7=n 11CA9=s 11CAA-11CB0=n 11CB1=s 11CB2-11CB3=n 11CB4=s 11CB5-11CB6=n 11D31-11D36=n
  11D3A=n 11D3C-11D3D=n 11D3F-11D45=n 11D47=n 11D8A-11D8E=s 11D90-11D91=n 11D93-11D94=s 11D95=n
  11D96=s 11D97=n 11EF3-11EF4=n 11EF5-11EF6=s 11F00-11F01=n 11F03=s 11F34-11F35=s 11F36-11F3A=n
  11F3E-11F3F=s 11F40=n 11F41=s 11F42=n 11F5A=n 13440=n 13447-13455=n 1611E-16129=n 1612A-1612C=s
  1612D-1612F=n 16AF0-16AF4=n 16B30-16B36=n 16F4F=n 16F51-16F87=s 16F8F-16F92=n 16FE4=n
  16FF0-16FF1=s 1BC9D-1BC9E=n 1CF00-1CF2D=n 1CF30-1CF46=n 1D165-1D166=s 1D167-1D169=n 1D16D-1D172=s
  1D17B-1D182=n 1D185-1D18B=n 1D1AA-1D1AD=n 1D242-1D244=n 1DA00-1DA36=n 1DA3B-1DA6C=n 1DA75=n
  1DA84=n 1DA9B-1DA9F=n 1DAA1-1DAAF=n 1E000-1E006=n 1E008-1E018=n 1E01B-1E021=n 1E023-1E024=n
  1E026-1E02A=n 1E08F=n 1E130-1E136=n 1E2AE=n 1E2EC-1E2EF=n 1E4EC-1E4EF=n 1E5EE-1E5EF=n 1E6E3=n
  1E6E6=n 1E6EE-1E6EF=n 1E6F5=n 1E8D0-1E8D6=n 1E944-1E94A=n E0100-E01EF=n"

/-- Whether a character is a mark. -/
def isMark (c : Char) : Bool := 0x300 ≤ c.toNat && markTable.contains c

/-- Whether a character is a mark that takes no room of its own. -/
def isNonspacing (c : Char) : Bool := 0x300 ≤ c.toNat && (markTable.value? c).getD false

/-- The classes of the characters that may be moved. -/
def classTable : Table Nat := Table.read (fun cs => hexNumber (cs.drop 1)) "
  300-314=E6 315=E8 316-319=DC 31A=E8 31B=D8 31C-320=DC 321-322=CA 323-326=DC 327-328=CA 329-333=DC
  334-338=1 339-33C=DC 33D-33F=E6 342=E6 345=F0 346=E6 347-349=DC 34A-34C=E6 34D-34E=DC 350-352=E6
  353-356=DC 357=E6 358=E8 359-35A=DC 35B=E6 35C=E9 35D-35E=EA 35F=E9 360-361=EA 362=E9 363-36F=E6
  483-487=E6 591=DC 592-595=E6 596=DC 597-599=E6 59A=DE 59B=DC 59C-5A1=E6 5A2-5A7=DC 5A8-5A9=E6
  5AA=DC 5AB-5AC=E6 5AD=DE 5AE=E4 5AF=E6 5B0=A 5B1=B 5B2=C 5B3=D 5B4=E 5B5=F 5B6=10 5B7=11 5B8=12
  5B9-5BA=13 5BB=14 5BC=15 5BD=16 5BF=17 5C1=18 5C2=19 5C4=E6 5C5=DC 5C7=12 610-617=E6 618=1E
  619=1F 61A=20 64B=1B 64C=1C 64D=1D 64E=1E 64F=1F 650=20 651=21 652=22 653-654=E6 655-656=DC
  657-65B=E6 65C=DC 65D-65E=E6 65F=DC 670=23 6D6-6DC=E6 6DF-6E2=E6 6E3=DC 6E4=E6 6E7-6E8=E6 6EA=DC
  6EB-6EC=E6 6ED=DC 711=24 730=E6 731=DC 732-733=E6 734=DC 735-736=E6 737-739=DC 73A=E6 73B-73C=DC
  73D=E6 73E=DC 73F-741=E6 742=DC 743=E6 744=DC 745=E6 746=DC 747=E6 748=DC 749-74A=E6 7EB-7F1=E6
  7F2=DC 7F3=E6 7FD=DC 816-819=E6 81B-823=E6 825-827=E6 829-82D=E6 859-85B=DC 897-898=E6 899-89B=DC
  89C-89F=E6 8CA-8CE=E6 8CF-8D3=DC 8D4-8E1=E6 8E3=DC 8E4-8E5=E6 8E6=DC 8E7-8E8=E6 8E9=DC 8EA-8EC=E6
  8ED-8EF=DC 8F0=1B 8F1=1C 8F2=1D 8F3-8F5=E6 8F6=DC 8F7-8F8=E6 8F9-8FA=DC 8FB-8FF=E6 93C=7 94D=9
  951=E6 952=DC 953-954=E6 9BC=7 9CD=9 9FE=E6 A3C=7 A4D=9 ABC=7 ACD=9 B3C=7 B4D=9 BCD=9 C3C=7 C4D=9
  C55=54 C56=5B CBC=7 CCD=9 D3B-D3C=9 D4D=9 DCA=9 E38-E39=67 E3A=9 E48-E4B=6B EB8-EB9=76 EBA=9
  EC8-ECB=7A F18-F19=DC F35=DC F37=DC F39=D8 F71=81 F72=82 F74=84 F7A-F7D=82 F80=82 F82-F83=E6
  F84=9 F86-F87=E6 FC6=DC 1037=7 1039-103A=9 108D=DC 135D-135F=E6 1714-1715=9 1734=9 17D2=9 17DD=E6
  18A9=E4 1939=DE 193A=E6 193B=DC 1A17=E6 1A18=DC 1A60=9 1A75-1A7C=E6 1A7F=DC 1AB0-1AB4=E6
  1AB5-1ABA=DC 1ABB-1ABC=E6 1ABD=DC 1ABF-1AC0=DC 1AC1-1AC2=E6 1AC3-1AC4=DC 1AC5-1AC9=E6 1ACA=DC
  1ACB-1ADC=E6 1ADD=DC 1AE0-1AE5=E6 1AE6=DC 1AE7-1AEA=E6 1AEB=EA 1B34=7 1B44=9 1B6B=E6 1B6C=DC
  1B6D-1B73=E6 1BAA-1BAB=9 1BE6=7 1BF2-1BF3=9 1C37=7 1CD0-1CD2=E6 1CD4=1 1CD5-1CD9=DC 1CDA-1CDB=E6
  1CDC-1CDF=DC 1CE0=E6 1CE2-1CE8=1 1CED=DC 1CF4=E6 1CF8-1CF9=E6 1DC0-1DC1=E6 1DC2=DC 1DC3-1DC9=E6
  1DCA=DC 1DCB-1DCC=E6 1DCD=EA 1DCE=D6 1DCF=DC 1DD0=CA 1DD1-1DF5=E6 1DF6=E8 1DF7-1DF8=E4 1DF9=DC
  1DFA=DA 1DFB=E6 1DFC=E9 1DFD=DC 1DFE=E6 1DFF=DC 20D0-20D1=E6 20D2-20D3=1 20D4-20D7=E6 20D8-20DA=1
  20DB-20DC=E6 20E1=E6 20E5-20E6=1 20E7=E6 20E8=DC 20E9=E6 20EA-20EB=1 20EC-20EF=DC 20F0=E6
  2CEF-2CF1=E6 2D7F=9 2DE0-2DFF=E6 302A=DA 302B=E4 302C=E8 302D=DE 302E-302F=E0 3099-309A=8 A66F=E6
  A674-A67D=E6 A69E-A69F=E6 A6F0-A6F1=E6 A806=9 A82C=9 A8C4=9 A8E0-A8F1=E6 A92B-A92D=DC A953=9
  A9B3=7 A9C0=9 AAB0=E6 AAB2-AAB3=E6 AAB4=DC AAB7-AAB8=E6 AABE-AABF=E6 AAC1=E6 AAF6=9 ABED=9
  FB1E=1A FE20-FE26=E6 FE27-FE2D=DC FE2E-FE2F=E6 101FD=DC 102E0=DC 10376-1037A=E6 10A0D=DC 10A0F=E6
  10A38=E6 10A39=1 10A3A=DC 10A3F=9 10AE5=E6 10AE6=DC 10D24-10D27=E6 10D69-10D6D=E6 10EAB-10EAC=E6
  10EFA-10EFB=DC 10EFD-10EFF=DC 10F46-10F47=DC 10F48-10F4A=E6 10F4B=DC 10F4C=E6 10F4D-10F50=DC
  10F82=E6 10F83=DC 10F84=E6 10F85=DC 11046=9 11070=9 1107F=9 110B9=9 110BA=7 11100-11102=E6
  11133-11134=9 11173=7 111C0=9 111CA=7 11235=9 11236=7 112E9=7 112EA=9 1133B-1133C=7 1134D=9
  11366-1136C=E6 11370-11374=E6 113CE-113D0=9 11442=9 11446=7 1145E=E6 114C2=9 114C3=7 115BF=9
  115C0=7 1163F=9 116B6=9 116B7=7 1172B=9 11839=9 1183A=7 1193D-1193E=9 11943=7 119E0=9 11A34=9
  11A47=9 11A99=9 11C3F=9 11D42=7 11D44-11D45=9 11D97=9 11F41-11F42=9 1612F=9 16AF0-16AF4=1
  16B30-16B36=E6 16FF0-16FF1=6 1BC9E=1 1D165-1D166=D8 1D167-1D169=1 1D16D=E2 1D16E-1D172=D8
  1D17B-1D182=DC 1D185-1D189=E6 1D18A-1D18B=DC 1D1AA-1D1AD=E6 1D242-1D244=E6 1E000-1E006=E6
  1E008-1E018=E6 1E01B-1E021=E6 1E023-1E024=E6 1E026-1E02A=E6 1E08F=E6 1E130-1E136=E6 1E2AE=E6
  1E2EC-1E2EF=E6 1E4EC-1E4ED=E8 1E4EE=DC 1E4EF=E6 1E5EE=E6 1E5EF=DC 1E6E3=E6 1E6E6=E6
  1E6EE-1E6EF=E6 1E6F5=E6 1E8D0-1E8D6=DC 1E944-1E949=E6 1E94A=7"

/-- The class by which a mark takes its place among the marks of a character. -/
def combiningClass (c : Char) : Nat :=
  if c.toNat < 0x300 then 0 else (classTable.value? c).getD 0

/-- The class of the signs that take the vowel from a consonant. -/
def viramaClass : Nat := 9

end AgentSandbox.Text
