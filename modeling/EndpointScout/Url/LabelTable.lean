import EndpointScout.Text.CodeTable

/-! Character properties that decide whether a label of a host name is well
formed: marks, writing direction and cursive joining, beyond ASCII. -/
namespace EndpointScout.Url

def markRanges : List (Nat × Nat) := Text.CodeTable.ranges
  ["300-36F 483-489 591-5BD 5BF 5C1-5C2 5C4-5C5 5C7 610-61A 64B-65F 670 6D6-6DC 6DF-6E4 6E7-6E8",
   "6EA-6ED 711 730-74A 7A6-7B0 7EB-7F3 7FD 816-819 81B-823 825-827 829-82D 859-85B 898-89F",
   "8CA-903 93A-93C 93E-94F 951-957 962-963 981-983 9BC 9BE-9CD 9D7 9E2-9E3 9FE-A03 A3C-A51",
   "A70-A71 A75 A81-A83 ABC ABE-ACD AE2-AE3 AFA-B03 B3C B3E-B57 B62-B63 B82 BBE-BCD BD7 C00-C04",
   "C3C C3E-C56 C62-C63 C81-C83 CBC CBE-CD6 CE2-CE3 D00-D03 D3B-D3C D3E-D4D D57 D62-D63 D81-D83",
   "DCA-DDF DF2-DF3 E31 E34-E3A E47-E4E EB1 EB4-EBC EC8-ECD F18-F19 F35 F37 F39 F3E-F3F F71-F84",
   "F86-F87 F8D-FBC FC6 102B-103E 1056-1059 105E-1060 1062-1064 1067-106D 1071-1074 1082-108D",
   "108F 109A-109D 135D-135F 1712-1715 1732-1734 1752-1753 1772-1773 17B6-17D3 17DD 1885-1886",
   "18A9 1920-193B 1A17-1A1B 1A55-1A7F 1AB0-1ACE 1B00-1B04 1B34-1B44 1B6B-1B73 1B80-1B82",
   "1BA1-1BAD 1BE6-1BF3 1C24-1C37 1CD0-1CD2 1CD4-1CE8 1CED 1CF4 1CF7-1CF9 1DC0-1DFF 20D0-20F0",
   "2CEF-2CF1 2D7F 2DE0-2DFF 302A-302F 3099-309A A66F-A672 A674-A67D A69E-A69F A6F0-A6F1 A802",
   "A806 A80B A823-A827 A82C A880-A881 A8B4-A8C5 A8E0-A8F1 A8FF A926-A92D A947-A953 A980-A983",
   "A9B3-A9C0 A9E5 AA29-AA36 AA43 AA4C-AA4D AA7B-AA7D AAB0 AAB2-AAB4 AAB7-AAB8 AABE-AABF AAC1",
   "AAEB-AAEF AAF5-AAF6 ABE3-ABEA ABEC-ABED FB1E FE20-FE2F 101FD 102E0 10376-1037A 10A01-10A0F",
   "10A38-10A3F 10AE5-10AE6 10D24-10D27 10EAB-10EAC 10F46-10F50 10F82-10F85 11000-11002",
   "11038-11046 11070 11073-11074 1107F-11082 110B0-110BA 110C2 11100-11102 11127-11134",
   "11145-11146 11173 11180-11182 111B3-111C0 111C9-111CC 111CE-111CF 1122C-11237 1123E",
   "112DF-112EA 11300-11303 1133B-1133C 1133E-1134D 11357 11362-11374 11435-11446 1145E",
   "114B0-114C3 115AF-115C0 115DC-115DD 11630-11640 116AB-116B7 1171D-1172B 1182C-1183A",
   "11930-1193E 11940 11942-11943 119D1-119E0 119E4 11A01-11A0A 11A33-11A39 11A3B-11A3E 11A47",
   "11A51-11A5B 11A8A-11A99 11C2F-11C3F 11C92-11CB6 11D31-11D45 11D47 11D8A-11D97 11EF3-11EF6",
   "16AF0-16AF4 16B30-16B36 16F4F 16F51-16F92 16FE4-16FF1 1BC9D-1BC9E 1CF00-1CF46 1D165-1D169",
   "1D16D-1D182 1D185-1D18B 1D1AA-1D1AD 1D242-1D244 1DA00-1DA36 1DA3B-1DA6C 1DA75 1DA84",
   "1DA9B-1DAAF 1E000-1E02A 1E130-1E136 1E2AE 1E2EC-1E2EF 1E8D0-1E8D6 1E944-1E94A"]

/-- Direction classes other than left-to-right: 1 R, 2 AL, 3 AN, 4 EN, 5 ES, 6 CS,
7 ET, 8 ON, 9 BN, 10 NSM. -/
def directionClasses : List (Nat × Nat × Nat) := Text.CodeTable.classes
  ["A1=8 A2-A5=7 A6-AE=8 B0-B1=7 B6-D7=8 F7=8 2B9-2BA=8 2C2-2CF=8 2D2-2ED=8 2EF-2FF=8 300-36F=A",
   "375=8 3F6=8 483-489=A 58A-58E=8 58F=7 591-5BD=A 5BE=1 5BF=A 5C0=1 5C1-5C2=A 5C3=1 5C4-5C5=A",
   "5C6=1 5C7=A 5D0-5F4=1 606-607=8 608=2 609-60A=7 60B=2 60C=6 60D=2 60E-60F=8 610-61A=A",
   "61B-64A=2 64B-65F=A 660-669=3 66A=7 66B-66C=3 66D-66F=2 670=A 671-6D5=2 6D6-6DC=A 6DE=8",
   "6DF-6E4=A 6E5-6E6=2 6E7-6E8=A 6E9=8 6EA-6ED=A 6EE-6EF=2 6F0-6F9=4 6FA-710=2 711=A 712-72F=2",
   "730-74A=A 74D-7A5=2 7A6-7B0=A 7B1=2 7C0-7EA=1 7EB-7F3=A 7F4-7F5=1 7F6-7F9=8 7FA=1 7FD=A",
   "7FE-815=1 816-819=A 81A=1 81B-823=A 824=1 825-827=A 828=1 829-82D=A 830-858=1 859-85B=A",
   "85E=1 860-88E=2 898-89F=A 8A0-8C9=2 8CA-902=A 93A=A 93C=A 941-948=A 94D=A 951-957=A",
   "962-963=A 981=A 9BC=A 9C1-9C4=A 9CD=A 9E2-9E3=A 9F2-9F3=7 9FB=7 9FE-A02=A A3C=A A41-A51=A",
   "A70-A71=A A75=A A81-A82=A ABC=A AC1-AC8=A ACD=A AE2-AE3=A AF1=7 AFA-B01=A B3C=A B3F=A",
   "B41-B44=A B4D-B56=A B62-B63=A B82=A BC0=A BCD=A BF3-BF8=8 BF9=7 BFA=8 C00=A C04=A C3C=A",
   "C3E-C40=A C46-C56=A C62-C63=A C78-C7E=8 C81=A CBC=A CCC-CCD=A CE2-CE3=A D00-D01=A D3B-D3C=A",
   "D41-D44=A D4D=A D62-D63=A D81=A DCA=A DD2-DD6=A E31=A E34-E3A=A E3F=7 E47-E4E=A EB1=A",
   "EB4-EBC=A EC8-ECD=A F18-F19=A F35=A F37=A F39=A F3A-F3D=8 F71-F7E=A F80-F84=A F86-F87=A",
   "F8D-FBC=A FC6=A 102D-1030=A 1032-1037=A 1039-103A=A 103D-103E=A 1058-1059=A 105E-1060=A",
   "1071-1074=A 1082=A 1085-1086=A 108D=A 109D=A 135D-135F=A 1390-1399=8 1400=8 169B-169C=8",
   "1712-1714=A 1732-1733=A 1752-1753=A 1772-1773=A 17B7-17BD=A 17C6=A 17C9-17D3=A 17DB=7 17DD=A",
   "17F0-180A=8 1885-1886=A 18A9=A 1920-1922=A 1927-1928=A 1932=A 1939-193B=A 1940-1945=8",
   "19DE-19FF=8 1A17-1A18=A 1A1B=A 1A56=A 1A58-1A60=A 1A62=A 1A65-1A6C=A 1A73-1A7F=A 1AB0-1ACE=A",
   "1B00-1B03=A 1B34=A 1B36-1B3A=A 1B3C=A 1B42=A 1B6B-1B73=A 1B80-1B81=A 1BA2-1BA5=A 1BA8-1BA9=A",
   "1BAB-1BAD=A 1BE6=A 1BE8-1BE9=A 1BED=A 1BEF-1BF1=A 1C2C-1C33=A 1C36-1C37=A 1CD0-1CD2=A",
   "1CD4-1CE0=A 1CE2-1CE8=A 1CED=A 1CF4=A 1CF8-1CF9=A 1DC0-1DFF=A 200C-200D=9 2010-2027=8",
   "2030-2032=7 2035-2043=8 2044=6 2045-205E=8 20A0-20C0=7 20D0-20F0=A 2104-2129=8 212E=7",
   "213A-214D=8 218A-2211=8 2212=5 2213=7 2214-2335=8 237B-2394=8 2396-2426=8 2440-26AB=8",
   "26AD-27FF=8 2900-2B95=8 2B97-2BFF=8 2CE5-2CEA=8 2CEF-2CF1=A 2CF9-2CFF=8 2D7F=A 2DE0-2DFF=A",
   "2E00-3004=8 3008-3020=8 302A-302D=A 3030=8 3037=8 303D-303F=8 3099-309A=A 30A0=8 30FB=8",
   "31C0-31E3=8 4DC0-4DFF=8 A490-A4C6=8 A60D-A60F=8 A66F-A672=A A673=8 A674-A67D=A A67E-A67F=8",
   "A69E-A69F=A A6F0-A6F1=A A700-A721=8 A788=8 A802=A A806=A A80B=A A825-A826=A A828-A82B=8",
   "A82C=A A838-A839=7 A874-A877=8 A8C4-A8C5=A A8E0-A8F1=A A8FF=A A926-A92D=A A947-A951=A",
   "A980-A982=A A9B3=A A9B6-A9B9=A A9BC-A9BD=A A9E5=A AA29-AA2E=A AA31-AA32=A AA35-AA36=A AA43=A",
   "AA4C=A AA7C=A AAB0=A AAB2-AAB4=A AAB7-AAB8=A AABE-AABF=A AAC1=A AAEC-AAED=A AAF6=A",
   "AB6A-AB6B=8 ABE5=A ABE8=A ABED=A FB1E=A FBB2-FBC2=2 FD3E-FD4F=8 FDCF-FDFF=8 FE20-FE2F=A",
   "FE45-FE46=8 FE73=2 10101=8 10140-1018C=8 10190-101A0=8 101FD=A 102E0=A 102E1-102FB=4",
   "10376-1037A=A 10800-1091B=1 1091F=8 10920-1093F=1 10980-10A00=1 10A01-10A0F=A 10A10-10A35=1",
   "10A38-10A3F=A 10A40-10AE4=1 10AE5-10AE6=A 10AEB-10B35=1 10B39-10B3F=8 10B40-10CFF=1",
   "10D00-10D23=2 10D24-10D27=A 10D30-10D39=3 10E60-10E7E=3 10E80-10EA9=1 10EAB-10EAC=A",
   "10EAD-10EB1=1 10F00-10F27=1 10F30-10F45=2 10F46-10F50=A 10F51-10F59=2 10F70-10F81=1",
   "10F82-10F85=A 10F86-10FF6=1 11001=A 11038-11046=A 11052-11065=8 11070=A 11073-11074=A",
   "1107F-11081=A 110B3-110B6=A 110B9-110BA=A 110C2=A 11100-11102=A 11127-1112B=A 1112D-11134=A",
   "11173=A 11180-11181=A 111B6-111BE=A 111C9-111CC=A 111CF=A 1122F-11231=A 11234=A",
   "11236-11237=A 1123E=A 112DF=A 112E3-112EA=A 11300-11301=A 1133B-1133C=A 11340=A",
   "11366-11374=A 11438-1143F=A 11442-11444=A 11446=A 1145E=A 114B3-114B8=A 114BA=A",
   "114BF-114C0=A 114C2-114C3=A 115B2-115B5=A 115BC-115BD=A 115BF-115C0=A 115DC-115DD=A",
   "11633-1163A=A 1163D=A 1163F-11640=A 11660-1166C=8 116AB=A 116AD=A 116B0-116B5=A 116B7=A",
   "1171D-1171F=A 11722-11725=A 11727-1172B=A 1182F-11837=A 11839-1183A=A 1193B-1193C=A 1193E=A",
   "11943=A 119D4-119DB=A 119E0=A 11A01-11A06=A 11A09-11A0A=A 11A33-11A38=A 11A3B-11A3E=A",
   "11A47=A 11A51-11A56=A 11A59-11A5B=A 11A8A-11A96=A 11A98-11A99=A 11C30-11C3D=A 11C92-11CA7=A",
   "11CAA-11CB0=A 11CB2-11CB3=A 11CB5-11CB6=A 11D31-11D45=A 11D47=A 11D90-11D91=A 11D95=A",
   "11D97=A 11EF3-11EF4=A 11FD5-11FDC=8 11FDD-11FE0=7 11FE1-11FF1=8 16AF0-16AF4=A 16B30-16B36=A",
   "16F4F=A 16F8F-16F92=A 16FE2=8 16FE4=A 1BC9D-1BC9E=A 1CF00-1CF46=A 1D167-1D169=A",
   "1D17B-1D182=A 1D185-1D18B=A 1D1AA-1D1AD=A 1D1E9-1D241=8 1D242-1D244=A 1D245=8 1D300-1D356=8",
   "1DA00-1DA36=A 1DA3B-1DA6C=A 1DA75=A 1DA84=A 1DA9B-1DAAF=A 1E000-1E02A=A 1E130-1E136=A",
   "1E2AE=A 1E2EC-1E2EF=A 1E2FF=7 1E800-1E8CF=1 1E8D0-1E8D6=A 1E922-1E943=1 1E944-1E94A=A",
   "1E94B-1E95F=1 1EC71-1ED3D=2 1EEF0-1F12F=8 1F16D-1F16F=8 1F1AD=8 1F260-1F6D7=8 1F6DD-1F773=8",
   "1F780-1F7D8=8 1F7E0-1F8B1=8 1F900-1FA53=8 1FA60-1FA74=8 1FA78-1FA86=8 1FA90-1FAAC=8",
   "1FAB0-1FABA=8 1FAC0-1FAC5=8 1FAD0-1FAD9=8 1FAE0-1FAE7=8 1FAF0-1FAF6=8 1FB00-1FBCA=8"]

/-- Joining types: 1 transparent, 2 to the left, 3 to the right, 4 to both sides. -/
def joiningClasses : List (Nat × Nat × Nat) := Text.CodeTable.classes
  ["300-36F=1 483-489=1 591-5BD=1 5BF=1 5C1-5C2=1 5C4-5C5=1 5C7=1 610-61A=1 620=4 622-625=3",
   "626=4 627=3 628=4 629=3 62A-62E=4 62F-632=3 633-63F=4 641-647=4 648=3 649-64A=4 64B-65F=1",
   "66E-66F=4 670=1 671-673=3 679-687=4 688-699=3 69A-6BF=4 6C0=3 6C1-6C2=4 6C3-6CB=3 6CC=4",
   "6CD=3 6CE=4 6CF=3 6D0-6D1=4 6D2-6D3=3 6D5=3 6D6-6DC=1 6DF-6E4=1 6E7-6E8=1 6EA-6ED=1",
   "6EE-6EF=3 6FA-6FC=4 6FF=4 710=3 711=1 712-714=4 715-719=3 71A-71D=4 71E=3 71F-727=4 728=3",
   "729=4 72A=3 72B=4 72C=3 72D-72E=4 72F=3 730-74A=1 74D=3 74E-758=4 759-75B=3 75C-76A=4",
   "76B-76C=3 76D-770=4 771=3 772=4 773-774=3 775-777=4 778-779=3 77A-77F=4 7A6-7B0=1 7CA-7EA=4",
   "7EB-7F3=1 7FD=1 816-819=1 81B-823=1 825-827=1 829-82D=1 840=3 841-845=4 846-847=3 848=4",
   "849=3 84A-853=4 854=3 855=4 856-858=3 859-85B=1 860=4 862-865=4 867=3 868=4 869-882=3 886=4",
   "889-88D=4 88E=3 88F=4 897-89F=1 8A0-8A9=4 8AA-8AC=3 8AE=3 8AF-8B0=4 8B1-8B2=3 8B3-8B8=4",
   "8B9=3 8BA-8C8=4 8CA-902=1 93A=1 93C=1 941-948=1 94D=1 951-957=1 962-963=1 981=1 9BC=1",
   "9C1-9C4=1 9CD=1 9E2-9E3=1 9FE-A02=1 A3C=1 A41-A51=1 A70-A71=1 A75=1 A81-A82=1 ABC=1",
   "AC1-AC8=1 ACD=1 AE2-AE3=1 AFA-B01=1 B3C=1 B3F=1 B41-B44=1 B4D-B56=1 B62-B63=1 B82=1 BC0=1",
   "BCD=1 C00=1 C04=1 C3C=1 C3E-C40=1 C46-C56=1 C62-C63=1 C81=1 CBC=1 CBF=1 CC6=1 CCC-CCD=1",
   "CE2-CE3=1 D00-D01=1 D3B-D3C=1 D41-D44=1 D4D=1 D62-D63=1 D81=1 DCA=1 DD2-DD6=1 E31=1",
   "E34-E3A=1 E47-E4E=1 EB1=1 EB4-EBC=1 EC8-ECE=1 F18-F19=1 F35=1 F37=1 F39=1 F71-F7E=1",
   "F80-F84=1 F86-F87=1 F8D-FBC=1 FC6=1 102D-1030=1 1032-1037=1 1039-103A=1 103D-103E=1",
   "1058-1059=1 105E-1060=1 1071-1074=1 1082=1 1085-1086=1 108D=1 109D=1 135D-135F=1 1712-1714=1",
   "1732-1733=1 1752-1753=1 1772-1773=1 17B7-17BD=1 17C6=1 17C9-17D3=1 17DD=1 1807=4 1820-1878=4",
   "1885-1886=1 1887-18A8=4 18A9=1 18AA=4 1920-1922=1 1927-1928=1 1932=1 1939-193B=1 1A17-1A18=1",
   "1A1B=1 1A56=1 1A58-1A60=1 1A62=1 1A65-1A6C=1 1A73-1A7F=1 1AB0-1B03=1 1B34=1 1B36-1B3A=1",
   "1B3C=1 1B42=1 1B6B-1B73=1 1B80-1B81=1 1BA2-1BA5=1 1BA8-1BA9=1 1BAB-1BAD=1 1BE6=1 1BE8-1BE9=1",
   "1BED=1 1BEF-1BF1=1 1C2C-1C33=1 1C36-1C37=1 1CD0-1CD2=1 1CD4-1CE0=1 1CE2-1CE8=1 1CED=1 1CF4=1",
   "1CF8-1CF9=1 1DC0-1DFF=1 20D0-20F0=1 2CEF-2CF1=1 2D7F=1 2DE0-2DFF=1 302A-302D=1 3099-309A=1",
   "A66F-A672=1 A674-A67D=1 A69E-A69F=1 A6F0-A6F1=1 A802=1 A806=1 A80B=1 A825-A826=1 A82C=1",
   "A840-A871=4 A872=2 A8C4-A8C5=1 A8E0-A8F1=1 A8FF=1 A926-A92D=1 A947-A951=1 A980-A982=1 A9B3=1",
   "A9B6-A9B9=1 A9BC-A9BD=1 A9E5=1 AA29-AA2E=1 AA31-AA32=1 AA35-AA36=1 AA43=1 AA4C=1 AA7C=1",
   "AAB0=1 AAB2-AAB4=1 AAB7-AAB8=1 AABE-AABF=1 AAC1=1 AAEC-AAED=1 AAF6=1 ABE5=1 ABE8=1 ABED=1",
   "FB1E=1 FE20-FE2F=1 101FD=1 102E0=1 10376-1037A=1 10A01-10A0F=1 10A38-10A3F=1 10AC0-10AC4=4",
   "10AC5=3 10AC7=3 10AC9-10ACA=3 10ACD=2 10ACE-10AD2=3 10AD3-10AD6=4 10AD7=2 10AD8-10ADC=4",
   "10ADD=3 10ADE-10AE0=4 10AE1=3 10AE4=3 10AE5-10AE6=1 10AEB-10AEE=4 10AEF=3 10B80=4 10B81=3",
   "10B82=4 10B83-10B85=3 10B86-10B88=4 10B89=3 10B8A-10B8B=4 10B8C=3 10B8D=4 10B8E-10B8F=3",
   "10B90=4 10B91=3 10BA9-10BAC=3 10BAD-10BAE=4 10D00=2 10D01-10D21=4 10D22=3 10D23=4",
   "10D24-10D27=1 10D69-10D6D=1 10EAB-10EAC=1 10EC2=3 10EC3-10EC4=4 10EC6-10EC7=4 10EFA-10EFF=1",
   "10F30-10F32=4 10F33=3 10F34-10F44=4 10F46-10F50=1 10F51-10F53=4 10F54=3 10F70-10F73=4",
   "10F74-10F75=3 10F76-10F81=4 10F82-10F85=1 10FB0=4 10FB2-10FB3=4 10FB4-10FB6=3 10FB8=4",
   "10FB9-10FBA=3 10FBB-10FBC=4 10FBD=3 10FBE-10FBF=4 10FC1=4 10FC2-10FC3=3 10FC4=4 10FC9=3",
   "10FCA=4 10FCB=2 11001=1 11038-11046=1 11070=1 11073-11074=1 1107F-11081=1 110B3-110B6=1",
   "110B9-110BA=1 110C2=1 11100-11102=1 11127-1112B=1 1112D-11134=1 11173=1 11180-11181=1",
   "111B6-111BE=1 111C9-111CC=1 111CF=1 1122F-11231=1 11234=1 11236-11237=1 1123E=1 11241=1",
   "112DF=1 112E3-112EA=1 11300-11301=1 1133B-1133C=1 11340=1 11366-11374=1 113BB-113C0=1",
   "113CE=1 113D0=1 113D2=1 113E1-113E2=1 11438-1143F=1 11442-11444=1 11446=1 1145E=1",
   "114B3-114B8=1 114BA=1 114BF-114C0=1 114C2-114C3=1 115B2-115B5=1 115BC-115BD=1 115BF-115C0=1",
   "115DC-115DD=1 11633-1163A=1 1163D=1 1163F-11640=1 116AB=1 116AD=1 116B0-116B5=1 116B7=1",
   "1171D-1171F=1 11722-11725=1 11727-1172B=1 1182F-11837=1 11839-1183A=1 1193B-1193C=1 1193E=1",
   "11943=1 119D4-119DB=1 119E0=1 11A01-11A0A=1 11A33-11A38=1 11A3B-11A3E=1 11A47=1",
   "11A51-11A56=1 11A59-11A5B=1 11A8A-11A96=1 11A98-11A99=1 11B60=1 11B62-11B64=1 11B66=1",
   "11C30-11C3D=1 11C3F=1 11C92-11CA7=1 11CAA-11CB0=1 11CB2-11CB3=1 11CB5-11CB6=1 11D31-11D45=1",
   "11D47=1 11D90-11D91=1 11D95=1 11D97=1 11EF3-11EF4=1 11F00-11F01=1 11F36-11F3A=1 11F40=1",
   "11F42=1 11F5A=1 13440=1 13447-13455=1 1611E-16129=1 1612D-1612F=1 16AF0-16AF4=1",
   "16B30-16B36=1 16F4F=1 16F8F-16F92=1 16FE4=1 1BC9D-1BC9E=1 1CF00-1CF46=1 1D167-1D169=1",
   "1D17B-1D182=1 1D185-1D18B=1 1D1AA-1D1AD=1 1D242-1D244=1 1DA00-1DA36=1 1DA3B-1DA6C=1 1DA75=1",
   "1DA84=1 1DA9B-1DAAF=1 1E000-1E08F=1 1E130-1E136=1 1E2AE=1 1E2EC-1E2EF=1 1E4EC-1E4EF=1",
   "1E5EE-1E5EF=1 1E6E3=1 1E6E6=1 1E6EE-1E6EF=1 1E6F5=1 1E8D0-1E8D6=1 1E922-1E943=4",
   "1E944-1E94B=1"]

end EndpointScout.Url
