import ChatWire.Text.CodeTable
namespace ChatWire.Domain

open ChatWire.Text

/-- The zero width non-joiner. -/
def zeroWidthNonJoiner : Nat := 0x200C

/-- The zero width joiner. -/
def zeroWidthJoiner : Nat := 0x200D

/-- The viramas, in hex. -/
def viramaLines : List String := [
  "94D 9CD A4D ACD B4D BCD C4D CCD D3B D3C D4D DCA E3A EBA F84 1039 103A 1714 1715 1734 17D2",
  "1A60 1B44 1BAA 1BAB 1BF2 1BF3 2D7F A806 A82C A8C4 A953 A9C0 AAF6 ABED 10A3F 11046 11070",
  "1107F 110B9 11133 11134 111C0 11235 112EA 1134D 113CE 113CF 113D0 11442 114C2 115BF 1163F",
  "116B6 1172B 11839 1193D 1193E 119E0 11A34 11A47 11A99 11C3F 11D44 11D45 11D97 11F41 11F42",
  "1612F"]

/-- The viramas, read once. -/
def viramas : List Nat :=
  viramaLines.flatMap fun line => readHexList ' ' line.toList

/-- Whether a code point is a virama. -/
def isVirama (n : Nat) : Bool :=
  viramas.contains n

/-- How a character joins the letters beside it, as far as the joiner rule asks. -/
inductive JoiningType where
  /-- Joins on its left side only (`L`). -/
  | left
  /-- Joins on both sides (`D`). -/
  | dual
  /-- Joins on its right side only (`R`). -/
  | right
  /-- Lets joining pass through (`T`). -/
  | transparent
  /-- Does not join, or causes joining (`U`, `C`). -/
  | nonJoining
  deriving Repr, BEq, DecidableEq

/-- Reads a joining type from its letter. -/
def JoiningType.read : List Char → JoiningType
  | 'l' :: _ => .left
  | 'd' :: _ => .dual
  | 'r' :: _ => .right
  | 't' :: _ => .transparent
  | _ => .nonJoining

/-- The joining types as a code table: `l`, `d`, `r`, `t` and `u` stand for the types
    in the order above. -/
def joiningLines : List String := [
  "0u ADt AEu 300t 370u 483t 48Au 591t 5BEu 5BFt 5C0u 5C1t 5C3u 5C4t 5C6u 5C7t 5C8u 610t 61Bu",
  "61Ct 61Du 620d 621u 622r 626d 627r 628d 629r 62Ad 62Fr 633d 640u 641d 648r 649d 64Bt 660u",
  "66Ed 670t 671r 674u 675r 678d 688r 69Ad 6C0r 6C1d 6C3r 6CCd 6CDr 6CEd 6CFr 6D0d 6D2r 6D4u",
  "6D5r 6D6t 6DDu 6DFt 6E5u 6E7t 6E9u 6EAt 6EEr 6F0u 6FAd 6FDu 6FFd 700u 70Ft 710r 711t 712d",
  "715r 71Ad 71Er 71Fd 728r 729d 72Ar 72Bd 72Cr 72Dd 72Fr 730t 74Bu 74Dr 74Ed 759r 75Cd 76Br",
  "76Dd 771r 772d 773r 775d 778r 77Ad 780u 7A6t 7B1u 7CAd 7EBt 7F4u 7FDt 7FEu 816t 81Au 81Bt",
  "824u 825t 828u 829t 82Eu 840r 841d 846r 848d 849r 84Ad 854r 855d 856r 859t 85Cu 860d 861u",
  "862d 866u 867r 868d 869r 86Bu 870r 883u 886d 887u 889d 88Er 88Fd 890u 897t 8A0d 8AAr 8ADu",
  "8AEr 8AFd 8B1r 8B3d 8B9r 8BAd 8C9u 8CAt 8E2u 8E3t 903u 93At 93Bu 93Ct 93Du 941t 949u 94Dt",
  "94Eu 951t 958u 962t 964u 981t 982u 9BCt 9BDu 9C1t 9C5u 9CDt 9CEu 9E2t 9E4u 9FEt 9FFu A01t",
  "A03u A3Ct A3Du A41t A43u A47t A49u A4Bt A4Eu A51t A52u A70t A72u A75t A76u A81t A83u ABCt",
  "ABDu AC1t AC6u AC7t AC9u ACDt ACEu AE2t AE4u AFAt B00u B01t B02u B3Ct B3Du B3Ft B40u B41t",
  "B45u B4Dt B4Eu B55t B57u B62t B64u B82t B83u BC0t BC1u BCDt BCEu C00t C01u C04t C05u C3Ct",
  "C3Du C3Et C41u C46t C49u C4At C4Eu C55t C57u C62t C64u C81t C82u CBCt CBDu CBFt CC0u CC6t",
  "CC7u CCCt CCEu CE2t CE4u D00t D02u D3Bt D3Du D41t D45u D4Dt D4Eu D62t D64u D81t D82u DCAt",
  "DCBu DD2t DD5u DD6t DD7u E31t E32u E34t E3Bu E47t E4Fu EB1t EB2u EB4t EBDu EC8t ECFu F18t",
  "F1Au F35t F36u F37t F38u F39t F3Au F71t F7Fu F80t F85u F86t F88u F8Dt F98u F99t FBDu FC6t",
  "FC7u 102Dt 1031u 1032t 1038u 1039t 103Bu 103Dt 103Fu 1058t 105Au 105Et 1061u 1071t 1075u",
  "1082t 1083u 1085t 1087u 108Dt 108Eu 109Dt 109Eu 135Dt 1360u 1712t 1715u 1732t 1734u 1752t",
  "1754u 1772t 1774u 17B4t 17B6u 17B7t 17BEu 17C6t 17C7u 17C9t 17D4u 17DDt 17DEu 1807d 1808u",
  "180Bt 180Eu 180Ft 1810u 1820d 1879u 1885t 1887d 18A9t 18AAd 18ABu 1920t 1923u 1927t 1929u",
  "1932t 1933u 1939t 193Cu 1A17t 1A19u 1A1Bt 1A1Cu 1A56t 1A57u 1A58t 1A5Fu 1A60t 1A61u 1A62t",
  "1A63u 1A65t 1A6Du 1A73t 1A7Du 1A7Ft 1A80u 1AB0t 1ADEu 1AE0t 1AECu 1B00t 1B04u 1B34t 1B35u",
  "1B36t 1B3Bu 1B3Ct 1B3Du 1B42t 1B43u 1B6Bt 1B74u 1B80t 1B82u 1BA2t 1BA6u 1BA8t 1BAAu 1BABt",
  "1BAEu 1BE6t 1BE7u 1BE8t 1BEAu 1BEDt 1BEEu 1BEFt 1BF2u 1C2Ct 1C34u 1C36t 1C38u 1CD0t 1CD3u",
  "1CD4t 1CE1u 1CE2t 1CE9u 1CEDt 1CEEu 1CF4t 1CF5u 1CF8t 1CFAu 1DC0t 1E00u 200Bt 200Cu 200Et",
  "2010u 202At 202Fu 2060t 2065u 206At 2070u 20D0t 20F1u 2CEFt 2CF2u 2D7Ft 2D80u 2DE0t 2E00u",
  "302At 302Eu 3099t 309Bu A66Ft A673u A674t A67Eu A69Et A6A0u A6F0t A6F2u A802t A803u A806t",
  "A807u A80Bt A80Cu A825t A827u A82Ct A82Du A840d A872l A873u A8C4t A8C6u A8E0t A8F2u A8FFt",
  "A900u A926t A92Eu A947t A952u A980t A983u A9B3t A9B4u A9B6t A9BAu A9BCt A9BEu A9E5t A9E6u",
  "AA29t AA2Fu AA31t AA33u AA35t AA37u AA43t AA44u AA4Ct AA4Du AA7Ct AA7Du AAB0t AAB1u AAB2t",
  "AAB5u AAB7t AAB9u AABEt AAC0u AAC1t AAC2u AAECt AAEEu AAF6t AAF7u ABE5t ABE6u ABE8t ABE9u",
  "ABEDt ABEEu FB1Et FB1Fu FE00t FE10u FE20t FE30u FEFFt FF00u FFF9t FFFCu 101FDt 101FEu 102E0t",
  "102E1u 10376t 1037Bu 10A01t 10A04u 10A05t 10A07u 10A0Ct 10A10u 10A38t 10A3Bu 10A3Ft 10A40u",
  "10AC0d 10AC5r 10AC6u 10AC7r 10AC8u 10AC9r 10ACBu 10ACDl 10ACEr 10AD3d 10AD7l 10AD8d 10ADDr",
  "10ADEd 10AE1r 10AE2u 10AE4r 10AE5t 10AE7u 10AEBd 10AEFr 10AF0u 10B80d 10B81r 10B82d 10B83r",
  "10B86d 10B89r 10B8Ad 10B8Cr 10B8Dd 10B8Er 10B90d 10B91r 10B92u 10BA9r 10BADd 10BAFu 10D00l",
  "10D01d 10D22r 10D23d 10D24t 10D28u 10D69t 10D6Eu 10EABt 10EADu 10EC2r 10EC3d 10EC5u 10EC6d",
  "10EC8u 10EFAt 10F00u 10F30d 10F33r 10F34d 10F45u 10F46t 10F51d 10F54r 10F55u 10F70d 10F74r",
  "10F76d 10F82t 10F86u 10FB0d 10FB1u 10FB2d 10FB4r 10FB7u 10FB8d 10FB9r 10FBBd 10FBDr 10FBEd",
  "10FC0u 10FC1d 10FC2r 10FC4d 10FC5u 10FC9r 10FCAd 10FCBl 10FCCu 11001t 11002u 11038t 11047u",
  "11070t 11071u 11073t 11075u 1107Ft 11082u 110B3t 110B7u 110B9t 110BBu 110C2t 110C3u 11100t",
  "11103u 11127t 1112Cu 1112Dt 11135u 11173t 11174u 11180t 11182u 111B6t 111BFu 111C9t 111CDu",
  "111CFt 111D0u 1122Ft 11232u 11234t 11235u 11236t 11238u 1123Et 1123Fu 11241t 11242u 112DFt",
  "112E0u 112E3t 112EBu 11300t 11302u 1133Bt 1133Du 11340t 11341u 11366t 1136Du 11370t 11375u",
  "113BBt 113C1u 113CEt 113CFu 113D0t 113D1u 113D2t 113D3u 113E1t 113E3u 11438t 11440u 11442t",
  "11445u 11446t 11447u 1145Et 1145Fu 114B3t 114B9u 114BAt 114BBu 114BFt 114C1u 114C2t 114C4u",
  "115B2t 115B6u 115BCt 115BEu 115BFt 115C1u 115DCt 115DEu 11633t 1163Bu 1163Dt 1163Eu 1163Ft",
  "11641u 116ABt 116ACu 116ADt 116AEu 116B0t 116B6u 116B7t 116B8u 1171Dt 1171Eu 1171Ft 11720u",
  "11722t 11726u 11727t 1172Cu 1182Ft 11838u 11839t 1183Bu 1193Bt 1193Du 1193Et 1193Fu 11943t",
  "11944u 119D4t 119D8u 119DAt 119DCu 119E0t 119E1u 11A01t 11A0Bu 11A33t 11A39u 11A3Bt 11A3Fu",
  "11A47t 11A48u 11A51t 11A57u 11A59t 11A5Cu 11A8At 11A97u 11A98t 11A9Au 11B60t 11B61u 11B62t",
  "11B65u 11B66t 11B67u 11C30t 11C37u 11C38t 11C3Eu 11C3Ft 11C40u 11C92t 11CA8u 11CAAt 11CB1u",
  "11CB2t 11CB4u 11CB5t 11CB7u 11D31t 11D37u 11D3At 11D3Bu 11D3Ct 11D3Eu 11D3Ft 11D46u 11D47t",
  "11D48u 11D90t 11D92u 11D95t 11D96u 11D97t 11D98u 11EF3t 11EF5u 11F00t 11F02u 11F36t 11F3Bu",
  "11F40t 11F41u 11F42t 11F43u 11F5At 11F5Bu 13430t 13441u 13447t 13456u 1611Et 1612Au 1612Dt",
  "16130u 16AF0t 16AF5u 16B30t 16B37u 16F4Ft 16F50u 16F8Ft 16F93u 16FE4t 16FE5u 1BC9Dt 1BC9Fu",
  "1BCA0t 1BCA4u 1CF00t 1CF2Eu 1CF30t 1CF47u 1D167t 1D16Au 1D173t 1D183u 1D185t 1D18Cu 1D1AAt",
  "1D1AEu 1D242t 1D245u 1DA00t 1DA37u 1DA3Bt 1DA6Du 1DA75t 1DA76u 1DA84t 1DA85u 1DA9Bt 1DAA0u",
  "1DAA1t 1DAB0u 1E000t 1E007u 1E008t 1E019u 1E01Bt 1E022u 1E023t 1E025u 1E026t 1E02Bu 1E08Ft",
  "1E090u 1E130t 1E137u 1E2AEt 1E2AFu 1E2ECt 1E2F0u 1E4ECt 1E4F0u 1E5EEt 1E5F0u 1E6E3t 1E6E4u",
  "1E6E6t 1E6E7u 1E6EEt 1E6F0u 1E6F5t 1E6F6u 1E8D0t 1E8D7u 1E900d 1E944t 1E94Cu E0001t E0002u",
  "E0020t E0080u E0100t E01F0u"]

/-- The joining table, read once. -/
def joiningTable : CodeTable JoiningType :=
  CodeTable.ofLines joiningLines JoiningType.read

/-- The joining type of a code point. -/
def joiningType (n : Nat) : JoiningType :=
  ((joiningTable.find? n).map Prod.snd).getD .nonJoining

/-- The joining type of the first character that is not transparent. -/
def firstJoining (ns : List Nat) : Option JoiningType :=
  (ns.map joiningType).find? (· != .transparent)

/-- Whether the joiners of a label stand in context. `before` holds the characters
    already passed, nearest first. -/
def joinersInContextAfter (before : List Nat) : List Nat → Bool
  | [] => true
  | n :: after =>
    let afterVirama := before.head?.any isVirama
    let fits :=
      if n == zeroWidthJoiner then afterVirama
      else if n == zeroWidthNonJoiner then
        afterVirama ||
          ((firstJoining before).any (fun j => j == .left || j == .dual) &&
            (firstJoining after).any (fun j => j == .right || j == .dual))
      else true
    fits && joinersInContextAfter (n :: before) after

/-- Whether every joiner of a label stands in context. -/
def joinersInContext (label : List Nat) : Bool :=
  joinersInContextAfter [] label

end ChatWire.Domain
