import ChatWire.Text.CodeTable
namespace ChatWire.Domain

open ChatWire.Text

/-- The direction classes the rule tells apart. -/
inductive Direction where
  /-- Left-to-right (`L`). -/
  | leftToRight
  /-- Right-to-left or Arabic letter (`R`, `AL`). -/
  | rightToLeft
  /-- Arabic number (`AN`). -/
  | arabicNumber
  /-- European number (`EN`). -/
  | europeanNumber
  /-- Nonspacing mark (`NSM`). -/
  | mark
  /-- Separators within numbers, terminators, other neutrals and boundary neutrals
      (`ES`, `CS`, `ET`, `ON`, `BN`). -/
  | neutral
  /-- Any other class: paragraph and segment separators, white space, and the
      embedding, override and isolate controls. -/
  | other
  deriving Repr, BEq, DecidableEq

/-- Reads a direction class from its letter. -/
def Direction.read : List Char → Direction
  | 'l' :: _ => .leftToRight
  | 'r' :: _ => .rightToLeft
  | 'n' :: _ => .arabicNumber
  | 'e' :: _ => .europeanNumber
  | 'm' :: _ => .mark
  | 'o' :: _ => .neutral
  | _ => .other

/-- The direction classes as a code table: `l`, `r`, `n`, `e`, `m`, `o` and `x` stand
    for the classes in the order above. -/
def directionLines : List String := [
  "0o 9x Eo 1Cx 21o 30e 3Ao 41l 5Bo 61l 7Bo 85x 86o AAl ABo B2e B4o B5l B6o B9e BAl BBo C0l D7o",
  "D8l F7o F8l 2B9o 2BBl 2C2o 2D0l 2D2o 2E0l 2E5o 2EEl 2EFo 300m 370l 374o 376l 37Eo 37Fl 384o",
  "386l 387o 388l 3F6o 3F7l 483m 48Al 58Ao 58Bl 58Do 590l 591m 5BEr 5BFm 5C0r 5C1m 5C3r 5C4m",
  "5C6r 5C7m 5C8l 5D0r 5EBl 5EFr 5F5l 600n 606o 608r 609o 60Br 60Co 60Dr 60Eo 610m 61Br 64Bm",
  "660n 66Ao 66Bn 66Dr 670m 671r 6D6m 6DDn 6DEo 6DFm 6E5r 6E7m 6E9o 6EAm 6EEr 6F0e 6FAr 70El",
  "70Fr 711m 712r 730m 74Bl 74Dr 7A6m 7B1r 7B2l 7C0r 7EBm 7F4r 7F6o 7FAr 7FBl 7FDm 7FEr 816m",
  "81Ar 81Bm 824r 825m 828r 829m 82El 830r 83Fl 840r 859m 85Cl 85Er 85Fl 860r 86Bl 870r 890n",
  "892l 897m 8A0r 8CAm 8E2n 8E3m 903l 93Am 93Bl 93Cm 93Dl 941m 949l 94Dm 94El 951m 958l 962m",
  "964l 981m 982l 9BCm 9BDl 9C1m 9C5l 9CDm 9CEl 9E2m 9E4l 9F2o 9F4l 9FBo 9FCl 9FEm 9FFl A01m",
  "A03l A3Cm A3Dl A41m A43l A47m A49l A4Bm A4El A51m A52l A70m A72l A75m A76l A81m A83l ABCm",
  "ABDl AC1m AC6l AC7m AC9l ACDm ACEl AE2m AE4l AF1o AF2l AFAm B00l B01m B02l B3Cm B3Dl B3Fm",
  "B40l B41m B45l B4Dm B4El B55m B57l B62m B64l B82m B83l BC0m BC1l BCDm BCEl BF3o BFBl C00m",
  "C01l C04m C05l C3Cm C3Dl C3Em C41l C46m C49l C4Am C4El C55m C57l C62m C64l C78o C7Fl C81m",
  "C82l CBCm CBDl CCCm CCEl CE2m CE4l D00m D02l D3Bm D3Dl D41m D45l D4Dm D4El D62m D64l D81m",
  "D82l DCAm DCBl DD2m DD5l DD6m DD7l E31m E32l E34m E3Bl E3Fo E40l E47m E4Fl EB1m EB2l EB4m",
  "EBDl EC8m ECFl F18m F1Al F35m F36l F37m F38l F39m F3Ao F3El F71m F7Fl F80m F85l F86m F88l",
  "F8Dm F98l F99m FBDl FC6m FC7l 102Dm 1031l 1032m 1038l 1039m 103Bl 103Dm 103Fl 1058m 105Al",
  "105Em 1061l 1071m 1075l 1082m 1083l 1085m 1087l 108Dm 108El 109Dm 109El 135Dm 1360l 1390o",
  "139Al 1400o 1401l 1680x 1681l 169Bo 169Dl 1712m 1715l 1732m 1734l 1752m 1754l 1772m 1774l",
  "17B4m 17B6l 17B7m 17BEl 17C6m 17C7l 17C9m 17D4l 17DBo 17DCl 17DDm 17DEl 17F0o 17FAl 1800o",
  "180Bm 180Eo 180Fm 1810l 1885m 1887l 18A9m 18AAl 1920m 1923l 1927m 1929l 1932m 1933l 1939m",
  "193Cl 1940o 1941l 1944o 1946l 19DEo 1A00l 1A17m 1A19l 1A1Bm 1A1Cl 1A56m 1A57l 1A58m 1A5Fl",
  "1A60m 1A61l 1A62m 1A63l 1A65m 1A6Dl 1A73m 1A7Dl 1A7Fm 1A80l 1AB0m 1ADEl 1AE0m 1AECl 1B00m",
  "1B04l 1B34m 1B35l 1B36m 1B3Bl 1B3Cm 1B3Dl 1B42m 1B43l 1B4Eo 1B50l 1B6Bm 1B74l 1B7Fo 1B80m",
  "1B82l 1BA2m 1BA6l 1BA8m 1BAAl 1BABm 1BAEl 1BE6m 1BE7l 1BE8m 1BEAl 1BEDm 1BEEl 1BEFm 1BF2l",
  "1C2Cm 1C34l 1C36m 1C38l 1CD0m 1CD3l 1CD4m 1CE1l 1CE2m 1CE9l 1CEDm 1CEEl 1CF4m 1CF5l 1CF8m",
  "1CFAl 1DC0m 1E00l 1FBDo 1FBEl 1FBFo 1FC2l 1FCDo 1FD0l 1FDDo 1FE0l 1FEDo 1FF0l 1FFDo 1FFFl",
  "2000x 200Bo 200El 200Fr 2010o 2028x 202Fo 205Fx 2060o 2065l 2066x 206Ao 2070e 2071l 2074e",
  "207Ao 207Fl 2080e 208Ao 208Fl 20A0o 20C2l 20D0m 20F1l 2100o 2102l 2103o 2107l 2108o 210Al",
  "2114o 2115l 2116o 2119l 211Eo 2124l 2125o 2126l 2127o 2128l 2129o 212Al 212Eo 212Fl 213Ao",
  "213Cl 2140o 2145l 214Ao 214El 2150o 2160l 2189o 218Cl 2190o 2336l 237Bo 2395l 2396o 242Al",
  "2440o 244Bl 2460o 2488e 249Cl 24EAo 26ACl 26ADo 2800l 2900o 2B74l 2B76o 2C00l 2CE5o 2CEBl",
  "2CEFm 2CF2l 2CF9o 2D00l 2D7Fm 2D80l 2DE0m 2E00o 2E5El 2E80o 2E9Al 2E9Bo 2EF4l 2F00o 2FD6l",
  "2FF0o 3000x 3001o 3005l 3008o 3021l 302Am 302El 3030o 3031l 3036o 3038l 303Do 3040l 3099m",
  "309Bo 309Dl 30A0o 30A1l 30FBo 30FCl 31C0o 31E6l 31EFo 31F0l 321Do 321Fl 3250o 3260l 327Co",
  "327Fl 32B1o 32C0l 32CCo 32D0l 3377o 337Bl 33DEo 33E0l 33FFo 3400l 4DC0o 4E00l A490o A4C7l",
  "A60Do A610l A66Fm A673o A674m A67Eo A680l A69Em A6A0l A6F0m A6F2l A700o A722l A788o A789l",
  "A802m A803l A806m A807l A80Bm A80Cl A825m A827l A828o A82Cm A82Dl A838o A83Al A874o A878l",
  "A8C4m A8C6l A8E0m A8F2l A8FFm A900l A926m A92El A947m A952l A980m A983l A9B3m A9B4l A9B6m",
  "A9BAl A9BCm A9BEl A9E5m A9E6l AA29m AA2Fl AA31m AA33l AA35m AA37l AA43m AA44l AA4Cm AA4Dl",
  "AA7Cm AA7Dl AAB0m AAB1l AAB2m AAB5l AAB7m AAB9l AABEm AAC0l AAC1m AAC2l AAECm AAEEl AAF6m",
  "AAF7l AB6Ao AB6Cl ABE5m ABE6l ABE8m ABE9l ABEDm ABEEl FB1Dr FB1Em FB1Fr FB29o FB2Ar FB37l",
  "FB38r FB3Dl FB3Er FB3Fl FB40r FB42l FB43r FB45l FB46r FD3Eo FD50r FDCFo FDF0r FDFDo FE00m",
  "FE10o FE1Al FE20m FE30o FE53l FE54o FE67l FE68o FE6Cl FE70r FE75l FE76r FEFDl FEFFo FF00l",
  "FF01o FF10e FF1Ao FF21l FF3Bo FF41l FF5Bo FF66l FFE0o FFE7l FFE8o FFEFl FFF9o 10000l 10101o",
  "10102l 10140o 1018Dl 10190o 1019Dl 101A0o 101A1l 101FDm 101FEl 102E0m 102E1e 102FCl 10376m",
  "1037Bl 10800r 10806l 10808r 10809l 1080Ar 10836l 10837r 10839l 1083Cr 1083Dl 1083Fr 10856l",
  "10857r 1089Fl 108A7r 108B0l 108E0r 108F3l 108F4r 108F6l 108FBr 1091Cl 1091Fo 10920r 1093Al",
  "1093Fr 1095Al 10980r 109B8l 109BCr 109D0l 109D2r 10A01m 10A04l 10A05m 10A07l 10A0Cm 10A10r",
  "10A14l 10A15r 10A18l 10A19r 10A36l 10A38m 10A3Bl 10A3Fm 10A40r 10A49l 10A50r 10A59l 10A60r",
  "10AA0l 10AC0r 10AE5m 10AE7l 10AEBr 10AF7l 10B00r 10B36l 10B39o 10B40r 10B56l 10B58r 10B73l",
  "10B78r 10B92l 10B99r 10B9Dl 10BA9r 10BB0l 10C00r 10C49l 10C80r 10CB3l 10CC0r 10CF3l 10CFAr",
  "10D24m 10D28l 10D30n 10D3Al 10D40n 10D4Ar 10D66l 10D69m 10D6Er 10D86l 10D8Er 10D90l 10E60n",
  "10E7Fl 10E80r 10EAAl 10EABm 10EADr 10EAEl 10EB0r 10EB2l 10EC2r 10EC8l 10ED0r 10ED9l 10EFAm",
  "10F00r 10F28l 10F30r 10F46m 10F51r 10F5Al 10F70r 10F82m 10F86r 10F8Al 10FB0r 10FCCl 10FE0r",
  "10FF7l 11001m 11002l 11038m 11047l 11052o 11066l 11070m 11071l 11073m 11075l 1107Fm 11082l",
  "110B3m 110B7l 110B9m 110BBl 110C2m 110C3l 11100m 11103l 11127m 1112Cl 1112Dm 11135l 11173m",
  "11174l 11180m 11182l 111B6m 111BFl 111C9m 111CDl 111CFm 111D0l 1122Fm 11232l 11234m 11235l",
  "11236m 11238l 1123Em 1123Fl 11241m 11242l 112DFm 112E0l 112E3m 112EBl 11300m 11302l 1133Bm",
  "1133Dl 11340m 11341l 11366m 1136Dl 11370m 11375l 113BBm 113C1l 113CEm 113CFl 113D0m 113D1l",
  "113D2m 113D3l 113D4o 113D6l 113D7o 113D9l 113E1m 113E3l 11438m 11440l 11442m 11445l 11446m",
  "11447l 1145Em 1145Fl 114B3m 114B9l 114BAm 114BBl 114BFm 114C1l 114C2m 114C4l 115B2m 115B6l",
  "115BCm 115BEl 115BFm 115C1l 115DCm 115DEl 11633m 1163Bl 1163Dm 1163El 1163Fm 11641l 11660o",
  "1166Dl 116ABm 116ACl 116ADm 116AEl 116B0m 116B6l 116B7m 116B8l 1171Dm 11720l 11722m 11726l",
  "11727m 1172Cl 1182Fm 11838l 11839m 1183Bl 1193Bm 1193Dl 1193Em 1193Fl 11943m 11944l 119D4m",
  "119D8l 119DAm 119DCl 119E0m 119E1l 11A01m 11A07l 11A09m 11A0Bl 11A33m 11A39l 11A3Bm 11A3Fl",
  "11A47m 11A48l 11A51m 11A57l 11A59m 11A5Cl 11A8Am 11A97l 11A98m 11A9Al 11B60m 11B61l 11B62m",
  "11B65l 11B66m 11B67l 11BE1o 11BE2l 11C30m 11C37l 11C38m 11C3El 11C92m 11CA8l 11CAAm 11CB1l",
  "11CB2m 11CB4l 11CB5m 11CB7l 11D31m 11D37l 11D3Am 11D3Bl 11D3Cm 11D3El 11D3Fm 11D46l 11D47m",
  "11D48l 11D90m 11D92l 11D95m 11D96l 11D97m 11D98l 11EF3m 11EF5l 11F00m 11F02l 11F36m 11F3Bl",
  "11F40m 11F41l 11F42m 11F43l 11F5Am 11F5Bl 11FD5o 11FF2l 13440m 13441l 13447m 13456l 1611Em",
  "1612Al 1612Dm 16130l 16AF0m 16AF5l 16B30m 16B37l 16D6Do 16D70l 16F4Fm 16F50l 16F8Fm 16F93l",
  "16FE2o 16FE3l 16FE4m 16FE5l 1BC9Dm 1BC9Fl 1BCA0o 1BCA4l 1CC00o 1CCF0l 1CCFAo 1CCFDl 1CD00o",
  "1CEB4l 1CEBAo 1CED1l 1CEE0o 1CEF1l 1CF00m 1CF2El 1CF30m 1CF47l 1D167m 1D16Al 1D173o 1D17Bm",
  "1D183l 1D185m 1D18Cl 1D1AAm 1D1AEl 1D1E9o 1D1EBl 1D200o 1D242m 1D245o 1D246l 1D300o 1D357l",
  "1D6DBo 1D6DCl 1D715o 1D716l 1D74Fo 1D750l 1D789o 1D78Al 1D7C3o 1D7C4l 1D7CEe 1D800l 1DA00m",
  "1DA37l 1DA3Bm 1DA6Dl 1DA75m 1DA76l 1DA84m 1DA85l 1DA9Bm 1DAA0l 1DAA1m 1DAB0l 1E000m 1E007l",
  "1E008m 1E019l 1E01Bm 1E022l 1E023m 1E025l 1E026m 1E02Bl 1E08Fm 1E090l 1E130m 1E137l 1E2AEm",
  "1E2AFl 1E2ECm 1E2F0l 1E2FFo 1E300l 1E4ECm 1E4F0l 1E5EEm 1E5F0l 1E5FFo 1E600l 1E6E3m 1E6E4l",
  "1E6E6m 1E6E7l 1E6EEm 1E6F0l 1E6F5m 1E6F6l 1E800r 1E8C5l 1E8C7r 1E8D0m 1E8D7l 1E900r 1E944m",
  "1E94Br 1E94Cl 1E950r 1E95Al 1E95Er 1E960l 1EC71r 1ECB5l 1ED01r 1ED3El 1EE00r 1EE04l 1EE05r",
  "1EE20l 1EE21r 1EE23l 1EE24r 1EE25l 1EE27r 1EE28l 1EE29r 1EE33l 1EE34r 1EE38l 1EE39r 1EE3Al",
  "1EE3Br 1EE3Cl 1EE42r 1EE43l 1EE47r 1EE48l 1EE49r 1EE4Al 1EE4Br 1EE4Cl 1EE4Dr 1EE50l 1EE51r",
  "1EE53l 1EE54r 1EE55l 1EE57r 1EE58l 1EE59r 1EE5Al 1EE5Br 1EE5Cl 1EE5Dr 1EE5El 1EE5Fr 1EE60l",
  "1EE61r 1EE63l 1EE64r 1EE65l 1EE67r 1EE6Bl 1EE6Cr 1EE73l 1EE74r 1EE78l 1EE79r 1EE7Dl 1EE7Er",
  "1EE7Fl 1EE80r 1EE8Al 1EE8Br 1EE9Cl 1EEA1r 1EEA4l 1EEA5r 1EEAAl 1EEABr 1EEBCl 1EEF0o 1EEF2l",
  "1F000o 1F02Cl 1F030o 1F094l 1F0A0o 1F0AFl 1F0B1o 1F0C0l 1F0C1o 1F0D0l 1F0D1o 1F0F6l 1F100e",
  "1F10Bo 1F110l 1F12Fo 1F130l 1F16Ao 1F170l 1F1ADo 1F1AEl 1F260o 1F266l 1F300o 1F6D9l 1F6DCo",
  "1F6EDl 1F6F0o 1F6FDl 1F700o 1F7DAl 1F7E0o 1F7ECl 1F7F0o 1F7F1l 1F800o 1F80Cl 1F810o 1F848l",
  "1F850o 1F85Al 1F860o 1F888l 1F890o 1F8AEl 1F8B0o 1F8BCl 1F8C0o 1F8C2l 1F8D0o 1F8D9l 1F900o",
  "1FA58l 1FA60o 1FA6El 1FA70o 1FA7Dl 1FA80o 1FA8Bl 1FA8Eo 1FAC7l 1FAC8o 1FAC9l 1FACDo 1FADDl",
  "1FADFo 1FAEBl 1FAEFo 1FAF9l 1FB00o 1FB93l 1FB94o 1FBF0e 1FBFAo 1FBFBl 1FFFEo 20000l 2FFFEo",
  "30000l 3FFFEo 40000l 4FFFEo 50000l 5FFFEo 60000l 6FFFEo 70000l 7FFFEo 80000l 8FFFEo 90000l",
  "9FFFEo A0000l AFFFEo B0000l BFFFEo C0000l CFFFEo D0000l DFFFEo E0000l E0001o E0002l E0020o",
  "E0080l E0100m E01F0l EFFFEo F0000l FFFFEo 100000l 10FFFEo"]

/-- The direction table, read once. -/
def directionTable : CodeTable Direction :=
  CodeTable.ofLines directionLines Direction.read

/-- The direction class of a code point. -/
def direction (n : Nat) : Direction :=
  ((directionTable.find? n).map Prod.snd).getD .other

/-- Whether a code point is right-to-left or an Arabic number: a domain name holding
    one is a right-to-left name, all of whose labels keep to the rule. -/
def isRightToLeftish (n : Nat) : Bool :=
  match direction n with
  | .rightToLeft | .arabicNumber => true
  | _ => false

/-- The class of the last character of a label that is not a mark. -/
def lastUnmarked (label : List Nat) : Option Direction :=
  (label.reverse.map direction).find? (· != .mark)

/-- Whether a label keeps to the bidirectional rule for domain names. -/
def keepsDirectionRule (label : List Nat) : Bool :=
  match label with
  | [] => true
  | first :: rest =>
    let classes := rest.map direction
    match direction first with
    | .leftToRight =>
      classes.all (fun d => d == .leftToRight || d == .europeanNumber ||
          d == .neutral || d == .mark) &&
        (lastUnmarked label == some .leftToRight || lastUnmarked label == some .europeanNumber)
    | .rightToLeft =>
      classes.all (fun d => d != .leftToRight && d != .other) &&
        (lastUnmarked label == some .rightToLeft || lastUnmarked label == some .europeanNumber ||
          lastUnmarked label == some .arabicNumber) &&
        !(classes.contains .europeanNumber && classes.contains .arabicNumber)
    | _ => false

end ChatWire.Domain
