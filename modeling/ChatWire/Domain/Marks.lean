import ChatWire.Text.CodeTable
namespace ChatWire.Domain

open ChatWire.Text

/-- The combining marks as a code table: `y` starts a run of marks and `n` a run of
    other code points. -/
def markLines : List String := [
  "0n 300y 370n 483y 48An 591y 5BEn 5BFy 5C0n 5C1y 5C3n 5C4y 5C6n 5C7y 5C8n 610y 61Bn 64By 660n",
  "670y 671n 6D6y 6DDn 6DFy 6E5n 6E7y 6E9n 6EAy 6EEn 711y 712n 730y 74Bn 7A6y 7B1n 7EBy 7F4n",
  "7FDy 7FEn 816y 81An 81By 824n 825y 828n 829y 82En 859y 85Cn 897y 8A0n 8CAy 8E2n 8E3y 904n",
  "93Ay 93Dn 93Ey 950n 951y 958n 962y 964n 981y 984n 9BCy 9BDn 9BEy 9C5n 9C7y 9C9n 9CBy 9CEn",
  "9D7y 9D8n 9E2y 9E4n 9FEy 9FFn A01y A04n A3Cy A3Dn A3Ey A43n A47y A49n A4By A4En A51y A52n",
  "A70y A72n A75y A76n A81y A84n ABCy ABDn ABEy AC6n AC7y ACAn ACBy ACEn AE2y AE4n AFAy B00n",
  "B01y B04n B3Cy B3Dn B3Ey B45n B47y B49n B4By B4En B55y B58n B62y B64n B82y B83n BBEy BC3n",
  "BC6y BC9n BCAy BCEn BD7y BD8n C00y C05n C3Cy C3Dn C3Ey C45n C46y C49n C4Ay C4En C55y C57n",
  "C62y C64n C81y C84n CBCy CBDn CBEy CC5n CC6y CC9n CCAy CCEn CD5y CD7n CE2y CE4n CF3y CF4n",
  "D00y D04n D3By D3Dn D3Ey D45n D46y D49n D4Ay D4En D57y D58n D62y D64n D81y D84n DCAy DCBn",
  "DCFy DD5n DD6y DD7n DD8y DE0n DF2y DF4n E31y E32n E34y E3Bn E47y E4Fn EB1y EB2n EB4y EBDn",
  "EC8y ECFn F18y F1An F35y F36n F37y F38n F39y F3An F3Ey F40n F71y F85n F86y F88n F8Dy F98n",
  "F99y FBDn FC6y FC7n 102By 103Fn 1056y 105An 105Ey 1061n 1062y 1065n 1067y 106En 1071y 1075n",
  "1082y 108En 108Fy 1090n 109Ay 109En 135Dy 1360n 1712y 1716n 1732y 1735n 1752y 1754n 1772y",
  "1774n 17B4y 17D4n 17DDy 17DEn 180By 180En 180Fy 1810n 1885y 1887n 18A9y 18AAn 1920y 192Cn",
  "1930y 193Cn 1A17y 1A1Cn 1A55y 1A5Fn 1A60y 1A7Dn 1A7Fy 1A80n 1AB0y 1ADEn 1AE0y 1AECn 1B00y",
  "1B05n 1B34y 1B45n 1B6By 1B74n 1B80y 1B83n 1BA1y 1BAEn 1BE6y 1BF4n 1C24y 1C38n 1CD0y 1CD3n",
  "1CD4y 1CE9n 1CEDy 1CEEn 1CF4y 1CF5n 1CF7y 1CFAn 1DC0y 1E00n 20D0y 20F1n 2CEFy 2CF2n 2D7Fy",
  "2D80n 2DE0y 2E00n 302Ay 3030n 3099y 309Bn A66Fy A673n A674y A67En A69Ey A6A0n A6F0y A6F2n",
  "A802y A803n A806y A807n A80By A80Cn A823y A828n A82Cy A82Dn A880y A882n A8B4y A8C6n A8E0y",
  "A8F2n A8FFy A900n A926y A92En A947y A954n A980y A984n A9B3y A9C1n A9E5y A9E6n AA29y AA37n",
  "AA43y AA44n AA4Cy AA4En AA7By AA7En AAB0y AAB1n AAB2y AAB5n AAB7y AAB9n AABEy AAC0n AAC1y",
  "AAC2n AAEBy AAF0n AAF5y AAF7n ABE3y ABEBn ABECy ABEEn FB1Ey FB1Fn FE00y FE10n FE20y FE30n",
  "101FDy 101FEn 102E0y 102E1n 10376y 1037Bn 10A01y 10A04n 10A05y 10A07n 10A0Cy 10A10n 10A38y",
  "10A3Bn 10A3Fy 10A40n 10AE5y 10AE7n 10D24y 10D28n 10D69y 10D6En 10EABy 10EADn 10EFAy 10F00n",
  "10F46y 10F51n 10F82y 10F86n 11000y 11003n 11038y 11047n 11070y 11071n 11073y 11075n 1107Fy",
  "11083n 110B0y 110BBn 110C2y 110C3n 11100y 11103n 11127y 11135n 11145y 11147n 11173y 11174n",
  "11180y 11183n 111B3y 111C1n 111C9y 111CDn 111CEy 111D0n 1122Cy 11238n 1123Ey 1123Fn 11241y",
  "11242n 112DFy 112EBn 11300y 11304n 1133By 1133Dn 1133Ey 11345n 11347y 11349n 1134By 1134En",
  "11357y 11358n 11362y 11364n 11366y 1136Dn 11370y 11375n 113B8y 113C1n 113C2y 113C3n 113C5y",
  "113C6n 113C7y 113CBn 113CCy 113D1n 113D2y 113D3n 113E1y 113E3n 11435y 11447n 1145Ey 1145Fn",
  "114B0y 114C4n 115AFy 115B6n 115B8y 115C1n 115DCy 115DEn 11630y 11641n 116ABy 116B8n 1171Dy",
  "1172Cn 1182Cy 1183Bn 11930y 11936n 11937y 11939n 1193By 1193Fn 11940y 11941n 11942y 11944n",
  "119D1y 119D8n 119DAy 119E1n 119E4y 119E5n 11A01y 11A0Bn 11A33y 11A3An 11A3By 11A3Fn 11A47y",
  "11A48n 11A51y 11A5Cn 11A8Ay 11A9An 11B60y 11B68n 11C2Fy 11C37n 11C38y 11C40n 11C92y 11CA8n",
  "11CA9y 11CB7n 11D31y 11D37n 11D3Ay 11D3Bn 11D3Cy 11D3En 11D3Fy 11D46n 11D47y 11D48n 11D8Ay",
  "11D8Fn 11D90y 11D92n 11D93y 11D98n 11EF3y 11EF7n 11F00y 11F02n 11F03y 11F04n 11F34y 11F3Bn",
  "11F3Ey 11F43n 11F5Ay 11F5Bn 13440y 13441n 13447y 13456n 1611Ey 16130n 16AF0y 16AF5n 16B30y",
  "16B37n 16F4Fy 16F50n 16F51y 16F88n 16F8Fy 16F93n 16FE4y 16FE5n 16FF0y 16FF2n 1BC9Dy 1BC9Fn",
  "1CF00y 1CF2En 1CF30y 1CF47n 1D165y 1D16An 1D16Dy 1D173n 1D17By 1D183n 1D185y 1D18Cn 1D1AAy",
  "1D1AEn 1D242y 1D245n 1DA00y 1DA37n 1DA3By 1DA6Dn 1DA75y 1DA76n 1DA84y 1DA85n 1DA9By 1DAA0n",
  "1DAA1y 1DAB0n 1E000y 1E007n 1E008y 1E019n 1E01By 1E022n 1E023y 1E025n 1E026y 1E02Bn 1E08Fy",
  "1E090n 1E130y 1E137n 1E2AEy 1E2AFn 1E2ECy 1E2F0n 1E4ECy 1E4F0n 1E5EEy 1E5F0n 1E6E3y 1E6E4n",
  "1E6E6y 1E6E7n 1E6EEy 1E6F0n 1E6F5y 1E6F6n 1E8D0y 1E8D7n 1E944y 1E94Bn E0100y E01F0n"]

/-- The mark table, read once. -/
def markTable : CodeTable Bool :=
  CodeTable.ofLines markLines fun rest => rest.head? == some 'y'

/-- Whether a code point is a combining mark. -/
def isMark (n : Nat) : Bool :=
  ((markTable.find? n).map Prod.snd).getD false

end ChatWire.Domain
