import ContentLine.Zone.Rules

/-!
# Zone rules: the Americas

The rules of zones in the Americas, from the IANA time zone database. Each shift is a moment in
seconds of UTC since 1970 with the offset from then on, in seconds east.
-/

namespace ContentLine.Rules

/-- The shifts of `America/New_York` up to 1940. -/
def newYorkUntil1940 : List (Int × Int) :=
  [(-2717650800, -18000), (-1633280400, -14400), (-1615140000, -18000), (-1601830800, -14400),
   (-1583690400, -18000), (-1570381200, -14400), (-1551636000, -18000), (-1536512400, -14400),
   (-1523210400, -18000), (-1504458000, -14400), (-1491760800, -18000), (-1473008400, -14400),
   (-1459706400, -18000), (-1441558800, -14400), (-1428256800, -18000), (-1410109200, -14400),
   (-1396807200, -18000), (-1378659600, -14400), (-1365357600, -18000), (-1347210000, -14400),
   (-1333908000, -18000), (-1315155600, -14400), (-1301853600, -18000), (-1283706000, -14400),
   (-1270404000, -18000), (-1252256400, -14400), (-1238954400, -18000), (-1220806800, -14400),
   (-1207504800, -18000), (-1189357200, -14400), (-1176055200, -18000), (-1157302800, -14400),
   (-1144605600, -18000), (-1125853200, -14400), (-1112551200, -18000), (-1094403600, -14400),
   (-1081101600, -18000), (-1062954000, -14400), (-1049652000, -18000), (-1031504400, -14400),
   (-1018202400, -18000), (-1000054800, -14400), (-986752800, -18000), (-968000400, -14400),
   (-955303200, -18000), (-936550800, -14400), (-923248800, -18000)]

/-- The shifts of `America/New_York` from then up to 1966. -/
def newYorkUntil1966 : List (Int × Int) :=
  [(-905101200, -14400), (-891799200, -18000), (-880218000, -14400), (-769395600, -14400),
   (-765396000, -18000), (-747248400, -14400), (-733946400, -18000), (-715798800, -14400),
   (-702496800, -18000), (-684349200, -14400), (-671047200, -18000), (-652899600, -14400),
   (-639597600, -18000), (-620845200, -14400), (-608148000, -18000), (-589395600, -14400),
   (-576093600, -18000), (-557946000, -14400), (-544644000, -18000), (-526496400, -14400),
   (-513194400, -18000), (-495046800, -14400), (-481744800, -18000), (-463597200, -14400),
   (-447271200, -18000), (-431542800, -14400), (-415821600, -18000), (-400093200, -14400),
   (-384372000, -18000), (-368643600, -14400), (-352922400, -18000), (-337194000, -14400),
   (-321472800, -18000), (-305744400, -14400), (-289418400, -18000), (-273690000, -14400),
   (-257968800, -18000), (-242240400, -14400), (-226519200, -18000), (-210790800, -14400),
   (-195069600, -18000), (-179341200, -14400), (-163620000, -18000), (-147891600, -14400),
   (-131565600, -18000), (-116442000, -14400), (-100116000, -18000)]

/-- The shifts of `America/New_York` from then up to 1990. -/
def newYorkUntil1990 : List (Int × Int) :=
  [(-84387600, -14400), (-68666400, -18000), (-52938000, -14400), (-37216800, -18000),
   (-21488400, -14400), (-5767200, -18000), (9961200, -14400), (25682400, -18000),
   (41410800, -14400), (57736800, -18000), (73465200, -14400), (89186400, -18000),
   (104914800, -14400), (120636000, -18000), (126687600, -14400), (152085600, -18000),
   (162370800, -14400), (183535200, -18000), (199263600, -14400), (215589600, -18000),
   (230713200, -14400), (247039200, -18000), (262767600, -14400), (278488800, -18000),
   (294217200, -14400), (309938400, -18000), (325666800, -14400), (341388000, -18000),
   (357116400, -14400), (372837600, -18000), (388566000, -14400), (404892000, -18000),
   (420015600, -14400), (436341600, -18000), (452070000, -14400), (467791200, -18000),
   (483519600, -14400), (499240800, -18000), (514969200, -14400), (530690400, -18000),
   (544604400, -14400), (562140000, -18000), (576054000, -14400), (594194400, -18000),
   (607503600, -14400), (625644000, -18000), (638953200, -14400), (657093600, -18000)]

/-- The shifts of `America/New_York` from then on. -/
def newYorkLater : List (Int × Int) :=
  [(671007600, -14400), (688543200, -18000), (702457200, -14400), (719992800, -18000),
   (733906800, -14400), (752047200, -18000), (765356400, -14400), (783496800, -18000),
   (796806000, -14400), (814946400, -18000), (828860400, -14400), (846396000, -18000),
   (860310000, -14400), (877845600, -18000), (891759600, -14400), (909295200, -18000),
   (923209200, -14400), (941349600, -18000), (954658800, -14400), (972799200, -18000),
   (986108400, -14400), (1004248800, -18000), (1018162800, -14400), (1035698400, -18000),
   (1049612400, -14400), (1067148000, -18000), (1081062000, -14400), (1099202400, -18000),
   (1112511600, -14400), (1130652000, -18000), (1143961200, -14400), (1162101600, -18000),
   (1173596400, -14400)]

/-- The rules of `America/New_York`. -/
def newYork : Rules where
  first := -17762
  listed :=
    newYorkUntil1940 ++ newYorkUntil1966 ++ newYorkUntil1990 ++ newYorkLater
  season := some ⟨-18000, -14400, ⟨3, 2, 0, 7200⟩, ⟨11, 1, 0, 7200⟩⟩

/-- The shifts of `America/Los_Angeles` up to 1968. -/
def losAngelesUntil1968 : List (Int × Int) :=
  [(-2717640000, -28800), (-1633269600, -25200), (-1615129200, -28800), (-1601820000, -25200),
   (-1583679600, -28800), (-880207200, -25200), (-769395600, -25200), (-765385200, -28800),
   (-687967140, -25200), (-662655600, -28800), (-620838000, -25200), (-608137200, -28800),
   (-589388400, -25200), (-576082800, -28800), (-557938800, -25200), (-544633200, -28800),
   (-526489200, -25200), (-513183600, -28800), (-495039600, -25200), (-481734000, -28800),
   (-463590000, -25200), (-450284400, -28800), (-431535600, -25200), (-418230000, -28800),
   (-400086000, -25200), (-386780400, -28800), (-368636400, -25200), (-355330800, -28800),
   (-337186800, -25200), (-323881200, -28800), (-305737200, -25200), (-292431600, -28800),
   (-273682800, -25200), (-260982000, -28800), (-242233200, -25200), (-226508400, -28800),
   (-210783600, -25200), (-195058800, -28800), (-179334000, -25200), (-163609200, -28800),
   (-147884400, -25200), (-131554800, -28800), (-116434800, -25200), (-100105200, -28800),
   (-84376800, -25200), (-68655600, -28800), (-52927200, -25200), (-37206000, -28800)]

/-- The shifts of `America/Los_Angeles` from then up to 1992. -/
def losAngelesUntil1992 : List (Int × Int) :=
  [(-21477600, -25200), (-5756400, -28800), (9972000, -25200), (25693200, -28800),
   (41421600, -25200), (57747600, -28800), (73476000, -25200), (89197200, -28800),
   (104925600, -25200), (120646800, -28800), (126698400, -25200), (152096400, -28800),
   (162381600, -25200), (183546000, -28800), (199274400, -25200), (215600400, -28800),
   (230724000, -25200), (247050000, -28800), (262778400, -25200), (278499600, -28800),
   (294228000, -25200), (309949200, -28800), (325677600, -25200), (341398800, -28800),
   (357127200, -25200), (372848400, -28800), (388576800, -25200), (404902800, -28800),
   (420026400, -25200), (436352400, -28800), (452080800, -25200), (467802000, -28800),
   (483530400, -25200), (499251600, -28800), (514980000, -25200), (530701200, -28800),
   (544615200, -25200), (562150800, -28800), (576064800, -25200), (594205200, -28800),
   (607514400, -25200), (625654800, -28800), (638964000, -25200), (657104400, -28800),
   (671018400, -25200), (688554000, -28800), (702468000, -25200), (720003600, -28800)]

/-- The shifts of `America/Los_Angeles` from then on. -/
def losAngelesLater : List (Int × Int) :=
  [(733917600, -25200), (752058000, -28800), (765367200, -25200), (783507600, -28800),
   (796816800, -25200), (814957200, -28800), (828871200, -25200), (846406800, -28800),
   (860320800, -25200), (877856400, -28800), (891770400, -25200), (909306000, -28800),
   (923220000, -25200), (941360400, -28800), (954669600, -25200), (972810000, -28800),
   (986119200, -25200), (1004259600, -28800), (1018173600, -25200), (1035709200, -28800),
   (1049623200, -25200), (1067158800, -28800), (1081072800, -25200), (1099213200, -28800),
   (1112522400, -25200), (1130662800, -28800), (1143972000, -25200), (1162112400, -28800),
   (1173607200, -25200)]

/-- The rules of `America/Los_Angeles`. -/
def losAngeles : Rules where
  first := -28378
  listed :=
    losAngelesUntil1968 ++ losAngelesUntil1992 ++ losAngelesLater
  season := some ⟨-28800, -25200, ⟨3, 2, 0, 7200⟩, ⟨11, 1, 0, 7200⟩⟩

/-- The shifts of `America/Sao_Paulo` up to 1997. -/
def saoPauloUntil1997 : List (Int × Int) :=
  [(-1767214412, -10800), (-1206957600, -7200), (-1191362400, -10800), (-1175374800, -7200),
   (-1159826400, -10800), (-633819600, -7200), (-622069200, -10800), (-602283600, -7200),
   (-591832800, -10800), (-570747600, -7200), (-560210400, -10800), (-539125200, -7200),
   (-531352800, -10800), (-195426000, -7200), (-184197600, -10800), (-155163600, -7200),
   (-150069600, -10800), (-128898000, -7200), (-121125600, -10800), (-99954000, -7200),
   (-89589600, -10800), (-68418000, -7200), (-57967200, -10800), (499748400, -7200),
   (511236000, -10800), (530593200, -7200), (540266400, -10800), (562129200, -7200),
   (571197600, -10800), (592974000, -7200), (602042400, -10800), (624423600, -7200),
   (634701600, -10800), (656478000, -7200), (666756000, -10800), (687927600, -7200),
   (697600800, -10800), (719982000, -7200), (728445600, -10800), (750826800, -7200),
   (761709600, -10800), (782276400, -7200), (793159200, -10800), (813726000, -7200),
   (824004000, -10800), (844570800, -7200), (856058400, -10800), (876106800, -7200)]

/-- The shifts of `America/Sao_Paulo` from then on. -/
def saoPauloLater : List (Int × Int) :=
  [(888717600, -10800), (908074800, -7200), (919562400, -10800), (938919600, -7200),
   (951616800, -10800), (970974000, -7200), (982461600, -10800), (1003028400, -7200),
   (1013911200, -10800), (1036292400, -7200), (1045360800, -10800), (1066532400, -7200),
   (1076810400, -10800), (1099364400, -7200), (1108864800, -10800), (1129431600, -7200),
   (1140314400, -10800), (1162695600, -7200), (1172368800, -10800), (1192330800, -7200),
   (1203213600, -10800), (1224385200, -7200), (1234663200, -10800), (1255834800, -7200),
   (1266717600, -10800), (1287284400, -7200), (1298167200, -10800), (1318734000, -7200),
   (1330221600, -10800), (1350788400, -7200), (1361066400, -10800), (1382238000, -7200),
   (1392516000, -10800), (1413687600, -7200), (1424570400, -10800), (1445137200, -7200),
   (1456020000, -10800), (1476586800, -7200), (1487469600, -10800), (1508036400, -7200),
   (1518919200, -10800), (1541300400, -7200), (1550368800, -10800)]

/-- The rules of `America/Sao_Paulo`. -/
def saoPaulo : Rules where
  first := -11188
  listed :=
    saoPauloUntil1997 ++ saoPauloLater
  season := none

/-- The shifts of `America/Nuuk` up to 2002. -/
def nuukUntil2002 : List (Int × Int) :=
  [(-1686083584, -10800), (323845200, -7200), (338950800, -10800), (354675600, -7200),
   (370400400, -10800), (386125200, -7200), (401850000, -10800), (417574800, -7200),
   (433299600, -10800), (449024400, -7200), (465354000, -10800), (481078800, -7200),
   (496803600, -10800), (512528400, -7200), (528253200, -10800), (543978000, -7200),
   (559702800, -10800), (575427600, -7200), (591152400, -10800), (606877200, -7200),
   (622602000, -10800), (638326800, -7200), (654656400, -10800), (670381200, -7200),
   (686106000, -10800), (701830800, -7200), (717555600, -10800), (733280400, -7200),
   (749005200, -10800), (764730000, -7200), (780454800, -10800), (796179600, -7200),
   (811904400, -10800), (828234000, -7200), (846378000, -10800), (859683600, -7200),
   (877827600, -10800), (891133200, -7200), (909277200, -10800), (922582800, -7200),
   (941331600, -10800), (954032400, -7200), (972781200, -10800), (985482000, -7200),
   (1004230800, -10800), (1017536400, -7200), (1035680400, -10800)]

/-- The shifts of `America/Nuuk` from then on. -/
def nuukLater : List (Int × Int) :=
  [(1048986000, -7200), (1067130000, -10800), (1080435600, -7200), (1099184400, -10800),
   (1111885200, -7200), (1130634000, -10800), (1143334800, -7200), (1162083600, -10800),
   (1174784400, -7200), (1193533200, -10800), (1206838800, -7200), (1224982800, -10800),
   (1238288400, -7200), (1256432400, -10800), (1269738000, -7200), (1288486800, -10800),
   (1301187600, -7200), (1319936400, -10800), (1332637200, -7200), (1351386000, -10800),
   (1364691600, -7200), (1382835600, -10800), (1396141200, -7200), (1414285200, -10800),
   (1427590800, -7200), (1445734800, -10800), (1459040400, -7200), (1477789200, -10800),
   (1490490000, -7200), (1509238800, -10800), (1521939600, -7200), (1540688400, -10800),
   (1553994000, -7200), (1572138000, -10800), (1585443600, -7200), (1603587600, -10800),
   (1616893200, -7200), (1635642000, -10800), (1648342800, -7200), (1667091600, -10800),
   (1679792400, -7200), (1698541200, -7200)]

/-- The rules of `America/Nuuk`. -/
def nuuk : Rules where
  first := -12416
  listed :=
    nuukUntil2002 ++ nuukLater
  season := some ⟨-7200, -3600, ⟨3, 5, 0, -3600⟩, ⟨10, 5, 0, 0⟩⟩

end ContentLine.Rules
