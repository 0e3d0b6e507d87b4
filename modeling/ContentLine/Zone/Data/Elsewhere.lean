import ContentLine.Zone.Rules

/-!
# Zone rules: Asia, Oceania, Africa and Antarctica

The rules of zones in Asia, Oceania, Africa and Antarctica, from the IANA time zone database. Each
shift is a moment in seconds of UTC since 1970 with the offset from then on, in seconds east.
-/

namespace ContentLine.Rules

/-- The rules of `Asia/Tokyo`. -/
def tokyo : Rules where
  first := 33539
  listed :=
    [(-2587712400, 32400), (-683802000, 36000), (-672310800, 32400), (-654771600, 36000),
     (-640861200, 32400), (-620298000, 36000), (-609411600, 32400), (-588848400, 36000),
     (-577962000, 32400)]
  season := none

/-- The rules of `Asia/Kolkata`. -/
def kolkata : Rules where
  first := 21208
  listed :=
    [(-3645237208, 21200), (-3155694800, 19270), (-2019705670, 19800), (-891581400, 23400),
     (-872058600, 19800), (-862637400, 23400), (-764145000, 19800)]
  season := none

/-- The rules of `Asia/Kathmandu`. -/
def kathmandu : Rules where
  first := 20476
  listed :=
    [(-1577943676, 19800), (504901800, 20700)]
  season := none

/-- The shifts of `Australia/Sydney` up to 1990. -/
def sydneyUntil1990 : List (Int × Int) :=
  [(-2364113092, 36000), (-1672560000, 39600), (-1665388800, 36000), (-883641600, 39600),
   (-876124800, 36000), (-860400000, 39600), (-844675200, 36000), (-828345600, 39600),
   (-813225600, 36000), (57686400, 39600), (67968000, 36000), (89136000, 39600),
   (100022400, 36000), (120585600, 39600), (131472000, 36000), (152035200, 39600),
   (162921600, 36000), (183484800, 39600), (194976000, 36000), (215539200, 39600),
   (226425600, 36000), (246988800, 39600), (257875200, 36000), (278438400, 39600),
   (289324800, 36000), (309888000, 39600), (320774400, 36000), (341337600, 39600),
   (352224000, 36000), (372787200, 39600), (386697600, 36000), (404841600, 39600),
   (415728000, 36000), (436291200, 39600), (447177600, 36000), (467740800, 39600),
   (478627200, 36000), (499190400, 39600), (511286400, 36000), (530035200, 39600),
   (542736000, 36000), (562089600, 39600), (574790400, 36000), (594144000, 39600),
   (606240000, 36000), (625593600, 39600), (636480000, 36000), (657043200, 39600)]

/-- The shifts of `Australia/Sydney` from then on. -/
def sydneyLater : List (Int × Int) :=
  [(667929600, 36000), (688492800, 39600), (699379200, 36000), (719942400, 39600),
   (731433600, 36000), (751996800, 39600), (762883200, 36000), (783446400, 39600),
   (794332800, 36000), (814896000, 39600), (828201600, 36000), (846345600, 39600),
   (859651200, 36000), (877795200, 39600), (891100800, 36000), (909244800, 39600),
   (922550400, 36000), (941299200, 39600), (954000000, 36000), (967305600, 39600),
   (985449600, 36000), (1004198400, 39600), (1017504000, 36000), (1035648000, 39600),
   (1048953600, 36000), (1067097600, 39600), (1080403200, 36000), (1099152000, 39600),
   (1111852800, 36000), (1130601600, 39600), (1143907200, 36000), (1162051200, 39600),
   (1174752000, 36000), (1193500800, 39600), (1207411200, 36000)]

/-- The rules of `Australia/Sydney`. -/
def sydney : Rules where
  first := 36292
  listed :=
    sydneyUntil1990 ++ sydneyLater
  season := some ⟨36000, 39600, ⟨10, 1, 0, 7200⟩, ⟨4, 1, 0, 10800⟩⟩

/-- The rules of `Australia/Lord_Howe`. -/
def lordHowe : Rules where
  first := 38180
  listed :=
    [(-2364114980, 36000), (352216800, 37800), (372785400, 41400), (384273000, 37800),
     (404839800, 41400), (415722600, 37800), (436289400, 41400), (447172200, 37800),
     (467739000, 41400), (478621800, 37800), (499188600, 39600), (511282800, 37800),
     (530033400, 39600), (542732400, 37800), (562087800, 39600), (574786800, 37800),
     (594142200, 39600), (606236400, 37800), (625591800, 39600), (636476400, 37800),
     (657041400, 39600), (667926000, 37800), (688491000, 39600), (699375600, 37800),
     (719940600, 39600), (731430000, 37800), (751995000, 39600), (762879600, 37800),
     (783444600, 39600), (794329200, 37800), (814894200, 39600), (828198000, 37800),
     (846343800, 39600), (859647600, 37800), (877793400, 39600), (891097200, 37800),
     (909243000, 39600), (922546800, 37800), (941297400, 39600), (953996400, 37800),
     (967303800, 39600), (985446000, 37800), (1004196600, 39600), (1017500400, 37800),
     (1035646200, 39600), (1048950000, 37800), (1067095800, 39600), (1080399600, 37800),
     (1099150200, 39600), (1111849200, 37800), (1130599800, 39600), (1143903600, 37800),
     (1162049400, 39600), (1174748400, 37800), (1193499000, 39600), (1207407600, 37800)]
  season := some ⟨37800, 39600, ⟨10, 1, 0, 7200⟩, ⟨4, 1, 0, 7200⟩⟩

/-- The rules of `Pacific/Apia`. -/
def apia : Rules where
  first := 45184
  listed :=
    [(-2445424384, -41216), (-1861878784, -41400), (-631110600, -39600), (1285498800, -36000),
     (1301752800, -39600), (1316872800, -36000), (1325239200, 50400), (1333202400, 46800),
     (1348927200, 50400), (1365256800, 46800), (1380376800, 50400), (1396706400, 46800),
     (1411826400, 50400), (1428156000, 46800), (1443276000, 50400), (1459605600, 46800),
     (1474725600, 50400), (1491055200, 46800), (1506175200, 50400), (1522504800, 46800),
     (1538229600, 50400), (1554559200, 46800), (1569679200, 50400), (1586008800, 46800),
     (1601128800, 50400), (1617458400, 46800)]
  season := none

/-- The rules of `Pacific/Kiritimati`. -/
def kiritimati : Rules where
  first := -37760
  listed :=
    [(-2177415040, -38400), (307622400, -36000), (788868000, 50400)]
  season := none

/-- The rules of `Antarctica/Troll`. -/
def troll : Rules where
  first := 0
  listed :=
    [(1108166400, 0)]
  season := some ⟨0, 7200, ⟨3, 5, 0, 3600⟩, ⟨10, 5, 0, 10800⟩⟩

/-- The rules of `Africa/Abidjan`. -/
def abidjan : Rules where
  first := -968
  listed :=
    [(-1830383032, 0)]
  season := none

end ContentLine.Rules
