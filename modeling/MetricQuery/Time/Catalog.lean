/-
  MetricQuery.Time.Catalog
  ────────────────────────
  **THE ZONES THAT ARE KNOWN BY NAME.**

  Each zone is a table of the offsets in effect over the years it is used for.
  After its last transition a zone keeps its last offset for ever.

    • `Zone.named?`  — the zone of a name, which is case-sensitive,
    • `Zone.checked` — the same, with the failure named,
    • `Zone.utc`     — universal time.
-/
import MetricQuery.Fault
import MetricQuery.Time.Zone

namespace MetricQuery.Zone

/-! ## §1. Zones without transitions. -/

/-- Universal time. -/
def utc : Zone :=
  fixed "UTC" 0

/-- The names of zones that always have the same offset. -/
def steady : List (String × Int) :=
  [("UTC", 0),
   ("Zulu", 0),
   ("Etc/UTC", 0),
   ("UCT", 0),
   ("GMT", 0),
   ("Greenwich", 0),
   ("Etc/GMT+5", -18000),
   ("Etc/GMT+12", -43200),
   ("Etc/GMT-5", 18000),
   ("Etc/GMT-14", 50400)]

/-! ## §2. Africa. -/

/-- The zone Africa/Cairo. -/
def cairo : Zone where
  name := "Africa/Cairo"
  initial := 7200
  transitions :=
    [⟨1209074400, 10800⟩, ⟨1219957200, 7200⟩, ⟨1240524000, 10800⟩, ⟨1250802000, 7200⟩,
     ⟨1272578400, 10800⟩, ⟨1281474000, 7200⟩, ⟨1284069600, 10800⟩, ⟨1285880400, 7200⟩,
     ⟨1400191200, 10800⟩, ⟨1403816400, 7200⟩, ⟨1406844000, 10800⟩, ⟨1411678800, 7200⟩]

/-- The zone Africa/Monrovia. -/
def monrovia : Zone where
  name := "Africa/Monrovia"
  initial := -2588
  transitions :=
    [⟨-1604359012, -2670⟩, ⟨63593070, 0⟩]

/-! ## §3. America. -/

/-- The zone America/Caracas. -/
def caracas : Zone where
  name := "America/Caracas"
  initial := -16064
  transitions :=
    [⟨-2524505536, -16060⟩, ⟨-1826739140, -16200⟩, ⟨-157750200, -14400⟩, ⟨1197183600, -16200⟩,
     ⟨1462086000, -14400⟩]

/-- The zone America/Havana. -/
def havana : Zone where
  name := "America/Havana"
  initial := -18000
  transitions :=
    [⟨1268542800, -14400⟩, ⟨1288501200, -18000⟩, ⟨1300597200, -14400⟩, ⟨1321160400, -18000⟩,
     ⟨1333256400, -14400⟩, ⟨1352005200, -18000⟩, ⟨1362891600, -14400⟩, ⟨1383454800, -18000⟩,
     ⟨1394341200, -14400⟩, ⟨1414904400, -18000⟩, ⟨1425790800, -14400⟩, ⟨1446354000, -18000⟩,
     ⟨1457845200, -14400⟩, ⟨1478408400, -18000⟩, ⟨1489294800, -14400⟩, ⟨1509858000, -18000⟩,
     ⟨1520744400, -14400⟩, ⟨1541307600, -18000⟩, ⟨1552194000, -14400⟩, ⟨1572757200, -18000⟩]

/-- The zone America/Juneau. -/
def juneau : Zone where
  name := "America/Juneau"
  initial := 54139
  transitions :=
    [⟨-3225223727, -32261⟩, ⟨315532800, -28800⟩, ⟨357127200, -25200⟩, ⟨372848400, -28800⟩,
     ⟨388576800, -25200⟩, ⟨404902800, -28800⟩, ⟨420026400, -25200⟩, ⟨436352400, -32400⟩,
     ⟨452084400, -28800⟩, ⟨467805600, -32400⟩, ⟨483534000, -28800⟩, ⟨499255200, -32400⟩]

/-- The zone America/New York. -/
def newYork : Zone where
  name := "America/New_York"
  initial := -18000
  transitions :=
    [⟨1112511600, -14400⟩, ⟨1130652000, -18000⟩, ⟨1143961200, -14400⟩, ⟨1162101600, -18000⟩,
     ⟨1173596400, -14400⟩, ⟨1194156000, -18000⟩, ⟨1205046000, -14400⟩, ⟨1225605600, -18000⟩,
     ⟨1236495600, -14400⟩, ⟨1257055200, -18000⟩, ⟨1268550000, -14400⟩, ⟨1289109600, -18000⟩,
     ⟨1299999600, -14400⟩, ⟨1320559200, -18000⟩, ⟨1331449200, -14400⟩, ⟨1352008800, -18000⟩,
     ⟨1362898800, -14400⟩, ⟨1383458400, -18000⟩, ⟨1394348400, -14400⟩, ⟨1414908000, -18000⟩,
     ⟨1425798000, -14400⟩, ⟨1446357600, -18000⟩, ⟨1457852400, -14400⟩, ⟨1478412000, -18000⟩,
     ⟨1489302000, -14400⟩, ⟨1509861600, -18000⟩, ⟨1520751600, -14400⟩, ⟨1541311200, -18000⟩,
     ⟨1552201200, -14400⟩, ⟨1572760800, -18000⟩, ⟨1583650800, -14400⟩, ⟨1604210400, -18000⟩,
     ⟨1615705200, -14400⟩, ⟨1636264800, -18000⟩, ⟨1647154800, -14400⟩, ⟨1667714400, -18000⟩,
     ⟨1678604400, -14400⟩, ⟨1699164000, -18000⟩, ⟨1710054000, -14400⟩, ⟨1730613600, -18000⟩,
     ⟨1741503600, -14400⟩, ⟨1762063200, -18000⟩, ⟨1772953200, -14400⟩, ⟨1793512800, -18000⟩]

/-- The zone America/Sao Paulo. -/
def saoPaulo : Zone where
  name := "America/Sao_Paulo"
  initial := -7200
  transitions :=
    [⟨1266717600, -10800⟩, ⟨1287284400, -7200⟩, ⟨1298167200, -10800⟩, ⟨1318734000, -7200⟩,
     ⟨1330221600, -10800⟩, ⟨1350788400, -7200⟩, ⟨1361066400, -10800⟩, ⟨1382238000, -7200⟩,
     ⟨1392516000, -10800⟩, ⟨1413687600, -7200⟩, ⟨1424570400, -10800⟩, ⟨1445137200, -7200⟩,
     ⟨1456020000, -10800⟩, ⟨1476586800, -7200⟩, ⟨1487469600, -10800⟩, ⟨1508036400, -7200⟩,
     ⟨1518919200, -10800⟩, ⟨1541300400, -7200⟩, ⟨1550368800, -10800⟩]

/-- The zone America/St Johns. -/
def stJohns : Zone where
  name := "America/St_Johns"
  initial := -12600
  transitions :=
    [⟨483514200, -9000⟩, ⟨499235400, -12600⟩, ⟨514963800, -9000⟩, ⟨530685000, -12600⟩,
     ⟨544591860, -9000⟩, ⟨562127460, -12600⟩, ⟨576041460, -5400⟩, ⟨594178260, -12600⟩,
     ⟨607491060, -9000⟩, ⟨625631460, -12600⟩, ⟨638940660, -9000⟩, ⟨657081060, -12600⟩,
     ⟨670995060, -9000⟩, ⟨688530660, -12600⟩, ⟨702444660, -9000⟩, ⟨719980260, -12600⟩,
     ⟨733894260, -9000⟩, ⟨752034660, -12600⟩, ⟨765343860, -9000⟩, ⟨783484260, -12600⟩,
     ⟨796793460, -9000⟩, ⟨814933860, -12600⟩, ⟨828847860, -9000⟩, ⟨846383460, -12600⟩,
     ⟨860297460, -9000⟩, ⟨877833060, -12600⟩, ⟨891747060, -9000⟩, ⟨909282660, -12600⟩,
     ⟨923196660, -9000⟩, ⟨941337060, -12600⟩, ⟨954646260, -9000⟩, ⟨972786660, -12600⟩,
     ⟨986095860, -9000⟩, ⟨1004236260, -12600⟩, ⟨1018150260, -9000⟩, ⟨1035685860, -12600⟩,
     ⟨1049599860, -9000⟩, ⟨1067135460, -12600⟩, ⟨1081049460, -9000⟩, ⟨1099189860, -12600⟩,
     ⟨1112499060, -9000⟩, ⟨1130639460, -12600⟩, ⟨1143948660, -9000⟩, ⟨1162089060, -12600⟩,
     ⟨1173583860, -9000⟩, ⟨1194143460, -12600⟩, ⟨1205033460, -9000⟩, ⟨1225593060, -12600⟩,
     ⟨1236483060, -9000⟩, ⟨1257042660, -12600⟩, ⟨1268537460, -9000⟩, ⟨1289097060, -12600⟩,
     ⟨1299987060, -9000⟩, ⟨1320553800, -12600⟩, ⟨1331443800, -9000⟩, ⟨1352003400, -12600⟩]

/-! ## §4. Antarctica. -/

/-- The zone Antarctica/Casey. -/
def casey : Zone where
  name := "Antarctica/Casey"
  initial := 0
  transitions :=
    [⟨-31536000, 28800⟩, ⟨1255802400, 39600⟩, ⟨1267714800, 28800⟩, ⟨1319738400, 39600⟩,
     ⟨1329843600, 28800⟩, ⟨1477065600, 39600⟩, ⟨1520701200, 28800⟩, ⟨1538856000, 39600⟩,
     ⟨1552752000, 28800⟩, ⟨1570129200, 39600⟩, ⟨1583596800, 28800⟩, ⟨1601740860, 39600⟩,
     ⟨1615640400, 28800⟩, ⟨1633190460, 39600⟩, ⟨1647090000, 28800⟩, ⟨1664640060, 39600⟩,
     ⟨1678291200, 28800⟩]

/-- The zone Antarctica/Troll. -/
def troll : Zone where
  name := "Antarctica/Troll"
  initial := 0
  transitions :=
    [⟨1111885200, 7200⟩, ⟨1130634000, 0⟩, ⟨1143334800, 7200⟩, ⟨1162083600, 0⟩, ⟨1174784400,
     7200⟩, ⟨1193533200, 0⟩, ⟨1206838800, 7200⟩, ⟨1224982800, 0⟩, ⟨1238288400, 7200⟩,
     ⟨1256432400, 0⟩, ⟨1269738000, 7200⟩, ⟨1288486800, 0⟩, ⟨1301187600, 7200⟩, ⟨1319936400, 0⟩,
     ⟨1332637200, 7200⟩, ⟨1351386000, 0⟩, ⟨1364691600, 7200⟩, ⟨1382835600, 0⟩, ⟨1396141200,
     7200⟩, ⟨1414285200, 0⟩, ⟨1427590800, 7200⟩, ⟨1445734800, 0⟩, ⟨1459040400, 7200⟩,
     ⟨1477789200, 0⟩, ⟨1490490000, 7200⟩, ⟨1509238800, 0⟩, ⟨1521939600, 7200⟩, ⟨1540688400, 0⟩,
     ⟨1553994000, 7200⟩, ⟨1572138000, 0⟩]

/-! ## §5. Asia. -/

/-- The zone Asia/Kathmandu. -/
def kathmandu : Zone where
  name := "Asia/Kathmandu"
  initial := 20476
  transitions :=
    [⟨-1577943676, 19800⟩, ⟨504901800, 20700⟩]

/-- The zone Asia/Kolkata. -/
def kolkata : Zone where
  name := "Asia/Kolkata"
  initial := 21208
  transitions :=
    [⟨-3645237208, 21200⟩, ⟨-3155694800, 19270⟩, ⟨-2019705670, 19800⟩, ⟨-891581400, 23400⟩,
     ⟨-872058600, 19800⟩, ⟨-862637400, 23400⟩, ⟨-764145000, 19800⟩]

/-- The zone Asia/Manila. -/
def manila : Zone where
  name := "Asia/Manila"
  initial := -57368
  transitions :=
    [⟨-3944621032, 29032⟩, ⟨-2219083200, 28800⟩, ⟨-1046678400, 32400⟩, ⟨-1040115600, 28800⟩,
     ⟨-885024000, 32400⟩, ⟨-760093200, 28800⟩, ⟨-496224000, 32400⟩, ⟨-491562000, 28800⟩,
     ⟨228326400, 32400⟩, ⟨243702000, 28800⟩, ⟨643219200, 32400⟩, ⟨649177200, 28800⟩]

/-- The zone Asia/Pyongyang. -/
def pyongyang : Zone where
  name := "Asia/Pyongyang"
  initial := 30180
  transitions :=
    [⟨-1948782180, 30600⟩, ⟨-1830414600, 32400⟩, ⟨1439564400, 30600⟩, ⟨1525446000, 32400⟩]

/-- The zone Asia/Tehran. -/
def tehran : Zone where
  name := "Asia/Tehran"
  initial := 12600
  transitions :=
    [⟨1111437000, 16200⟩, ⟨1127331000, 12600⟩, ⟨1206045000, 16200⟩, ⟨1221939000, 12600⟩,
     ⟨1237667400, 16200⟩, ⟨1253561400, 12600⟩, ⟨1269203400, 16200⟩, ⟨1285097400, 12600⟩,
     ⟨1300739400, 16200⟩, ⟨1316633400, 12600⟩, ⟨1332275400, 16200⟩, ⟨1348169400, 12600⟩,
     ⟨1363897800, 16200⟩, ⟨1379791800, 12600⟩, ⟨1395433800, 16200⟩, ⟨1411327800, 12600⟩,
     ⟨1426969800, 16200⟩, ⟨1442863800, 12600⟩, ⟨1458505800, 16200⟩, ⟨1474399800, 12600⟩,
     ⟨1490128200, 16200⟩, ⟨1506022200, 12600⟩, ⟨1521664200, 16200⟩, ⟨1537558200, 12600⟩,
     ⟨1553200200, 16200⟩, ⟨1569094200, 12600⟩, ⟨1584736200, 16200⟩, ⟨1600630200, 12600⟩,
     ⟨1616358600, 16200⟩, ⟨1632252600, 12600⟩, ⟨1647894600, 16200⟩, ⟨1663788600, 12600⟩]

/-! ## §6. Australia. -/

/-- The zone Australia/Lord Howe. -/
def lordHowe : Zone where
  name := "Australia/Lord_Howe"
  initial := 36000
  transitions :=
    [⟨352216800, 37800⟩, ⟨372785400, 41400⟩, ⟨384273000, 37800⟩, ⟨404839800, 41400⟩,
     ⟨415722600, 37800⟩, ⟨436289400, 41400⟩, ⟨447172200, 37800⟩, ⟨467739000, 41400⟩,
     ⟨478621800, 37800⟩, ⟨499188600, 39600⟩, ⟨511282800, 37800⟩, ⟨530033400, 39600⟩,
     ⟨542732400, 37800⟩, ⟨562087800, 39600⟩, ⟨574786800, 37800⟩, ⟨594142200, 39600⟩,
     ⟨606236400, 37800⟩, ⟨625591800, 39600⟩, ⟨1270306800, 37800⟩, ⟨1286033400, 39600⟩,
     ⟨1301756400, 37800⟩, ⟨1317483000, 39600⟩, ⟨1333206000, 37800⟩, ⟨1349537400, 39600⟩,
     ⟨1365260400, 37800⟩, ⟨1380987000, 39600⟩, ⟨1396710000, 37800⟩, ⟨1412436600, 39600⟩,
     ⟨1428159600, 37800⟩, ⟨1443886200, 39600⟩, ⟨1459609200, 37800⟩, ⟨1475335800, 39600⟩,
     ⟨1491058800, 37800⟩, ⟨1506785400, 39600⟩, ⟨1522508400, 37800⟩, ⟨1538839800, 39600⟩,
     ⟨1554562800, 37800⟩, ⟨1570289400, 39600⟩]

/-! ## §7. Europe. -/

/-- The zone Europe/Dublin. -/
def dublin : Zone where
  name := "Europe/Dublin"
  initial := 0
  transitions :=
    [⟨-119484000, 3600⟩, ⟨-100735200, 0⟩, ⟨-88034400, 3600⟩, ⟨-68680800, 0⟩, ⟨-59004000, 3600⟩,
     ⟨57722400, 0⟩, ⟨69818400, 3600⟩, ⟨89172000, 0⟩, ⟨101268000, 3600⟩, ⟨120621600, 0⟩,
     ⟨132717600, 3600⟩, ⟨152071200, 0⟩, ⟨1269738000, 3600⟩, ⟨1288486800, 0⟩, ⟨1301187600,
     3600⟩, ⟨1319936400, 0⟩, ⟨1332637200, 3600⟩, ⟨1351386000, 0⟩, ⟨1364691600, 3600⟩,
     ⟨1382835600, 0⟩, ⟨1396141200, 3600⟩, ⟨1414285200, 0⟩, ⟨1427590800, 3600⟩, ⟨1445734800, 0⟩,
     ⟨1459040400, 3600⟩, ⟨1477789200, 0⟩, ⟨1490490000, 3600⟩, ⟨1509238800, 0⟩, ⟨1521939600,
     3600⟩, ⟨1540688400, 0⟩, ⟨1553994000, 3600⟩, ⟨1572138000, 0⟩]

/-- The zone Europe/London. -/
def london : Zone where
  name := "Europe/London"
  initial := 0
  transitions :=
    [⟨1269738000, 3600⟩, ⟨1288486800, 0⟩, ⟨1301187600, 3600⟩, ⟨1319936400, 0⟩, ⟨1332637200,
     3600⟩, ⟨1351386000, 0⟩, ⟨1364691600, 3600⟩, ⟨1382835600, 0⟩, ⟨1396141200, 3600⟩,
     ⟨1414285200, 0⟩, ⟨1427590800, 3600⟩, ⟨1445734800, 0⟩, ⟨1459040400, 3600⟩, ⟨1477789200, 0⟩,
     ⟨1490490000, 3600⟩, ⟨1509238800, 0⟩, ⟨1521939600, 3600⟩, ⟨1540688400, 0⟩, ⟨1553994000,
     3600⟩, ⟨1572138000, 0⟩]

/-- The zone Europe/Oslo. -/
def oslo : Zone where
  name := "Europe/Oslo"
  initial := 3208
  transitions :=
    [⟨1262304000, 3600⟩, ⟨1269738000, 7200⟩, ⟨1288486800, 3600⟩, ⟨1301187600, 7200⟩,
     ⟨1319936400, 3600⟩, ⟨1332637200, 7200⟩, ⟨1351386000, 3600⟩, ⟨1364691600, 7200⟩,
     ⟨1382835600, 3600⟩, ⟨1396141200, 7200⟩, ⟨1414285200, 3600⟩, ⟨1427590800, 7200⟩,
     ⟨1445734800, 3600⟩, ⟨1459040400, 7200⟩, ⟨1477789200, 3600⟩, ⟨1490490000, 7200⟩,
     ⟨1509238800, 3600⟩, ⟨1521939600, 7200⟩, ⟨1540688400, 3600⟩, ⟨1553994000, 7200⟩,
     ⟨1572138000, 3600⟩, ⟨1585443600, 7200⟩, ⟨1603587600, 3600⟩, ⟨1616893200, 7200⟩,
     ⟨1635642000, 3600⟩, ⟨1648342800, 7200⟩, ⟨1667091600, 3600⟩, ⟨1679792400, 7200⟩,
     ⟨1698541200, 3600⟩, ⟨1711846800, 7200⟩, ⟨1729990800, 3600⟩, ⟨1743296400, 7200⟩,
     ⟨1761440400, 3600⟩, ⟨1774746000, 7200⟩, ⟨1792890000, 3600⟩, ⟨1806195600, 7200⟩,
     ⟨1824944400, 3600⟩, ⟨1837645200, 7200⟩, ⟨1856394000, 3600⟩, ⟨1869094800, 7200⟩,
     ⟨1887843600, 3600⟩]

/-! ## §8. Pacific. -/

/-- The zone Pacific/Apia. -/
def apia : Zone where
  name := "Pacific/Apia"
  initial := 45184
  transitions :=
    [⟨-2445424384, -41216⟩, ⟨-1861878784, -41400⟩, ⟨-631110600, -39600⟩, ⟨1285498800, -36000⟩,
     ⟨1301752800, -39600⟩, ⟨1316872800, -36000⟩, ⟨1325239200, 50400⟩, ⟨1333202400, 46800⟩,
     ⟨1348927200, 50400⟩, ⟨1365256800, 46800⟩, ⟨1380376800, 50400⟩, ⟨1396706400, 46800⟩,
     ⟨1411826400, 50400⟩, ⟨1428156000, 46800⟩, ⟨1443276000, 50400⟩, ⟨1459605600, 46800⟩,
     ⟨1474725600, 50400⟩, ⟨1491055200, 46800⟩, ⟨1506175200, 50400⟩, ⟨1522504800, 46800⟩,
     ⟨1538229600, 50400⟩, ⟨1554559200, 46800⟩, ⟨1569679200, 50400⟩, ⟨1586008800, 46800⟩,
     ⟨1601128800, 50400⟩, ⟨1617458400, 46800⟩]

/-- The zone Pacific/Kiritimati. -/
def kiritimati : Zone where
  name := "Pacific/Kiritimati"
  initial := -37760
  transitions :=
    [⟨-2177415040, -38400⟩, ⟨307622400, -36000⟩, ⟨788868000, 50400⟩]

/-- The zone Pacific/Kwajalein. -/
def kwajalein : Zone where
  name := "Pacific/Kwajalein"
  initial := 40160
  transitions :=
    [⟨-2177492960, 39600⟩, ⟨-1041418800, 36000⟩, ⟨-907408800, 32400⟩, ⟨-817462800, 39600⟩,
     ⟨-7988400, -43200⟩, ⟨745934400, 43200⟩]

/-! ## §9. Looking a zone up. -/

/-- The zones with transitions.  The last is known by two names. -/
def changing : List Zone :=
  [cairo, monrovia, caracas, havana, juneau, newYork, saoPaulo, stJohns, casey, troll,
   kathmandu, kolkata, manila, pyongyang, tehran, lordHowe, dublin, london, oslo, apia,
   kiritimati, kwajalein,
   { newYork with name := "US/Eastern" }]

/-- The zone of this name. -/
def named? (name : String) : Option Zone :=
  ((steady.find? fun z => z.1 == name).map fun z => fixed z.1 z.2).or
    (changing.find? fun z => z.name == name)

/-- The zone of this name, or the failure that there is none. -/
def checked (name : String) : Except Fault Zone :=
  match named? name with
  | some z => .ok z
  | none => .error (.configuration (.unknownTimezone name))

end MetricQuery.Zone
