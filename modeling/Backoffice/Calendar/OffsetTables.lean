import Backoffice.Calendar.Zone

/-!
# Offset changes of time zones

The offsets of zones from 2009 to 2029, in minutes east of UTC.  Each change is
written as the second since 1970-01-01T00:00:00Z at which it happens and the
offset from then on.
-/

namespace Backoffice

namespace Calendar

/-- The offset changes of a zone, written in minutes. -/
abbrev OffsetTable := Int × List (Int × Int)

/-- The offsets of Europe/Paris. -/
def paris : OffsetTable :=
  (60,
   [(1238288400, 120), (1256432400, 60), (1269738000, 120), (1288486800, 60), (1301187600, 120),
    (1319936400, 60), (1332637200, 120), (1351386000, 60), (1364691600, 120), (1382835600, 60),
    (1396141200, 120), (1414285200, 60), (1427590800, 120), (1445734800, 60), (1459040400, 120),
    (1477789200, 60), (1490490000, 120), (1509238800, 60), (1521939600, 120), (1540688400, 60),
    (1553994000, 120), (1572138000, 60), (1585443600, 120), (1603587600, 60), (1616893200, 120),
    (1635642000, 60), (1648342800, 120), (1667091600, 60), (1679792400, 120), (1698541200, 60),
    (1711846800, 120), (1729990800, 60), (1743296400, 120), (1761440400, 60), (1774746000, 120),
    (1792890000, 60), (1806195600, 120), (1824944400, 60), (1837645200, 120), (1856394000, 60),
    (1869094800, 120), (1887843600, 60)])

/-- The offsets of America/New_York. -/
def newYork : OffsetTable :=
  (-300,
   [(1236495600, -240), (1257055200, -300), (1268550000, -240), (1289109600, -300),
    (1299999600, -240), (1320559200, -300), (1331449200, -240), (1352008800, -300),
    (1362898800, -240), (1383458400, -300), (1394348400, -240), (1414908000, -300),
    (1425798000, -240), (1446357600, -300), (1457852400, -240), (1478412000, -300),
    (1489302000, -240), (1509861600, -300), (1520751600, -240), (1541311200, -300),
    (1552201200, -240), (1572760800, -300), (1583650800, -240), (1604210400, -300),
    (1615705200, -240), (1636264800, -300), (1647154800, -240), (1667714400, -300),
    (1678604400, -240), (1699164000, -300), (1710054000, -240), (1730613600, -300),
    (1741503600, -240), (1762063200, -300), (1772953200, -240), (1793512800, -300),
    (1805007600, -240), (1825567200, -300), (1836457200, -240), (1857016800, -300),
    (1867906800, -240), (1888466400, -300)])

/-- The offsets of America/St_Johns. -/
def stJohns : OffsetTable :=
  (-210,
   [(1236483060, -150), (1257042660, -210), (1268537460, -150), (1289097060, -210),
    (1299987060, -150), (1320553800, -210), (1331443800, -150), (1352003400, -210),
    (1362893400, -150), (1383453000, -210), (1394343000, -150), (1414902600, -210),
    (1425792600, -150), (1446352200, -210), (1457847000, -150), (1478406600, -210),
    (1489296600, -150), (1509856200, -210), (1520746200, -150), (1541305800, -210),
    (1552195800, -150), (1572755400, -210), (1583645400, -150), (1604205000, -210),
    (1615699800, -150), (1636259400, -210), (1647149400, -150), (1667709000, -210),
    (1678599000, -150), (1699158600, -210), (1710048600, -150), (1730608200, -210),
    (1741498200, -150), (1762057800, -210), (1772947800, -150), (1793507400, -210),
    (1805002200, -150), (1825561800, -210), (1836451800, -150), (1857011400, -210),
    (1867901400, -150), (1888461000, -210)])

/-- The offsets of Asia/Kathmandu. -/
def kathmandu : OffsetTable :=
  (345,
   [])

/-- The offsets of Asia/Kolkata. -/
def kolkata : OffsetTable :=
  (330,
   [])

/-- The offsets of Asia/Tokyo. -/
def tokyo : OffsetTable :=
  (540,
   [])

/-- The offsets of Australia/Lord_Howe. -/
def lordHowe : OffsetTable :=
  (660,
   [(1238857200, 630), (1254583800, 660), (1270306800, 630), (1286033400, 660), (1301756400, 630),
    (1317483000, 660), (1333206000, 630), (1349537400, 660), (1365260400, 630), (1380987000, 660),
    (1396710000, 630), (1412436600, 660), (1428159600, 630), (1443886200, 660), (1459609200, 630),
    (1475335800, 660), (1491058800, 630), (1506785400, 660), (1522508400, 630), (1538839800, 660),
    (1554562800, 630), (1570289400, 660), (1586012400, 630), (1601739000, 660), (1617462000, 630),
    (1633188600, 660), (1648911600, 630), (1664638200, 660), (1680361200, 630), (1696087800, 660),
    (1712415600, 630), (1728142200, 660), (1743865200, 630), (1759591800, 660), (1775314800, 630),
    (1791041400, 660), (1806764400, 630), (1822491000, 660), (1838214000, 630), (1853940600, 660),
    (1869663600, 630), (1885995000, 660)])

/-- The offsets of Pacific/Chatham. -/
def chatham : OffsetTable :=
  (825,
   [(1238853600, 765), (1253973600, 825), (1270303200, 765), (1285423200, 825), (1301752800, 765),
    (1316872800, 825), (1333202400, 765), (1348927200, 825), (1365256800, 765), (1380376800, 825),
    (1396706400, 765), (1411826400, 825), (1428156000, 765), (1443276000, 825), (1459605600, 765),
    (1474725600, 825), (1491055200, 765), (1506175200, 825), (1522504800, 765), (1538229600, 825),
    (1554559200, 765), (1569679200, 825), (1586008800, 765), (1601128800, 825), (1617458400, 765),
    (1632578400, 825), (1648908000, 765), (1664028000, 825), (1680357600, 765), (1695477600, 825),
    (1712412000, 765), (1727532000, 825), (1743861600, 765), (1758981600, 825), (1775311200, 765),
    (1790431200, 825), (1806760800, 765), (1821880800, 825), (1838210400, 765), (1853330400, 825),
    (1869660000, 765), (1885384800, 825)])

/-- The offsets of Pacific/Apia. -/
def apia : OffsetTable :=
  (-660,
   [(1285498800, -600), (1301752800, -660), (1316872800, -600), (1325239200, 840),
    (1333202400, 780), (1348927200, 840), (1365256800, 780), (1380376800, 840), (1396706400, 780),
    (1411826400, 840), (1428156000, 780), (1443276000, 840), (1459605600, 780), (1474725600, 840),
    (1491055200, 780), (1506175200, 840), (1522504800, 780), (1538229600, 840), (1554559200, 780),
    (1569679200, 840), (1586008800, 780), (1601128800, 840), (1617458400, 780)])

/-- The zones with recorded offsets, under each of their names. -/
def offsetTables : List (String × OffsetTable) :=
  [("America/New_York", newYork),
   ("America/St_Johns", stJohns),
   ("Asia/Calcutta", kolkata),
   ("Asia/Kathmandu", kathmandu),
   ("Asia/Katmandu", kathmandu),
   ("Asia/Kolkata", kolkata),
   ("Asia/Tokyo", tokyo),
   ("Australia/LHI", lordHowe),
   ("Australia/Lord_Howe", lordHowe),
   ("Canada/Newfoundland", stJohns),
   ("Europe/Paris", paris),
   ("Japan", tokyo),
   ("NZ-CHAT", chatham),
   ("Pacific/Apia", apia),
   ("Pacific/Chatham", chatham),
   ("US/Eastern", newYork),
   ("Etc/GMT+1", (-60, [])),
   ("Etc/GMT+10", (-600, [])),
   ("Etc/GMT+11", (-660, [])),
   ("Etc/GMT+12", (-720, [])),
   ("Etc/GMT+2", (-120, [])),
   ("Etc/GMT+3", (-180, [])),
   ("Etc/GMT+4", (-240, [])),
   ("Etc/GMT+5", (-300, [])),
   ("Etc/GMT+6", (-360, [])),
   ("Etc/GMT+7", (-420, [])),
   ("Etc/GMT+8", (-480, [])),
   ("Etc/GMT+9", (-540, [])),
   ("Etc/GMT-1", (60, [])),
   ("Etc/GMT-10", (600, [])),
   ("Etc/GMT-11", (660, [])),
   ("Etc/GMT-12", (720, [])),
   ("Etc/GMT-13", (780, [])),
   ("Etc/GMT-14", (840, [])),
   ("Etc/GMT-2", (120, [])),
   ("Etc/GMT-3", (180, [])),
   ("Etc/GMT-4", (240, [])),
   ("Etc/GMT-5", (300, [])),
   ("Etc/GMT-6", (360, [])),
   ("Etc/GMT-7", (420, [])),
   ("Etc/GMT-8", (480, [])),
   ("Etc/GMT-9", (540, []))]

end Calendar

/-- The zone with the offsets of a table. -/
def Zone.ofTable (name : String) (table : Calendar.OffsetTable) : Zone :=
  ⟨name, table.1 * 60, table.2.map fun (start, minutes) => ⟨start, minutes * 60⟩⟩

end Backoffice
