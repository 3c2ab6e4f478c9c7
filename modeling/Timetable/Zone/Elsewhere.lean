import Timetable.Zone.YearlyRule

/-!
# Zones of Africa, Asia, Oceania and the poles

Histories of offsets, in seconds east of universal time, with the instants of their
transitions in seconds of universal time since 1970.  Zones whose changes follow a
rule end with the rules and the years they are in force.

The histories of Tehran, Sydney, Lord Howe and Troll begin in 1970.  Their first
offset is the one in force when that year began, and it stands for every earlier instant
as well, at which the clocks of the place may have shown something else.
-/

namespace Timetable.Zone

set_option autoImplicit false

/-- Universal time itself. -/
def utc : Zone where
  base := ⟨0⟩
  transitions := []

/-- The wall clock of Monrovia. -/
def monrovia : Zone where
  base := ⟨-2588⟩
  transitions :=
    [⟨-1604359012, ⟨-2670⟩⟩, ⟨63593070, ⟨0⟩⟩]

/-- The wall clock of Kolkata. -/
def kolkata : Zone where
  base := ⟨21208⟩
  transitions :=
    [⟨-3645237208, ⟨21200⟩⟩, ⟨-3155694800, ⟨19270⟩⟩, ⟨-2019705670, ⟨19800⟩⟩,
     ⟨-891581400, ⟨23400⟩⟩, ⟨-872058600, ⟨19800⟩⟩, ⟨-862637400, ⟨23400⟩⟩, ⟨-764145000, ⟨19800⟩⟩]

/-- The wall clock of Kathmandu. -/
def kathmandu : Zone where
  base := ⟨20476⟩
  transitions :=
    [⟨-1577943676, ⟨19800⟩⟩, ⟨504901800, ⟨20700⟩⟩]

/-- The wall clock of Tokyo. -/
def tokyo : Zone where
  base := ⟨33539⟩
  transitions :=
    [⟨-2587712400, ⟨32400⟩⟩, ⟨-683802000, ⟨36000⟩⟩, ⟨-672310800, ⟨32400⟩⟩, ⟨-654771600, ⟨36000⟩⟩,
     ⟨-640861200, ⟨32400⟩⟩, ⟨-620298000, ⟨36000⟩⟩, ⟨-609411600, ⟨32400⟩⟩, ⟨-588848400, ⟨36000⟩⟩,
     ⟨-577962000, ⟨32400⟩⟩]

/-- The wall clock of Apia. -/
def apia : Zone where
  base := ⟨45184⟩
  transitions :=
    [⟨-2445424384, ⟨-41216⟩⟩, ⟨-1861878784, ⟨-41400⟩⟩, ⟨-631110600, ⟨-39600⟩⟩,
     ⟨1285498800, ⟨-36000⟩⟩, ⟨1301752800, ⟨-39600⟩⟩, ⟨1316872800, ⟨-36000⟩⟩,
     ⟨1325239200, ⟨50400⟩⟩, ⟨1333202400, ⟨46800⟩⟩, ⟨1348927200, ⟨50400⟩⟩, ⟨1365256800, ⟨46800⟩⟩,
     ⟨1380376800, ⟨50400⟩⟩, ⟨1396706400, ⟨46800⟩⟩, ⟨1411826400, ⟨50400⟩⟩, ⟨1428156000, ⟨46800⟩⟩,
     ⟨1443276000, ⟨50400⟩⟩, ⟨1459605600, ⟨46800⟩⟩, ⟨1474725600, ⟨50400⟩⟩, ⟨1491055200, ⟨46800⟩⟩,
     ⟨1506175200, ⟨50400⟩⟩, ⟨1522504800, ⟨46800⟩⟩, ⟨1538229600, ⟨50400⟩⟩, ⟨1554559200, ⟨46800⟩⟩,
     ⟨1569679200, ⟨50400⟩⟩, ⟨1586008800, ⟨46800⟩⟩, ⟨1601128800, ⟨50400⟩⟩, ⟨1617458400, ⟨46800⟩⟩]

/-- The wall clock of Kwajalein. -/
def kwajalein : Zone where
  base := ⟨40160⟩
  transitions :=
    [⟨-2177492960, ⟨39600⟩⟩, ⟨-1041418800, ⟨36000⟩⟩, ⟨-907408800, ⟨32400⟩⟩,
     ⟨-817462800, ⟨39600⟩⟩, ⟨-7988400, ⟨-43200⟩⟩, ⟨745934400, ⟨43200⟩⟩]

/-- The wall clock of Kiritimati. -/
def kiritimati : Zone where
  base := ⟨-37760⟩
  transitions :=
    [⟨-2177415040, ⟨-38400⟩⟩, ⟨307622400, ⟨-36000⟩⟩, ⟨788868000, ⟨50400⟩⟩]

/-- Twelve hours behind universal time. -/
def behindByTwelve : Zone where
  base := ⟨-43200⟩
  transitions := []

/-- The wall clock of Tehran from 1970 on. -/
def tehran : Zone where
  base := ⟨12600⟩
  transitions :=
    [⟨227820600, ⟨16200⟩⟩, ⟨246223800, ⟨14400⟩⟩, ⟨259617600, ⟨18000⟩⟩, ⟨271108800, ⟨14400⟩⟩,
     ⟨279576000, ⟨12600⟩⟩, ⟨296598600, ⟨16200⟩⟩, ⟨306531000, ⟨12600⟩⟩, ⟨322432200, ⟨16200⟩⟩,
     ⟨338499000, ⟨12600⟩⟩, ⟨673216200, ⟨16200⟩⟩, ⟨685481400, ⟨12600⟩⟩, ⟨701209800, ⟨16200⟩⟩,
     ⟨717103800, ⟨12600⟩⟩, ⟨732745800, ⟨16200⟩⟩, ⟨748639800, ⟨12600⟩⟩, ⟨764281800, ⟨16200⟩⟩,
     ⟨780175800, ⟨12600⟩⟩, ⟨795817800, ⟨16200⟩⟩, ⟨811711800, ⟨12600⟩⟩, ⟨827353800, ⟨16200⟩⟩,
     ⟨843247800, ⟨12600⟩⟩, ⟨858976200, ⟨16200⟩⟩, ⟨874870200, ⟨12600⟩⟩, ⟨890512200, ⟨16200⟩⟩,
     ⟨906406200, ⟨12600⟩⟩, ⟨922048200, ⟨16200⟩⟩, ⟨937942200, ⟨12600⟩⟩, ⟨953584200, ⟨16200⟩⟩,
     ⟨969478200, ⟨12600⟩⟩, ⟨985206600, ⟨16200⟩⟩, ⟨1001100600, ⟨12600⟩⟩, ⟨1016742600, ⟨16200⟩⟩,
     ⟨1032636600, ⟨12600⟩⟩, ⟨1048278600, ⟨16200⟩⟩, ⟨1064172600, ⟨12600⟩⟩, ⟨1079814600, ⟨16200⟩⟩,
     ⟨1095708600, ⟨12600⟩⟩, ⟨1111437000, ⟨16200⟩⟩, ⟨1127331000, ⟨12600⟩⟩, ⟨1206045000, ⟨16200⟩⟩,
     ⟨1221939000, ⟨12600⟩⟩, ⟨1237667400, ⟨16200⟩⟩, ⟨1253561400, ⟨12600⟩⟩, ⟨1269203400, ⟨16200⟩⟩,
     ⟨1285097400, ⟨12600⟩⟩, ⟨1300739400, ⟨16200⟩⟩, ⟨1316633400, ⟨12600⟩⟩, ⟨1332275400, ⟨16200⟩⟩,
     ⟨1348169400, ⟨12600⟩⟩, ⟨1363897800, ⟨16200⟩⟩, ⟨1379791800, ⟨12600⟩⟩, ⟨1395433800, ⟨16200⟩⟩,
     ⟨1411327800, ⟨12600⟩⟩, ⟨1426969800, ⟨16200⟩⟩, ⟨1442863800, ⟨12600⟩⟩, ⟨1458505800, ⟨16200⟩⟩,
     ⟨1474399800, ⟨12600⟩⟩, ⟨1490128200, ⟨16200⟩⟩, ⟨1506022200, ⟨12600⟩⟩, ⟨1521664200, ⟨16200⟩⟩,
     ⟨1537558200, ⟨12600⟩⟩, ⟨1553200200, ⟨16200⟩⟩, ⟨1569094200, ⟨12600⟩⟩, ⟨1584736200, ⟨16200⟩⟩,
     ⟨1600630200, ⟨12600⟩⟩, ⟨1616358600, ⟨16200⟩⟩, ⟨1632252600, ⟨12600⟩⟩, ⟨1647894600, ⟨16200⟩⟩,
     ⟨1663788600, ⟨12600⟩⟩]

/-- The wall clock of Sydney from 1970 on. -/
def sydney : Zone :=
  Zone.withRules
    { base := ⟨36000⟩
      transitions :=
        [⟨57686400, ⟨39600⟩⟩, ⟨67968000, ⟨36000⟩⟩, ⟨89136000, ⟨39600⟩⟩, ⟨100022400, ⟨36000⟩⟩,
         ⟨120585600, ⟨39600⟩⟩, ⟨131472000, ⟨36000⟩⟩, ⟨152035200, ⟨39600⟩⟩, ⟨162921600, ⟨36000⟩⟩,
         ⟨183484800, ⟨39600⟩⟩, ⟨194976000, ⟨36000⟩⟩, ⟨215539200, ⟨39600⟩⟩, ⟨226425600, ⟨36000⟩⟩,
         ⟨246988800, ⟨39600⟩⟩, ⟨257875200, ⟨36000⟩⟩, ⟨278438400, ⟨39600⟩⟩, ⟨289324800, ⟨36000⟩⟩,
         ⟨309888000, ⟨39600⟩⟩, ⟨320774400, ⟨36000⟩⟩, ⟨341337600, ⟨39600⟩⟩, ⟨352224000, ⟨36000⟩⟩,
         ⟨372787200, ⟨39600⟩⟩, ⟨386697600, ⟨36000⟩⟩, ⟨404841600, ⟨39600⟩⟩, ⟨415728000, ⟨36000⟩⟩,
         ⟨436291200, ⟨39600⟩⟩, ⟨447177600, ⟨36000⟩⟩, ⟨467740800, ⟨39600⟩⟩, ⟨478627200, ⟨36000⟩⟩,
         ⟨499190400, ⟨39600⟩⟩, ⟨511286400, ⟨36000⟩⟩, ⟨530035200, ⟨39600⟩⟩, ⟨542736000, ⟨36000⟩⟩,
         ⟨562089600, ⟨39600⟩⟩, ⟨574790400, ⟨36000⟩⟩, ⟨594144000, ⟨39600⟩⟩, ⟨606240000, ⟨36000⟩⟩,
         ⟨625593600, ⟨39600⟩⟩, ⟨636480000, ⟨36000⟩⟩, ⟨657043200, ⟨39600⟩⟩, ⟨667929600, ⟨36000⟩⟩,
         ⟨688492800, ⟨39600⟩⟩, ⟨699379200, ⟨36000⟩⟩, ⟨719942400, ⟨39600⟩⟩, ⟨731433600, ⟨36000⟩⟩,
         ⟨751996800, ⟨39600⟩⟩, ⟨762883200, ⟨36000⟩⟩, ⟨783446400, ⟨39600⟩⟩, ⟨794332800, ⟨36000⟩⟩,
         ⟨814896000, ⟨39600⟩⟩, ⟨828201600, ⟨36000⟩⟩, ⟨846345600, ⟨39600⟩⟩, ⟨859651200, ⟨36000⟩⟩,
         ⟨877795200, ⟨39600⟩⟩, ⟨891100800, ⟨36000⟩⟩, ⟨909244800, ⟨39600⟩⟩, ⟨922550400, ⟨36000⟩⟩,
         ⟨941299200, ⟨39600⟩⟩, ⟨954000000, ⟨36000⟩⟩, ⟨967305600, ⟨39600⟩⟩, ⟨985449600, ⟨36000⟩⟩,
         ⟨1004198400, ⟨39600⟩⟩, ⟨1017504000, ⟨36000⟩⟩, ⟨1035648000, ⟨39600⟩⟩,
         ⟨1048953600, ⟨36000⟩⟩, ⟨1067097600, ⟨39600⟩⟩, ⟨1080403200, ⟨36000⟩⟩,
         ⟨1099152000, ⟨39600⟩⟩, ⟨1111852800, ⟨36000⟩⟩, ⟨1130601600, ⟨39600⟩⟩,
         ⟨1143907200, ⟨36000⟩⟩, ⟨1162051200, ⟨39600⟩⟩, ⟨1174752000, ⟨36000⟩⟩,
         ⟨1193500800, ⟨39600⟩⟩] }
    2008 2099
    [{ month := 4, sunday := .nth 1, days := -1, hour := 16, offset := ⟨36000⟩ },
     { month := 10, sunday := .nth 1, days := -1, hour := 16, offset := ⟨39600⟩ }]

/-- The wall clock of Lord Howe from 1970 on. -/
def lordHowe : Zone :=
  Zone.withRules
    { base := ⟨36000⟩
      transitions :=
        [⟨352216800, ⟨37800⟩⟩, ⟨372785400, ⟨41400⟩⟩, ⟨384273000, ⟨37800⟩⟩, ⟨404839800, ⟨41400⟩⟩,
         ⟨415722600, ⟨37800⟩⟩, ⟨436289400, ⟨41400⟩⟩, ⟨447172200, ⟨37800⟩⟩, ⟨467739000, ⟨41400⟩⟩,
         ⟨478621800, ⟨37800⟩⟩, ⟨499188600, ⟨39600⟩⟩, ⟨511282800, ⟨37800⟩⟩, ⟨530033400, ⟨39600⟩⟩,
         ⟨542732400, ⟨37800⟩⟩, ⟨562087800, ⟨39600⟩⟩, ⟨574786800, ⟨37800⟩⟩, ⟨594142200, ⟨39600⟩⟩,
         ⟨606236400, ⟨37800⟩⟩, ⟨625591800, ⟨39600⟩⟩, ⟨636476400, ⟨37800⟩⟩, ⟨657041400, ⟨39600⟩⟩,
         ⟨667926000, ⟨37800⟩⟩, ⟨688491000, ⟨39600⟩⟩, ⟨699375600, ⟨37800⟩⟩, ⟨719940600, ⟨39600⟩⟩,
         ⟨731430000, ⟨37800⟩⟩, ⟨751995000, ⟨39600⟩⟩, ⟨762879600, ⟨37800⟩⟩, ⟨783444600, ⟨39600⟩⟩,
         ⟨794329200, ⟨37800⟩⟩, ⟨814894200, ⟨39600⟩⟩, ⟨828198000, ⟨37800⟩⟩, ⟨846343800, ⟨39600⟩⟩,
         ⟨859647600, ⟨37800⟩⟩, ⟨877793400, ⟨39600⟩⟩, ⟨891097200, ⟨37800⟩⟩, ⟨909243000, ⟨39600⟩⟩,
         ⟨922546800, ⟨37800⟩⟩, ⟨941297400, ⟨39600⟩⟩, ⟨953996400, ⟨37800⟩⟩, ⟨967303800, ⟨39600⟩⟩,
         ⟨985446000, ⟨37800⟩⟩, ⟨1004196600, ⟨39600⟩⟩, ⟨1017500400, ⟨37800⟩⟩,
         ⟨1035646200, ⟨39600⟩⟩, ⟨1048950000, ⟨37800⟩⟩, ⟨1067095800, ⟨39600⟩⟩,
         ⟨1080399600, ⟨37800⟩⟩, ⟨1099150200, ⟨39600⟩⟩, ⟨1111849200, ⟨37800⟩⟩,
         ⟨1130599800, ⟨39600⟩⟩, ⟨1143903600, ⟨37800⟩⟩, ⟨1162049400, ⟨39600⟩⟩,
         ⟨1174748400, ⟨37800⟩⟩, ⟨1193499000, ⟨39600⟩⟩] }
    2008 2099
    [{ month := 4, sunday := .nth 1, days := -1, hour := 15, offset := ⟨37800⟩ },
     { month := 10, sunday := .nth 1, days := -1, hour := 15, minute := 30, offset := ⟨39600⟩ }]

/-- The wall clock of Troll from 1970 on. -/
def troll : Zone :=
  Zone.withRules
    { base := ⟨0⟩
      transitions :=
        [] }
    2005 2099
    [{ month := 3, sunday := .last, hour := 1, offset := ⟨7200⟩ },
     { month := 10, sunday := .last, hour := 1, offset := ⟨0⟩ }]

end Timetable.Zone
