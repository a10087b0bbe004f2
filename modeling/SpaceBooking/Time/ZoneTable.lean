import SpaceBooking.Time.Zone

/-!
# The zone table

The zones that can be configured, by name. What a zone does is given by its offset at the start of
1998, by single changes, and by rules of the form "on the first Sunday on or after the 25th of March
of every year". `ZoneRules.zone` lays the rules out over their years.
-/

namespace SpaceBooking

/-- A change that comes back every year. On the first `weekday` on or after a day of the year, when
the wall clock shows `second` seconds after midnight, the offset becomes `offset`. -/
structure YearlyChange where
  firstYear : Nat
  lastYear : Nat
  weekday : Weekday
  month : Nat
  day : Nat
  second : Nat
  offset : Int

/-- The offset of a zone at the start of 1998, its single changes as instants and new offsets, and
the changes of every year after them, in their order within the year. -/
structure ZoneRules where
  initial : Int
  listed : List (Int × Int) := []
  yearly : List YearlyChange := []
  bounded : ∀ offset ∈ initial :: (listed.map (·.2) ++ yearly.map (·.offset)),
    -daySeconds < offset ∧ offset < daySeconds := by decide

namespace YearlyChange

/-- When the change happens in a year, in seconds of the wall clock before the change. -/
def localSecond (c : YearlyChange) (year : Nat) : Int :=
  let earliest := Civil.dayNumber ⟨year, c.month, c.day⟩
  let wait := (c.weekday.index.val - (earliest + 4)) % 7
  (earliest + wait) * daySeconds + c.second

end YearlyChange

namespace ZoneRules

/-- The changes of one year. -/
def changesOf (r : ZoneRules) (year : Nat) : List (Int × Int) :=
  (r.yearly.filter fun c => c.firstYear ≤ year && year ≤ c.lastYear).map fun c =>
    (c.localSecond year, c.offset)

/-- The changes that rules make, in order of time. -/
def changes (r : ZoneRules) : List (Int × Int) :=
  (List.range' 1998 102).flatMap r.changesOf

/-- Changes given by the wall clock before them, as transitions. -/
def toTransitions (offset : Int) : List (Int × Int) → List Transition
  | [] => []
  | (s, new) :: rest => ⟨s - offset, new⟩ :: toTransitions new rest

/-- The transitions that the rules describe. -/
def transitions (r : ZoneRules) : List Transition :=
  let listed := r.listed.map fun (s, offset) => Transition.mk s offset
  let last := (listed.getLast?.map Transition.offset).getD r.initial
  listed ++ toTransitions last r.changes

theorem map_offset_toTransitions (offset : Int) (changes : List (Int × Int)) :
    (toTransitions offset changes).map (·.offset) = changes.map (·.2) := by
  induction changes generalizing offset with
  | nil => rfl
  | cons change rest ih => rw [toTransitions, List.map_cons, List.map_cons, ih]

/-- The changes that rules make are to offsets that the rules name. -/
theorem mem_changes {r : ZoneRules} {change : Int × Int} (h : change ∈ r.changes) :
    change.2 ∈ r.yearly.map (·.offset) := by
  obtain ⟨year, -, hyear⟩ := List.mem_flatMap.1 h
  obtain ⟨c, hc, rfl⟩ := List.mem_map.1 hyear
  exact List.mem_map_of_mem (List.mem_filter.1 hc).1

/-- So do all transitions. -/
theorem mem_transitions {r : ZoneRules} {t : Transition} (h : t ∈ r.transitions) :
    t.offset ∈ r.listed.map (·.2) ++ r.yearly.map (·.offset) := by
  rcases List.mem_append.1 h with hlisted | hyearly
  · obtain ⟨change, hchange, rfl⟩ := List.mem_map.1 hlisted
    exact List.mem_append_left _ (List.mem_map_of_mem hchange)
  · have hoffset := List.mem_map_of_mem (f := (·.offset)) hyearly
    rw [map_offset_toTransitions] at hoffset
    obtain ⟨change, hchange, heq⟩ := List.mem_map.1 hoffset
    exact List.mem_append_right _ (heq ▸ mem_changes hchange)

/-- The zone that the rules describe. -/
def zone (r : ZoneRules) : Zone where
  initial := r.initial
  transitions := r.transitions
  bounded offset hmem := by
    rcases List.mem_cons.1 hmem with rfl | hmem
    · exact r.bounded _ List.mem_cons_self
    · obtain ⟨t, ht, rfl⟩ := List.mem_map.1 hmem
      exact r.bounded _ (List.mem_cons_of_mem _ (mem_transitions ht))

end ZoneRules

/-- Zones by name. -/
abbrev ZoneTable := String → Option Zone

namespace ZoneTable

def centralEurope : ZoneRules where
  initial := 3600
  yearly :=
    [⟨1998, 2099, .sunday, 3, 25, 7200, 7200⟩,
     ⟨1998, 2099, .sunday, 10, 25, 10800, 3600⟩]

def unitedKingdom : ZoneRules where
  initial := 0
  yearly :=
    [⟨1998, 2099, .sunday, 3, 25, 3600, 3600⟩,
     ⟨1998, 2099, .sunday, 10, 25, 7200, 0⟩]

def easternAmerica : ZoneRules where
  initial := -18000
  listed :=
    [(891759600, -14400), (909295200, -18000), (923209200, -14400), (941349600, -18000),
     (954658800, -14400), (972799200, -18000), (986108400, -14400), (1004248800, -18000),
     (1018162800, -14400), (1035698400, -18000), (1049612400, -14400), (1067148000, -18000),
     (1081062000, -14400), (1099202400, -18000), (1112511600, -14400), (1130652000, -18000),
     (1143961200, -14400), (1162101600, -18000)]
  yearly :=
    [⟨2007, 2099, .sunday, 3, 8, 7200, -14400⟩,
     ⟨2007, 2099, .sunday, 11, 1, 7200, -18000⟩]

def newfoundland : ZoneRules where
  initial := -12600
  listed :=
    [(891747060, -9000), (909282660, -12600), (923196660, -9000), (941337060, -12600),
     (954646260, -9000), (972786660, -12600), (986095860, -9000), (1004236260, -12600),
     (1018150260, -9000), (1035685860, -12600), (1049599860, -9000), (1067135460, -12600),
     (1081049460, -9000), (1099189860, -12600), (1112499060, -9000), (1130639460, -12600),
     (1143948660, -9000), (1162089060, -12600), (1173583860, -9000), (1194143460, -12600),
     (1205033460, -9000), (1225593060, -12600), (1236483060, -9000), (1257042660, -12600),
     (1268537460, -9000), (1289097060, -12600), (1299987060, -9000), (1320553800, -12600)]
  yearly :=
    [⟨2012, 2099, .sunday, 3, 8, 7200, -9000⟩,
     ⟨2012, 2099, .sunday, 11, 1, 7200, -12600⟩]

def cuba : ZoneRules where
  initial := -18000
  listed :=
    [(891147600, -14400), (909291600, -18000), (922597200, -14400), (941346000, -18000),
     (954651600, -14400), (972795600, -18000), (986101200, -14400), (1004245200, -18000),
     (1018155600, -14400), (1035694800, -18000), (1049605200, -14400), (1067144400, -18000),
     (1080450000, -14400), (1162098000, -18000), (1173589200, -14400), (1193547600, -18000),
     (1205643600, -14400), (1224997200, -18000), (1236488400, -14400), (1256446800, -18000),
     (1268542800, -14400), (1288501200, -18000), (1300597200, -14400), (1321160400, -18000),
     (1333256400, -14400), (1352005200, -18000)]
  yearly :=
    [⟨2013, 2099, .sunday, 3, 8, 0, -14400⟩,
     ⟨2013, 2099, .sunday, 11, 1, 3600, -18000⟩]

def brasilia : ZoneRules where
  initial := -7200
  listed :=
    [(888717600, -10800), (908074800, -7200), (919562400, -10800), (938919600, -7200),
     (951616800, -10800), (970974000, -7200), (982461600, -10800), (1003028400, -7200),
     (1013911200, -10800), (1036292400, -7200), (1045360800, -10800), (1066532400, -7200),
     (1076810400, -10800), (1099364400, -7200), (1108864800, -10800), (1129431600, -7200),
     (1140314400, -10800), (1162695600, -7200), (1172368800, -10800), (1192330800, -7200),
     (1203213600, -10800), (1224385200, -7200), (1234663200, -10800), (1255834800, -7200),
     (1266717600, -10800), (1287284400, -7200), (1298167200, -10800), (1318734000, -7200),
     (1330221600, -10800), (1350788400, -7200), (1361066400, -10800), (1382238000, -7200),
     (1392516000, -10800), (1413687600, -7200), (1424570400, -10800), (1445137200, -7200),
     (1456020000, -10800), (1476586800, -7200), (1487469600, -10800), (1508036400, -7200),
     (1518919200, -10800), (1541300400, -7200), (1550368800, -10800)]

def chile : ZoneRules where
  initial := -10800
  listed :=
    [(889930800, -14400), (906868800, -10800), (923194800, -14400), (939528000, -10800),
     (952830000, -14400), (971582400, -10800), (984279600, -14400), (1003032000, -10800),
     (1015729200, -14400), (1034481600, -10800), (1047178800, -14400), (1065931200, -10800),
     (1079233200, -14400), (1097380800, -10800), (1110682800, -14400), (1128830400, -10800),
     (1142132400, -14400), (1160884800, -10800), (1173582000, -14400), (1192334400, -10800),
     (1206846000, -14400), (1223784000, -10800), (1237086000, -14400), (1255233600, -10800),
     (1270350000, -14400), (1286683200, -10800), (1304823600, -14400), (1313899200, -10800),
     (1335668400, -14400), (1346558400, -10800), (1367118000, -14400), (1378612800, -10800),
     (1398567600, -14400), (1410062400, -10800), (1463281200, -14400), (1471147200, -10800),
     (1494730800, -14400), (1502596800, -10800), (1526180400, -14400), (1534046400, -10800),
     (1554606000, -14400), (1567915200, -10800), (1586055600, -14400), (1599364800, -10800),
     (1617505200, -14400), (1630814400, -10800), (1648954800, -14400), (1662868800, -10800)]
  yearly :=
    [⟨2023, 2099, .sunday, 4, 2, 0, -14400⟩,
     ⟨2023, 2099, .sunday, 9, 2, 0, -10800⟩]

def lordHowe : ZoneRules where
  initial := 39600
  listed :=
    [(891097200, 37800), (909243000, 39600), (922546800, 37800), (941297400, 39600),
     (953996400, 37800), (967303800, 39600), (985446000, 37800), (1004196600, 39600),
     (1017500400, 37800), (1035646200, 39600), (1048950000, 37800), (1067095800, 39600),
     (1080399600, 37800), (1099150200, 39600), (1111849200, 37800), (1130599800, 39600),
     (1143903600, 37800), (1162049400, 39600), (1174748400, 37800), (1193499000, 39600)]
  yearly :=
    [⟨2008, 2099, .sunday, 4, 1, 7200, 37800⟩,
     ⟨2008, 2099, .sunday, 10, 1, 7200, 39600⟩]

def chatham : ZoneRules where
  initial := 49500
  listed :=
    [(889884000, 45900), (907423200, 49500), (921938400, 45900), (938872800, 49500),
     (953388000, 45900), (970322400, 49500), (984837600, 45900), (1002376800, 49500),
     (1016287200, 45900), (1033826400, 49500), (1047736800, 45900), (1065276000, 49500),
     (1079791200, 45900), (1096725600, 49500), (1111240800, 45900), (1128175200, 49500),
     (1142690400, 45900), (1159624800, 49500), (1174140000, 45900), (1191074400, 49500)]
  yearly :=
    [⟨2008, 2099, .sunday, 4, 1, 13500, 45900⟩,
     ⟨2008, 2099, .sunday, 9, 24, 9900, 49500⟩]

def samoa : ZoneRules where
  initial := -39600
  listed :=
    [(1285498800, -36000), (1301752800, -39600), (1316872800, -36000), (1325239200, 50400),
     (1333202400, 46800), (1348927200, 50400), (1365256800, 46800), (1380376800, 50400),
     (1396706400, 46800), (1411826400, 50400), (1428156000, 46800), (1443276000, 50400),
     (1459605600, 46800), (1474725600, 50400), (1491055200, 46800), (1506175200, 50400),
     (1522504800, 46800), (1538229600, 50400), (1554559200, 46800), (1569679200, 50400),
     (1586008800, 46800), (1601128800, 50400), (1617458400, 46800)]

def egypt : ZoneRules where
  initial := 7200
  listed :=
    [(893368800, 10800), (906670800, 7200), (925423200, 10800), (938725200, 7200),
     (956872800, 10800), (970174800, 7200), (988322400, 10800), (1001624400, 7200),
     (1019772000, 10800), (1033074000, 7200), (1051221600, 10800), (1064523600, 7200),
     (1083276000, 10800), (1096578000, 7200), (1114725600, 10800), (1128027600, 7200),
     (1146175200, 10800), (1158872400, 7200), (1177624800, 10800), (1189112400, 7200),
     (1209074400, 10800), (1219957200, 7200), (1240524000, 10800), (1250802000, 7200),
     (1272578400, 10800), (1281474000, 7200), (1284069600, 10800), (1285880400, 7200),
     (1400191200, 10800), (1403816400, 7200), (1406844000, 10800), (1411678800, 7200)]
  yearly :=
    [⟨2023, 2099, .friday, 4, 24, 0, 10800⟩,
     ⟨2023, 2099, .friday, 10, 26, 0, 7200⟩]

def lebanon : ZoneRules where
  initial := 7200
  listed :=
    [(891122400, 10800), (906843600, 7200)]
  yearly :=
    [⟨1999, 2099, .sunday, 3, 25, 0, 10800⟩,
     ⟨1999, 2099, .sunday, 10, 25, 0, 7200⟩]

def troll : ZoneRules where
  initial := 0
  yearly :=
    [⟨2005, 2099, .sunday, 3, 25, 3600, 7200⟩,
     ⟨2005, 2099, .sunday, 10, 25, 10800, 0⟩]

/-- Clocks that show universal time. -/
def universal : Zone := ⟨0, [], by decide⟩

/-- The zones that are known by name. -/
def entries : List (String × Zone) :=
  [("Europe/Berlin", centralEurope.zone),
   ("Europe/Paris", centralEurope.zone),
   ("Europe/London", unitedKingdom.zone),
   ("America/New_York", easternAmerica.zone),
   ("US/Eastern", easternAmerica.zone),
   ("America/St_Johns", newfoundland.zone),
   ("America/Havana", cuba.zone),
   ("America/Sao_Paulo", brasilia.zone),
   ("America/Santiago", chile.zone),
   ("Australia/Lord_Howe", lordHowe.zone),
   ("Pacific/Chatham", chatham.zone),
   ("Pacific/Apia", samoa.zone),
   ("Africa/Cairo", egypt.zone),
   ("Asia/Beirut", lebanon.zone),
   ("Antarctica/Troll", troll.zone),
   ("UTC", universal),
   ("Etc/UTC", universal),
   ("GMT", universal),
   ("Asia/Tokyo", ⟨32400, [], by decide⟩),
   ("Asia/Kolkata", ⟨19800, [], by decide⟩),
   ("Asia/Kathmandu", ⟨20700, [], by decide⟩),
   ("Etc/GMT+12", ⟨-43200, [], by decide⟩),
   ("Pacific/Kiritimati", ⟨50400, [], by decide⟩)]

/-- Looks a zone up by its exact name. -/
def standard : ZoneTable := fun name => entries.lookup name

end ZoneTable

end SpaceBooking
