import WallClock.Zone.History

/-! # Offsets in Europe

Recorded for Europe/Dublin, Europe/London and Europe/Paris, until the end of 2099. -/

namespace WallClock
namespace History

def dublin : History where
  first := -1521
  singles := [
    ⟨-2821649679, -1521⟩, ⟨-1691962479, 2079⟩, ⟨-1680471279, 0⟩, ⟨-1664143200, 3600⟩,
    ⟨-1650146400, 0⟩, ⟨-1633903200, 3600⟩, ⟨-1617487200, 0⟩, ⟨-1601848800, 3600⟩,
    ⟨-1586037600, 0⟩, ⟨-1570399200, 3600⟩, ⟨-1552168800, 0⟩, ⟨-1538344800, 3600⟩,
    ⟨-1522533600, 0⟩, ⟨-1507500000, 3600⟩, ⟨-1490565600, 0⟩, ⟨-1473631200, 3600⟩,
    ⟨-1460930400, 0⟩, ⟨-1442786400, 3600⟩, ⟨-1428876000, 0⟩, ⟨-1410732000, 3600⟩,
    ⟨-1379282400, 3600⟩, ⟨-1348437600, 3600⟩, ⟨-1315778400, 3600⟩, ⟨-1284328800, 3600⟩,
    ⟨-1253484000, 3600⟩, ⟨-1221429600, 3600⟩, ⟨-1189980000, 3600⟩, ⟨-1159135200, 3600⟩,
    ⟨-1126476000, 3600⟩, ⟨-1095631200, 3600⟩, ⟨-1063576800, 3600⟩, ⟨-1032127200, 3600⟩,
    ⟨-1001282400, 3600⟩, ⟨-969228000, 3600⟩, ⟨-950479200, 0⟩, ⟨-942012000, 3600⟩, ⟨-733356000, 0⟩,
    ⟨-719445600, 3600⟩, ⟨-699487200, 0⟩, ⟨-684972000, 3600⟩, ⟨-668037600, 0⟩, ⟨-654732000, 3600⟩,
    ⟨-636588000, 0⟩, ⟨-605743200, 0⟩, ⟨-574293600, 0⟩, ⟨-542239200, 0⟩, ⟨-496274400, 3600⟩,
    ⟨-464220000, 3600⟩, ⟨-432165600, 3600⟩, ⟨-401320800, 3600⟩, ⟨-369266400, 3600⟩,
    ⟨-337816800, 3600⟩, ⟨-306972000, 3600⟩, ⟨-276732000, 3600⟩, ⟨-245282400, 3600⟩,
    ⟨-213228000, 3600⟩, ⟨-59004000, 3600⟩, ⟨-37242000, 3600⟩, ⟨57722400, 0⟩, ⟨814323600, 0⟩]
  rules := [
    ⟨1925, 1938, 10, .onOrAfter .sunday 2, 7200, 0⟩,
    ⟨1950, 1953, 4, .onOrAfter .sunday 15, 7200, 3600⟩,
    ⟨1953, 1960, 10, .onOrAfter .sunday 1, 7200, 0⟩,
    ⟨1961, 1967, 10, .onOrAfter .sunday 23, 7200, 0⟩,
    ⟨1964, 1967, 3, .onOrAfter .sunday 16, 7200, 3600⟩,
    ⟨1972, 1980, 3, .onOrAfter .sunday 15, 7200, 3600⟩,
    ⟨1972, 1980, 10, .onOrAfter .sunday 23, 7200, 0⟩,
    ⟨1981, 1994, 10, .onOrAfter .sunday 23, 3600, 0⟩,
    ⟨1981, 2099, 3, .last .sunday, 3600, 3600⟩,
    ⟨1996, 2099, 10, .last .sunday, 3600, 0⟩]

def london : History where
  first := -75
  singles := [
    ⟨-3852662325, 0⟩, ⟨-1691964000, 3600⟩, ⟨-1680472800, 0⟩, ⟨-1664143200, 3600⟩,
    ⟨-1650146400, 0⟩, ⟨-1633903200, 3600⟩, ⟨-1617487200, 0⟩, ⟨-1601848800, 3600⟩,
    ⟨-1586037600, 0⟩, ⟨-1570399200, 3600⟩, ⟨-1552168800, 0⟩, ⟨-1538344800, 3600⟩,
    ⟨-1522533600, 0⟩, ⟨-1507500000, 3600⟩, ⟨-1490565600, 0⟩, ⟨-1473631200, 3600⟩,
    ⟨-1460930400, 0⟩, ⟨-1442786400, 3600⟩, ⟨-1428876000, 0⟩, ⟨-1410732000, 3600⟩,
    ⟨-1379282400, 3600⟩, ⟨-1348437600, 3600⟩, ⟨-1315778400, 3600⟩, ⟨-1284328800, 3600⟩,
    ⟨-1253484000, 3600⟩, ⟨-1221429600, 3600⟩, ⟨-1189980000, 3600⟩, ⟨-1159135200, 3600⟩,
    ⟨-1126476000, 3600⟩, ⟨-1095631200, 3600⟩, ⟨-1063576800, 3600⟩, ⟨-1032127200, 3600⟩,
    ⟨-1001282400, 3600⟩, ⟨-969228000, 3600⟩, ⟨-950479200, 0⟩, ⟨-942012000, 3600⟩,
    ⟨-904518000, 7200⟩, ⟨-896050800, 3600⟩, ⟨-875487600, 7200⟩, ⟨-864601200, 3600⟩,
    ⟨-844038000, 7200⟩, ⟨-832546800, 3600⟩, ⟨-812588400, 7200⟩, ⟨-798073200, 3600⟩,
    ⟨-781052400, 7200⟩, ⟨-772066800, 3600⟩, ⟨-764805600, 0⟩, ⟨-748476000, 3600⟩, ⟨-733356000, 0⟩,
    ⟨-719445600, 3600⟩, ⟨-717030000, 7200⟩, ⟨-706748400, 3600⟩, ⟨-699487200, 0⟩,
    ⟨-687996000, 3600⟩, ⟨-668037600, 0⟩, ⟨-654732000, 3600⟩, ⟨-636588000, 0⟩, ⟨-605743200, 0⟩,
    ⟨-574293600, 0⟩, ⟨-542239200, 0⟩, ⟨-496274400, 3600⟩, ⟨-464220000, 3600⟩, ⟨-432165600, 3600⟩,
    ⟨-401320800, 3600⟩, ⟨-369266400, 3600⟩, ⟨-337816800, 3600⟩, ⟨-306972000, 3600⟩,
    ⟨-276732000, 3600⟩, ⟨-245282400, 3600⟩, ⟨-213228000, 3600⟩, ⟨-59004000, 3600⟩,
    ⟨-37242000, 3600⟩, ⟨57722400, 0⟩, ⟨814323600, 0⟩]
  rules := [
    ⟨1925, 1938, 10, .onOrAfter .sunday 2, 7200, 0⟩,
    ⟨1950, 1953, 4, .onOrAfter .sunday 15, 7200, 3600⟩,
    ⟨1953, 1960, 10, .onOrAfter .sunday 1, 7200, 0⟩,
    ⟨1961, 1967, 10, .onOrAfter .sunday 23, 7200, 0⟩,
    ⟨1964, 1967, 3, .onOrAfter .sunday 16, 7200, 3600⟩,
    ⟨1972, 1980, 3, .onOrAfter .sunday 15, 7200, 3600⟩,
    ⟨1972, 1980, 10, .onOrAfter .sunday 23, 7200, 0⟩,
    ⟨1981, 1994, 10, .onOrAfter .sunday 23, 3600, 0⟩,
    ⟨1981, 2099, 3, .last .sunday, 3600, 3600⟩,
    ⟨1996, 2099, 10, .last .sunday, 3600, 0⟩]

def paris : History where
  first := 561
  singles := [
    ⟨-2486592561, 561⟩, ⟨-1855958961, 0⟩, ⟨-1689814800, 3600⟩, ⟨-1665363600, 3600⟩,
    ⟨-1635123600, 3600⟩, ⟨-1604278800, 3600⟩, ⟨-1574038800, 3600⟩, ⟨-1552266000, 0⟩,
    ⟨-1539997200, 3600⟩, ⟨-1520557200, 0⟩, ⟨-1507510800, 3600⟩, ⟨-1470618000, 3600⟩,
    ⟨-1444006800, 3600⟩, ⟨-1411952400, 3600⟩, ⟨-1379293200, 3600⟩, ⟨-1348448400, 3600⟩,
    ⟨-1316394000, 3600⟩, ⟨-1284339600, 3600⟩, ⟨-1253494800, 3600⟩, ⟨-1221440400, 3600⟩,
    ⟨-1191200400, 3600⟩, ⟨-1160355600, 3600⟩, ⟨-1127696400, 3600⟩, ⟨-1096851600, 3600⟩,
    ⟨-1063587600, 3600⟩, ⟨-1033347600, 3600⟩, ⟨-1002502800, 3600⟩, ⟨-969238800, 3600⟩,
    ⟨-950490000, 0⟩, ⟨-942012000, 3600⟩, ⟨-932436000, 7200⟩, ⟨-857257200, 3600⟩,
    ⟨-844556400, 7200⟩, ⟨-828226800, 3600⟩, ⟨-812502000, 7200⟩, ⟨-800071200, 7200⟩,
    ⟨-796266000, 3600⟩, ⟨-781052400, 7200⟩, ⟨-766623600, 3600⟩, ⟨196819200, 7200⟩,
    ⟨212540400, 3600⟩, ⟨243997200, 3600⟩, ⟨276051600, 3600⟩]
  rules := [
    ⟨1916, 1919, 10, .onOrAfter .sunday 1, 82800, 0⟩,
    ⟨1922, 1938, 10, .onOrAfter .saturday 1, 82800, 0⟩,
    ⟨1977, 1980, 4, .onOrAfter .sunday 1, 3600, 7200⟩,
    ⟨1979, 1995, 9, .last .sunday, 3600, 3600⟩,
    ⟨1981, 2099, 3, .last .sunday, 3600, 7200⟩,
    ⟨1996, 2099, 10, .last .sunday, 3600, 3600⟩]

end History
end WallClock
