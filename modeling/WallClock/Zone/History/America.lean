import WallClock.Zone.History

/-! # Offsets in the Americas

Recorded for America/Caracas, America/Juneau, America/New_York, America/Nuuk, America/Santiago,
America/Sao_Paulo and America/St_Johns, until the end of 2099. -/

namespace WallClock
namespace History

def caracas : History where
  first := -16064
  singles := [
    ⟨-2524505536, -16060⟩, ⟨-1826739140, -16200⟩, ⟨-157750200, -14400⟩, ⟨1197183600, -16200⟩,
    ⟨1462086000, -14400⟩]
  rules := []

def juneau : History where
  first := 54139
  singles := [
    ⟨-3225223727, -32261⟩, ⟨-2188954939, -28800⟩, ⟨-880207200, -25200⟩, ⟨-769395600, -25200⟩,
    ⟨-765385200, -28800⟩, ⟨126698400, -25200⟩, ⟨162381600, -25200⟩, ⟨325677600, -28800⟩,
    ⟨341402400, -28800⟩, ⟨357127200, -25200⟩, ⟨372848400, -28800⟩, ⟨388576800, -25200⟩,
    ⟨404902800, -28800⟩, ⟨420026400, -25200⟩, ⟨436352400, -32400⟩, ⟨439030800, -32400⟩,
    ⟨452084400, -28800⟩, ⟨483534000, -28800⟩, ⟨514983600, -28800⟩]
  rules := [
    ⟨1969, 1973, 4, .last .sunday, 36000, -25200⟩,
    ⟨1969, 1979, 10, .last .sunday, 32400, -28800⟩,
    ⟨1976, 1979, 4, .last .sunday, 36000, -25200⟩,
    ⟨1984, 2006, 10, .last .sunday, 36000, -32400⟩,
    ⟨1987, 2006, 4, .onOrAfter .sunday 1, 39600, -28800⟩,
    ⟨2007, 2099, 3, .onOrAfter .sunday 8, 39600, -28800⟩,
    ⟨2007, 2099, 11, .onOrAfter .sunday 1, 36000, -32400⟩]

def newYork : History where
  first := -17762
  singles := [
    ⟨-2717650800, -18000⟩, ⟨-1633280400, -14400⟩, ⟨-1615140000, -18000⟩, ⟨-1601830800, -14400⟩,
    ⟨-1583690400, -18000⟩, ⟨-1570381200, -14400⟩, ⟨-1551636000, -18000⟩, ⟨-880218000, -14400⟩,
    ⟨-769395600, -14400⟩, ⟨126687600, -14400⟩, ⟨162370800, -14400⟩]
  rules := [
    ⟨1921, 1941, 4, .last .sunday, 25200, -14400⟩,
    ⟨1921, 1941, 9, .last .sunday, 21600, -18000⟩,
    ⟨1945, 1954, 9, .last .sunday, 21600, -18000⟩,
    ⟨1946, 1973, 4, .last .sunday, 25200, -14400⟩,
    ⟨1955, 2006, 10, .last .sunday, 21600, -18000⟩,
    ⟨1976, 1986, 4, .last .sunday, 25200, -14400⟩,
    ⟨1987, 2006, 4, .onOrAfter .sunday 1, 25200, -14400⟩,
    ⟨2007, 2099, 3, .onOrAfter .sunday 8, 25200, -14400⟩,
    ⟨2007, 2099, 11, .onOrAfter .sunday 1, 21600, -18000⟩]

def nuuk : History where
  first := -12416
  singles := [
    ⟨-1686083584, -10800⟩, ⟨323845200, -7200⟩]
  rules := [
    ⟨1980, 1995, 9, .last .sunday, 3600, -10800⟩,
    ⟨1981, 2023, 3, .last .sunday, 3600, -7200⟩,
    ⟨1996, 2022, 10, .last .sunday, 3600, -10800⟩,
    ⟨2024, 2099, 3, .last .sunday, 3600, -3600⟩,
    ⟨2024, 2099, 10, .last .sunday, 3600, -7200⟩]

def santiago : History where
  first := -16965
  singles := [
    ⟨-2524504635, -16965⟩, ⟨-1892661435, -18000⟩, ⟨-1688410800, -16965⟩, ⟨-1619205435, -14400⟩,
    ⟨-1593806400, -16965⟩, ⟨-1335986235, -14400⟩, ⟨-1317585600, -18000⟩, ⟨-1304362800, -14400⟩,
    ⟨-1286049600, -18000⟩, ⟨-1272826800, -14400⟩, ⟨-1254513600, -18000⟩, ⟨-1241290800, -14400⟩,
    ⟨-1222977600, -18000⟩, ⟨-1209754800, -14400⟩, ⟨-1191355200, -18000⟩, ⟨-1178132400, -14400⟩,
    ⟨-870552000, -18000⟩, ⟨-865278000, -14400⟩, ⟨-740520000, -10800⟩, ⟨-736635600, -14400⟩,
    ⟨-718056000, -18000⟩, ⟨-713649600, -14400⟩, ⟨-36619200, -10800⟩, ⟨-23922000, -14400⟩,
    ⟨-3355200, -10800⟩, ⟨7527600, -14400⟩, ⟨24465600, -10800⟩, ⟨55915200, -10800⟩,
    ⟨87969600, -10800⟩, ⟨118209600, -10800⟩, ⟨545194800, -14400⟩, ⟨653457600, -10800⟩,
    ⟨859690800, -14400⟩, ⟨889930800, -14400⟩, ⟨906868800, -10800⟩, ⟨923194800, -14400⟩,
    ⟨1206846000, -14400⟩, ⟨1237086000, -14400⟩, ⟨1270350000, -14400⟩, ⟨1304823600, -14400⟩,
    ⟨1313899200, -10800⟩, ⟨1335668400, -14400⟩, ⟨1346558400, -10800⟩, ⟨1367118000, -14400⟩,
    ⟨1378612800, -10800⟩, ⟨1398567600, -14400⟩, ⟨1410062400, -10800⟩, ⟨1463281200, -14400⟩,
    ⟨1471147200, -10800⟩, ⟨1494730800, -14400⟩, ⟨1502596800, -10800⟩, ⟨1526180400, -14400⟩,
    ⟨1534046400, -10800⟩]
  rules := [
    ⟨1971, 1986, 3, .onOrAfter .sunday 9, 10800, -14400⟩,
    ⟨1974, 1989, 10, .onOrAfter .sunday 9, 14400, -10800⟩,
    ⟨1988, 1996, 3, .onOrAfter .sunday 9, 10800, -14400⟩,
    ⟨1991, 1997, 10, .onOrAfter .sunday 9, 14400, -10800⟩,
    ⟨1999, 2010, 10, .onOrAfter .sunday 9, 14400, -10800⟩,
    ⟨2000, 2007, 3, .onOrAfter .sunday 8, 10800, -14400⟩,
    ⟨2019, 2022, 9, .onOrAfter .sunday 5, 14400, -10800⟩,
    ⟨2019, 2099, 4, .onOrAfter .sunday 2, 10800, -14400⟩,
    ⟨2023, 2099, 9, .onOrAfter .sunday 2, 14400, -10800⟩]

def saoPaulo : History where
  first := -11188
  singles := [
    ⟨-1767214412, -10800⟩, ⟨-1206957600, -7200⟩, ⟨-1191362400, -10800⟩, ⟨-1175374800, -7200⟩,
    ⟨-1159826400, -10800⟩, ⟨-633819600, -7200⟩, ⟨-622069200, -10800⟩, ⟨-602283600, -7200⟩,
    ⟨-591832800, -10800⟩, ⟨-570747600, -7200⟩, ⟨-560210400, -10800⟩, ⟨-539125200, -7200⟩,
    ⟨-531352800, -10800⟩, ⟨-195426000, -7200⟩, ⟨-184197600, -10800⟩, ⟨-155163600, -7200⟩,
    ⟨-150069600, -10800⟩, ⟨-128898000, -7200⟩, ⟨-121125600, -10800⟩, ⟨-99954000, -7200⟩,
    ⟨-89589600, -10800⟩, ⟨-68418000, -7200⟩, ⟨-57967200, -10800⟩, ⟨499748400, -7200⟩,
    ⟨511236000, -10800⟩, ⟨530593200, -7200⟩, ⟨540266400, -10800⟩, ⟨562129200, -7200⟩,
    ⟨571197600, -10800⟩, ⟨602042400, -10800⟩, ⟨634701600, -10800⟩, ⟨666756000, -10800⟩,
    ⟨697600800, -10800⟩, ⟨719982000, -7200⟩, ⟨728445600, -10800⟩, ⟨750826800, -7200⟩,
    ⟨761709600, -10800⟩, ⟨782276400, -7200⟩, ⟨793159200, -10800⟩, ⟨813726000, -7200⟩,
    ⟨824004000, -10800⟩, ⟨844570800, -7200⟩, ⟨856058400, -10800⟩, ⟨876106800, -7200⟩,
    ⟨888717600, -10800⟩, ⟨908074800, -7200⟩, ⟨919562400, -10800⟩, ⟨938919600, -7200⟩,
    ⟨951616800, -10800⟩, ⟨970974000, -7200⟩, ⟨1003028400, -7200⟩, ⟨1036292400, -7200⟩,
    ⟨1066532400, -7200⟩, ⟨1099364400, -7200⟩, ⟨1129431600, -7200⟩, ⟨1162695600, -7200⟩,
    ⟨1172368800, -10800⟩, ⟨1192330800, -7200⟩, ⟨1330221600, -10800⟩, ⟨1541300400, -7200⟩]
  rules := [
    ⟨1988, 1991, 10, .onOrAfter .sunday 15, 10800, -7200⟩,
    ⟨2001, 2006, 2, .onOrAfter .sunday 15, 7200, -10800⟩,
    ⟨2008, 2011, 2, .onOrAfter .sunday 15, 7200, -10800⟩,
    ⟨2008, 2017, 10, .onOrAfter .sunday 15, 10800, -7200⟩,
    ⟨2013, 2019, 2, .onOrAfter .sunday 16, 7200, -10800⟩]

def stJohns : History where
  first := -12652
  singles := [
    ⟨-2713897748, -12652⟩, ⟨-1664130548, -9052⟩, ⟨-1650137348, -12652⟩, ⟨-1632076148, -9052⟩,
    ⟨-1615145348, -12652⟩, ⟨-1598650148, -9052⟩, ⟨-1590100148, -12652⟩, ⟨-1551565748, -12652⟩,
    ⟨-1362263348, -12652⟩, ⟨-1096921748, -12600⟩, ⟨-1093728600, -9000⟩, ⟨-1078612200, -12600⟩,
    ⟨-769395600, -9000⟩, ⟨-765401400, -12600⟩, ⟨544591860, -9000⟩, ⟨562127460, -12600⟩,
    ⟨576041460, -5400⟩, ⟨594178260, -12600⟩]
  rules := [
    ⟨1920, 1934, 5, .onOrAfter .monday 2, 9052, -9052⟩,
    ⟨1921, 1925, 10, .last .monday, 5452, -12652⟩,
    ⟨1927, 1934, 10, .last .monday, 5452, -12652⟩,
    ⟨1936, 1941, 10, .onOrAfter .monday 1, 9000, -12600⟩,
    ⟨1936, 1942, 5, .onOrAfter .monday 9, 12600, -9000⟩,
    ⟨1946, 1950, 5, .onOrAfter .sunday 8, 19800, -9000⟩,
    ⟨1946, 1950, 10, .onOrAfter .sunday 2, 16200, -12600⟩,
    ⟨1951, 1959, 9, .last .sunday, 16200, -12600⟩,
    ⟨1951, 1986, 4, .last .sunday, 19800, -9000⟩,
    ⟨1960, 1986, 10, .last .sunday, 16200, -12600⟩,
    ⟨1989, 2006, 4, .onOrAfter .sunday 1, 12660, -9000⟩,
    ⟨1989, 2006, 10, .last .sunday, 9060, -12600⟩,
    ⟨2007, 2010, 11, .onOrAfter .sunday 1, 9060, -12600⟩,
    ⟨2007, 2011, 3, .onOrAfter .sunday 8, 12660, -9000⟩,
    ⟨2011, 2099, 11, .onOrAfter .sunday 1, 16200, -12600⟩,
    ⟨2012, 2099, 3, .onOrAfter .sunday 8, 19800, -9000⟩]

end History
end WallClock
