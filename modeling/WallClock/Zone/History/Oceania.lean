import WallClock.Zone.History

/-! # Offsets in Australia and the Pacific

Recorded for Australia/Adelaide, Australia/Lord_Howe, Pacific/Apia, Pacific/Chatham,
Pacific/Kiritimati and Pacific/Kwajalein, until the end of 2099. -/

namespace WallClock
namespace History

def adelaide : History where
  first := 33260
  singles := [
    ⟨-2364110060, 32400⟩, ⟨-2230189200, 34200⟩, ⟨-1672558200, 37800⟩, ⟨-1665387000, 34200⟩,
    ⟨-883639800, 37800⟩, ⟨-876123000, 34200⟩, ⟨-860398200, 37800⟩, ⟨-844673400, 34200⟩,
    ⟨-828343800, 37800⟩, ⟨-813223800, 34200⟩, ⟨67969800, 34200⟩, ⟨530037000, 37800⟩,
    ⟨667931400, 34200⟩, ⟨701195400, 34200⟩, ⟨731435400, 34200⟩, ⟨764094600, 34200⟩,
    ⟨1143909000, 34200⟩, ⟨1174753800, 34200⟩]
  rules := [
    ⟨1971, 1985, 10, .last .sunday, -27000, 37800⟩,
    ⟨1973, 1985, 3, .onOrAfter .sunday 1, -27000, 34200⟩,
    ⟨1986, 1990, 3, .onOrAfter .sunday 15, -27000, 34200⟩,
    ⟨1987, 2007, 10, .last .sunday, -27000, 37800⟩,
    ⟨1995, 2005, 3, .last .sunday, -27000, 34200⟩,
    ⟨2008, 2099, 4, .onOrAfter .sunday 1, -27000, 34200⟩,
    ⟨2008, 2099, 10, .onOrAfter .sunday 1, -27000, 37800⟩]

def lordHowe : History where
  first := 38180
  singles := [
    ⟨-2364114980, 36000⟩, ⟨352216800, 37800⟩, ⟨499188600, 39600⟩, ⟨530033400, 39600⟩,
    ⟨967303800, 39600⟩, ⟨1143903600, 37800⟩, ⟨1174748400, 37800⟩]
  rules := [
    ⟨1981, 1984, 10, .last .sunday, -30600, 41400⟩,
    ⟨1982, 1985, 3, .onOrAfter .sunday 1, -34200, 37800⟩,
    ⟨1986, 1989, 3, .onOrAfter .sunday 15, -32400, 37800⟩,
    ⟨1987, 1999, 10, .last .sunday, -30600, 39600⟩,
    ⟨1990, 1995, 3, .onOrAfter .sunday 1, -32400, 37800⟩,
    ⟨1996, 2005, 3, .last .sunday, -32400, 37800⟩,
    ⟨2001, 2007, 10, .last .sunday, -30600, 39600⟩,
    ⟨2008, 2099, 4, .onOrAfter .sunday 1, -32400, 37800⟩,
    ⟨2008, 2099, 10, .onOrAfter .sunday 1, -30600, 39600⟩]

def apia : History where
  first := 45184
  singles := [
    ⟨-2445424384, -41216⟩, ⟨-1861878784, -41400⟩, ⟨-631110600, -39600⟩, ⟨1285498800, -36000⟩,
    ⟨1301752800, -39600⟩, ⟨1316872800, -36000⟩, ⟨1325239200, 50400⟩]
  rules := [
    ⟨2012, 2020, 9, .last .sunday, -36000, 50400⟩,
    ⟨2012, 2021, 4, .onOrAfter .sunday 1, -36000, 46800⟩]

def chatham : History where
  first := 44028
  singles := [
    ⟨-3192437628, 44100⟩, ⟨-757426500, 45900⟩, ⟨152632800, 49500⟩, ⟨162309600, 45900⟩,
    ⟨623772000, 49500⟩]
  rules := [
    ⟨1975, 1988, 10, .last .sunday, -36000, 49500⟩,
    ⟨1976, 1989, 3, .onOrAfter .sunday 1, -36000, 45900⟩,
    ⟨1990, 2006, 10, .onOrAfter .sunday 1, -36000, 49500⟩,
    ⟨1990, 2007, 3, .onOrAfter .sunday 15, -36000, 45900⟩,
    ⟨2007, 2099, 9, .last .sunday, -36000, 49500⟩,
    ⟨2008, 2099, 4, .onOrAfter .sunday 1, -36000, 45900⟩]

def kiritimati : History where
  first := -37760
  singles := [
    ⟨-2177415040, -38400⟩, ⟨307622400, -36000⟩, ⟨788868000, 50400⟩]
  rules := []

def kwajalein : History where
  first := 40160
  singles := [
    ⟨-2177492960, 39600⟩, ⟨-1041418800, 36000⟩, ⟨-907408800, 32400⟩, ⟨-817462800, 39600⟩,
    ⟨-7988400, -43200⟩, ⟨745934400, 43200⟩]
  rules := []

end History
end WallClock
