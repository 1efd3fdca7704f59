import WallClock.Zone.History

/-! # Offsets in Asia

Recorded for Asia/Kathmandu, Asia/Kolkata, Asia/Manila, Asia/Pyongyang, Asia/Tehran and
Asia/Tokyo, until the end of 2099. -/

namespace WallClock
namespace History

def kathmandu : History where
  first := 20476
  singles := [
    ⟨-1577943676, 19800⟩, ⟨504901800, 20700⟩]
  rules := []

def kolkata : History where
  first := 21208
  singles := [
    ⟨-3645237208, 21200⟩, ⟨-3155694800, 19270⟩, ⟨-2019705670, 19800⟩, ⟨-891581400, 23400⟩,
    ⟨-872058600, 19800⟩, ⟨-862637400, 23400⟩, ⟨-764145000, 19800⟩]
  rules := []

def manila : History where
  first := -57368
  singles := [
    ⟨-3944621032, 29032⟩, ⟨-2219083200, 28800⟩, ⟨-1046678400, 32400⟩, ⟨-1040115600, 28800⟩,
    ⟨-885024000, 32400⟩, ⟨-880016400, 32400⟩, ⟨-783594000, 32400⟩, ⟨-760093200, 28800⟩,
    ⟨-496224000, 32400⟩, ⟨-491562000, 28800⟩, ⟨228326400, 32400⟩, ⟨243702000, 28800⟩,
    ⟨643219200, 32400⟩, ⟨649177200, 28800⟩]
  rules := []

def pyongyang : History where
  first := 30180
  singles := [
    ⟨-1948782180, 30600⟩, ⟨-1830414600, 32400⟩, ⟨-768646800, 32400⟩, ⟨1439564400, 30600⟩,
    ⟨1525446000, 32400⟩]
  rules := []

def tehran : History where
  first := 12344
  singles := [
    ⟨-1704165944, 12344⟩, ⟨-1090466744, 12600⟩, ⟨227820600, 16200⟩, ⟨246223800, 14400⟩,
    ⟨259617600, 18000⟩, ⟨271108800, 14400⟩, ⟨279576000, 12600⟩, ⟨296598600, 16200⟩,
    ⟨306531000, 12600⟩, ⟨322432200, 16200⟩, ⟨338499000, 12600⟩, ⟨673216200, 16200⟩,
    ⟨685481400, 12600⟩, ⟨701209800, 16200⟩, ⟨717103800, 12600⟩, ⟨732745800, 16200⟩,
    ⟨748639800, 12600⟩, ⟨764281800, 16200⟩, ⟨780175800, 12600⟩, ⟨795817800, 16200⟩,
    ⟨811711800, 12600⟩, ⟨827353800, 16200⟩, ⟨843247800, 12600⟩, ⟨858976200, 16200⟩,
    ⟨874870200, 12600⟩, ⟨890512200, 16200⟩, ⟨906406200, 12600⟩, ⟨922048200, 16200⟩,
    ⟨937942200, 12600⟩, ⟨953584200, 16200⟩, ⟨969478200, 12600⟩, ⟨985206600, 16200⟩,
    ⟨1001100600, 12600⟩, ⟨1016742600, 16200⟩, ⟨1032636600, 12600⟩, ⟨1048278600, 16200⟩,
    ⟨1064172600, 12600⟩, ⟨1079814600, 16200⟩, ⟨1095708600, 12600⟩, ⟨1111437000, 16200⟩,
    ⟨1127331000, 12600⟩, ⟨1206045000, 16200⟩, ⟨1221939000, 12600⟩, ⟨1237667400, 16200⟩,
    ⟨1253561400, 12600⟩, ⟨1269203400, 16200⟩, ⟨1285097400, 12600⟩, ⟨1300739400, 16200⟩,
    ⟨1316633400, 12600⟩, ⟨1332275400, 16200⟩, ⟨1348169400, 12600⟩, ⟨1363897800, 16200⟩,
    ⟨1379791800, 12600⟩, ⟨1395433800, 16200⟩, ⟨1411327800, 12600⟩, ⟨1426969800, 16200⟩,
    ⟨1442863800, 12600⟩, ⟨1458505800, 16200⟩, ⟨1474399800, 12600⟩, ⟨1490128200, 16200⟩,
    ⟨1506022200, 12600⟩, ⟨1521664200, 16200⟩, ⟨1537558200, 12600⟩, ⟨1553200200, 16200⟩,
    ⟨1569094200, 12600⟩, ⟨1584736200, 16200⟩, ⟨1600630200, 12600⟩, ⟨1616358600, 16200⟩,
    ⟨1632252600, 12600⟩, ⟨1647894600, 16200⟩, ⟨1663788600, 12600⟩]
  rules := []

def tokyo : History where
  first := 33539
  singles := [
    ⟨-2587712400, 32400⟩, ⟨-683802000, 36000⟩, ⟨-654771600, 36000⟩, ⟨-620298000, 36000⟩,
    ⟨-588848400, 36000⟩]
  rules := [
    ⟨1948, 1951, 9, .onOrAfter .sunday 8, -32400, 32400⟩]

end History
end WallClock
