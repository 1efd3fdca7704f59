import WallClock.Zone.History

/-! # Offsets in Antarctica

Recorded for Antarctica/Troll, until the end of 2099. -/

namespace WallClock
namespace History

def troll : History where
  first := 0
  singles := [
    ⟨1108166400, 0⟩]
  rules := [
    ⟨2005, 2099, 3, .last .sunday, 3600, 7200⟩,
    ⟨2005, 2099, 10, .last .sunday, 3600, 0⟩]

end History
end WallClock
