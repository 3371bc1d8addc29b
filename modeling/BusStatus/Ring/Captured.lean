import BusStatus.Ring.Basic

/-!
# The captured ring

The status ring of a running device, as it was read out of it.
-/

namespace BusStatus.Ring

/-- How many slots the firmware keeps. -/
def deviceCapacity : Nat := 128

/-- The slot that was to be written next when the ring was read out. -/
def capturedStart : Nat := 54

/-- The words of the captured ring, slot by slot. -/
def capturedSlots : Array Word :=
  #[5140, 5140, 5396, 4372, 4372, 4372, 4116, 5140, 5396, 4372, 4116, 5140, 5140, 5140, 5140, 5140,
    5140, 5140, 5140, 5140, 5140, 5140, 5396, 4372, 4116, 5140, 5396, 4372, 4372, 4116, 5140, 5140,
    5140, 5140, 5140, 5140, 5140, 5396, 4372, 4372, 4372, 4372, 4372, 4116, 5140, 5140, 5140, 5396,
    4372, 4116, 5140, 5396, 4372, 4372, 5140, 5140, 5140, 5140, 5140, 5140, 5396, 4372, 4116, 5140,
    5396, 4372, 4372, 4116, 5140, 5140, 5140, 5140, 5140, 5140, 5140, 5396, 4372, 4372, 4372, 4372,
    4372, 4116, 5140, 5140, 5140, 5396, 4372, 4116, 5140, 5396, 4372, 4372, 4116, 5140, 5396, 4372,
    4372, 4116, 5140, 5140, 5140, 5396, 4372, 4372, 4372, 4116, 5140, 5396, 4372, 4372, 4116, 5140,
    5140, 5140, 5140, 5140, 5140, 5140, 5396, 4372, 4372, 4116, 5140, 5396, 4372, 4372, 4116, 5140]

def captured : Ring := ⟨capturedSlots, capturedStart⟩

/-- The captured ring has as many slots as the firmware keeps. -/
theorem capacity_captured : captured.capacity = deviceCapacity := by
  simp [captured, capturedSlots, capacity, deviceCapacity]

end BusStatus.Ring
