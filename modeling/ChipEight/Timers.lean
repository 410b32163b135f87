import ChipEight.Clock

/-!
# Timers

The delay timer and the sound timer count down together. They are offered every reading of the
clock and take a step when at least a period has passed since the reading of their last step. A
step lowers each timer that is above zero by one, however much more than a period has passed.
-/

namespace ChipEight

/-- Two counters and the reading at which they were last lowered. -/
structure Timers where
  delay : Int
  sound : Int
  lastTick : Seconds
  period : Seconds

namespace Timers

/-- The period of the machine's timers, a sixtieth of a second. -/
def standardPeriod : Seconds := 1 / 60

/-- Timers at rest since a reading. -/
def start (now : Seconds) (period : Seconds) : Timers := ⟨0, 0, now, period⟩

/-- Whether a period has passed at a reading. -/
def isDue (timers : Timers) (now : Seconds) : Bool := !(now - timers.lastTick < timers.period)

/-- A counter lowered by one, unless it has run out. -/
def lowered (count : Int) : Int := if 0 < count then count - 1 else count

/-- Offers a reading to the timers. The answer is whether they took a step. -/
def tick (timers : Timers) (now : Seconds) : Timers × Bool :=
  if timers.isDue now then
    ({ timers with
        delay := lowered timers.delay
        sound := lowered timers.sound
        lastTick := now }, true)
  else (timers, false)

/-- A counter that is not negative stays so. -/
theorem lowered_nonneg {count : Int} (nonneg : 0 ≤ count) : 0 ≤ lowered count := by
  unfold lowered
  split <;> omega

/-- A lowered counter is not above what it was. -/
theorem lowered_le (count : Int) : lowered count ≤ count := by
  unfold lowered
  split <;> omega

end Timers

end ChipEight
