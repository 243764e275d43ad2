/-!
Time is counted in whole nanoseconds: a duration is a number of them, an instant the number since
the clock started. The timer has a coarser rule: a wait ends on a whole millisecond, the first one
that is not before its end.
-/

set_option autoImplicit false

namespace PacedCalls

namespace Duration

def second : Nat := 1000000000

def milli : Nat := 1000000

def ofSecs (n : Nat) : Nat := n * second

def ofMillis (n : Nat) : Nat := n * milli

def toMillis (d : Nat) : Nat := d / milli

/-- The longest duration there is: `2 ^ 64 - 1` seconds and all but one nanosecond of the next. -/
def longest : Nat := 18446744073709551615999999999

def saturatingMul (d : Nat) (n : Nat) : Nat := min (d * n) longest

/-- The digits of a fraction `n / 10 ^ places`, without the zeros at its end. -/
def fraction (n places : Nat) : String :=
  let digits := (Nat.repr n).toList
  let padded := List.replicate (places - digits.length) '0' ++ digits
  let kept := (padded.reverse.dropWhile (· == '0')).reverse
  if kept.isEmpty then "" else "." ++ String.ofList kept

/-- The text of a duration in its largest unit: `30s`, `1.5ms`, `1.001µs`, `100ns`. -/
def text (d : Nat) : String :=
  if second ≤ d then Nat.repr (d / second) ++ fraction (d % second) 9 ++ "s"
  else if milli ≤ d then Nat.repr (d / milli) ++ fraction (d % milli) 6 ++ "ms"
  else if 1000 ≤ d then Nat.repr (d / 1000) ++ fraction (d % 1000) 3 ++ "µs"
  else Nat.repr d ++ "ns"

end Duration

namespace Instant

def tick (moment : Nat) : Nat :=
  (moment + (Duration.milli - 1)) / Duration.milli * Duration.milli

theorem le_tick (moment : Nat) : moment ≤ tick moment := by
  simp only [tick, Duration.milli]; omega

theorem tick_lt (moment : Nat) : tick moment < moment + Duration.milli := by
  simp only [tick, Duration.milli]; omega

theorem tick_mono {a b : Nat} (h : a ≤ b) : tick a ≤ tick b :=
  Nat.mul_le_mul_right _ (Nat.div_le_div_right (Nat.add_le_add_right h _))

def due (moment now : Nat) : Bool := tick moment ≤ now

/-- The end of a wait that starts now. An end that no clock of `2 ^ 63` seconds can show is put
thirty years ahead. -/
def after (now : Nat) (d : Nat) : Nat :=
  if (now + d) / Duration.second < 9223372036854775808 then now + d
  else now + Duration.ofSecs (86400 * 365 * 30)

end Instant

end PacedCalls
