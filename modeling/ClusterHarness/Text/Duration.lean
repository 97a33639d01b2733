import ClusterHarness.Text.Numeral

/-!
# Durations as text

A duration of whole milliseconds, as messages print it: in milliseconds below one second, in seconds
with at most three decimals from there on.
-/

namespace ClusterHarness.Text

/-- Milliseconds below one second as decimals of a second, without trailing zeros. -/
def milliDecimals (ms : Nat) : List Char :=
  let digits := [digitChar (ms / 100), digitChar (ms / 10 % 10), digitChar (ms % 10)]
  (digits.reverse.dropWhile (· == '0')).reverse

/-- A duration of `ms` milliseconds. -/
def durationText (ms : Nat) : String :=
  if ms = 0 then "0ns"
  else if ms < 1000 then natText ms ++ "ms"
  else if ms % 1000 = 0 then natText (ms / 1000) ++ "s"
  else natText (ms / 1000) ++ "." ++ String.ofList (milliDecimals (ms % 1000)) ++ "s"

end ClusterHarness.Text
