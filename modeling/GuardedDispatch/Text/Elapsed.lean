import GuardedDispatch.Number.Decimal

/-!
# Durations in messages

A duration is a count of milliseconds. Messages show nothing as `0ns`, less than a second in
milliseconds, and longer spans in seconds with as many of three decimal places as are needed.
-/

namespace GuardedDispatch.Text

/-- Removes the zeros at the end of a list of digits. -/
def dropTrailingZeros (cs : List Char) : List Char :=
  (cs.reverse.dropWhile (· == '0')).reverse

/-- The text of a duration of `ms` milliseconds. -/
def elapsedText (ms : Nat) : String :=
  if ms = 0 then "0ns"
  else if ms < 1000 then s!"{ms}ms"
  else
    let places := dropTrailingZeros (Number.padded 3 (ms % 1000)).toList
    if places.isEmpty then s!"{ms / 1000}s"
    else s!"{ms / 1000}." ++ String.ofList places ++ "s"

end GuardedDispatch.Text
