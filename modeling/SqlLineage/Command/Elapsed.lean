/-! A stretch of time in the unit that suits it, with two places. -/

namespace SqlLineage.Command

/-- Two places after the point, the last of them rounded; `unit` is how many make one. -/
def twoPlaces (amount unit : Nat) : String :=
  let hundredths := (100 * amount + unit / 2) / unit
  let places := toString (hundredths % 100)
  toString (hundredths / 100) ++ "." ++ (if places.length < 2 then "0" ++ places else places)

def elapsedText (nanoseconds : Nat) : String :=
  if nanoseconds < 1000 then twoPlaces nanoseconds 1 ++ "ns"
  else if nanoseconds < 1000000 then twoPlaces nanoseconds 1000 ++ "µs"
  else if nanoseconds < 1000000000 then twoPlaces nanoseconds 1000000 ++ "ms"
  else twoPlaces nanoseconds 1000000000 ++ "s"

end SqlLineage.Command
