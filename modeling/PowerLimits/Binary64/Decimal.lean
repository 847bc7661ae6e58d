import PowerLimits.Binary64.Round

/-!
Decimal text of binary64 values with a fixed number of places: the exact value, rounded to the
nearest number of that many places, ties to even.
-/
namespace PowerLimits.Binary64

/-- The places after the point in everything that is shown to a user. -/
def places : Nat := 12

/-- The text of `n` units of the last place. -/
def fixedText (n : Nat) : String :=
  let fraction := (Nat.toDigits 10 (n % Nat.pow 10 places)).leftpad places '0'
  toString (n / Nat.pow 10 places) ++ "." ++ String.ofList fraction

/-- A sign is written before every negative value, also before a zero. -/
def decimal : Binary64 → String
  | .nan => "NaN"
  | .infinite negative => if negative then "-inf" else "inf"
  | .finite negative size =>
    (if negative then "-" else "") ++ fixedText (halfEven (size.count * Nat.pow 10 places) one)

end PowerLimits.Binary64
