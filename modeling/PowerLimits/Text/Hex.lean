/-!
Hexadecimal text of numbers, filled up with zeros on the left.
-/
namespace PowerLimits.Text

/-- At least `width` digits, the larger ones in lower case. -/
def hexLower (width n : Nat) : String :=
  String.ofList ((Nat.toDigits 16 n).leftpad width '0')

/-- At least `width` digits, the larger ones in upper case. -/
def hexUpper (width n : Nat) : String :=
  String.ofList (((Nat.toDigits 16 n).map Char.toUpper).leftpad width '0')

end PowerLimits.Text
