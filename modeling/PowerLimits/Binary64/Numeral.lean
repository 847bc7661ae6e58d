import PowerLimits.Binary64.Round

/-!
Reading a decimal numeral as the nearest binary64 value. A numeral is an optional sign and then
either the name of a value that is no finite number, or digits with an optional point among or around
them and an optional exponent.
-/
namespace PowerLimits.Binary64

inductive NumeralFault where
  | empty
  | malformed
deriving DecidableEq

def NumeralFault.message : NumeralFault → String
  | .empty => "cannot parse float from empty string"
  | .malformed => "invalid float literal"

def digitsValue (digits : List Char) : Nat :=
  digits.foldl (fun value c => 10 * value + (c.toNat - '0'.toNat)) 0

/-- The value nearest to `digits · 10 ^ exponent`. The first test sees what is `10 ^ 310` or more and
the second what is below `10 ^ -330`, so no power of ten is larger than the numeral is long. -/
def ofDecimal (digits : Nat) (exponent : Int) : Binary64 :=
  if digits = 0 then zero
  else
    let order := exponent + (Nat.toDigits 10 digits).length
    if 310 < order then .infinite false
    else if order < -330 then zero
    else if 0 ≤ exponent then ofRatio (digits * Nat.pow 10 exponent.toNat) 1
    else ofRatio digits (Nat.pow 10 (-exponent).toNat)

/-- The exponent at the end of a numeral: nothing, or `e` and an integer. -/
def readExponent : List Char → Option Int
  | [] => some 0
  | e :: rest =>
    if e = 'e' ∨ e = 'E' then
      match rest with
      | '-' :: digits => (value? digits).map fun n => -(n : Int)
      | '+' :: digits => (value? digits).map Int.ofNat
      | digits => (value? digits).map Int.ofNat
    else none
where
  value? (digits : List Char) : Option Nat :=
    if digits ≠ [] ∧ digits.all Char.isDigit then some (digitsValue digits) else none

def readUnsigned (text : List Char) : Option Binary64 :=
  match String.ofList (text.map Char.toLower) with
  | "inf" | "infinity" => some (.infinite false)
  | "nan" => some .nan
  | _ =>
    let whole := text.takeWhile Char.isDigit
    let rest := text.dropWhile Char.isDigit
    let (fraction, rest) :=
      match rest with
      | '.' :: rest => (rest.takeWhile Char.isDigit, rest.dropWhile Char.isDigit)
      | rest => ([], rest)
    if whole = [] ∧ fraction = [] then none
    else (readExponent rest).map fun exponent =>
      ofDecimal (digitsValue (whole ++ fraction)) (exponent - fraction.length)

def readNumeral (text : List Char) : Except NumeralFault Binary64 :=
  let value? :=
    match text with
    | '-' :: rest => (readUnsigned rest).map (-·)
    | '+' :: rest => readUnsigned rest
    | rest => readUnsigned rest
  if text = [] then .error .empty
  else value?.elim (.error .malformed) .ok

end PowerLimits.Binary64
