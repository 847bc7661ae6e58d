/-!
Reading decimal integers of bounded size. The digits are read from the left and the first thing that
is wrong with them is reported.
-/
namespace PowerLimits.Text

/-- Natural numbers are below this, so that 32 bits hold them. -/
def naturalLimit : Nat := 0x100000000

/-- Integers are below this and at least its negative, so that 64 bits hold them. -/
def signedLimit : Nat := 0x8000000000000000

inductive IntegerFault where
  | empty
  | invalidDigit
  | tooLarge
  | tooSmall
deriving DecidableEq

def IntegerFault.message : IntegerFault → String
  | .empty => "cannot parse integer from empty string"
  | .invalidDigit => "invalid digit found in string"
  | .tooLarge => "number too large to fit in target type"
  | .tooSmall => "number too small to fit in target type"

/-- The value of the ASCII digits after those that are worth `value`, if it stays below `bound`. -/
def readDigits (bound : Nat) (beyond : IntegerFault) (value : Nat) :
    List Char → Except IntegerFault Nat
  | [] => .ok value
  | c :: rest =>
    if c.isDigit then
      let next := 10 * value + (c.toNat - '0'.toNat)
      if next < bound then readDigits bound beyond next rest else .error beyond
    else .error .invalidDigit

/-- A natural number below `bound`: an optional plus and digits. -/
def readNat (bound : Nat) : List Char → Except IntegerFault Nat
  | [] => .error .empty
  | ['+'] => .error .invalidDigit
  | '+' :: digits => readDigits bound .tooLarge 0 digits
  | digits => readDigits bound .tooLarge 0 digits

/-- An integer from `-bound` up to `bound - 1`: an optional sign and digits. -/
def readInt (bound : Nat) : List Char → Except IntegerFault Int
  | [] => .error .empty
  | ['+'] | ['-'] => .error .invalidDigit
  | '-' :: digits => (readDigits (bound + 1) .tooSmall 0 digits).map fun n => -(n : Int)
  | '+' :: digits => (readDigits bound .tooLarge 0 digits).map Int.ofNat
  | digits => (readDigits bound .tooLarge 0 digits).map Int.ofNat

end PowerLimits.Text
