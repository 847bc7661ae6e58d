import PowerLimits.Binary64.Numeral
import PowerLimits.Limit
import PowerLimits.Text.Integer
import PowerLimits.Zone

/-!
What a command line can ask for, and how the values of its options are read.
-/
namespace PowerLimits

/-- A request. Without an option that sets something it is one for a report. -/
structure Options where
  countSockets : Bool
  verbose : Bool
  socket : Nat
  zone : Zone
  enabled : Option Int
  longSeconds : Option Binary64
  longWatts : Option Binary64
  shortSeconds : Option Binary64
  shortWatts : Option Binary64
deriving DecidableEq

inductive QuantityFault where
  | numeral (fault : Binary64.NumeralFault)
  | notPositive
deriving DecidableEq

def QuantityFault.message : QuantityFault → String
  | .numeral fault => fault.message
  | .notPositive => "Time window and power limit values must be > 0"

/-- A power or a time. What is compared with zero is the number, so that `nan`, which is not at most
zero, passes. -/
def readQuantity (text : List Char) : Except QuantityFault Binary64 :=
  match Binary64.readNumeral text with
  | .error fault => .error (.numeral fault)
  | .ok value => if value.le .zero then .error .notPositive else .ok value

namespace Options

def standard : Options :=
  ⟨false, false, 0, .package, none, none, none, none, none⟩

/-- A limit with what is given of it; zero stands for the rest, which leaves it as it is. -/
def limitOf (watts seconds : Option Binary64) : Option Limit :=
  if watts.isSome || seconds.isSome then some ⟨watts.getD .zero, seconds.getD .zero⟩ else none

def longTerm (options : Options) : Option Limit := limitOf options.longWatts options.longSeconds

def shortTerm (options : Options) : Option Limit := limitOf options.shortWatts options.shortSeconds

def isReadOnly (options : Options) : Bool :=
  options.enabled.isNone && options.longTerm.isNone && options.shortTerm.isNone

/-- The zone is to be disabled. Any other number than zero enables it. -/
def disables (options : Options) : Bool := options.enabled == some 0

end Options

inductive Switch where
  | countSockets
  | verbose
  | help
deriving DecidableEq

namespace Switch

def all : List Switch := [.countSockets, .verbose, .help]

def letter : Switch → Char
  | .countSockets => 'n'
  | .verbose => 'v'
  | .help => 'h'

def name : Switch → String
  | .countSockets => "nsockets"
  | .verbose => "verbose"
  | .help => "help"

def ofLetter? (c : Char) : Option Switch := all.find? (·.letter = c)

def ofName? (name : List Char) : Option Switch := all.find? (·.name.toList = name)

end Switch

inductive Parameter where
  | socket
  | zone
  | enabled
  | longSeconds
  | longWatts
  | shortSeconds
  | shortWatts
deriving DecidableEq

namespace Parameter

def all : List Parameter :=
  [.socket, .zone, .enabled, .longSeconds, .longWatts, .shortSeconds, .shortWatts]

def letter : Parameter → Char
  | .socket => 'c'
  | .zone => 'z'
  | .enabled => 'e'
  | .longSeconds => 's'
  | .longWatts => 'w'
  | .shortSeconds => 'S'
  | .shortWatts => 'W'

def name : Parameter → String
  | .socket => "socket"
  | .zone => "zone"
  | .enabled => "enabled"
  | .longSeconds => "seconds0"
  | .longWatts => "watts0"
  | .shortSeconds => "seconds1"
  | .shortWatts => "watts1"

def ofLetter? (c : Char) : Option Parameter := all.find? (·.letter = c)

def ofName? (name : List Char) : Option Parameter := all.find? (·.name.toList = name)

def readInteger? (least most : Int) (text : List Char) : Option Int :=
  match Text.readInt Text.signedLimit text with
  | .ok n => if least ≤ n ∧ n ≤ most then some n else none
  | .error _ => none

/-- The request with the value of an option, if the value is one. -/
def assign? (parameter : Parameter) (text : List Char) (options : Options) : Option Options :=
  match parameter with
  | .socket =>
    (readInteger? 0 0xFFFFFFFF text).map fun n => { options with socket := n.toNat }
  | .zone => (Zone.ofName? (String.ofList text)).map fun zone => { options with zone }
  | .enabled =>
    (readInteger? (-0x80000000) 0x7FFFFFFF text).map fun n => { options with enabled := some n }
  | .longSeconds => quantity?.map fun x => { options with longSeconds := some x }
  | .longWatts => quantity?.map fun x => { options with longWatts := some x }
  | .shortSeconds => quantity?.map fun x => { options with shortSeconds := some x }
  | .shortWatts => quantity?.map fun x => { options with shortWatts := some x }
where
  quantity? : Option Binary64 := (readQuantity text).toOption

end Parameter

end PowerLimits
