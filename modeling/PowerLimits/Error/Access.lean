import PowerLimits.BitRange
import PowerLimits.Error.File
import PowerLimits.Text.Hex

/-!
Failures of register devices.
-/
namespace PowerLimits

/-- A register device could not be opened, or one of its registers not be read or written. -/
inductive AccessError where
  | noDevice (cpu : Nat) (restricted standard : FileError)
  | invalidOffset (register : Word)
  | readFailed (cpu : Nat) (register : Word) (source : OsError)
  | writeFailed (cpu : Nat) (register : Word) (source : OsError)
  | shortRead (cpu : Nat) (register : Word) (length : Nat)
  | shortWrite (cpu : Nat) (register : Word) (length : Nat)
deriving DecidableEq

namespace AccessError

def registerText (register : Word) : String := "0x" ++ Text.hexUpper 1 register.toNat

def message : AccessError → String
  | .noDevice cpu restricted standard =>
    s!"No MSR device could be opened for CPU {cpu} " ++
      s!"(msr_safe: {restricted.message}; msr: {standard.message})"
  | .invalidOffset register =>
    s!"MSR offset {registerText register} is outside the addressable range"
  | .readFailed cpu register source =>
    s!"Failed to read MSR {registerText register} on CPU {cpu}: {source.message}"
  | .writeFailed cpu register source =>
    s!"Failed to write MSR {registerText register} on CPU {cpu}: {source.message}"
  | .shortRead cpu register length =>
    s!"Short read of MSR {registerText register} on CPU {cpu}: got {length} of 8 bytes"
  | .shortWrite cpu register length =>
    s!"Short write of MSR {registerText register} on CPU {cpu}: wrote {length} of 8 bytes"

/-- The failure behind this one; of two devices that could not be opened, that of the standard one. -/
def source? : AccessError → Option FileError
  | .noDevice _ _ source => some source
  | .readFailed _ _ source | .writeFailed _ _ source => some (.system source)
  | .invalidOffset _ | .shortRead .. | .shortWrite .. => none

end AccessError

end PowerLimits
