import PowerLimits.Binary64.Decimal
import PowerLimits.Error.Basic
import PowerLimits.Limit
import PowerLimits.UnitScale

/-!
What is noted while the program works. An event is data; its level and its words are functions of it.
-/
namespace PowerLimits

inductive Level where
  | debug
  | info
  | warn
  | error
deriving DecidableEq

def Level.name : Level → String
  | .debug => "DEBUG"
  | .info => "INFO"
  | .warn => "WARN"
  | .error => "ERROR"

inductive Term where
  | long
  | short
deriving DecidableEq

def Term.name : Term → String
  | .long => "long_term"
  | .short => "short_term"

inductive Event where
  | unitsDecoded (scale : UnitScale)
  | unitsUsed (scale : UnitScale) (zone : Zone)
  | limitDecoded (zone : Zone) (term : Term) (limit : Limit)
  | powerTooLarge (zone : Zone) (watts used : Binary64)
  | powerEncoded (zone : Zone) (watts : Binary64) (count : Nat)
  | windowTooSmall (zone : Zone) (seconds used : Binary64)
  | windowTooLarge (zone : Zone) (seconds : Binary64) (exponent : Nat)
  | windowEncoded (zone : Zone) (seconds : Binary64) (exponent fraction : Nat)
  | windowChosenByProcessor
  | limitChanged (socket : Nat) (zone : Zone) (old new : Word)
  | registerRead (cpu : Nat) (register value : Word)
  | registerWrite (cpu : Nat) (register value : Word)
  | standardDevice (cpu : Nat)
  | deviceOpened (path : String) (cpu : Nat)
  | deviceClosed (path : String) (cpu : Nat)
  | closeFailed (cpu : Nat) (error : Error)
  | cleanupFailed (error : Error)
  | sessionClosed (sockets : Nat)
  | sessionNotClosed (error : Error)
  | socketAddressed (socket cpu : Nat)
  | socketsDiscovered (sockets : Nat)
  | foreignVendor (vendor : String)
  | readOnlyRequested (setting : String)
  | supportUnknown (error : Error)
  | enabledUnknown (error : Error)
  | lockedUnknown (error : Error)
deriving DecidableEq

namespace Event

def level : Event → Level
  | .powerTooLarge .. | .windowTooSmall .. | .windowTooLarge .. | .windowChosenByProcessor
  | .closeFailed .. | .cleanupFailed _ | .foreignVendor _
  | .supportUnknown _ | .enabledUnknown _ | .lockedUnknown _ => .warn
  | .sessionNotClosed _ => .error
  | .deviceOpened .. | .sessionClosed _ | .socketsDiscovered _ => .info
  | _ => .debug

private def accessText (cpu : Nat) (register value : Word) : String :=
  let address := Text.hexLower 8 register.toNat
  let contents := Text.hexLower 16 value.toNat
  s!"CPU {cpu} MSR 0x{address} = 0x{contents}"

def message : Event → String
  | .unitsDecoded scale =>
    s!"RAPL units: power={scale.power.decimal} W, time={scale.time.decimal} s, " ++
      s!"energy={scale.energy.decimal} J, dram_energy={scale.dramEnergy.decimal} J"
  | .unitsUsed scale zone =>
    s!"Units: power={scale.power.decimal} W, time={scale.time.decimal} s, " ++
      s!"energy={(scale.energyFor zone).decimal} J"
  | .limitDecoded zone term limit =>
    s!"{zone.name}: {term.name}: {limit.watts.decimal} W, {limit.seconds.decimal} s"
  | .powerTooLarge zone watts used =>
    s!"{zone.name}: power limit too large: {watts.decimal} W, using max: {used.decimal} W"
  | .powerEncoded zone watts count =>
    s!"{zone.name}: {watts.decimal} W -> 0x{Text.hexUpper 4 count}"
  | .windowTooSmall zone seconds used =>
    s!"{zone.name}: time window too small: {seconds.decimal} s, using min: {used.decimal} s"
  | .windowTooLarge zone seconds exponent =>
    s!"{zone.name}: time window too large: {seconds.decimal} s, using max exponent {exponent}"
  | .windowEncoded zone seconds exponent fraction =>
    s!"{zone.name}: {seconds.decimal} s -> " ++
      s!"Y=0x{Text.hexUpper 2 exponent} (Z=0x{Text.hexUpper 1 fraction})"
  | .windowChosenByProcessor => "PSYS short-term time window may be chosen by the processor"
  | .limitChanged socket zone old new =>
    s!"socket {socket}: {zone.name}: " ++
      s!"0x{Text.hexUpper 16 old.toNat} -> 0x{Text.hexUpper 16 new.toNat}"
  | .registerRead cpu register value => s!"MSR read: {accessText cpu register value}"
  | .registerWrite cpu register value => s!"MSR write: {accessText cpu register value}"
  | .standardDevice cpu => s!"msr_safe unavailable for CPU {cpu}, using the msr driver"
  | .deviceOpened path cpu => s!"Opened MSR handle ({path}) for core {cpu}"
  | .deviceClosed path cpu => s!"Closed MSR handle ({path}) for core {cpu}"
  | .closeFailed cpu error =>
    s!"Failed to close register handle for CPU {cpu}: {error.message}"
  | .cleanupFailed error => s!"Cleanup after failed init: {error.message}"
  | .sessionClosed sockets => s!"Closed {sockets} socket handle(s)"
  | .sessionNotClosed error => s!"Failed to clean up: {error.message}"
  | .socketAddressed socket cpu => s!"Socket {socket} addressed through CPU {cpu}"
  | .socketsDiscovered sockets => s!"Discovered {sockets} socket(s)"
  | .foreignVendor vendor => s!"CPU vendor is {vendor}, RAPL registers may not be present"
  | .readOnlyRequested setting => s!"{setting} set, requesting read-only register access"
  | .supportUnknown error =>
    s!"Failed to determine if zone is supported: {error.message}, trying to proceed anyway"
  | .enabledUnknown error => s!"Failed to determine if zone is enabled: {error.message}"
  | .lockedUnknown error => s!"Failed to determine if zone is locked: {error.message}"

end Event

end PowerLimits
