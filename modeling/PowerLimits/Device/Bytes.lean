import PowerLimits.BitRange

/-!
The contents of a device file: a growable list of bytes in which registers are windows of eight bytes,
the lowest byte first. Windows at neighbouring offsets overlap.
-/
namespace PowerLimits

abbrev Bytes := List UInt8

namespace Bytes

def registerSize : Nat := 8

/-- The lowest `count` bytes of a word, the lowest first. -/
def lowest : (count : Nat) → Word → Bytes
  | 0, _ => []
  | count + 1, word => UInt8.ofBitVec (word.setWidth 8) :: lowest count (word >>> 8)

def ofWord (word : Word) : Bytes := lowest registerSize word

def toWord : Bytes → Word
  | [] => 0
  | byte :: rest => (toWord rest <<< 8) ||| byte.toBitVec.setWidth 64

def window (bytes : Bytes) (offset : Nat) : Bytes := (bytes.drop offset).take registerSize

/-- The bytes cut to a size, or filled up to it with zeros. -/
def resize (bytes : Bytes) (size : Nat) : Bytes :=
  bytes.take size ++ List.replicate (size - bytes.length) 0

/-- The bytes with `patch` at `offset`; a gap before it is filled with zeros. -/
def overwrite (bytes : Bytes) (offset : Nat) (patch : Bytes) : Bytes :=
  bytes.resize offset ++ patch ++ bytes.drop (offset + patch.length)

/-- The longest stretches of bytes that are not zero, with their offsets. -/
def runs (bytes : Bytes) : List (Nat × Bytes) := go 0 bytes
where
  go (offset : Nat) : Bytes → List (Nat × Bytes)
    | [] => []
    | byte :: rest =>
      if byte = 0 then go (offset + 1) rest
      else
        match go (offset + 1) rest with
        | (start, run) :: others =>
          if start = offset + 1 then (offset, byte :: run) :: others
          else (offset, [byte]) :: (start, run) :: others
        | [] => [(offset, [byte])]

end Bytes

end PowerLimits
