import PowerLimits.Binary64.Basic

/-!
The base two logarithm, rounded to nearest, as far as its sign and whole part show it. The logarithm
of `2 ^ k · (1 - n · 2 ^ -53)` is `k - n · 2 ^ -53 / ln 2` up to terms that no rounding sees, and the
gap between binary64 values below `k` is `2 ^ (j - 52)` where `2 ^ j < k ≤ 2 ^ (j + 1)`. So just below
a power of two the logarithm rounds up to `k` exactly when `n ≤ 2 ^ j · ln 2`.
-/
namespace PowerLimits.Binary64

/-- What a rounded logarithm shows of itself. -/
inductive Log2 where
  | undefined
  | negative
  | whole (part : Nat)
  | unbounded
deriving DecidableEq

/-- How many significands below `2 ^ (part + 1)` have a logarithm that rounds up. -/
def roundingUp (part : Nat) : Nat :=
  if part = 0 then 0 else (693147180559945 <<< part.log2) / 1000000000000000

def log2 : Binary64 → Log2
  | .nan => .undefined
  | .infinite negative => if negative then .undefined else .unbounded
  | .finite negative size =>
    if size.count = 0 then .negative
    else if negative then .undefined
    else if size.count < one then .negative
    else
      let part := size.count.log2 - one.log2
      let missing := 0x20000000000000 - size.count >>> spare size.count
      .whole (if missing ≤ roundingUp part then part + 1 else part)

end PowerLimits.Binary64
