import PowerLimits.Binary64.Round

/-!
Sum, product and quotient: the exact result rounded once. Also the whole part as a word.
-/
namespace PowerLimits.Binary64

protected def add : Binary64 → Binary64 → Binary64
  | .nan, _ | _, .nan => .nan
  | .infinite a, .infinite b => if a = b then .infinite a else .nan
  | .infinite a, .finite .. => .infinite a
  | .finite .., .infinite b => .infinite b
  | .finite a m, .finite b n =>
    if a = b then ofCounts a (m.count + n.count) 1
    else if m.count = n.count then zero
    else if n.count < m.count then ofCounts a (m.count - n.count) 1
    else ofCounts b (n.count - m.count) 1

protected def mul : Binary64 → Binary64 → Binary64
  | .nan, _ | _, .nan => .nan
  | .infinite a, .infinite b => .infinite (a != b)
  | .infinite a, .finite b n | .finite b n, .infinite a =>
    if n.count = 0 then .nan else .infinite (a != b)
  | .finite a m, .finite b n => ofCounts (a != b) (m.count * n.count) one

protected def div : Binary64 → Binary64 → Binary64
  | .nan, _ | _, .nan => .nan
  | .infinite _, .infinite _ => .nan
  | .infinite a, .finite b _ => .infinite (a != b)
  | .finite a _, .infinite b => .finite (a != b) ⟨0, representable_zero⟩
  | .finite a m, .finite b n =>
    if n.count = 0 then (if m.count = 0 then .nan else .infinite (a != b))
    else ofCounts (a != b) (m.count * one) n.count

instance : Add Binary64 := ⟨Binary64.add⟩

instance : Mul Binary64 := ⟨Binary64.mul⟩

instance : Div Binary64 := ⟨Binary64.div⟩

def largestWord : Nat := 0xFFFFFFFFFFFFFFFF

/-- The whole part as a word: what is too large becomes the largest word, what is negative or no
number becomes zero. -/
def truncate : Binary64 → Nat
  | .nan => 0
  | .infinite negative => if negative then 0 else largestWord
  | .finite negative size => if negative then 0 else min (size.count / one) largestWord

end PowerLimits.Binary64
