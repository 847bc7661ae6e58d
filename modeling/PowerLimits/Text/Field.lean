import PowerLimits.Text.Blank

/-!
Lines that hold a key and a value with a colon between them.
-/
namespace PowerLimits.Text

/-- The trimmed texts before and after the first colon, if there is one. -/
def splitField? (line : List Char) : Option (List Char × List Char) :=
  match line.dropWhile (· ≠ ':') with
  | [] => none
  | _ :: value => some (trim (line.takeWhile (· ≠ ':')), trim value)

end PowerLimits.Text
