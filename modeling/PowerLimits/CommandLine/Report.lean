import PowerLimits.Binary64.Decimal
import PowerLimits.Limit

/-!
The report on a zone: a line for each quantity, labels to the right. What could not be found out about
a flag is said, and an energy that could not be read is left out.
-/
namespace PowerLimits

structure Report where
  enabled : Option Bool
  limits : ZoneLimits
  joules : Option Binary64
  joulesMax : Option Binary64
  locked : Option Bool
deriving DecidableEq

namespace Report

def flagText : Option Bool → String
  | some true => "true"
  | some false => "false"
  | none => "unknown"

/-- The quantities with their labels. With a short term limit every limit is named by its term. -/
def quantities (report : Report) : List (String × String) :=
  let long := report.limits.longTerm
  let limits :=
    match report.limits.shortTerm with
    | some short =>
      [("watts_long", long.watts), ("seconds_long", long.seconds),
        ("watts_short", short.watts), ("seconds_short", short.seconds)]
    | none => [("watts", long.watts), ("seconds", long.seconds)]
  let energies :=
    (report.joules.map (("joules", ·))).toList ++ (report.joulesMax.map (("joules_max", ·))).toList
  ("enabled", flagText report.enabled) ::
    (limits ++ energies).map (fun (label, value) => (label, value.decimal)) ++
    [("locked", flagText report.locked)]

def labelWidth (report : Report) : Nat := if report.limits.shortTerm.isSome then 13 else 7

def lines (report : Report) : List String :=
  report.quantities.map fun (label, value) =>
    String.ofList (label.toList.leftpad report.labelWidth ' ') ++ ": " ++ value

end Report

end PowerLimits
