import PowerLimits.OsError.Basic

/-!
Failures to find a file by its path.
-/
namespace PowerLimits

inductive FileError where
  | system (source : OsError)
  /-- A path that contains the null character never gets to the operating system. -/
  | nullInPath
deriving DecidableEq

def FileError.message : FileError → String
  | .system source => source.message
  | .nullInPath => "file name contained an unexpected NUL byte"

end PowerLimits
