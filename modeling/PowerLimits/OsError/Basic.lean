import PowerLimits.OsError.Table

/-!
Failures that the operating system reports. They are numbers, of which some have a meaning here, and
each of the two texts for them is used in its own place.
-/
namespace PowerLimits

structure OsError where
  code : Int
deriving DecidableEq

namespace OsError

def notFound : OsError := ⟨2⟩

def badDescriptor : OsError := ⟨9⟩

def notDirectory : OsError := ⟨20⟩

def isDirectory : OsError := ⟨21⟩

def invalidArgument : OsError := ⟨22⟩

def nameTooLong : OsError := ⟨36⟩

def entry? (error : OsError) : Option Entry := table.find? (·.code = error.code)

/-- The text of the system library, which has one for every number. -/
def description (error : OsError) : String :=
  if error.code = 0 then "Success"
  else (error.entry?.map (·.description)).getD s!"Unknown error {error.code}"

def message (error : OsError) : String := s!"{error.description} (os error {error.code})"

def closeMessage (error : OsError) : String :=
  match error.entry? with
  | some entry => entry.symbol ++ ": " ++ entry.header.getD entry.description
  | none => "UnknownErrno: Unknown errno"

end OsError

end PowerLimits
