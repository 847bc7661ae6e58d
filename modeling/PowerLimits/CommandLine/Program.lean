import PowerLimits.CommandLine.Run
import PowerLimits.Session.System

/-!
The whole of a program run: the sockets are counted, or a session is opened, the request is carried
out on it, and it is closed again.
-/
namespace PowerLimits

/-- Where the request is one for a report and the environment does not say otherwise, devices are
opened for reading alone. -/
def Options.configuration (options : Options) (readOnly : Option String) : Configuration :=
  let configuration := Configuration.ofVariable readOnly
  if options.isReadOnly && readOnly.isNone then { configuration with readOnly := true }
  else configuration

/-- The lines that a program prints for a request. `readOnly` is the value of the environment variable
that asks for read access. -/
def Options.program (options : Options) (features : Features) (readOnly : Option String)
    (signature : Signature) : Action FileTree Failure (List String) := do
  let configuration := options.configuration readOnly
  if options.countSockets then
    match Topology.numSockets (← Action.look) configuration.topologyPath with
    | .ok sockets => return [toString sockets]
    | .error fault => Action.fail (.during .countSockets (.discovery fault))
  else
    Action.note (Configuration.ofVariable readOnly).events
    let session ←
      (Session.openSystem features configuration signature).mapError (.during .openSession)
    Action.note [.unitsUsed session.scale options.zone]
    let result ← (session.run options).attempt
    match ← session.destroy.attempt with
    | .ok () => pure ()
    | .error error => Action.note [.sessionNotClosed error]
    Action.ofExcept result

/-- The failure on a line of its own, and below it those behind it, numbered if there are several. -/
def Failure.report (failure : Failure) : String :=
  match failure.chain with
  | [] => "Error"
  | [first] => "Error: " ++ first
  | [first, cause] => s!"Error: {first}\n\nCaused by:\n    {cause}"
  | first :: causes =>
    let lines := causes.zipIdx.map fun (cause, n) =>
      "\n" ++ String.ofList ((toString n).toList.leftpad 5 ' ') ++ ": " ++ cause
    s!"Error: {first}\n\nCaused by:" ++ String.join lines

/-- What a user is told besides the failure, if that is one of access. -/
def Failure.hint? : Failure → Option String
  | .during .openSession (.resourceUnavailable ..) =>
    some (permissionHint Configuration.standard.deviceRoot)
  | _ => none

end PowerLimits
