import PowerLimits.CommandLine.Arguments
import PowerLimits.CommandLine.Program

/-!
The command line. Files are loaded whole before the program runs and those that it changed are stored
after it, so a register device has to be a regular file with a register at each offset; devices that
need positioned access are left alone.
-/
namespace PowerLimits.Main

/-- A regular file or a directory; what is neither is not there. -/
def loadNode (path : String) : IO (Option FileNode) := do
  try
    let place ← IO.FS.realPath path
    match (← place.metadata).type with
    | .dir => return some .directory
    | .file => return some (.file (← IO.FS.readBinFile path).toList)
    | _ => return none
  catch _ => return none

def load (tree : FileTree) (path : String) : IO FileTree := do
  match ← loadNode path with
  | some node => return tree.put path node
  | none => return tree

/-- The paths of the devices that a text of processor records leads to. -/
def devicePaths (topologyText : String) : List String :=
  match Topology.ofText topologyText with
  | .ok topology =>
    topology.cpus.flatMap fun cpu =>
      DeviceKind.preference.map (DeviceKind.path · Configuration.standard.deviceRoot cpu)
  | .error _ => []

def store (before after : FileTree) (path : String) : IO Unit := do
  match before.find path, after.find path with
  | .ok (.file old), .ok (.file new) =>
    if old ≠ new then IO.FS.writeBinFile path new.toByteArray
  | _, _ => return ()

def usage : String := String.intercalate "\n" [
  "Get or set Intel RAPL power limits",
  "",
  "Options:",
  "  -n, --nsockets             Print the number of sockets found and exit",
  "  -c, --socket <SOCKET>      The processor socket",
  "  -z, --zone <ZONE>          PACKAGE, CORE, UNCORE, DRAM or PSYS",
  "  -e, --enabled <1|0>        Enable/disable a zone",
  "  -s, --seconds0 <SECONDS0>  Long term time window",
  "  -w, --watts0 <WATTS0>      Long term power limit",
  "  -S, --seconds1 <SECONDS1>  Short term time window (PACKAGE & PSYS only)",
  "  -W, --watts1 <WATTS1>      Short term power limit (PACKAGE & PSYS only)",
  "  -v, --verbose              Enable verbose logging",
  "  -h, --help                 Print help",
  "",
  "Current values are printed if no flags, or only socket and/or zone flags, are specified.",
  "Otherwise, specified values are set while other values remain unmodified.",
  "When setting values, zones are automatically enabled unless -e/--enabled is explicitly set to 0."]

/-- Carry out a request and give the exit code. -/
def execute (options : Options) : IO UInt32 := do
  let topologyPath := Configuration.standard.topologyPath
  let source ← load .empty topologyPath
  let text := (Topology.sourceText source topologyPath).toOption.getD ""
  let paths := devicePaths text
  let tree ← paths.foldlM load source
  let readOnly ← IO.getEnv Configuration.readOnlyVariable
  let outcome := (options.program .all readOnly (.ofText text)).run tree
  paths.forM (store tree outcome.store)
  for event in outcome.events do
    if options.verbose || event.level ≠ .debug then
      IO.eprintln s!"{event.level.name} {event.message}"
  match outcome.result with
  | .ok lines =>
    lines.forM IO.println
    return 0
  | .error failure =>
    failure.hint?.forM IO.eprintln
    IO.eprintln failure.report
    return 1

end PowerLimits.Main

open PowerLimits in
def main (args : List String) : IO UInt32 := do
  match Options.ofArguments args with
  | .ok options => Main.execute options
  | .error .helpRequested =>
    IO.println Main.usage
    return 0
  | .error usageError =>
    IO.eprintln s!"error: {usageError.message}\n\n{Main.usage}"
    return 2
