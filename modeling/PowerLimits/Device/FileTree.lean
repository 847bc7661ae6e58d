import PowerLimits.Device.Bytes
import PowerLimits.Error.File

/-!
A tree of files and directories. A path is walked step by step from where it starts, and every step
but the last has to lead to a directory. What lies above the start of relative paths is not known, so
it is taken to be the root.
-/
namespace PowerLimits

namespace Path

/-- The texts between the slashes of a path. -/
def segments : List Char → List (List Char)
  | [] => [[]]
  | c :: rest =>
    if c = '/' then [] :: segments rest
    else
      match segments rest with
      | [] => [[c]]
      | segment :: others => (c :: segment) :: others

/-- The path of a name in a directory: one slash between them, unless one is there or the directory
is empty. -/
def join (directory name : String) : String :=
  if directory.toList = [] ∨ directory.toList.getLast? = some '/' then directory ++ name
  else directory ++ "/" ++ name

def root : String := "/"

def longest : Nat := 4095

def longestName : Nat := 255

/-- Where the walk along a path starts, and its steps. -/
def walk (path : String) : List String × List String :=
  match segments path.toList with
  | [] :: steps => ([root], steps.map String.ofList)
  | steps => ([], steps.map String.ofList)

def parent (names : List String) : List String :=
  if names = [] ∨ names = [root] then [root] else names.dropLast

/-- The names after one step, which may stay or go up. -/
def step (names : List String) (name : String) : List String :=
  if name = "" ∨ name = "." then names
  else if name = ".." then parent names
  else names ++ [name]

end Path

inductive FileNode where
  | file (bytes : Bytes)
  | directory
deriving DecidableEq

structure FileTree where
  /-- Files and directories by the names on the way to them. -/
  nodes : List (List String × FileNode)
deriving DecidableEq

namespace FileTree

def empty : FileTree := ⟨[]⟩

def node? (tree : FileTree) (names : List String) : Option FileNode :=
  match tree.nodes.lookup names with
  | some node => some node
  | none => if names = [] ∨ names = [Path.root] then some .directory else none

/-- The names and the node at the end of some steps from a directory. -/
def walk (tree : FileTree) (names : List String) :
    List String → Except OsError (List String × FileNode)
  | [] => .ok (names, .directory)
  | name :: rest =>
    let next := Path.step names name
    if name = "" ∨ name = "." ∨ name = ".." then tree.walk next rest
    else if Path.longestName < name.utf8ByteSize then .error .nameTooLong
    else
      match tree.node? next with
      | none => .error .notFound
      | some .directory => tree.walk next rest
      | some (.file bytes) => if rest = [] then .ok (next, .file bytes) else .error .notDirectory

/-- The names and the node at a path. The empty path leads nowhere. -/
def locate (tree : FileTree) (path : String) : Except FileError (List String × FileNode) :=
  if path.toList.contains '\x00' then .error .nullInPath
  else if path = "" then .error (.system .notFound)
  else if Path.longest < path.utf8ByteSize then .error (.system .nameTooLong)
  else
    let (start, steps) := Path.walk path
    (tree.walk start steps).mapError .system

def find (tree : FileTree) (path : String) : Except FileError FileNode :=
  (tree.locate path).map (·.2)

/-- The tree with a directory of these names, unless there is something already. -/
def addDirectory (tree : FileTree) (names : List String) : FileTree :=
  if (tree.node? names).isSome then tree else ⟨(names, .directory) :: tree.nodes⟩

/-- The tree with a directory after each step, and the names after the last. -/
def addDirectories (tree : FileTree) (names : List String) : List String → FileTree × List String
  | [] => (tree, names)
  | name :: rest =>
    let next := Path.step names name
    (tree.addDirectory next).addDirectories next rest

/-- The tree with a node added or exchanged, and with the directories on the way to it. -/
def put (tree : FileTree) (path : String) (node : FileNode) : FileTree :=
  let (start, steps) := Path.walk path
  let (tree, names) := tree.addDirectories start steps
  ⟨(names, node) :: tree.nodes.filter fun (others, _) => others ≠ names⟩

def setFile (tree : FileTree) (names : List String) (bytes : Bytes) : FileTree :=
  ⟨tree.nodes.map fun (others, node) => (others, if others = names then .file bytes else node)⟩

end FileTree

end PowerLimits
