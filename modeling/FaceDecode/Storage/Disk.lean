import FaceDecode.Storage.Path

namespace FaceDecode

/-- The names that lead from the root to a file or a folder. -/
abbrev Place := List String

inductive Node where
  | file (content : ByteArray)
  | folder
deriving BEq

/-- What is stored, and the folder that relative paths start from. -/
structure Disk where
  here : Place := []
  nodes : List (Place × Node) := []

namespace Disk

def node? (d : Disk) (p : Place) : Option Node :=
  if p = [] then some .folder else d.nodes.lookup p

def isFolder (d : Disk) (p : Place) : Bool :=
  match d.node? p with
  | some .folder => true
  | _ => false

/-- Follows names from a place. The last one need not be taken yet. -/
def follow (d : Disk) : Place → List String → Option Place
  | p, [] => some p
  | p, name :: rest =>
    if !d.isFolder p then none
    else if name = "" ∨ name = "." then d.follow p rest
    else if name = ".." then d.follow p.dropLast rest
    else if Path.maxNameBytes < name.utf8ByteSize then none
    else d.follow (p ++ [name]) rest

def start (d : Disk) (path : String) : Place := if path.startsWith "/" then [] else d.here

def isPath (path : String) : Bool :=
  !path.isEmpty && !path.contains '\x00' && path.utf8ByteSize ≤ Path.maxBytes

def place? (d : Disk) (path : String) : Option Place :=
  if isPath path then d.follow (d.start path) (path.splitOn "/") else none

def passed : Place → List String → List Place
  | p, [] => [p]
  | p, name :: rest => p :: passed (if name = ".." then p.dropLast else p ++ [name]) rest

/-- What is in a disk and not the same in another one, the oldest first. -/
def changes (d before : Disk) : List (Place × Node) :=
  d.nodes.reverse.filter fun (p, node) ↦ before.node? p != some node

def find? (d : Disk) (path : String) : Option Node := (d.place? path).bind d.node?

def folder? (d : Disk) (path : String) : Option Place := (d.place? path).filter d.isFolder

def read? (d : Disk) (path : String) : Option ByteArray :=
  match d.find? path with
  | some (.file content) => some content
  | _ => none

def namesIn (d : Disk) (p : Place) : List String :=
  d.nodes.filterMap fun (q, _) ↦ if q.dropLast = p then q.getLast? else none

def put (d : Disk) (p : Place) (node : Node) : Disk :=
  { d with nodes := (p, node) :: d.nodes.filter fun (q, _) ↦ q ≠ p }

/-- Adds the folders along the names that are not there yet. A file in the way stops it,
and so does a name that is too long. -/
def addFolders (d : Disk) : Place → List String → Option Disk
  | _, [] => some d
  | p, name :: rest =>
    if name = ".." then d.addFolders p.dropLast rest
    else if Path.maxNameBytes < name.utf8ByteSize then none
    else
      let p := p ++ [name]
      match d.node? p with
      | some .folder => d.addFolders p rest
      | some (.file _) => none
      | none => (d.put p .folder).addFolders p rest

def makeFolders (d : Disk) (path : String) : Option Disk :=
  if isPath path then d.addFolders (d.start path) (Path.names path) else none

def write (d : Disk) (path : String) (content : ByteArray) : Option Disk :=
  (d.place? path).bind fun p ↦
    if d.isFolder p then none else some (d.put p (.file content))

end Disk

end FaceDecode
