import CarPairing.Files.Disk
import CarPairing.Files.Path
import CarPairing.Table

/-!
A file tree in memory: plain files with a permission mode and directories,
without links. It answers as a disk that never runs out of space.
-/

namespace CarPairing

inductive Node where
  | directory
  | file (mode : Nat) (contents : Bytes)
deriving DecidableEq

/-- Nodes under their canonical absolute path; the root is always there. Names
of the working directory stand innermost first. -/
structure Tree where
  nodes : List (String × Node) := []
  workingDirectory : List String := []
deriving DecidableEq

namespace Tree

/-- A place in the tree: names, innermost first. -/
abbrev Place := List String

def canonical (place : Place) : String :=
  String.join (place.reverse.map ("/" ++ ·))

def node? (tree : Tree) (place : Place) : Option Node :=
  if place = [] then some .directory else Table.find? (canonical place) tree.nodes

def longestName : Nat := 255
def longestPath : Nat := 4095

/-- One name further. Only directories have anything below them. -/
def enter (tree : Tree) (place : Place) (name : String) : Except DiskError Place :=
  match tree.node? place with
  | none => .error .notFound
  | some (.file ..) => .error .notDirectory
  | some .directory =>
      if name = "" ∨ name = "." then .ok place
      else if name = ".." then .ok place.tail
      else if name.utf8ByteSize > longestName then .error .nameTooLong
      else .ok (name :: place)

def walk (tree : Tree) : Place → List String → Except DiskError Place
  | place, [] => .ok place
  | place, name :: rest =>
      match tree.enter place name with
      | .error error => .error error
      | .ok next => walk tree next rest

/-- Where a path starts, if it is one that the disk takes at all. -/
def start (tree : Tree) (path : String) : Except DiskError Place :=
  if path.toList.contains '\x00' then .error .embeddedNul
  else if path = "" then .error .notFound
  else if path.utf8ByteSize > longestPath then .error .nameTooLong
  else .ok (if Path.isAbsolute path then [] else tree.workingDirectory)

def names (path : String) : List String :=
  (Path.segments path.toList).map String.ofList

/-- Where a path leads. What is there need not exist, what leads there must. A
separator at the end asks for a directory. -/
def locate (tree : Tree) (path : String) : Except DiskError Place :=
  match tree.start path with
  | .error error => .error error
  | .ok place => tree.walk place (names path)

/-- The names of a path without the separators at its end. -/
def namesToLast (path : String) : List String :=
  ((names path).reverse.dropWhile fun name => name = "").reverse

def endsInSeparator (path : String) : Bool :=
  path.toList.getLast? = some '/'

/-- What a path names. -/
def lookup (tree : Tree) (path : String) : Except DiskError Node :=
  match tree.locate path with
  | .error error => .error error
  | .ok place =>
      match tree.node? place with
      | some node => .ok node
      | none => .error .notFound

def present (tree : Tree) (path : String) : Bool :=
  match tree.lookup path with
  | .ok _ => true
  | .error _ => false

def isDirectory (tree : Tree) (path : String) : Bool :=
  match tree.lookup path with
  | .ok .directory => true
  | _ => false

def read (tree : Tree) (path : String) : Except DiskError Bytes :=
  match tree.lookup path with
  | .ok (.file _ contents) => .ok contents
  | .ok .directory => .error .isDirectory
  | .error error => .error error

def put (tree : Tree) (place : Place) (node : Node) : Tree :=
  { tree with nodes := Table.insert (canonical place) node tree.nodes }

/-- Removes one entry, not what is below it. -/
def remove (tree : Tree) (place : Place) : Tree :=
  { tree with nodes := Table.erase (canonical place) tree.nodes }

/-- Where an absolute path without `.` and `..` leads. -/
def placeOf (path : String) : Place :=
  (((Path.segments path.toList).map String.ofList).filter fun name => name ≠ "").reverse

/-- Goes down the names and makes the directories that are missing. A file that
stands in the way is there already; to the names below it, as long as nothing
had to be made, it is no directory. -/
def makeAlong (making : Bool) (tree : Tree) (place : Place) :
    List String → Except DiskError Unit × Tree
  | [] => (.ok (), tree)
  | name :: rest =>
      match tree.enter place name with
      | .error error => (.error error, tree)
      | .ok next =>
          match tree.node? next with
          | some .directory => makeAlong making tree next rest
          | some (.file ..) =>
              (.error (if making ∨ rest = [] then .alreadyExists else .notDirectory), tree)
          | none => makeAlong true (tree.put next .directory) next rest

/-- Makes a directory and the ones it is in. What was made before an error stays. -/
def makeDirectories (tree : Tree) (path : String) : Except DiskError Unit × Tree :=
  if path = "" then (.ok (), tree)
  else
    match tree.start path with
    | .error error => (.error error, tree)
    | .ok place => makeAlong false tree place (namesToLast path)

/-- New files are readable to all and writable to their owner. -/
def newFileMode : Nat := 0o644
def ownerOnlyMode : Nat := 0o600

/-- What stops a file from being written under a name that a separator follows.
That name is not looked at, only whether there is a directory it would be in. -/
def refusal (tree : Tree) (path : String) : DiskError :=
  match tree.start path with
  | .error error => error
  | .ok place =>
      match tree.walk place ((namesToLast path).dropLast ++ ["."]) with
      | .error error => error
      | .ok _ => .isDirectory

/-- Make these the contents of a file, which keeps its mode. -/
def write (tree : Tree) (path : String) (contents : Bytes) : Except DiskError Tree :=
  if endsInSeparator path then .error (tree.refusal path)
  else
    match tree.locate path with
    | .error error => .error error
    | .ok place =>
        match tree.node? place with
        | some .directory => .error .isDirectory
        | some (.file mode _) => .ok (tree.put place (.file mode contents))
        | none => .ok (tree.put place (.file newFileMode contents))

/-- The tree with a node put at an absolute path, and directories on the way to it. -/
def place (tree : Tree) (path : String) (node : Node) : Tree :=
  ((Path.parent? path).elim tree fun parent => (tree.makeDirectories parent).2).put
    (placeOf path) node

def setMode (tree : Tree) (path : String) (mode : Nat) : Except DiskError Tree :=
  match tree.locate path with
  | .error error => .error error
  | .ok place =>
      match tree.node? place with
      | some (.file _ contents) => .ok (tree.put place (.file mode contents))
      | some .directory => .ok tree
      | none => .error .notFound

def replace (tree : Tree) (path : String) (contents : Bytes) : Except DiskError Unit × Tree :=
  match (Path.parent? path).elim (.ok (), tree) tree.makeDirectories with
  | (.error error, tree) => (.error error, tree)
  | (.ok (), tree) =>
      match tree.write path contents with
      | .error error => (.error error, tree)
      | .ok tree =>
          match tree.setMode path ownerOnlyMode with
          | .error error => (.error error, tree)
          | .ok tree => (.ok (), tree)

instance : Disk Tree where
  present := present
  read := read
  makeDirectories := makeDirectories
  replace := replace

end Tree

end CarPairing
