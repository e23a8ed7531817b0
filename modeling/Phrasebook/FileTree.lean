import Phrasebook.OrderedMap
import Phrasebook.Path
import Phrasebook.Text.Utf8
import Phrasebook.Text.Lines

/-!
A tree of files as a value: every directory and file under its segments from the top, and the
directory that relative paths are read from. Looking never changes the tree; the two operations that
do return the new one.
-/

namespace Phrasebook

inductive FileFault where
  | missing
  | isDirectory
  | notDirectory
  | alreadyThere
  | nameTooLong
  | nullCharacter
  deriving DecidableEq, Repr

def FileFault.reason : FileFault → String
  | .missing => "[Errno 2] No such file or directory"
  | .alreadyThere => "[Errno 17] File exists"
  | .notDirectory => "[Errno 20] Not a directory"
  | .isDirectory => "[Errno 21] Is a directory"
  | .nameTooLong => "[Errno 36] File name too long"
  | .nullCharacter => "embedded null byte"

inductive Entry where
  | directory
  | file (content : ByteArray)

instance : DecidableEq Entry
  | .directory, .directory => .isTrue rfl
  | .directory, .file _ => .isFalse (by simp)
  | .file _, .directory => .isFalse (by simp)
  | .file a, .file b =>
    if same : a.data = b.data then .isTrue (by cases a; cases b; simp_all)
    else .isFalse fun e => same (by cases e; rfl)

structure FileTree where
  base : List String
  entries : OrderedMap (List String) Entry

namespace FileTree

def maxSegmentBytes : Nat := 255

def maxPathBytes : Nat := 4096

def entryAt? (tree : FileTree) (place : List String) : Option Entry :=
  if place.isEmpty then some .directory else tree.entries.get? place

/-- The place that segments lead to from `here`. Every segment but the last has to lead into a
directory; the place itself need not be taken. -/
def walk (tree : FileTree) (here : List String) : List String → Except FileFault (List String)
  | [] => .ok here
  | segment :: rest =>
    match tree.entryAt? here with
    | none => .error .missing
    | some (.file _) => .error .notDirectory
    | some .directory =>
      if segment = ".." then walk tree here.dropLast rest
      else if maxSegmentBytes < segment.utf8ByteSize then .error .nameTooLong
      else walk tree (here ++ [segment]) rest

def locate (tree : FileTree) (path : Path) : Except FileFault (List String) :=
  if path.holdsNull then .error .nullCharacter
  else if maxPathBytes ≤ path.text.utf8ByteSize then .error .nameTooLong
  else tree.walk (if path.isAbsolute then [] else tree.base) path.segments

def resolve (tree : FileTree) (path : Path) : Except FileFault (List String) :=
  if path.holdsNull then .error .nullCharacter else .ok (path.resolve tree.base)

def stat (tree : FileTree) (path : Path) : Except FileFault Entry :=
  match tree.locate path with
  | .error fault => .error fault
  | .ok place =>
    match tree.entryAt? place with
    | some entry => .ok entry
    | none => .error .missing

/-- Whether a test on the entry at a path holds. A path that leads nowhere fails the test, but a name
that is too long cannot be tested. -/
def test (tree : FileTree) (path : Path) (p : Entry → Bool) : Except FileFault Bool :=
  match tree.stat path with
  | .ok entry => .ok (p entry)
  | .error .nameTooLong => .error .nameTooLong
  | .error _ => .ok false

def isFile (tree : FileTree) (path : Path) : Except FileFault Bool :=
  tree.test path fun entry => entry ≠ .directory

def isDirectory (tree : FileTree) (path : Path) : Except FileFault Bool :=
  tree.test path fun entry => entry = .directory

def firstFile (tree : FileTree) : List Path → Except FileFault (Option Path)
  | [] => .ok none
  | path :: rest => do
    if ← tree.isFile path then .ok (some path) else tree.firstFile rest

def readBytes (tree : FileTree) (path : Path) : Except FileFault ByteArray :=
  match tree.stat path with
  | .ok (.file content) => .ok content
  | .ok .directory => .error .isDirectory
  | .error fault => .error fault

inductive ReadFault where
  | file (fault : FileFault)
  | decoding (fault : Text.Utf8.Fault)
  deriving DecidableEq, Repr

def readText (tree : FileTree) (path : Path) : Except ReadFault String :=
  match tree.readBytes path with
  | .error fault => .error (.file fault)
  | .ok bytes =>
    match Text.Utf8.decode bytes with
    | .error fault => .error (.decoding fault)
    | .ok text => .ok (String.ofList (Text.unifyLineEnds text.toList))

def fileNames (tree : FileTree) (place : List String) : List String :=
  tree.entries.entries.filterMap fun (there, entry) =>
    match entry with
    | .directory => none
    | .file _ => if there.dropLast = place then there.getLast? else none

def makeDirectory (tree : FileTree) (path : Path) : Except FileFault FileTree :=
  match tree.locate path with
  | .error fault => .error fault
  | .ok place =>
    match tree.entryAt? place with
    | some .directory => .ok tree
    | some (.file _) => .error .alreadyThere
    | none => .ok { tree with entries := tree.entries.insert place .directory }

/-- Makes the directory of the segments `last` and before it, given in reverse, and every missing one
on the way. What was made before a fault stays. -/
def makeDirectoriesTo (tree : FileTree) (root : Root) : List String → FileTree × Option FileFault
  | [] => (tree, none)
  | last :: before =>
    let path : Path := ⟨root, (last :: before).reverse⟩
    match tree.makeDirectory path with
    | .ok made => (made, none)
    | .error .missing =>
      match makeDirectoriesTo tree root before with
      | (made, some fault) => (made, some fault)
      | (made, none) =>
        match made.makeDirectory path with
        | .ok all => (all, none)
        | .error fault => (made, some fault)
    | .error fault => (tree, some fault)

def makeDirectories (tree : FileTree) (path : Path) : FileTree × Option FileFault :=
  tree.makeDirectoriesTo path.root path.segments.reverse

def write (tree : FileTree) (path : Path) (content : ByteArray) : Except FileFault FileTree :=
  match tree.locate path with
  | .error fault => .error fault
  | .ok place =>
    match tree.entryAt? place, tree.entryAt? place.dropLast with
    | some .directory, _ => .error .isDirectory
    | _, some .directory => .ok { tree with entries := tree.entries.insert place (.file content) }
    | _, _ => .error .missing

def remove (tree : FileTree) (path : Path) : Except FileFault FileTree :=
  match tree.locate path with
  | .error fault => .error fault
  | .ok place =>
    match tree.entryAt? place with
    | none => .error .missing
    | some _ =>
      let left := tree.entries.keys.filter fun key => place.isPrefixOf key
      .ok { tree with entries := left.foldl (fun entries key => entries.erase key) tree.entries }

end FileTree

end Phrasebook
