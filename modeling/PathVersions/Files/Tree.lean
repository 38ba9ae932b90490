import PathVersions.Utf8.RawText

/-!
# Files and directories

A tree of files, the resolution of paths in it, and the ways in which it can fail. A tree has no
symbolic links and no permissions: every name in it stands for a file or a directory of its own,
and all of them may be read. So a path in a tree never fails for a loop of links or for a directory
that is closed. A look at a path is a `Files.Probe`, which can also tell of these.
-/

namespace PathVersions
namespace Files

/-- A file or a directory, which may be read. -/
inductive Tree
  | file (contents : RawText)
  | directory (entries : List (RawText × Tree))
deriving Repr

/-- Why a path leads to no file. What only links or permissions can cause, which no tree has, is in
the words of the system. -/
inductive Fault
  | zeroByte
  | notFound
  | notDirectory
  | isDirectory
  | nameTooLong
  | notUtf8
  /-- Any other reason, in the words of the system. -/
  | other (details : String)
deriving DecidableEq, Repr

/-- The wording of a fault. -/
def Fault.details : Fault -> String
  | .zeroByte => "file name contained an unexpected NUL byte"
  | .notFound => "No such file or directory (os error 2)"
  | .notDirectory => "Not a directory (os error 20)"
  | .isDirectory => "Is a directory (os error 21)"
  | .nameTooLong => "File name too long (os error 36)"
  | .notUtf8 => "stream did not contain valid UTF-8"
  | .other details => details

/-- The byte that separates the names of a path. -/
def separator : UInt8 := 0x2f

/-- The name that stands for the directory itself. -/
def self : List UInt8 := [0x2e]

/-- The name that stands for the directory around. -/
def outer : List UInt8 := [0x2e, 0x2e]

/-- The parts of some bytes between separators. -/
def partsOf : List UInt8 -> List (List UInt8)
  | [] => [[]]
  | byte :: rest =>
      if byte == separator then [] :: partsOf rest
      else
        match partsOf rest with
        | [] => [[byte]]
        | part :: parts => (byte :: part) :: parts

/-- A path that starts where another one ends, unless it starts at the root. The empty path adds a
separator to the other one, if that does not end in one. -/
def joinPaths (base path : RawText) : RawText :=
  if path.bytes.head? == some separator then path
  else if base.bytes.isEmpty || base.bytes.getLast? == some separator then
    ⟨base.bytes ++ path.bytes⟩
  else ⟨base.bytes ++ separator :: path.bytes⟩

/-- A place in a tree: what is there, its name, and the directories around it, the nearest
first. -/
structure Place where
  tree : Tree
  name : List UInt8
  around : List (Tree × List UInt8)
deriving Repr

namespace Place

/-- The place of a root. -/
def ofRoot (root : Tree) : Place := ⟨root, [], []⟩

/-- The entries of a directory. -/
def entries? (place : Place) : Option (List (RawText × Tree)) :=
  match place.tree with
  | .file _ => none
  | .directory entries => some entries

/-- Go to a name. The directory around the root is the root. -/
def enter (place : Place) (name : List UInt8) : Except Fault Place :=
  match place.entries? with
  | none => .error .notDirectory
  | some entries =>
      if name.isEmpty || name == self then .ok place
      else if name == outer then
        match place.around with
        | [] => .ok place
        | (tree, own) :: around => .ok ⟨tree, own, around⟩
      else if 255 < name.length then .error .nameTooLong
      else
        match entries.find? fun entry => entry.1.bytes == name with
        | some (_, tree) => .ok ⟨tree, name, (place.tree, place.name) :: place.around⟩
        | none => .error .notFound

/-- The absolute path of a place. -/
def path (place : Place) : RawText :=
  let names := (place.name :: place.around.map (·.2)).reverse.drop 1
  if names.isEmpty then ⟨[separator]⟩ else ⟨names.flatMap (separator :: ·)⟩

end Place

/-- What a look at a path shows. -/
structure Probe where
  /-- Whether the path leads to something. -/
  found : Bool
  /-- The absolute path of what it leads to, or else the path itself. -/
  location : RawText
  /-- The bytes of the file. -/
  contents : Except Fault RawText

/-- The text of a file that was looked at. -/
def Probe.text (probe : Probe) : Except Fault String :=
  match probe.contents with
  | .error fault => .error fault
  | .ok contents =>
      match contents.text? with
      | some text => .ok text
      | none => .error .notUtf8

end Files

/-- A tree of files and the directory in it that paths start from. -/
structure FileSystem where
  root : Files.Tree
  workingDirectory : RawText
deriving Repr

namespace FileSystem

open Files

/-- Follow names from a place. -/
def follow : Place -> List (List UInt8) -> Except Fault Place
  | place, [] => .ok place
  | place, name :: rest => do follow (← place.enter name) rest

/-- The place that a path leads to. -/
def resolve (files : FileSystem) (path : RawText) : Except Fault Place :=
  if path.bytes.contains 0 then .error .zeroByte
  else if path.bytes.isEmpty then .error .notFound
  else if 4096 ≤ path.bytes.length then .error .nameTooLong
  else do
    let root := Place.ofRoot files.root
    let start ←
      if path.bytes.head? == some separator then pure root
      else follow root (partsOf files.workingDirectory.bytes)
    follow start (partsOf path.bytes)

/-- The bytes of the file at a place. -/
def contentsOf : Tree -> Except Fault RawText
  | .directory _ => .error .isDirectory
  | .file contents => .ok contents

/-- Look at a path. -/
def probe (files : FileSystem) (path : RawText) : Probe :=
  match files.resolve path with
  | .ok place => ⟨true, place.path, contentsOf place.tree⟩
  | .error fault => ⟨false, path, .error fault⟩

end FileSystem

end PathVersions
