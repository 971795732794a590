import Roster.Text.Quoted
import Roster.Text.Utf8

/-! Files as they are named and read: paths in normal form, a folder of files and what is known of
the system around it, and reading a file as text. -/
namespace Roster

namespace Path

/-- The names on a path; empty ones and single points say nothing. -/
def names (path : Text) : List Text :=
  (Text.splitAt '/' path).filter fun name => name ≠ [] ∧ name ≠ ['.']

/-- The slashes that a path begins with. Two are kept, more count as one. -/
def root (path : Text) : Text :=
  match (path.takeWhile (· == '/')).length with
  | 0 => []
  | 2 => ['/', '/']
  | _ => ['/']

/-- A path without idle parts; the empty path is the point. -/
def normal (path : Text) : Text :=
  let s := root path ++ ['/'].intercalate (names path)
  if s.isEmpty then ['.'] else s

end Path

/-- What a path leads to. -/
inductive Entry where
  | missing
  | throughFile
  | overlong
  | directory
  | file (octets : List Nat)
  deriving DecidableEq, Repr

inductive ReadFault where
  | missing | throughFile | overlong | directory | undecodable
  deriving DecidableEq, Repr

namespace ReadFault

/-- The system's words for a path that cannot be read. -/
def message (path : Text) : ReadFault → Text
  | missing => "[Errno 2] No such file or directory: ".toList ++ path.quoted
  | throughFile => "[Errno 20] Not a directory: ".toList ++ path.quoted
  | overlong => "[Errno 36] File name too long: ".toList ++ path.quoted
  | directory => "[Errno 21] Is a directory: ".toList ++ path.quoted
  | undecodable => "not UTF-8: ".toList ++ path.quoted

end ReadFault

/-- The text of a file, with its line ends made line feeds. -/
def Entry.read : Entry → Except ReadFault Text
  | missing => .error .missing
  | throughFile => .error .throughFile
  | overlong => .error .overlong
  | directory => .error .directory
  | file octets =>
    match Text.decodeUtf8 octets with
    | none => .error .undecodable
    | some s => .ok (Text.unifyLineEnds s)

/-- The most octets of a name on a path. -/
def nameLimit : Nat := 255

/-- The most octets of a path. -/
def pathLimit : Nat := 4095

/-- Files by the names on their paths. A directory is there because of what is in it, or because it
is known to be there. -/
structure Folder where
  files : List (List Text × List Nat)
  directories : List (List Text)

namespace Folder

def ofFiles (files : List (Text × List Nat)) : Folder :=
  ⟨files.map fun (path, octets) => (Path.names path, octets), []⟩

def find (folder : Folder) (names : List Text) : Entry :=
  match folder.files.lookup names with
  | some octets => .file octets
  | none =>
    if names.isEmpty || folder.directories.contains names ||
        folder.files.any fun f => names.isPrefixOf f.1 then .directory
    else .missing

/-- What every system has at its root: the usual directories and the empty file. -/
def system : Folder :=
  ⟨[(["dev".toList, "null".toList], [])],
    ["bin", "boot", "dev", "etc", "home", "lib", "media", "mnt", "opt", "proc", "root", "run",
      "sbin", "srv", "sys", "tmp", "usr", "var"].map fun name => [name.toList]⟩

end Folder

/-- A point that a path has come to: in the folder, at the system's root or below it, or somewhere
on the way from the root down to the folder. -/
inductive Place where
  | inside (names : List Text)
  | rooted (names : List Text)
  | above
  deriving DecidableEq, Repr

namespace Place

def parent : Place → Place
  | inside [] | above => above
  | inside names => inside names.dropLast
  | rooted names => rooted names.dropLast

/-- Above the folder no names are known. -/
def child? (name : Text) : Place → Option Place
  | inside names => some (inside (names ++ [name]))
  | rooted names => some (rooted (names ++ [name]))
  | above => none

def entry (folder : Folder) : Place → Entry
  | inside names => folder.find names
  | rooted names => Folder.system.find names
  | above => .directory

/-- Follows names from a place on. -/
def follow (folder : Folder) (here : Place) : List Text → Entry
  | [] => here.entry folder
  | name :: rest =>
    match here.entry folder with
    | .directory =>
      if name = "..".toList then follow folder here.parent rest
      else if nameLimit < name.utf8Size then .overlong
      else
        match here.child? name with
        | some next => follow folder next rest
        | none => .missing
    | .file _ => .throughFile
    | e => e

end Place

def Folder.entry (folder : Folder) (path : Text) : Entry :=
  if pathLimit < (Path.normal path).utf8Size then .overlong
  else if (Path.root path).isEmpty then Place.follow folder (.inside []) (Path.names path)
  else Place.follow folder (.rooted []) (Path.names path)

end Roster
