import RelationQuery.Config.Basic

/-!
Configuration files. A folder with at most one entry stands for the place where they are looked
up: a file, or a folder with nothing in it.
-/

namespace RelationQuery

inductive FolderEntry where
  | file (bytes : ByteArray)
  | folder

structure Folder where
  entry : Option (String × FolderEntry) := none

/-- Why a file cannot be read. -/
inductive ReadError where
  | missing
  /-- it is no file, or not one of text -/
  | unreadable
  deriving DecidableEq, Repr

/-- Where a path has led so far. -/
inductive Place where
  | here
  /-- the folder that is the entry -/
  | inside
  /-- a folder of which nothing is known -/
  | outside
  | file (bytes : ByteArray)

namespace Place

/-- The folder around a folder. -/
def parent : Place → Place
  | .inside => .here
  | _ => .outside

end Place

/-- The greatest length of a name, in bytes. -/
def maxNameSize : Nat := 255

/-- The greatest length of a path, in bytes. -/
def maxPathSize : Nat := 4095

namespace Folder

/-- The entry of a name, seen from a folder. -/
def lookup (f : Folder) (place : Place) (name : String) : Except ReadError Place :=
  match place, f.entry with
  | .here, some (entry, .file bytes) => if name = entry then .ok (.file bytes) else .error .missing
  | .here, some (entry, .folder) => if name = entry then .ok .inside else .error .missing
  | _, _ => .error .missing

/-- One step of a path. There is no step from a file. -/
def step (f : Folder) (place : Place) (name : String) : Except ReadError Place :=
  match place with
  | .file _ => .error .unreadable
  | folder =>
    if name = "" ∨ name = "." then .ok folder
    else if name = ".." then .ok folder.parent
    else if maxNameSize < name.utf8ByteSize then .error .unreadable
    else f.lookup folder name

/-- The text of the file at a path. -/
def read (f : Folder) (path : String) : Except ReadError String := do
  if path.isEmpty then throw .missing
  if path.toList.contains '\x00' || maxPathSize < path.utf8ByteSize then throw .unreadable
  let start : Place := if path.startsWith "/" then .outside else .here
  match ← (path.splitOn "/").foldlM f.step start with
  | .file bytes =>
    match String.fromUTF8? bytes with
    | some text => return text
    | none => throw .unreadable
  | _ => throw .unreadable

end Folder

inductive ConfigError where
  | notFound (path : String)
  | unreadable (path : String)
  | malformed (path : String)
  deriving DecidableEq, Repr

def ConfigError.message : ConfigError → String
  | .notFound path => "config not found: " ++ path
  | .unreadable path => "failed to read " ++ path
  | .malformed path => "failed to parse " ++ path

namespace Config

/-- Where the configuration is looked up unless a path is given. -/
def defaultPath : String := "proto.config.toml"

/-- The configuration at a path. -/
def loadFrom (f : Folder) (path : String) : Except ConfigError Config :=
  match f.read path with
  | .error .missing => .error (.notFound path)
  | .error .unreadable => .error (.unreadable path)
  | .ok text =>
    match parse? text with
    | some config => .ok config
    | none => .error (.malformed path)

def load (f : Folder) : Except ConfigError Config := loadFrom f defaultPath

end Config

end RelationQuery
