import StackTemplate.Entries
import StackTemplate.FileError

namespace StackTemplate

structure FileAccess (m : Type → Type) where
  read : (path : String) → m (Except FileError ByteArray)
  write : (path text : String) → m (Except FileError Unit)

def textOfBytes (bytes : ByteArray) : Except FileError String :=
  match String.fromUTF8? bytes with
  | some text => .ok text
  | none => .error .notText

inductive Folder where
  | here
  | above (further : Nat)
  | root
  | top (name : String)
  deriving DecidableEq, Repr

namespace Folder

def topNames : List String :=
  ["bin", "boot", "dev", "etc", "home", "lib", "media", "mnt", "opt", "proc", "root", "run",
   "sbin", "srv", "sys", "tmp", "usr", "var"]

def start (path : String) : Folder := if path.startsWith "/" then root else here

def parent : Folder → Folder
  | here => above 0
  | above further => above (further + 1)
  | root => root
  | top _ => root

def child? : Folder → String → Option Folder
  | root, name => if name ∈ topNames then some (top name) else none
  | _, _ => none

def text : Folder → String
  | here => ""
  | above further => String.join (List.replicate (further + 1) "../")
  | root => "/"
  | top name => "/" ++ name ++ "/"

end Folder

def longestName : Nat := 255

def longestPath : Nat := 4095

-- What a path leads to. A name followed by a slash asks for a folder of that name.
inductive Place where
  | folder (folder : Folder)
  | file (folder : Folder) (name : String) (slash : Bool)
  deriving DecidableEq, Repr

structure Directory where
  files : Entries ByteArray

namespace Directory

def holding (files : Entries ByteArray) : Directory :=
  ⟨files ++ [("/dev/null", ByteArray.empty)]⟩

def find? (directory : Directory) (name : String) : Option ByteArray :=
  Entries.find? directory.files name

def follow (directory : Directory) (slash : Bool) (folder : Folder) :
    List String → Except FileError Place
  | [] => .ok (.folder folder)
  | step :: rest =>
    if step = "." then directory.follow slash folder rest
    else if step = ".." then directory.follow slash folder.parent rest
    else match folder.child? step with
      | some inner => directory.follow slash inner rest
      | none =>
        if rest.isEmpty then .ok (.file folder step slash)
        else if longestName < step.utf8ByteSize then .error .nameTooLong
        else if (directory.find? (folder.text ++ step)).isSome then .error .notDirectory
        else .error .notFound

def locate (directory : Directory) (path : String) : Except FileError Place :=
  if path.isEmpty then .error .notFound
  else if longestPath < path.utf8ByteSize then .error .nameTooLong
  else directory.follow (path.toList.getLast? = some '/') (Folder.start path)
    ((path.splitOn "/").filter fun step => !step.isEmpty)

def read (directory : Directory) (path : String) : Except FileError ByteArray := do
  match ← directory.locate path with
  | .folder _ => throw .isDirectory
  | .file folder name slash =>
    if longestName < name.utf8ByteSize then throw .nameTooLong
    match directory.find? (folder.text ++ name) with
    | none => throw .notFound
    | some bytes => if slash then throw .notDirectory else return bytes

-- That a slash asks for a folder is seen before the length of the name.
def write (directory : Directory) (path text : String) : Except FileError Directory := do
  match ← directory.locate path with
  | .folder _ => throw .isDirectory
  | .file folder name slash =>
    if slash then throw .isDirectory
    if longestName < name.utf8ByteSize then throw .nameTooLong
    return { files := Entries.insert directory.files (folder.text ++ name) text.toUTF8 }

-- The directory as the state of a computation. A write that fails leaves it as it was.
def access : FileAccess (StateM Directory) where
  read path := return (← get).read path
  write path text := do
    match (← get).write path text with
    | .ok directory =>
      set directory
      return .ok ()
    | .error cause => return .error cause

end Directory

end StackTemplate
