import Attest.Fault
import Attest.Text.Utf8

/-!
# Files

Whatever loads a file is given the means to read one, so that a directory on disk and a table of
files serve alike. `FileTree` is such a table, with the paths of a directory.
-/

namespace Attest

/-- A way to read the file at a path. -/
abbrev Files (m : Type → Type) := String → m (Except ReadFault Bytes)

namespace Files

variable {m : Type → Type} [Monad m]

/-- The bytes of a file. -/
def bytes (files : Files m) (path : String) : ExceptT Fault m Bytes := do
  match ← files path with
  | .ok b => return b
  | .error cause => throw (.unreadable path cause)

/-- The text of a file. -/
def text (files : Files m) (path : String) : ExceptT Fault m String := do
  match Utf8.decode? (← files.bytes path) with
  | some text => return text
  | none => throw (.unreadable path .notText)

end Files

namespace Path

/-- Whether a path starts at the root. -/
def isAbsolute (path : String) : Bool :=
  path.toList.head? = some '/'

/-- The characters without the separators, and the names of the directory itself, at the end. -/
def trimEnd (reversed : List Char) : List Char :=
  match reversed with
  | '/' :: rest => trimEnd rest
  | '.' :: '/' :: rest => trimEnd ('/' :: rest)
  | s => s
termination_by reversed.length

/-- The path of the directory that holds a file; empty if the path names no directory. -/
def parent (path : String) : String :=
  let before := path.toList.reverse.dropWhile (· ≠ '/')
  match trimEnd before with
  | [] => if before.isEmpty then "" else "/"
  | directory => String.ofList directory.reverse

/-- The path of a file that is named relative to a directory. -/
def join (directory file : String) : String :=
  if directory = "" then file
  else if directory.toList.getLast? = some '/' then directory ++ file
  else directory ++ "/" ++ file

end Path

/-- The files of a directory by path, names separated by slashes. -/
structure FileTree where
  files : List (String × Bytes)

namespace FileTree

/-- What a sequence of names leads to. -/
inductive Place where
  | file (bytes : Bytes)
  | directory
  | nothing

/-- What a sequence of names leads to; a name in front of others is a directory. -/
def placeOf (tree : FileTree) (names : List String) : Place :=
  match tree.files.find? fun (path, _) => path.splitOn "/" = names with
  | some (_, b) => .file b
  | none =>
    if names = [] ∨ tree.files.any fun (path, _) => names.isPrefixOf (path.splitOn "/") then
      .directory
    else .nothing

/-- Follows the names of a path from a place. -/
def follow (tree : FileTree) (here : List String) : List String → Except ReadFault Bytes
  | [] =>
    match tree.placeOf here with
    | .file b => .ok b
    | .directory => .error .directory
    | .nothing => .error .missing
  | name :: rest =>
    match tree.placeOf here with
    | .file _ => .error .notDirectory
    | .nothing => .error .missing
    | .directory =>
      if name = "" ∨ name = "." then tree.follow here rest
      else if name = ".." then
        if here = [] then .error .missing else tree.follow here.dropLast rest
      else tree.follow (here ++ [name]) rest

/-- Reads the file at a relative path; there is no file at an absolute one. -/
def read (tree : FileTree) : Files Id := fun path =>
  if path = "" ∨ Path.isAbsolute path then .error .missing
  else tree.follow [] (path.splitOn "/")

end FileTree

end Attest
