import EditionGuard.FileSystem.Basic

/-!
# Walking through folders

The files in a folder and in the folders below it, in the order of their names.
-/

namespace EditionGuard

namespace FileNode

/-- Whether a name stands before another: names compare by their characters. -/
def nameBefore (left right : List Char) : Bool :=
  match left, right with
  | _, [] => false
  | [], _ :: _ => true
  | first :: left, second :: right =>
    first.toNat < second.toNat || (first == second && nameBefore left right)

/-- Puts a named value in front of the first that has no earlier name. -/
def insertNamed {α : Type} (name : List Char) (value : α) :
    List (List Char × α) → List (List Char × α)
  | [] => [(name, value)]
  | other :: rest =>
    if nameBefore other.1 name then other :: insertNamed name value rest
    else (name, value) :: other :: rest

mutual

/-- The ways from a node to the files at and below it. Whatever a folder holds comes in the
order of names, and what lies in an entry comes at the place of the entry. -/
def filesBelow : FileNode → List (List (List Char))
  | .file _ => [[]]
  | .folder entries =>
    (sortedFiles entries).flatMap fun (name, ways) => ways.map (name :: ·)

/-- The entries of a folder in the order of their names, each with the ways to its files. -/
def sortedFiles : List (List Char × FileNode) → List (List Char × List (List (List Char)))
  | [] => []
  | (name, node) :: rest => insertNamed name (filesBelow node) (sortedFiles rest)

end

end FileNode

namespace FileSystem

/-- The paths of all files at and below a path, as they follow it. A file has nothing that
follows its own path. -/
def filesBelow (files : FileSystem) (path : List Char) : Except ReadFault (List (List Char)) :=
  (files.find path).map fun node => node.filesBelow.map (List.intercalate ['/'])

end FileSystem

end EditionGuard
