import EditionGuard.Path
import EditionGuard.Problem
import EditionGuard.Text.Utf8

/-!
# File systems

Files in folders, without links, and the folder that relative paths start from.
-/

namespace EditionGuard

/-- A file, or a folder with its entries by name. -/
inductive FileNode where
  | file (bytes : List UInt8)
  | folder (entries : List (List Char × FileNode))
deriving Repr, Inhabited

namespace FileNode

def child? (name : List Char) : FileNode → Option FileNode
  | .file _ => none
  | .folder entries => entries.lookup name

/-- Puts an entry into a folder, in the place of one that has the same name. -/
def setChild (top : FileNode) (name : List Char) (child : FileNode) : FileNode :=
  match top with
  | .file _ => .folder [(name, child)]
  | .folder entries => .folder ((entries.filter fun entry => entry.1 != name) ++ [(name, child)])

/-- Puts a node at the end of a way of names, with the folders on the way. -/
def insert (top : FileNode) (way : List (List Char)) (node : FileNode) : FileNode :=
  match way with
  | [] => node
  | name :: rest =>
    top.setChild name (insert ((top.child? name).getD (.folder [])) rest node)

def nameLimit : Nat := 255

/-- Follows a way of names from a node. `above` holds the folders that lead to it, the
nearest first. A file ends the way, even if no more than a slash follows it. -/
def follow (above : List FileNode) (here : FileNode) :
    List (List Char) → Except ReadFault FileNode
  | [] => .ok here
  | name :: rest =>
    match here with
    | .file _ => .error .notDirectory
    | .folder entries =>
      if name = [] ∨ name = ['.'] then follow above here rest
      else if name = ['.', '.'] then
        match above with
        | [] => follow [] here rest
        | nearest :: others => follow others nearest rest
      else if nameLimit < Text.byteLength name then .error .nameTooLong
      else match entries.lookup name with
        | none => .error .notFound
        | some child => follow (here :: above) child rest

end FileNode

/-- The files that a program sees, and where it stands among them. -/
structure FileSystem where
  /-- The folder that absolute paths start from. -/
  top : FileNode := .folder []
  /-- The absolute path of the folder that relative paths start from. -/
  workingDirectory : List Char := ['/']
deriving Repr, Inhabited

namespace FileSystem

def pathLimit : Nat := 4095

/-- The names of a path from the top on. -/
def way (files : FileSystem) (path : List Char) : List (List Char) :=
  if Path.isAbsolute path then Path.names path
  else Path.names files.workingDirectory ++ Path.names path

def find (files : FileSystem) (path : List Char) : Except ReadFault FileNode :=
  if path.contains '\x00' then .error .invalidName
  else if path.isEmpty then .error .notFound
  else if pathLimit < Text.byteLength path then .error .nameTooLong
  else files.top.follow [] (files.way path)

def readBytes (files : FileSystem) (path : List Char) : Except ReadFault (List UInt8) :=
  (files.find path).bind fun
    | .file bytes => .ok bytes
    | .folder _ => .error .isDirectory

def readText (files : FileSystem) (path : List Char) : Except ReadFault (List Char) :=
  (files.readBytes path).bind fun bytes =>
    match Text.Utf8.decode? bytes with
    | some text => .ok text
    | none => .error .notUtf8

/-- Takes a name onto a way, kept last name first. -/
def stepAlong (way : List (List Char)) (name : List Char) : List (List Char) :=
  if name = [] ∨ name = ['.'] then way
  else if name = ['.', '.'] then way.drop 1
  else name :: way

/-- Puts a node at a path, with the folders that lead there. -/
def insert (files : FileSystem) (path : List Char) (node : FileNode) : FileSystem :=
  let names := ((files.way path).foldl stepAlong []).reverse
  { files with top := files.top.insert names node }

end FileSystem

end EditionGuard
