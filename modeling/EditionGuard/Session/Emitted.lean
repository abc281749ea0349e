import EditionGuard.FileSystem.Walk
import EditionGuard.Session.Basic

/-!
# Emitted assets

Checking what a build has written: the assets that it names, or all files of a folder. Files are
checked side by side. What a file brings is taken up in one piece when its check is done, and
nothing lays down in which order the checks are done.
-/

namespace EditionGuard

/-- The order in which the checks of files are done. -/
structure Schedule where
  order : List (List Char) → List (List Char)
  perm : ∀ paths, (order paths).Perm paths

def Schedule.inTurn : Schedule := ⟨id, List.Perm.refl⟩

namespace Session

def withoutQuery (asset : List Char) : List Char := asset.takeWhile (· != '?')

def assetPath (folder asset : List Char) : List Char := Path.join folder (withoutQuery asset)

def isWanted (session : Session) (path : List Char) : Bool :=
  !session.configuration.excludeOutput.excludes path && FileKind.isChecked path

/-- Checks the asset at a path. One that cannot be read is only noted. -/
def checkAsset (files : FileSystem) (session : Session) (path : List Char) :
    Except Overflow Session := do
  match ← session.check files path none with
  | (session, none) => return session
  | (session, some problem) => return session.note [.failed problem]

/-- Checks assets in a folder, as far as they are not excluded. -/
def checkAssets (session : Session) (files : FileSystem) (schedule : Schedule)
    (folder : List Char) (assets : List (List Char)) : Except Overflow Session :=
  let paths := assets.map (assetPath folder)
  let excluded := paths.filter session.configuration.excludeOutput.excludes
  let wanted := paths.filter session.isWanted
  let session := session.note
    (excluded.map (fun path => .excludedOutput (String.ofList path)) ++ [.assets wanted.length])
  (schedule.order wanted).foldlM (checkAsset files) session

/-- The files at and below a path as they follow it. Where nothing can be walked through
there is none. -/
def emitted (files : FileSystem) (folder : List Char) : Logged (List (List Char)) :=
  match files.filesBelow folder with
  | .ok names => { value := names }
  | .error fault => { value := [], events := [.unwalkable (String.ofList folder) fault] }

def ofFolder (files : FileSystem) (schedule : Schedule) (options : Options)
    (folder : List Char) : Except Overflow (Logged (Except Problem Session)) :=
  let opened := Session.ofOptions files.workingDirectory options
  match opened.value with
  | .error problem => .ok { value := .error problem, events := opened.events }
  | .ok session => do
    let names := emitted files folder
    let session ← (session.note names.events).checkAssets files schedule folder names.value
    return { value := .ok session, events := opened.events }

end Session

end EditionGuard
