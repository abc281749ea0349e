import EditionGuard.Proofs.Path.Cleaning
import EditionGuard.SourceMap.SourceName

/-!
# Where the paths of sources lead

The path of a source is put behind the folder of its map or behind the root of the project, and
is then cleaned.  From the top it leads where the joined path does.  Otherwise it does so only
where the joined path goes up one folder at most: of two ascents cleaning keeps none.
-/

namespace EditionGuard.SourceMap

open EditionGuard.Path

namespace SourceName

/-- The path that a name stands for, before it is cleaned; nothing for an absolute name, which
stays as it is. -/
def joined? (folder root : List Char) : SourceName → Option (List Char)
  | .synthetic resource => some (join root resource)
  | .absolute _ => none
  | .relative path => some (join folder path)

theorem path_of_joined? {folder root joined : List Char} {source : SourceName}
    (isJoined : source.joined? folder root = some joined) :
    source.path folder root = clean joined := by
  cases source with
  | synthetic resource =>
      obtain rfl := Option.some.inj isJoined
      rfl
  | absolute path => cases isJoined
  | relative path =>
      obtain rfl := Option.some.inj isJoined
      rfl

end SourceName

/-- The path of a source leads where the path does that its name was joined to, once each two
ascents have cancelled: so it always does from the top, and below it if and only if there is one
ascent at most. -/
theorem sourcePath_destination {folder root name joined : List Char}
    (isJoined : (SourceName.ofText name).joined? folder root = some joined) :
    destination ((SourceName.ofText name).path folder root) = (destination joined).cancelled ∧
      (isAbsolute joined = true →
        destination ((SourceName.ofText name).path folder root) = destination joined) ∧
      (destination ((SourceName.ofText name).path folder root) = destination joined ↔
        (destination joined).ascents ≤ 1) := by
  rw [SourceName.path_of_joined? isJoined]
  exact ⟨destination_clean joined, destination_clean_of_isAbsolute, destination_clean_eq_iff⟩

/-- From a folder below the top all parents are resolved. -/
theorem sourcePath_destination_fromTop :
    (SourceName.ofText "../../../src/test.js".toList).joined? "/project/dist/static/js".toList
        "/project".toList = some "/project/dist/static/js/../../../src/test.js".toList ∧
      isAbsolute "/project/dist/static/js/../../../src/test.js".toList = true ∧
      destination ((SourceName.ofText "../../../src/test.js".toList).path
          "/project/dist/static/js".toList "/project".toList) =
        destination "/project/dist/static/js/../../../src/test.js".toList := by
  have isJoined : (SourceName.ofText "../../../src/test.js".toList).joined?
      "/project/dist/static/js".toList "/project".toList =
        some "/project/dist/static/js/../../../src/test.js".toList := by
    decide +kernel
  have fromTop : isAbsolute "/project/dist/static/js/../../../src/test.js".toList = true := by
    decide +kernel
  exact ⟨isJoined, fromTop, (sourcePath_destination isJoined).2.1 fromTop⟩

/-- From a folder of the current one, a name that goes up two folders further loses its ascents:
the path stays in the current folder, and the name leads out of it. -/
theorem sourcePath_loses_ascents :
    (SourceName.ofText "../../../x.js".toList).joined? "dist".toList "/project".toList =
        some "dist/../../../x.js".toList ∧
      (SourceName.ofText "../../../x.js".toList).path "dist".toList "/project".toList =
        "x.js".toList ∧
      destination "dist/../../../x.js".toList = ⟨false, 2, ["x.js".toList]⟩ ∧
      destination ((SourceName.ofText "../../../x.js".toList).path "dist".toList
        "/project".toList) ≠ destination "dist/../../../x.js".toList := by
  decide +kernel

end EditionGuard.SourceMap
