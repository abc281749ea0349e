import EditionGuard.Proofs.FileSystem.Walk
import EditionGuard.Proofs.Session.Contribution
import EditionGuard.Proofs.Session.Opening
import EditionGuard.Proofs.SourceMap.Attribution
import EditionGuard.Proofs.Text.Cut
import Mathlib.Data.Set.Card

/-!
# Checking all that a build has written

A folder is checked by walking through it and checking what the walk lists as assets.  An
asset's name ends at its first question mark, so the names of files are cut there as well.
Where no name has a question mark, the session checks each page and each script of the folder
once and nothing else, in whatever order.
-/

namespace EditionGuard

/-- The ways from a node to the files whose names have the ending of a page or a script. -/
def FileNode.checkableWays (node : FileNode) : Set (List (List Char)) :=
  {way | (∃ bytes, node.Holds way bytes) ∧
    ∃ name ∈ way.getLast?, ∃ ending ∈ Call.endings, ending.toList <:+ name}

theorem ncard_setOf_mem {α : Type} {items : List α} (nodup : items.Nodup) :
    {item | item ∈ items}.ncard = items.length := by
  classical
  have asFinset : {item | item ∈ items} = (items.toFinset : Set α) := by
    ext item
    simp
  rw [asFinset, Set.ncard_coe_finset, List.toFinset_card_of_nodup nodup]

/-! ## Ways and their paths -/

/-- Whether names can be put together to a path and read off it again. -/
def Path.IsWay (way : List (List Char)) : Prop := ∀ name ∈ way, name ≠ [] ∧ '/' ∉ name

theorem FileNode.Holds.isWay {node : FileNode} {way : List (List Char)} {bytes : List UInt8}
    (holds : node.Holds way bytes) (proper : node.Proper) : Path.IsWay way := by
  intro name member
  have isName := holds.isEntryName proper name member
  exact ⟨isName.ne_nil, isName.noSlash⟩

theorem Path.below_inj {base : List Char} {left right : List (List Char)}
    (nonempty : base ≠ []) (leftWay : IsWay left) (rightWay : IsWay right)
    (leftSome : left ≠ []) (rightSome : right ≠ []) :
    below base left = below base right ↔ left = right := by
  constructor
  · intro same
    have sameBelow := (join_inj nonempty (isAbsolute_intercalate leftWay)
      (isAbsolute_intercalate rightWay)).mp same
    have leftNames := names_intercalate leftSome fun name member => (leftWay name member).2
    have rightNames := names_intercalate rightSome fun name member => (rightWay name member).2
    rw [← leftNames, sameBelow, rightNames]
  · intro same
    rw [same]

namespace FileKind

theorem exists_suffix_below_iff {endings : List String}
    (noSlash : ∀ ending ∈ endings, '/' ∉ ending.toList) {base : List Char}
    {way : List (List Char)} (nonempty : base ≠ []) (isWay : Path.IsWay way)
    (someName : way ≠ []) :
    (∃ ending ∈ endings, ending.toList <:+ Path.below base way) ↔
      ∃ name ∈ way.getLast?, ∃ ending ∈ endings, ending.toList <:+ name := by
  obtain ⟨front, last, rfl⟩ := (List.eq_nil_or_concat' way).resolve_left someName
  have ofLast (ending : String) (listed : ending ∈ endings) :
      ending.toList <:+ Path.below base (front ++ [last]) ↔ ending.toList <:+ last := by
    rw [Path.below, Path.join_eq_append nonempty (Path.isAbsolute_intercalate isWay),
      Path.suffix_append_slash_iff (noSlash ending listed),
      Path.suffix_intercalate_iff (noSlash ending listed)]
  simp only [List.getLast?_concat, Option.mem_def, Option.some.injEq]
  constructor
  · rintro ⟨ending, listed, suffix⟩
    exact ⟨last, rfl, ending, listed, (ofLast ending listed).mp suffix⟩
  · rintro ⟨name, rfl, ending, listed, suffix⟩
    exact ⟨ending, listed, (ofLast ending listed).mpr suffix⟩

theorem isChecked_below_iff {base : List Char} {way : List (List Char)}
    (nonempty : base ≠ []) (isWay : Path.IsWay way) (someName : way ≠ []) :
    isChecked (Path.below base way) ↔
      ∃ name ∈ way.getLast?, ∃ ending ∈ Call.endings, ending.toList <:+ name :=
  isChecked_iff.trans (exists_suffix_below_iff (by decide) nonempty isWay someName)

theorem isScript_below_iff {base : List Char} {way : List (List Char)}
    (nonempty : base ≠ []) (isWay : Path.IsWay way) (someName : way ≠ []) :
    isScript (Path.below base way) ↔ ∃ name ∈ way.getLast?, isScript name := by
  simp only [isScript_iff]
  exact exists_suffix_below_iff (by decide) nonempty isWay someName

/-- A slash at the end of a path leaves it without the ending of a file. -/
theorem isChecked_join_nil {base : List Char} (nonempty : base ≠ []) :
    isChecked (Path.join base []) = false := by
  rw [Path.join_eq_append nonempty rfl, Bool.eq_false_iff]
  intro checked
  obtain ⟨ending, listed, suffix⟩ := isChecked_iff.mp checked
  have noSlash : ∀ ending ∈ Call.endings, '/' ∉ ending.toList := by decide
  have someChar : ∀ ending ∈ Call.endings, ending.toList ≠ [] := by decide
  have inNil := (Path.suffix_append_slash_iff (noSlash ending listed)).mp suffix
  exact someChar ending listed (List.suffix_nil.mp inNil)

end FileKind

namespace Session

theorem assetPath_eq_below {folder : List Char} {way : List (List Char)}
    (noQuery : ∀ name ∈ way, '?' ∉ name) :
    assetPath folder (List.intercalate ['/'] way) = Path.below folder way := by
  have absent : '?' ∉ List.intercalate ['/'] way :=
    Path.not_mem_intercalate (by decide) noQuery
  have whole : withoutQuery (List.intercalate ['/'] way) = List.intercalate ['/'] way := by
    rw [withoutQuery, Text.takeWhile_ne_of_not_mem absent]
  rw [assetPath, whole, Path.below]

/-! ## What a session checks -/

/-- Whether a session has checked the files at some paths, in order, and nothing else. -/
structure HasChecked (files : FileSystem) (session : Session) (paths : List (List Char)) :
    Prop where
  goesOn : ∀ path ∈ paths, ¬ session.configuration.Stops files { path }
  errors : session.errors =
    paths.flatMap fun path => session.configuration.contribution files { path }
  filesChecked : session.filesChecked = paths.length

def assetPaths (folder : List Char) (node : FileNode) : List (List Char) :=
  (node.filesBelow.map fun way => assetPath folder (List.intercalate ['/'] way)).filter
    FileKind.isChecked

theorem hasChecked_checkAssets {files : FileSystem} {session next : Session}
    {schedule : Schedule} {folder : List Char} {assets : List (List Char)}
    (noErrors : session.errors = []) (noFiles : session.filesChecked = 0)
    (noExclusion : session.configuration.excludeOutput = {})
    (checked : session.checkAssets files schedule folder assets = .ok next) :
    HasChecked files next
      (schedule.order ((assets.map (assetPath folder)).filter FileKind.isChecked)) := by
  have advances := advances_checkAssets checked
  have wanted : session.configuration.wantedPaths folder assets =
      (assets.map (assetPath folder)).filter FileKind.isChecked := by
    rw [Configuration.wantedPaths, noExclusion]
    rfl
  rw [Task.calls, wanted] at advances
  have allLook : ∀ call ∈ (schedule.order ((assets.map (assetPath folder)).filter
      FileKind.isChecked)).map (fun path => ({ path } : Call)),
        decide call.LooksAtFile = true := by
    intro call member
    obtain ⟨path, listed, rfl⟩ := List.mem_map.mp member
    have isChecked := (List.mem_filter.mp ((schedule.perm _).mem_iff.mp listed)).2
    exact decide_eq_true ⟨rfl, FileKind.isChecked_iff.mp isChecked⟩
  constructor
  · intro path listed
    rw [advances.configuration]
    exact advances.goesOn { path } (List.mem_map_of_mem listed)
  · have errors := advances.errors
    rw [noErrors, List.nil_append, List.nil_append, List.flatMap_map] at errors
    rw [advances.configuration]
    exact errors
  · have counted := advances.filesChecked
    rw [noFiles, Nat.zero_add, List.countP_eq_length.mpr allLook, List.length_map] at counted
    exact counted

section Opened

variable {files : FileSystem} {schedule : Schedule} {options : Options} {opened : Session}
  {folder : List Char}

/-- The session of a folder is the opened one, with the files that the walk lists as assets. -/
theorem ofFolder_of_opens
    (opens : (Session.ofOptions files.workingDirectory options).value = .ok opened) :
    Session.ofFolder files schedule options folder =
      ((opened.note (emitted files folder).events).checkAssets files schedule folder
        (emitted files folder).value).map fun session =>
          ⟨.ok session, (Session.ofOptions files.workingDirectory options).events⟩ := by
  simp only [ofFolder, opens]
  cases (opened.note (emitted files folder).events).checkAssets files schedule folder
    (emitted files folder).value <;> rfl

theorem emitted_of_missing {fault : ReadFault} (missing : files.find folder = .error fault) :
    (emitted files folder).value = [] := by
  rw [emitted, FileSystem.filesBelow, missing]
  rfl

theorem assetPaths_eq_filter {node : FileNode} (found : files.find folder = .ok node) :
    ((emitted files folder).value.map (assetPath folder)).filter FileKind.isChecked =
      assetPaths folder node := by
  rw [emitted, FileSystem.filesBelow, found, assetPaths]
  change ((node.filesBelow.map (List.intercalate ['/'])).map (assetPath folder)).filter
    FileKind.isChecked = _
  rw [List.map_map]
  rfl

theorem excludeOutput_of_opens
    (opens : (Session.ofOptions files.workingDirectory options).value = .ok opened)
    (noExclusion : options.excludeOutput = []) : opened.configuration.excludeOutput = {} := by
  obtain ⟨configuration, follows, rfl⟩ := ofOptions_eq_ok_iff.mp opens
  have outputs := follows.excludeOutput
  rw [noExclusion] at outputs
  exact (Except.ok.inj outputs).symm

/-- A folder is checked to the end if and only if none of its assets stops the session. -/
theorem exists_ofFolder_iff
    (opens : (Session.ofOptions files.workingDirectory options).value = .ok opened)
    (noExclusion : options.excludeOutput = []) :
    (∃ result, Session.ofFolder files schedule options folder = .ok result) ↔
      ∀ node, files.find folder = .ok node → ∀ path ∈ assetPaths folder node,
        ¬ opened.configuration.Stops files { path } := by
  have wanted : opened.configuration.wantedPaths folder (emitted files folder).value =
      ((emitted files folder).value.map (assetPath folder)).filter FileKind.isChecked := by
    rw [Configuration.wantedPaths, excludeOutput_of_opens opens noExclusion]
    rfl
  have alike : (∃ result, Session.ofFolder files schedule options folder = .ok result) ↔
      ∃ next, (opened.note (emitted files folder).events).checkAssets files schedule folder
        (emitted files folder).value = .ok next := by
    rw [ofFolder_of_opens opens]
    cases (opened.note (emitted files folder).events).checkAssets files schedule folder
      (emitted files folder).value <;> simp [Except.map]
  rw [alike, exists_checkAssets_eq_ok_iff]
  change (∀ path ∈ opened.configuration.wantedPaths folder (emitted files folder).value,
    ¬ opened.configuration.Stops files { path }) ↔ _
  rw [wanted]
  cases found : files.find folder with
  | error fault => simp [emitted_of_missing found]
  | ok node => simp only [assetPaths_eq_filter found, Except.ok.injEq, forall_eq']

theorem hasChecked_ofFolder
    (opens : (Session.ofOptions files.workingDirectory options).value = .ok opened)
    (noExclusion : options.excludeOutput = [])
    {result : Logged (Except Problem Session)}
    (checked : Session.ofFolder files schedule options folder = .ok result) :
    ∃ session, result.value = .ok session ∧
      session.configuration = opened.configuration ∧
      (∀ fault, files.find folder = .error fault → HasChecked files session []) ∧
      ∀ node, files.find folder = .ok node →
        HasChecked files session (schedule.order (assetPaths folder node)) := by
  have noOutputs := excludeOutput_of_opens opens noExclusion
  obtain ⟨configuration, follows, rfl⟩ := ofOptions_eq_ok_iff.mp opens
  rw [ofFolder_of_opens opens] at checked
  obtain ⟨session, isChecked, rfl⟩ := exists_of_map_eq_ok checked
  have hasChecked := @hasChecked_checkAssets files
    (({ configuration } : Session).note (emitted files folder).events) session schedule folder _
    rfl rfl noOutputs isChecked
  refine ⟨session, rfl, (advances_checkAssets isChecked).configuration, ?_, ?_⟩
  · intro fault missing
    rw [emitted_of_missing missing] at hasChecked
    have nothing : schedule.order [] = [] := List.perm_nil.mp (schedule.perm [])
    rw [← nothing]
    exact hasChecked
  · intro node found
    rw [← assetPaths_eq_filter found]
    exact hasChecked

end Opened

/-- Whatever the names, as many files are counted as have a path with the ending of a page or
a script once it is cut at its question mark. -/
theorem length_assetPaths {folder : List Char} {node : FileNode} (proper : node.Proper) :
    (assetPaths folder node).length =
      {way | (∃ bytes, node.Holds way bytes) ∧
        FileKind.isChecked (assetPath folder (List.intercalate ['/'] way))}.ncard := by
  have asList : {way | (∃ bytes, node.Holds way bytes) ∧
        FileKind.isChecked (assetPath folder (List.intercalate ['/'] way))} =
      {way | way ∈ node.filesBelow.filter fun way =>
        FileKind.isChecked (assetPath folder (List.intercalate ['/'] way))} := by
    ext way
    rw [Set.mem_ofPred_eq, Set.mem_ofPred_eq, List.mem_filter, FileNode.mem_filesBelow_iff]
  rw [asList, ncard_setOf_mem (proper.nodup_filesBelow.filter _), assetPaths,
    List.filter_map, List.length_map]
  rfl

section Folder

variable {files : FileSystem} {folder : List Char}
variable {entries : List (List Char × FileNode)}

/-- Whether no name on the way to a file has a question mark. -/
def NoQueryBelow (node : FileNode) : Prop :=
  ∀ way bytes, node.Holds way bytes → ∀ name ∈ way, '?' ∉ name

instance (node : FileNode) : Decidable (NoQueryBelow node) :=
  decidable_of_iff (∀ way ∈ node.filesBelow, ∀ name ∈ way, '?' ∉ name)
    ⟨fun listed way bytes holds =>
        listed way (FileNode.mem_filesBelow_iff.mpr ⟨bytes, holds⟩),
      fun plain way listed =>
        (FileNode.mem_filesBelow_iff.mp listed).elim fun bytes holds => plain way bytes holds⟩

theorem assetPaths_eq (plain : NoQueryBelow (.folder entries)) :
    assetPaths folder (.folder entries) =
      ((FileNode.folder entries).filesBelow.map (Path.below folder)).filter
        FileKind.isChecked := by
  have samePaths : ((FileNode.folder entries).filesBelow.map fun way =>
        assetPath folder (List.intercalate ['/'] way)) =
      (FileNode.folder entries).filesBelow.map (Path.below folder) := by
    refine List.map_congr_left ?_
    intro way listed
    obtain ⟨bytes, holds⟩ := FileNode.mem_filesBelow_iff.mp listed
    exact assetPath_eq_below (plain way bytes holds)
  rw [assetPaths, samePaths]

theorem mem_assetPaths_iff (nonempty : folder ≠ [])
    (proper : (FileNode.folder entries).Proper) (plain : NoQueryBelow (.folder entries))
    {path : List Char} :
    path ∈ assetPaths folder (.folder entries) ↔
      ∃ way ∈ (FileNode.folder entries).checkableWays, path = Path.below folder way := by
  rw [assetPaths_eq plain, List.mem_filter, List.mem_map]
  constructor
  · rintro ⟨⟨way, listed, rfl⟩, checked⟩
    obtain ⟨bytes, holds⟩ := FileNode.mem_filesBelow_iff.mp listed
    have byName := (FileKind.isChecked_below_iff nonempty (holds.isWay proper)
      holds.ne_nil).mp checked
    exact ⟨way, ⟨⟨bytes, holds⟩, byName⟩, rfl⟩
  · rintro ⟨way, ⟨⟨bytes, holds⟩, byName⟩, rfl⟩
    have listed := FileNode.mem_filesBelow_iff.mpr ⟨bytes, holds⟩
    have checked := (FileKind.isChecked_below_iff nonempty (holds.isWay proper)
      holds.ne_nil).mpr byName
    exact ⟨⟨way, listed, rfl⟩, checked⟩

theorem nodup_assetPaths (nonempty : folder ≠ [])
    (proper : (FileNode.folder entries).Proper) (plain : NoQueryBelow (.folder entries)) :
    (assetPaths folder (.folder entries)).Nodup := by
  rw [assetPaths_eq plain]
  refine List.Nodup.filter _ (List.Nodup.map_on ?_ proper.nodup_filesBelow)
  intro left leftListed right rightListed same
  obtain ⟨leftBytes, leftHolds⟩ := FileNode.mem_filesBelow_iff.mp leftListed
  obtain ⟨rightBytes, rightHolds⟩ := FileNode.mem_filesBelow_iff.mp rightListed
  exact (Path.below_inj nonempty (leftHolds.isWay proper) (rightHolds.isWay proper)
    leftHolds.ne_nil rightHolds.ne_nil).mp same

theorem length_assetPaths_eq_ncard (nonempty : folder ≠ [])
    (proper : (FileNode.folder entries).Proper) (plain : NoQueryBelow (.folder entries)) :
    (assetPaths folder (.folder entries)).length =
      (FileNode.folder entries).checkableWays.ncard := by
  rw [length_assetPaths proper, FileNode.checkableWays]
  congr 1
  ext way
  refine and_congr_right ?_
  rintro ⟨bytes, holds⟩
  rw [assetPath_eq_below (plain way bytes holds)]
  exact FileKind.isChecked_below_iff nonempty (holds.isWay proper) holds.ne_nil

end Folder

/-- What a session without exclusions has checked at the path of a script left its error. -/
theorem exists_locate_mem_errors {files : FileSystem} {session : Session}
    {paths : List (List Char)} (checked : HasChecked files session paths)
    (noExclude : session.configuration.exclude = {})
    (noExcludeMessage : session.configuration.excludeMessage = {})
    {path text : List Char} {failure : Gate.Failure} (listed : path ∈ paths)
    (script : FileKind.isScript path) (read : files.readText path = .ok text)
    (failed : Gate.check text session.configuration.edition (Script.Goal.ofPath path) =
      some failure) :
    ∃ error ∈ session.errors,
      (Incompatibility.locate files session.configuration.view ⟨path, text⟩ failure).map
        Logged.value = .ok error := by
  have kept (error : Incompatibility) : session.configuration.keeps error := by
    rw [Configuration.keeps, noExclude, noExcludeMessage]
    rfl
  have goesOn := checked.goesOn path listed
  have pieceGoesOn : ¬ session.configuration.Stops files ⟨path, some text⟩ := by
    rw [session.configuration.stops_iff_of_isChecked files
      (FileKind.isChecked_of_isScript script) read,
      session.configuration.pieces_of_isScript script] at goesOn
    simpa using goesOn
  rw [session.configuration.stops_given_iff_of_failure files failed] at pieceGoesOn
  cases located : Incompatibility.locate files session.configuration.view ⟨path, text⟩ failure with
  | error stop => exact absurd ⟨stop, located⟩ pieceGoesOn
  | ok found =>
      refine ⟨found.value, ?_, rfl⟩
      rw [checked.errors, List.mem_flatMap]
      refine ⟨path, listed, ?_⟩
      rw [session.configuration.contribution_of_isScript files script read goesOn,
        session.configuration.mem_found_iff files]
      exact ⟨failure, failed, by rw [located]; rfl, kept _⟩

end Session

/-- A folder is checked to the end, in whatever order, if and only if no asset stops the session.
Then the session looks at as many files as have a path with the ending of a page or
a script once it is cut at its first question mark; given the path of a file instead, it looks
at none.  Where no name below the folder has a question mark, each page and each script is
checked once, at its own path, and nothing else is; without exclusions, each script whose text
fails leaves its error. -/
theorem ofFolder_checks_each (files : FileSystem) (schedule : Schedule) (options : Options)
    (folder : List Char) (opened : Session)
    (opens : (Session.ofOptions files.workingDirectory options).value = .ok opened)
    (noExclusion : options.excludeOutput = []) :
    ((∃ result, Session.ofFolder files schedule options folder = .ok result) ↔
      ∀ node, files.find folder = .ok node → ∀ path ∈ Session.assetPaths folder node,
        ¬ opened.configuration.Stops files { path }) ∧
    ∀ result, Session.ofFolder files schedule options folder = .ok result →
    ∃ session, result.value = .ok session ∧
      session.configuration = opened.configuration ∧
      (∀ fault, files.find folder = .error fault →
        session.filesChecked = 0 ∧ session.errors = []) ∧
      (∀ bytes, files.find folder = .ok (.file bytes) →
        session.filesChecked = 0 ∧ session.errors = []) ∧
      ∀ entries, files.find folder = .ok (.folder entries) →
        (FileNode.folder entries).Proper →
        session.filesChecked =
          {way | (∃ bytes, (FileNode.folder entries).Holds way bytes) ∧
            FileKind.isChecked
              (Session.assetPath folder (List.intercalate ['/'] way))}.ncard ∧
        (Session.NoQueryBelow (.folder entries) →
          session.filesChecked = (FileNode.folder entries).checkableWays.ncard ∧
          (∃ paths : List (List Char), paths.Nodup ∧
            (∀ path, path ∈ paths ↔
              ∃ way ∈ (FileNode.folder entries).checkableWays,
                path = Path.below folder way) ∧
            Session.HasChecked files session paths) ∧
          (options.exclude = [] → options.excludeErrorMessage = [] →
            ∀ way bytes text failure, (FileNode.folder entries).Holds way bytes →
              (∃ name ∈ way.getLast?, FileKind.isScript name) →
              Text.byteLength (Path.below folder way) ≤ FileSystem.pathLimit →
              Text.Utf8.decode? bytes = some text →
              Gate.check text opened.configuration.edition
                (Script.Goal.ofPath (Path.below folder way)) = some failure →
              ∃ error ∈ session.errors,
                (Incompatibility.locate files opened.configuration.view
                  ⟨Path.below folder way, text⟩ failure).map Logged.value = .ok error)) := by
  refine ⟨Session.exists_ofFolder_iff opens noExclusion, ?_⟩
  intro result isResult
  obtain ⟨session, made, sameConfiguration, missing, walked⟩ :=
    Session.hasChecked_ofFolder opens noExclusion isResult
  refine ⟨session, made, sameConfiguration, ?_, ?_, ?_⟩
  · intro fault notFound
    have nothing := missing fault notFound
    exact ⟨nothing.filesChecked, nothing.errors⟩
  · intro bytes found
    obtain ⟨_, nonempty, _⟩ := FileSystem.follow_of_find found
    have noPaths : Session.assetPaths folder (.file bytes) = [] := by
      have notChecked := FileKind.isChecked_join_nil nonempty
      simpa [Session.assetPaths, FileNode.filesBelow, Session.assetPath,
        Session.withoutQuery] using notChecked
    have nothing := walked _ found
    rw [noPaths, List.perm_nil.mp (schedule.perm [])] at nothing
    exact ⟨nothing.filesChecked, nothing.errors⟩
  · intro entries found proper
    obtain ⟨_, nonempty, _⟩ := FileSystem.follow_of_find found
    have checked := walked _ found
    have inOrder := schedule.perm (Session.assetPaths folder (.folder entries))
    have counted := checked.filesChecked.trans inOrder.length_eq
    refine ⟨counted.trans (Session.length_assetPaths proper), ?_⟩
    intro plain
    refine ⟨?_, ?_, ?_⟩
    · exact counted.trans (Session.length_assetPaths_eq_ncard nonempty proper plain)
    · refine ⟨_, inOrder.nodup_iff.mpr (Session.nodup_assetPaths nonempty proper plain), ?_,
        checked⟩
      intro path
      rw [inOrder.mem_iff]
      exact Session.mem_assetPaths_iff nonempty proper plain
    · intro noExclude noExcludeMessage way bytes text failure holds script short decoded failed
      obtain ⟨configuration, follows, rfl⟩ := Session.ofOptions_eq_ok_iff.mp opens
      have sources := follows.exclude
      have messages := follows.excludeMessage
      rw [noExclude] at sources
      rw [noExcludeMessage] at messages
      have scriptPath : FileKind.isScript (Path.below folder way) :=
        (FileKind.isScript_below_iff nonempty (holds.isWay proper) holds.ne_nil).mpr script
      have checkedPath : FileKind.isChecked (Path.below folder way) := by
        rw [FileKind.isChecked, scriptPath, Bool.or_true]
      have byName := (FileKind.isChecked_below_iff nonempty (holds.isWay proper)
        holds.ne_nil).mp checkedPath
      have listed := (Session.mem_assetPaths_iff nonempty proper plain).mpr
        ⟨way, ⟨⟨bytes, holds⟩, byName⟩, rfl⟩
      have read : files.readText (Path.below folder way) = .ok text := by
        rw [FileSystem.readText,
          FileSystem.readBytes_join found proper holds holds.ne_nil short]
        simp only [Except.bind, decoded]
      rw [← sameConfiguration] at failed ⊢
      refine Session.exists_locate_mem_errors checked ?_ ?_ (inOrder.mem_iff.mpr listed)
        scriptPath read failed
      · rw [sameConfiguration]
        exact (Except.ok.inj sources).symm
      · rw [sameConfiguration]
        exact (Except.ok.inj messages).symm

/-- The entries of a folder of outputs: a folder with a script that `es5` cannot read, and a
style sheet. -/
def scriptBelow : List (List Char × FileNode) :=
  [("sub".toList, .folder [("let.js".toList, .file (Text.Utf8.encode "let a".toList))]),
    ("a.css".toList, .file [])]

theorem proper_scriptBelow : (FileNode.folder scriptBelow).Proper := by
  refine .folder (by decide) (by decide) ?_
  intro entry member
  simp only [scriptBelow, List.mem_cons, List.not_mem_nil, or_false] at member
  rcases member with rfl | rfl
  · refine .folder (by decide) (by decide) ?_
    intro inner innerMember
    rw [List.mem_singleton.mp innerMember]
    exact .file _
  · exact .file _

/-- The script in the inner folder is found, and its error is left. -/
theorem ofFolder_checks_each_scriptBelow :
    ∃ result session,
      Session.ofFolder { top := .folder [("dist".toList, .folder scriptBelow)] } .backwards
        { ecmaVersion := some .es5 } "dist".toList = .ok result ∧
      result.value = .ok session ∧
      session.filesChecked = (FileNode.folder scriptBelow).checkableWays.ncard ∧
      ∃ error ∈ session.errors,
        error.message = "Unexpected token: `let` declaration requires es2015" := by
  obtain ⟨goesOn, checks⟩ :=
    ofFolder_checks_each { top := .folder [("dist".toList, .folder scriptBelow)] } .backwards
      { ecmaVersion := some .es5 } "dist".toList
      { configuration := { edition := .es5, view := ⟨['/'], false⟩ } } rfl rfl
  have shown : (Session.ofFolder { top := .folder [("dist".toList, .folder scriptBelow)] }
      .backwards { ecmaVersion := some .es5 } "dist".toList).toOption.map
        (fun result => result.events.length) = some 1 := by
    decide +kernel
  obtain ⟨result, isResult, _⟩ := exists_of_map_toOption_eq_some shown
  obtain ⟨session, made, sameConfiguration, _, _, walked⟩ := checks result isResult
  obtain ⟨counted, _, left⟩ := (walked scriptBelow rfl proper_scriptBelow).2 (by decide)
  have failed : Gate.check "let a".toList .es5
      (Script.Goal.ofPath (Path.below "dist".toList ["sub".toList, "let.js".toList])) =
        some ⟨"Unexpected token: `let` declaration requires es2015", 0, ⟨1, 0⟩⟩ := by
    decide +kernel
  obtain ⟨error, member, located⟩ := left rfl rfl ["sub".toList, "let.js".toList]
    (Text.Utf8.encode "let a".toList) "let a".toList _
    (.inside List.mem_cons_self (.inside List.mem_cons_self (.here _)))
    ⟨"let.js".toList, by decide, by decide⟩ (by decide) (by decide +kernel) failed
  refine ⟨result, session, isResult, made, counted, error, member, ?_⟩
  rcases Incompatibility.value_of_locate_eq_ok located with ⟨_, _, _, _, rfl⟩ | ⟨_, rfl⟩
  · rfl
  · rfl

/-- A folder that holds a script with a question mark in its name. -/
def questionedScript : FileSystem where
  top := .folder [("a?b.js".toList, .file (Text.Utf8.encode "let a".toList))]

/-- The script is overlooked, although `es5` cannot read it: what stands before the question
mark has no ending. -/
theorem ofFolder_overlooks_questionedScript :
    ["a?b.js".toList] ∈ questionedScript.top.checkableWays ∧
    Gate.check "let a".toList .es5 (Script.Goal.ofPath "/a?b.js".toList) ≠ none ∧
    (Session.ofFolder questionedScript .inTurn { ecmaVersion := some .es5 }
        ['/']).toOption.bind (fun result => result.value.toOption.map
          fun session => (session.filesChecked, session.errors)) = some (0, []) := by
  refine ⟨⟨⟨_, .inside List.mem_cons_self (.here _)⟩, ?_⟩, ?_, ?_⟩
  · exact ⟨"a?b.js".toList, by decide, ".js", by decide, by decide⟩
  · decide +kernel
  · decide +kernel

end EditionGuard
