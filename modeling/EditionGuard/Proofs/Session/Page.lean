import EditionGuard.Proofs.Markup.ScriptElement
import EditionGuard.Proofs.Path.Extension
import EditionGuard.Proofs.Session.Contribution
import EditionGuard.Proofs.SourceMap.Attribution

/-!
# Scripts of pages

Checking a page brings for each of its inline scripts the error of this script, or none, in the
order of the page.  The type that an element gives decides only whether its text is an inline
script at all: how the text is read, as a script or as a module, is up to the text.
-/

namespace EditionGuard

theorem Script.Goal.ofPath_of_isPage {path : List Char} (page : FileKind.isPage path) :
    Script.Goal.ofPath path = .unambiguous := by
  rw [ofPath]
  cases found : Path.extension? path with
  | none => rfl
  | some extension =>
      have endsIn : '.' :: "html".toList <:+ path := FileKind.isPage_iff.mp page
      obtain rfl : extension = "html".toList :=
        Path.extension?_of_suffix (by decide) (by decide) (by decide) endsIn found
      rfl

namespace Incompatibility

/-- Without a file beside the output, the finding of a failure shows the output itself. -/
theorem locate_of_noFile {files : FileSystem} {output : OutputFile}
    (noFile : ∀ bytes, files.readBytes output.mapPath ≠ .ok bytes) (view : View)
    (failure : Gate.Failure) :
    (locate files view output failure).map Logged.value = .ok (unmapped view output failure) := by
  cases located : (locate files view output failure).map Logged.value with
  | error stop =>
      obtain ⟨map, ⟨bytes, read, _⟩, _⟩ := locate_eq_error_iff.mp (map_eq_error_iff.mp located)
      exact absurd read (noFile bytes)
  | ok error =>
      rcases value_of_locate_eq_ok located with ⟨_, _, ⟨bytes, read, _⟩, _, _⟩ | ⟨_, rfl⟩
      · exact absurd read (noFile bytes)
      · rfl

end Incompatibility

namespace Configuration

variable (configuration : Configuration) (files : FileSystem)

/-- Whether a configuration leaves no findings out. -/
structure ExcludesNothing : Prop where
  exclude : configuration.exclude = {}
  excludeMessage : configuration.excludeMessage = {}

theorem ExcludesNothing.keeps {configuration : Configuration}
    (nothing : configuration.ExcludesNothing) (finding : Incompatibility) :
    configuration.keeps finding := by
  rw [Configuration.keeps, nothing.exclude, nothing.excludeMessage]
  rfl

/-- The errors of script elements of the page at a path, in order: one for each whose text does
not pass, read as what the text makes it. -/
def scriptErrors (path : List Char) (scripts : List Markup.ScriptElement) :
    List Incompatibility :=
  scripts.filterMap fun script =>
    (Gate.check script.text configuration.edition .unambiguous).map
      (Incompatibility.unmapped configuration.view ⟨path, script.text⟩)

theorem scriptErrors_append (path : List Char) (earlier later : List Markup.ScriptElement) :
    configuration.scriptErrors path (earlier ++ later) =
      configuration.scriptErrors path earlier ++ configuration.scriptErrors path later :=
  List.filterMap_append

theorem scriptErrors_cons (path : List Char) (script : Markup.ScriptElement)
    (later : List Markup.ScriptElement) :
    configuration.scriptErrors path (script :: later) =
      ((Gate.check script.text configuration.edition .unambiguous).map
        (Incompatibility.unmapped configuration.view ⟨path, script.text⟩)).toList ++
      configuration.scriptErrors path later := by
  rw [scriptErrors, scriptErrors, List.filterMap_cons]
  cases Gate.check script.text configuration.edition .unambiguous <;> rfl

theorem findings_of_isPage {path : List Char} (page : FileKind.isPage path)
    (nothing : configuration.ExcludesNothing)
    (noFile : ∀ bytes, files.readBytes (path ++ ".map".toList) ≠ .ok bytes)
    (code : List Char) :
    (configuration.findings files path code).map Logged.value =
      .ok ((Gate.check code configuration.edition .unambiguous).map
        (Incompatibility.unmapped configuration.view ⟨path, code⟩)).toList := by
  have goal := Script.Goal.ofPath_of_isPage page
  cases checked : Gate.check code configuration.edition .unambiguous with
  | none =>
      rw [← goal] at checked
      rw [configuration.findings_of_passed files checked]
      rfl
  | some failure =>
      rw [← goal] at checked
      have located := @Incompatibility.locate_of_noFile files ⟨path, code⟩ noFile
        configuration.view failure
      obtain ⟨found, isFound, value⟩ := exists_of_map_eq_ok located
      rw [configuration.findings_of_failure files checked, isFound, Except.map, value,
        List.filter_eq_self.mpr fun finding _ => nothing.keeps finding]
      rfl

theorem allFindings_of_isPage {path : List Char} (page : FileKind.isPage path)
    (nothing : configuration.ExcludesNothing)
    (noFile : ∀ bytes, files.readBytes (path ++ ".map".toList) ≠ .ok bytes)
    (scripts : List Markup.ScriptElement) :
    (configuration.allFindings files path (scripts.map (·.text))).map Logged.value =
      .ok (configuration.scriptErrors path scripts) := by
  induction scripts with
  | nil => rfl
  | cons script rest inductionHypothesis =>
      rw [List.map_cons, allFindings_cons, inductionHypothesis, scriptErrors_cons,
        configuration.findings_of_isPage files page nothing noFile]
      rfl

/-- A page is checked to the end, and contributes the errors of its inline scripts. -/
theorem result_check_of_isPage {path text : List Char} (page : FileKind.isPage path)
    (read : files.readText path = .ok text) (nothing : configuration.ExcludesNothing)
    (noFile : ∀ bytes, files.readBytes (path ++ ".map".toList) ≠ .ok bytes) :
    (configuration.check files path none).map CheckOutcome.result =
      .ok (.ok (configuration.scriptErrors path (Markup.inlineElements text))) := by
  have notExcluded : configuration.exclude.excludes path = false := by
    rw [nothing.exclude]
    rfl
  rw [check, configuration.result_checkFile files (FileKind.isChecked_of_isPage page) read,
    configuration.pieces_of_isPage page notExcluded, Markup.inlineScripts_eq_map,
    configuration.allFindings_of_isPage files page nothing noFile]
  rfl

end Configuration

/-- Without exclusions and without a map, checking a page adds the errors of its inline scripts,
and each of these has an error of its own, with the message of its failure, if and only if its
text does not pass.  Whatever type the element gives, `module` included, the text is read with
the goal that leaves it to the text. -/
theorem check_page_scripts (files : FileSystem) (session : Session) (path page : List Char)
    (endsLikePage : ".html".toList <:+ path) (read : files.readText path = .ok page)
    (nothing : session.configuration.ExcludesNothing)
    (noFile : ∀ bytes, files.readBytes (path ++ ".map".toList) ≠ .ok bytes)
    (earlier later : List Markup.ScriptElement) (script : Markup.ScriptElement)
    (isInline : Markup.inlineElements page = earlier ++ script :: later) :
    ∃ (next : Session) (own : Option Incompatibility),
      session.check files path none = .ok (next, none) ∧
      next.errors =
        session.errors ++ session.configuration.scriptErrors path earlier ++ own.toList ++
          session.configuration.scriptErrors path later ∧
      (own.isSome ↔
        ∃ failure, Gate.check script.text session.configuration.edition .unambiguous =
          some failure) ∧
      ∀ error ∈ own, ∃ failure,
        Gate.check script.text session.configuration.edition .unambiguous = some failure ∧
        error.message = failure.message := by
  have isPage : FileKind.isPage path := FileKind.isPage_iff.mpr endsLikePage
  obtain ⟨outcome, checked, result⟩ := exists_of_map_eq_ok
    (session.configuration.result_check_of_isPage files isPage read nothing noFile)
  have added : (session.record outcome).errors = session.errors ++
      session.configuration.scriptErrors path (Markup.inlineElements page) := by
    rw [Session.record, result]
    rfl
  rw [isInline, Configuration.scriptErrors_append, Configuration.scriptErrors_cons,
    ← List.append_assoc, ← List.append_assoc] at added
  refine ⟨session.record outcome, _, ?_, added, ?_, ?_⟩
  · rw [Session.check, checked, ok_bind, CheckOutcome.problem?, result]
    rfl
  · rw [Option.isSome_map, Option.isSome_iff_exists]
  · intro error isOwn
    obtain ⟨failure, failed, rfl⟩ := Option.map_eq_some_iff.mp isOwn
    exact ⟨failure, failed, rfl⟩

/-- A page with two scripts of type `module`.  As modules, the first would pass and the second
would not. -/
def awaitingPage : List Char :=
  "<script type=\"module\">await 0</script><script type=\"Module;x\">var await</script>".toList

theorem inlineElements_awaitingPage :
    Markup.inlineElements awaitingPage =
      [⟨[⟨"type", "module".toList⟩], "await 0".toList⟩,
        ⟨[⟨"type", "Module;x".toList⟩], "var await".toList⟩] := by
  decide +kernel

def awaitingFolder : FileSystem where
  top := .folder [("p.html".toList, .file (Text.Utf8.encode awaitingPage))]

theorem check_page_scripts_awaitingPage :
    ∃ next error, Session.check { configuration := { edition := .latest } } awaitingFolder
        "/p.html".toList none = .ok (next, none) ∧
      error ∈ next.errors ∧
      error.message =
        "`await` is only allowed within async functions and at the top levels of modules" := by
  have readPage : awaitingFolder.readText "/p.html".toList = .ok awaitingPage := by
    decide +kernel
  have noFile : ∀ bytes,
      awaitingFolder.readBytes ("/p.html".toList ++ ".map".toList) ≠ .ok bytes := by
    intro bytes
    have missing : awaitingFolder.readBytes ("/p.html".toList ++ ".map".toList) =
        .error .notFound := rfl
    rw [missing]
    exact nofun
  have failed : Gate.check "await 0".toList .latest .unambiguous = some
      ⟨"`await` is only allowed within async functions and at the top levels of modules", 0,
        ⟨1, 0⟩⟩ := by
    decide +kernel
  obtain ⟨next, own, checked, added, ownIff, messages⟩ :=
    check_page_scripts awaitingFolder { configuration := { edition := .latest } }
      "/p.html".toList awaitingPage (by decide) readPage ⟨rfl, rfl⟩ noFile [] _ _
      inlineElements_awaitingPage
  obtain ⟨error, rfl⟩ := Option.isSome_iff_exists.mp (ownIff.mpr ⟨_, failed⟩)
  obtain ⟨failure, isFailure, message⟩ := messages error rfl
  refine ⟨next, error, checked, ?_, ?_⟩
  · rw [added]
    simp
  · rw [message, ← Option.some.inj (failed.symm.trans isFailure)]

/-- Both scripts are of type `module`.  The one that passes as a module has an error, and the
one that does not has none. -/
theorem check_page_not_as_modules :
    (∀ script ∈ Markup.inlineElements awaitingPage, script.IsModule) ∧
    Markup.inlineScripts awaitingPage = ["await 0".toList, "var await".toList] ∧
    Gate.check "await 0".toList .latest .module = none ∧
    (Gate.check "var await".toList .latest .module).isSome ∧
    (Session.check { configuration := { edition := .latest } } awaitingFolder
        "/p.html".toList none).toOption.map (fun checked => checked.1.errors) =
      some [⟨"`await` is only allowed within async functions and at the top levels of modules",
        ⟨"/p.html", 1, 0, "/p.html", "await 0\n          ^"⟩, none⟩] := by
  rw [Markup.inlineScripts_eq_map, inlineElements_awaitingPage]
  refine ⟨by decide, rfl, ?_, ?_, ?_⟩ <;> decide +kernel

end EditionGuard
