import EditionGuard.Proofs.Report.Print
import EditionGuard.Proofs.Text.Unpainted

/-!
# Reports in colour

Colour adds nothing to a report but colour sequences: without them the report in colour is the one
without colour, line by line, and so it is with pointers and frames.  Every width is that of the
plain text.  The problem that remains is the same, unless the sequences themselves are too much for
a sink.
-/

namespace EditionGuard

open Text

/-- Whether nothing that an error shows holds an escape. -/
structure Incompatibility.ShowsNoEscape (error : Incompatibility) : Prop where
  message : '\x1b' ∉ error.message.toList
  path : '\x1b' ∉ error.source.path.toList
  code : '\x1b' ∉ error.source.code.toList
  output : ∀ place ∈ error.output, '\x1b' ∉ place.path.toList

namespace Report

theorem escape_not_mem_decimal (number : Nat) : '\x1b' ∉ decimal number :=
  not_mem_decimal (by decide)

theorem escape_not_mem_display {location : FileLocation}
    (noEscape : '\x1b' ∉ location.path.toList) : '\x1b' ∉ location.display := by
  simp [FileLocation.display, noEscape, escape_not_mem_decimal]

theorem Field.escape_not_mem_content {error : Incompatibility}
    (noEscape : error.ShowsNoEscape) (field : Field) : '\x1b' ∉ field.content error := by
  cases field with
  | source => exact escape_not_mem_display noEscape.path
  | reason => exact noEscape.message
  | code => exact noEscape.code
  | output =>
      cases place : error.output with
      | none => simp [content, place]
      | some location =>
          simp only [content, place, Option.map_some, Option.getD_some]
          exact escape_not_mem_display (noEscape.output location place)

section Lines

variable (settings : Settings)

abbrev Settings.coloured : Settings := { settings with colour := true }

abbrev Settings.uncoloured : Settings := { settings with colour := false }

theorem forall₂_shows_blockLines {error : Incompatibility} (noEscape : error.ShowsNoEscape) :
    List.Forall₂ Shows (blockLines settings.coloured error)
      (blockLines settings.uncoloured error) := by
  refine List.rel_append ?_ (.cons .nil .nil)
  rw [List.forall₂_map_left_iff, List.forall₂_map_right_iff, List.forall₂_same]
  intro field _
  have label : Shows field.label field.label := by
    apply Shows.self
    cases field <;> decide
  have indent : Shows "  ".toList "  ".toList := .self (by decide)
  have content := Shows.self (field.escape_not_mem_content noEscape)
  exact ((indent.append (label.paint .magenta)).append indent).append content

theorem shows_title (number : Nat) :
    Shows (title settings.coloured number) (title settings.uncoloured number) := by
  have plain : Shows ("  ERROR ".toList ++ decimal number)
      ("  ERROR ".toList ++ decimal number) := by
    apply Shows.self
    simp [escape_not_mem_decimal]
  exact (plain.paint .red).paint .bold

theorem forall₂_shows_headLines (edition : Edition) :
    List.Forall₂ Shows (headLines settings.coloured edition)
      (headLines settings.uncoloured edition) := by
  refine .cons ?_ (.cons .nil .nil)
  have first : Shows "error".toList "error".toList := .self (by decide)
  have gap : Shows [' '] [' '] := .self (by decide)
  have heading : Shows tag tag := .self (by decide)
  have opening : Shows " Find some syntax that does not match \"".toList
      " Find some syntax that does not match \"".toList := .self (by decide)
  have expected : Shows ("ecmaVersion <= ".toList ++ edition.display.toList)
      ("ecmaVersion <= ".toList ++ edition.display.toList) := by
    apply Shows.self
    cases edition <;> decide
  have closing : Shows "\":".toList "\":".toList := .self (by decide)
  exact (((((first.paint .red).append gap).append heading).append opening).append
    (expected.paint .yellow)).append closing

theorem forall₂_shows_readyLines :
    List.Forall₂ Shows (readyLines settings.coloured) (readyLines settings.uncoloured) := by
  by_cases quiet : settings.verbosity = .quiet
  · simp only [readyLines, quiet, if_true]
    exact .nil
  · simp only [readyLines, quiet, if_false]
    refine .cons ?_ .nil
    have first : Shows "ready".toList "ready".toList := .self (by decide)
    have gap : Shows [' '] [' '] := .self (by decide)
    have heading : Shows tag tag := .self (by decide)
    have closing : Shows " Syntax check passed.".toList " Syntax check passed.".toList :=
      .self (by decide)
    exact (((first.paint .green).append gap).append heading).append closing

theorem forall₂_shows_filesLines :
    List.Forall₂ Shows (filesLines settings.coloured) (filesLines settings.uncoloured) := by
  by_cases verbose : settings.verbosity = .verbose
  · simp only [filesLines, verbose, if_true]
    refine .cons ?_ .nil
    have heading : Shows (tag ++ " checked ".toList) (tag ++ " checked ".toList) :=
      .self (by decide)
    have number := Shows.self (escape_not_mem_decimal settings.filesChecked)
    have closing : Shows " file(s)".toList " file(s)".toList := .self (by decide)
    exact (heading.append number).append closing
  · simp only [filesLines, verbose, if_false]
    exact .nil

variable {errors : List Incompatibility}

theorem forall₂_shows_blocks (noEscape : ∀ error ∈ errors, error.ShowsNoEscape) (start : Nat) :
    List.Forall₂ Shows
      ((errors.zipIdx start).flatMap fun (error, index) =>
        title settings.coloured (index + 1) :: blockLines settings.coloured error)
      ((errors.zipIdx start).flatMap fun (error, index) =>
        title settings.uncoloured (index + 1) :: blockLines settings.uncoloured error) := by
  induction errors generalizing start with
  | nil => exact .nil
  | cons error rest inductionHypothesis =>
      rw [List.zipIdx_cons, List.flatMap_cons, List.flatMap_cons]
      have first := forall₂_shows_blockLines settings (noEscape error List.mem_cons_self)
      refine List.rel_append (.cons (shows_title settings _) first) ?_
      exact inductionHypothesis (fun other member =>
        noEscape other (List.mem_cons_of_mem error member)) (start + 1)

theorem forall₂_shows_lines (noEscape : ∀ error ∈ errors, error.ShowsNoEscape)
    (edition : Edition) :
    List.Forall₂ Shows (lines errors edition settings.coloured)
      (lines errors edition settings.uncoloured) := by
  refine List.rel_append ?_ (forall₂_shows_filesLines settings)
  by_cases empty : errors.isEmpty = true
  · rw [if_pos empty, if_pos empty]
    exact forall₂_shows_readyLines settings
  · rw [if_neg empty, if_neg empty]
    exact List.rel_append (forall₂_shows_headLines settings edition)
      (forall₂_shows_blocks settings noEscape 0)

theorem unpainted_text (noEscape : ∀ error ∈ errors, error.ShowsNoEscape) (edition : Edition) :
    unpainted (text errors edition settings.coloured) =
      text errors edition settings.uncoloured := by
  apply Shows.unpainted_eq
  rw [text, text, List.flatMap_def, List.flatMap_def]
  apply Shows.flatten
  rw [List.forall₂_map_left_iff, List.forall₂_map_right_iff]
  refine (forall₂_shows_lines settings noEscape edition).imp ?_
  intro painted plain shows
  exact shows.append (.self (by decide))

/-- A sink that takes the report in colour takes the one without, with the same problem. -/
theorem problem_uncoloured (noEscape : ∀ error ∈ errors, error.ShowsNoEscape) (edition : Edition)
    {sink last : Sink} {problem : Option Problem}
    (printed : print sink errors edition settings.coloured = (some last, problem)) :
    (print sink errors edition settings.uncoloured).2 = problem := by
  have shorter := byteLength_unpainted_le (text errors edition settings.coloured)
  rw [unpainted_text settings noEscape] at shorter
  cases wrote : sink.write? (text errors edition settings.coloured) with
  | none =>
      rw [print_of_write?_eq_none errors edition _ wrote] at printed
      cases printed
  | some painted =>
      obtain ⟨plain, wrotePlain⟩ := Sink.exists_write?_of_le shorter wrote
      rw [print_of_write? errors edition _ wrote] at printed
      rw [print_of_write? errors edition _ wrotePlain]
      exact congrArg Prod.snd printed

end Lines

/-- A pointer, a frame or a report in colour is, but for its colour sequences, the one without
colour, if nothing that it shows has an escape.  The problem that a report leaves is the same with
and without colour, for every sink that takes the report in colour. -/
theorem colour_adds_sequences :
    (∀ (code : List Char) (offset : Nat), '\x1b' ∉ code →
      unpainted (pointer code offset true) = pointer code offset false) ∧
    (∀ (lines : List (List Char)) (highlight : Nat), (∀ line ∈ lines, '\x1b' ∉ line) →
      unpainted (frame lines highlight true) = frame lines highlight false) ∧
    ∀ (errors : List Incompatibility) (edition : Edition) (settings : Settings),
      (∀ error ∈ errors, error.ShowsNoEscape) →
      (∃ painted plain problem,
        print {} errors edition settings.coloured = (some ⟨painted, none⟩, problem) ∧
        print {} errors edition settings.uncoloured = (some ⟨plain, none⟩, problem) ∧
        unpainted painted = plain) ∧
      ∀ sink last problem,
        print sink errors edition settings.coloured = (some last, problem) →
        (print sink errors edition settings.uncoloured).2 = problem := by
  refine ⟨?_, ?_, ?_⟩
  · intro code offset noEscape
    exact (shows_pointer noEscape offset).unpainted_eq
  · intro lines highlight noEscape
    exact (shows_frame noEscape highlight).unpainted_eq
  · intro errors edition settings noEscape
    constructor
    · exact ⟨_, _, _, print_unlimited errors edition settings.coloured,
        print_unlimited errors edition settings.uncoloured,
        unpainted_text settings noEscape edition⟩
    · intro sink last problem printed
      exact problem_uncoloured settings noEscape edition printed

def chainedError : Incompatibility :=
  ⟨"Unexpected token", ⟨"a.js", 1, 1, "/a.js", "a?.b"⟩, some ⟨"dist/a.js", 1, 7⟩⟩

theorem colour_adds_sequences_chainedError :
    unpainted "a?.b\n\x1b[33m           ^\x1b[0m".toList = "a?.b\n           ^".toList ∧
    unpainted "\n\x1b[33m   > 1 | a\x1b[0m\n\x1b[90m     2 | b\x1b[0m".toList =
      "\n   > 1 | a\n     2 | b".toList ∧
    (∃ painted plain problem,
      print {} [chainedError] .es5 { colour := true } = (some ⟨painted, none⟩, problem) ∧
      print {} [chainedError] .es5 {} = (some ⟨plain, none⟩, problem) ∧
      unpainted painted = plain) ∧
    (print { room := some 300 } [chainedError] .es5 {}).2 = some (.incompatible .es5 1) := by
  obtain ⟨pointers, frames, reports⟩ := colour_adds_sequences
  have noEscape : ∀ error ∈ [chainedError], error.ShowsNoEscape := by
    intro error member
    rw [List.mem_singleton.mp member]
    exact ⟨by decide, by decide, by decide, by decide⟩
  obtain ⟨unlimited, sinks⟩ := reports [chainedError] .es5 {} noEscape
  refine ⟨?_, ?_, unlimited, ?_⟩
  · exact pointers "a?.b".toList 1 (by decide)
  · exact frames [['a'], ['b']] 0 (by decide)
  · have fits : byteLength (text [chainedError] .es5 { colour := true }) ≤ 300 := by
      decide +kernel
    have wrote := (Sink.write?_limited [] _ 300).trans (if_pos fits)
    exact sinks _ _ _ (print_of_write? _ _ _ wrote)

end Report

end EditionGuard
