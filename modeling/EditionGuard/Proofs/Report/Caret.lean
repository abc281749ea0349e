import EditionGuard.Proofs.Report.Print
import EditionGuard.Proofs.Session.Place
import EditionGuard.Proofs.Text.Pointer
import Mathlib.Data.List.Infix

/-!
# The caret of a report

The code of an error that no map has moved takes two lines of the report.  The first shows a piece
of the failing line behind the label of the field.  The second is a caret under that piece, but it
does not stand under the character of the failure: its blanks are one less than the label is wide,
so it marks the column to the left.
-/

namespace EditionGuard

namespace Text

/-- Whether an offset stands at a character of its line, where the carriage returns at the end of a
line are no part of it. -/
def StandsAt (code : List Char) (offset : Nat) (char : Char) : Prop :=
  ∃ rest, dropBytes code (floorBoundary code offset) = some (char :: rest) ∧
    ∃ other ∈ firstLine (char :: rest), other ≠ '\r'

theorem StandsAt.getElem?_pointerWindow {code : List Char} {offset : Nat} {char : Char}
    (stands : StandsAt code offset char) :
    (pointerWindow code offset).1[(pointerWindow code offset).2]? = some char := by
  obtain ⟨rest, dropped, other, inLine, notReturn⟩ := stands
  have notBreak : char ≠ '\n' := by
    rintro rfl
    simp [firstLine] at inLine
  have behind : after code offset = char :: rest := by
    rw [dropBytes_floorBoundary_eq_after] at dropped
    exact Option.some.inj dropped
  apply Text.getElem?_pointerWindow dropped notBreak
  refine ⟨other, ?_, notReturn⟩
  have fromHere : (lineAt code offset).drop (Position.behind (before code offset)).column =
      firstLine (char :: rest) := by
    rw [← behind]
    exact List.drop_left
  rw [fromHere]
  exact inLine

theorem pointerWindow_prefix (code : List Char) (offset : Nat) :
    (pointerWindow code offset).1 <+: (lineAt code offset).drop
      ((Position.behind (before code offset)).column - (pointerWindow code offset).2) := by
  have trimmed : trimReturns (lineAt code offset) <+: lineAt code offset :=
    List.rdropWhile_prefix (· == '\r') (lineAt code offset)
  have start : (Position.behind (before code offset)).column - (pointerWindow code offset).2 =
      (lastLine (before code offset)).length - pointerWidth / 2 := by
    simp only [pointerWindow, Position.behind]
    omega
  have cut := List.take_prefix pointerWidth ((trimReturns (lineAt code offset)).drop
    ((lastLine (before code offset)).length - pointerWidth / 2))
  rw [start]
  exact List.IsPrefix.trans cut (List.IsPrefix.drop trimmed _)

theorem not_mem_pointerWindow (code : List Char) (offset : Nat) :
    '\n' ∉ (pointerWindow code offset).1 := by
  intro broken
  have inLine := (pointerWindow_isInfix code offset).subset broken
  exact not_mem_lineAt code offset inLine

end Text

namespace Report

/-- Whether a report ends with an error whose code takes the given two lines.  Behind them stand
the empty line after an error and the number of files, if it is wanted. -/
structure EndsWithCode (report : List Char) (settings : Settings)
    (codeLine caretLine : List Char) : Prop where
  stands : ∃ front, report = front ++ '\n' :: codeLine ++ '\n' :: caretLine ++ "\n\n".toList ++
    (filesLines settings).flatMap (· ++ ['\n'])
  labelled : "  code:    ".toList <+: codeLine
  codeLine_unbroken : '\n' ∉ codeLine
  caretLine_unbroken : '\n' ∉ caretLine

variable {settings : Settings} {error : Incompatibility}

theorem exists_flatMap_append_break {lines : List (List Char)} (nonempty : lines ≠ []) :
    ∃ front, lines.flatMap (· ++ ['\n']) = front ++ ['\n'] := by
  rcases List.eq_nil_or_concat lines with isEmpty | ⟨earlier, last, isConcat⟩
  · exact absurd isEmpty nonempty
  · refine ⟨earlier.flatMap (· ++ ['\n']) ++ last, ?_⟩
    simp [isConcat]

/-- The code is the last of the fields, behind a label of eleven columns. -/
theorem exists_blockLines_eq (plain : settings.colour = false)
    (isShown : Field.code ∉ settings.excludeFields) (someCode : error.source.code.toList ≠ []) :
    ∃ front, blockLines settings error =
      front ++ ["  code:    ".toList ++ error.source.code.toList, []] := by
  have isKept : (!settings.excludeFields.contains Field.code &&
      !(Field.code.content error).isEmpty) = true := by
    simpa [isShown, Field.content] using someCode
  have split : Field.all = [.source, .output, .reason] ++ [.code] := rfl
  have label : "  ".toList ++ Field.code.label ++ "  ".toList = "  code:    ".toList := by decide
  simp only [blockLines, split, List.filter_append, List.map_append, List.filter_cons, isKept,
    List.filter_nil, if_true, List.map_cons, List.map_nil, plain, Text.paint_false, label]
  refine ⟨_, List.append_assoc _ _ _⟩

theorem exists_text_eq (plain : settings.colour = false)
    (isShown : Field.code ∉ settings.excludeFields) (someCode : error.source.code.toList ≠ [])
    (edition : Edition) :
    ∃ front, text [error] edition settings =
      front ++ '\n' :: "  code:    ".toList ++ error.source.code.toList ++ "\n\n".toList ++
        (filesLines settings).flatMap (· ++ ['\n']) := by
  obtain ⟨fields, block⟩ := exists_blockLines_eq plain isShown someCode
  have someLines : headLines settings edition ++ title settings 1 :: fields ≠ [] := by simp
  obtain ⟨front, isFront⟩ := exists_flatMap_append_break someLines
  refine ⟨front, ?_⟩
  have allLines : lines [error] edition settings =
      (headLines settings edition ++ title settings 1 :: fields) ++
        ["  code:    ".toList ++ error.source.code.toList, []] ++ filesLines settings := by
    simp [lines, block]
  rw [text, allLines, List.flatMap_append, List.flatMap_append, isFront]
  simp

/-- The report of an error that no map has moved shows its code in two lines, if the code is to be
shown.  The first of them shows the character of the failure, with what stands around it in its
line.  The caret is the only mark on the second, and stands in the column to the left of this
character. -/
theorem print_caretBeside (files : FileSystem) (view : View) (sources messages : Exclusion)
    (output : OutputFile) (failure : Gate.Failure) (error : Incompatibility) (edition : Edition)
    (settings : Settings) (char : Char)
    (stands : Text.StandsAt output.code failure.byteOffset char)
    (plainView : view.colour = false) (plain : settings.colour = false)
    (isShown : Field.code ∉ settings.excludeFields)
    (found : (Incompatibility.ofFailure files view sources messages output failure).map
      Logged.value = .ok (some error))
    (notMapped : error.output = none) :
    let column := (Text.Position.behind (Text.before output.code failure.byteOffset)).column
    let place := min column 40
    ∃ report codeLine caretLine,
      print {} [error] edition settings =
        (some ⟨report, none⟩, some (.incompatible edition 1)) ∧
      EndsWithCode report settings codeLine caretLine ∧
      codeLine.drop 11 <+:
        (Text.lineAt output.code failure.byteOffset).drop (column - place) ∧
      codeLine[11 + place]? = some char ∧
      caretLine = Text.spaces (10 + place) ++ ['^'] := by
  intro column place
  have isUnmapped := Incompatibility.eq_unmapped_of_output_eq_none
    (Incompatibility.locate_of_ofFailure found) notMapped
  have isPlace : (Text.pointerWindow output.code failure.byteOffset).2 = place :=
    Text.place_pointerWindow output.code failure.byteOffset
  have isPiece := Text.pointerWindow_prefix output.code failure.byteOffset
  have isShownAt := stands.getElem?_pointerWindow
  have unbroken := Text.not_mem_pointerWindow output.code failure.byteOffset
  have code : error.source.code.toList =
      (Text.pointerWindow output.code failure.byteOffset).1 ++
        '\n' :: (Text.spaces (10 + place) ++ ['^']) := by
    have indent : place + Text.labelIndent - 1 = 10 + place := by
      simp only [Text.labelIndent]
      omega
    simp [isUnmapped, Incompatibility.unmapped, OutputFile.location, OutputFile.excerpt,
      plainView, Text.pointer, isPlace, indent]
  have someCode : error.source.code.toList ≠ [] := by simp [code]
  obtain ⟨front, isText⟩ := exists_text_eq plain isShown someCode edition
  have width : "  code:    ".toList.length = 11 := by decide
  rw [isPlace] at isPiece isShownAt
  refine ⟨text [error] edition settings,
    "  code:    ".toList ++ (Text.pointerWindow output.code failure.byteOffset).1,
    Text.spaces (10 + place) ++ ['^'], print_unlimited [error] edition settings,
    ⟨⟨front, ?_⟩, List.prefix_append _ _, ?_, ?_⟩, ?_, ?_, rfl⟩
  · rw [isText, code]
    simp
  · simp [unbroken]
  · simp [Text.spaces]
  · rw [← width, List.drop_left]
    exact isPiece
  · rw [← width, List.getElem?_append_right (Nat.le_add_right _ _), Nat.add_sub_cancel_left]
    exact isShownAt

/-- A script whose second line `es5` cannot read. -/
def chainedScript : OutputFile := ⟨"a.js".toList, "x;\nvar y = a?.b;\r\n".toList⟩

def chainedFailure : Gate.Failure :=
  ⟨"Unexpected token: optional chaining `?.` requires es2020", 12, ⟨2, 9⟩⟩

theorem print_caretBeside_secondLine :
    Gate.check chainedScript.code .es5 .unambiguous = some chainedFailure ∧
    ∃ report codeLine caretLine,
      print {} [Incompatibility.unmapped {} chainedScript chainedFailure] .es5 {} =
        (some ⟨report, none⟩, some (.incompatible .es5 1)) ∧
      EndsWithCode report {} codeLine caretLine ∧
      codeLine[20]? = some '?' ∧ caretLine = Text.spaces 19 ++ ['^'] := by
  have failed : Gate.check chainedScript.code .es5 .unambiguous = some chainedFailure := by
    decide +kernel
  have stands : Text.StandsAt chainedScript.code chainedFailure.byteOffset '?' :=
    ⟨".b;\r\n".toList, by decide +kernel, '?', by decide, by decide⟩
  have column : (Text.Position.behind
      (Text.before chainedScript.code chainedFailure.byteOffset)).column = 9 := by
    decide +kernel
  obtain ⟨report, codeLine, caretLine, printed, ends, -, shown, caret⟩ :=
    print_caretBeside {} {} {} {} chainedScript chainedFailure
      (Incompatibility.unmapped {} chainedScript chainedFailure) .es5 {} '?' stands rfl rfl
      (by decide) rfl rfl
  rw [column] at shown caret
  exact ⟨failed, report, codeLine, caretLine, printed, ends, shown, caret⟩

/-- The report on `a?.b` has the caret under the `a`, although the failure is at the question
mark. -/
theorem caret_not_under_character :
    ∃ failure error report codeLine caretLine,
      Gate.check "a?.b".toList .es5 .unambiguous = some failure ∧
      Text.StandsAt "a?.b".toList failure.byteOffset '?' ∧
      (Incompatibility.ofFailure {} {} {} {} ⟨"a.js".toList, "a?.b".toList⟩ failure).map
        Logged.value = .ok (some error) ∧
      error.output = none ∧
      print {} [error] .es5 {} = (some ⟨report, none⟩, some (.incompatible .es5 1)) ∧
      EndsWithCode report {} codeLine caretLine ∧
      codeLine = "  code:    a?.b".toList ∧ caretLine = "           ^".toList ∧
      ('?', '^') ∉ codeLine.zip caretLine := by
  let failure : Gate.Failure :=
    ⟨"Unexpected token: optional chaining `?.` requires es2020", 1, ⟨1, 1⟩⟩
  let error := Incompatibility.unmapped {} ⟨"a.js".toList, "a?.b".toList⟩ failure
  have code : error.source.code.toList = "a?.b\n           ^".toList := by decide +kernel
  have someCode : error.source.code.toList ≠ [] := by simp [code]
  have plain : ({} : Settings).colour = false := rfl
  obtain ⟨front, isText⟩ := exists_text_eq plain (by decide) someCode .es5
  refine ⟨failure, error, text [error] .es5 {}, "  code:    a?.b".toList,
    "           ^".toList, by decide +kernel, ⟨".b".toList, by decide +kernel, '?', by decide,
    by decide⟩, rfl, rfl, print_unlimited [error] .es5 {},
    ⟨⟨front, ?_⟩, by decide, by decide, by decide⟩, rfl, rfl, by decide⟩
  rw [isText, code]
  simp

end Report

end EditionGuard
