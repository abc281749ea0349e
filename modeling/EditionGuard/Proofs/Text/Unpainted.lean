import EditionGuard.Proofs.Text.Frame
import EditionGuard.Proofs.Text.Pointer

/-!
# Text without its paint

A colour sequence is an escape and a bracket, digits and an `m`.  A text without its colour
sequences is its plain text.  Paint is put around pieces of text, and pieces stand behind each
other, so that a painted text shows its plain text if each of its pieces does, whatever stands
behind it.
-/

namespace EditionGuard.Text

/-- What stands behind the colour sequence that a text begins with. -/
def behindSequence? : List Char → Option (List Char)
  | '\x1b' :: '[' :: digit :: rest =>
    if digit.isDigit then
      match rest.dropWhile Char.isDigit with
      | 'm' :: behind => some behind
      | _ => none
    else none
  | _ => none

theorem behindSequence?_eq_some_iff {text behind : List Char} :
    behindSequence? text = some behind ↔
      ∃ number : Numeral, text = '\x1b' :: '[' :: (number.digits ++ 'm' :: behind) := by
  constructor
  · intro found
    unfold behindSequence? at found
    split at found
    · next digit rest =>
        split at found
        · next isDigit =>
            split at found
            · next _ isRest =>
                cases found
                refine ⟨⟨digit :: rest.takeWhile Char.isDigit, List.cons_ne_nil _ _, ?_⟩, ?_⟩
                · intro char member
                  rcases List.mem_cons.mp member with rfl | inRest
                  · exact isDigit
                  · exact List.mem_takeWhile_imp inRest
                · rw [← isRest, List.cons_append, List.takeWhile_append_dropWhile]
            · cases found
        · cases found
    · cases found
  · rintro ⟨number, rfl⟩
    obtain ⟨digit, rest, isCons, isDigit⟩ := number.exists_cons
    have restDigits : ∀ char ∈ rest, char.isDigit = true := by
      intro char member
      exact number.allDigits char (by rw [isCons]; exact List.mem_cons_of_mem digit member)
    have stops : Char.isDigit 'm' = false := by decide
    rw [isCons, List.cons_append]
    simp only [behindSequence?, isDigit, if_true, dropWhile_append_cons restDigits stops]

theorem length_behindSequence?_lt {text behind : List Char}
    (found : behindSequence? text = some behind) : behind.length < text.length := by
  obtain ⟨number, rfl⟩ := behindSequence?_eq_some_iff.mp found
  simp only [List.length_cons, List.length_append]
  omega

def unpainted : List Char → List Char
  | [] => []
  | char :: rest =>
    match _found : behindSequence? (char :: rest) with
    | some behind => unpainted behind
    | none => char :: unpainted rest
termination_by text => text.length
decreasing_by
  · exact length_behindSequence?_lt _found
  · exact Nat.lt_succ_self _

theorem unpainted_nil : unpainted [] = [] := by
  rw [unpainted]

theorem unpainted_of_sequence {text behind : List Char}
    (found : behindSequence? text = some behind) : unpainted text = unpainted behind := by
  cases text with
  | nil => cases found
  | cons char rest =>
      rw [unpainted]
      split
      · next sameText =>
          rw [found] at sameText
          cases sameText
          rfl
      · next nothing =>
          rw [found] at nothing
          cases nothing

theorem unpainted_cons {char : Char} {rest : List Char}
    (notFound : behindSequence? (char :: rest) = none) :
    unpainted (char :: rest) = char :: unpainted rest := by
  rw [unpainted]
  split
  · next found =>
      rw [notFound] at found
      cases found
  · rfl

theorem unpainted_cons_of_ne {char : Char} (noEscape : char ≠ '\x1b') (rest : List Char) :
    unpainted (char :: rest) = char :: unpainted rest := by
  apply unpainted_cons
  cases found : behindSequence? (char :: rest) with
  | none => rfl
  | some behind =>
      obtain ⟨number, isSequence⟩ := behindSequence?_eq_some_iff.mp found
      exact absurd (List.cons.inj isSequence).1 noEscape

theorem byteLength_unpainted_le (text : List Char) :
    byteLength (unpainted text) ≤ byteLength text := by
  fun_induction unpainted text with
  | case1 => exact Nat.le_refl _
  | case2 char rest behind found inductionHypothesis =>
      obtain ⟨number, whole⟩ := behindSequence?_eq_some_iff.mp found
      rw [whole]
      simp only [byteLength_cons, byteLength_append]
      omega
  | case3 char rest notFound inductionHypothesis =>
      rw [byteLength_cons, byteLength_cons]
      exact Nat.add_le_add_left inductionHypothesis _

/-- Whether a painted text shows a plain one, whatever stands behind it. -/
def Shows (painted plain : List Char) : Prop :=
  ∀ behind, unpainted (painted ++ behind) = plain ++ unpainted behind

namespace Shows

variable {painted plain morePainted morePlain : List Char}

theorem unpainted_eq (shows : Shows painted plain) : unpainted painted = plain := by
  have whole := shows []
  rw [unpainted_nil, List.append_nil, List.append_nil] at whole
  exact whole

theorem nil : Shows [] [] := fun _ => rfl

theorem self {text : List Char} (noEscape : '\x1b' ∉ text) : Shows text text := by
  intro behind
  induction text with
  | nil => rfl
  | cons char rest inductionHypothesis =>
      have different : char ≠ '\x1b' := by
        rintro rfl
        exact noEscape List.mem_cons_self
      have noEscapeInRest : '\x1b' ∉ rest := fun member =>
        noEscape (List.mem_cons_of_mem char member)
      rw [List.cons_append, unpainted_cons_of_ne different, inductionHypothesis noEscapeInRest,
        List.cons_append]

/-- A colour sequence shows nothing. -/
theorem sequence (number : Numeral) : Shows ('\x1b' :: '[' :: (number.digits ++ ['m'])) [] := by
  intro behind
  apply unpainted_of_sequence
  refine behindSequence?_eq_some_iff.mpr ⟨number, ?_⟩
  simp

theorem append (first : Shows painted plain) (second : Shows morePainted morePlain) :
    Shows (painted ++ morePainted) (plain ++ morePlain) := by
  intro behind
  rw [List.append_assoc, first, second, List.append_assoc]

theorem colour (colour : Colour) : Shows colour.sequence [] := by
  cases colour with
  | bold => exact sequence ⟨['1'], by decide, List.all_eq_true.mp rfl⟩
  | red => exact sequence ⟨['3', '1'], by decide, List.all_eq_true.mp rfl⟩
  | green => exact sequence ⟨['3', '2'], by decide, List.all_eq_true.mp rfl⟩
  | yellow => exact sequence ⟨['3', '3'], by decide, List.all_eq_true.mp rfl⟩
  | magenta => exact sequence ⟨['3', '5'], by decide, List.all_eq_true.mp rfl⟩
  | gray => exact sequence ⟨['9', '0'], by decide, List.all_eq_true.mp rfl⟩

theorem plainSequence : Shows plainSequence [] :=
  sequence ⟨['0'], by decide, List.all_eq_true.mp rfl⟩

/-- Paint does not change what a text shows. -/
theorem paint (shows : Shows painted plain) (colour : Colour) :
    Shows (Text.paint true colour painted) plain := by
  have whole := ((Shows.colour colour).append shows).append Shows.plainSequence
  rw [List.nil_append, List.append_nil] at whole
  exact whole

theorem flatten {painted plain : List (List Char)} (shows : List.Forall₂ Shows painted plain) :
    Shows painted.flatten plain.flatten := by
  induction shows with
  | nil => exact nil
  | cons first _ inductionHypothesis => exact first.append inductionHypothesis

theorem intercalate {between : List Char} (noEscape : '\x1b' ∉ between)
    {painted plain : List (List Char)} (shows : List.Forall₂ Shows painted plain) :
    Shows (List.intercalate between painted) (List.intercalate between plain) := by
  induction shows with
  | nil => exact nil
  | cons first rest inductionHypothesis =>
      cases rest with
      | nil => simpa using first
      | cons second others =>
          rw [List.intercalate_cons_cons, List.intercalate_cons_cons]
          exact (first.append (self noEscape)).append inductionHypothesis

end Shows

theorem mem_of_mem_pointerWindow {code : List Char} {offset : Nat} {char : Char}
    (shown : char ∈ (pointerWindow code offset).1) : char ∈ code := by
  have inLine : char ∈ lineAt code offset := (pointerWindow_isInfix code offset).subset shown
  have whole := before_append_after code offset
  rw [lineAt, List.mem_append, lastLine, List.mem_reverse] at inLine
  rw [← whole, List.mem_append]
  rcases inLine with inFront | behind
  · have turned := (List.takeWhile_subset _) inFront
    exact Or.inl (List.mem_reverse.mp turned)
  · exact Or.inr ((List.takeWhile_subset _) behind)

theorem shows_pointer {code : List Char} (noEscape : '\x1b' ∉ code) (offset : Nat) :
    Shows (pointer code offset true) (pointer code offset false) := by
  have window : Shows (pointerWindow code offset).1 (pointerWindow code offset).1 :=
    .self fun member => noEscape (mem_of_mem_pointerWindow member)
  have lineBreak : Shows ['\n'] ['\n'] := .self (by decide)
  have caret : ∀ count, Shows (spaces count ++ ['^']) (spaces count ++ ['^']) := by
    intro count
    apply Shows.self
    simp [spaces]
  exact window.append (lineBreak.append ((caret _).paint .yellow))

theorem shows_frame {lines : List (List Char)} (noEscape : ∀ line ∈ lines, '\x1b' ∉ line)
    (highlight : Nat) : Shows (frame lines highlight true) (frame lines highlight false) := by
  by_cases empty : lines = []
  · rw [empty]
    exact .nil
  · rw [frame_eq_intercalate lines highlight empty, frame_eq_intercalate lines highlight empty]
    have lineBreak : Shows ['\n'] ['\n'] := .self (by decide)
    refine lineBreak.append (Shows.intercalate (by decide) ?_)
    rw [List.forall₂_map_left_iff, List.forall₂_map_right_iff, List.forall₂_same]
    intro entry isEntry
    have row : Shows entry.row entry.row :=
      .self (FrameEntry.not_mem_row (by decide) (by decide) (by decide) (by decide)
        (noEscape _ (line_mem_of_mem_frameEntries isEntry)))
    exact row.paint _

end EditionGuard.Text
