import EditionGuard.Proofs.Target.Query

/-!
# Spellings of targets

White space around a target, the case of its letters and the choice among the names of a browser
do not change what the target stands for.
-/

namespace EditionGuard.Target

/-- Two texts differ by white space at the ends, by the case of letters, or by the name that the
browser in front is called by. -/
inductive Respells : String → String → Prop
  | padded {front text back : List Char}
      (whiteFront : ∀ char ∈ front, Text.isWhiteSpace char = true)
      (whiteBack : ∀ char ∈ back, Text.isWhiteSpace char = true) :
      Respells (String.ofList text) (String.ofList (front ++ text ++ back))
  | recased {text other : String}
      (sameLetters : Text.lowerAscii text.toList = Text.lowerAscii other.toList) :
      Respells text other
  | renamed {name other rest : List Char} {browser : Browser}
      (known : Browser.ofName? (String.ofList (Text.lowerAscii name)) = some browser)
      (otherKnown : Browser.ofName? (String.ofList (Text.lowerAscii other)) = some browser)
      (ends : ∀ char ∈ rest.head?, isNameChar char = false) :
      Respells (String.ofList (name ++ rest)) (String.ofList (other ++ rest))
  | symm {text other : String} : Respells text other → Respells other text
  | trans {text middle other : String} :
      Respells text middle → Respells middle other → Respells text other

theorem Respells.refl (text : String) : Respells text text :=
  .recased rfl

def behindName (rest : List Char) : List Char :=
  Text.lowerAscii (rest.rdropWhile Text.isWhiteSpace)

theorem lowerAscii_trim_named {name : List Char} {browser : Browser}
    (known : Browser.ofName? (String.ofList (Text.lowerAscii name)) = some browser)
    (rest : List Char) :
    Text.lowerAscii (Text.trim (name ++ rest)) = Text.lowerAscii name ++ behindName rest := by
  rw [trim_named known, Text.lowerAscii_append, behindName]

theorem behindName_ends {rest : List Char} (ends : ∀ char ∈ rest.head?, isNameChar char = false) :
    ∀ char ∈ (behindName rest).head?, isNameChar char = false := by
  intro lowered isFirst
  rw [behindName, Text.lowerAscii, List.head?_map, Option.mem_map] at isFirst
  obtain ⟨char, isHead, rfl⟩ := isFirst
  obtain ⟨dropped, whole⟩ := List.rdropWhile_prefix Text.isWhiteSpace (l := rest)
  have isHeadOfRest : char ∈ rest.head? := by
    rw [← whole, List.head?_append, isHead, Option.some_or]
    rfl
  rw [isNameChar_toLower]
  exact ends char isHeadOfRest

theorem ofText?_renamed {name rest : List Char} {browser : Browser}
    (known : Browser.ofName? (String.ofList (Text.lowerAscii name)) = some browser)
    (ends : ∀ char ∈ rest.head?, isNameChar char = false) :
    ofText? (String.ofList (name ++ rest)) = askedOf browser (behindName rest) := by
  refine ofText?_named ?_ known (behindName_ends ends)
  rw [String.toList_ofList, lowerAscii_trim_named known]

theorem ofText?_congr {text other : String}
    (sameQuery : Text.lowerAscii (Text.trim text.toList) =
      Text.lowerAscii (Text.trim other.toList)) : ofText? text = ofText? other := by
  simp only [ofText?, sameQuery]

theorem Respells.ofText?_eq {text other : String} (respells : Respells text other) :
    ofText? text = ofText? other := by
  induction respells with
  | padded whiteFront whiteBack =>
      refine ofText?_congr ?_
      rw [String.toList_ofList, String.toList_ofList, Text.trim_padded whiteFront whiteBack]
  | recased sameLetters =>
      refine ofText?_congr ?_
      rw [Text.lowerAscii_trim, Text.lowerAscii_trim, sameLetters]
  | renamed known otherKnown ends =>
      rw [ofText?_renamed known ends, ofText?_renamed otherKnown ends]
  | symm _ inductionHypothesis => exact inductionHypothesis.symm
  | trans _ _ first second => exact first.trans second

end EditionGuard.Target
