import EditionGuard.Proofs.Text.Cut
import EditionGuard.SourceMap.SourceName

/-!
# Addresses of resources

The name of a source is an address if a scheme stands before two slashes and all that follows
stands on one line.  An address stands for a resource of the project: for what follows its
namespace, without the current folders in front and without the query.  Addresses of files stand
for the path behind the slashes, and all names that are no addresses stand for themselves.
-/

namespace EditionGuard.SourceMap

/-- A scheme is a letter with letters, digits, plus signs, dots and hyphens behind it. -/
structure IsScheme (scheme : List Char) : Prop where
  begins : ∃ first rest, scheme = first :: rest ∧ first.isAlpha = true
  members : ∀ char ∈ scheme,
    char.isAlpha = true ∨ char.isDigit = true ∨ char = '+' ∨ char = '.' ∨ char = '-'

def IsFileScheme (scheme : List Char) : Prop := Text.lowerAscii scheme = "file".toList

instance (scheme : List Char) : Decidable (IsFileScheme scheme) :=
  inferInstanceAs (Decidable (Text.lowerAscii scheme = "file".toList))

/-- Whether a name is the address of a scheme with the given rest. -/
structure IsAddress (name scheme rest : List Char) : Prop where
  isScheme : IsScheme scheme
  oneLine : '\n' ∉ rest
  split : name = scheme ++ "://".toList ++ rest

/-- The parts of an address that stands for a resource. -/
structure ResourceAddress where
  scheme : List Char
  space : List Char
  /-- The number of current folders in front of the resource. -/
  folders : Nat
  resource : List Char
  query : Option (List Char)
  isScheme : IsScheme scheme
  notFile : ¬ IsFileScheme scheme
  noDots : space ≠ ".".toList ∧ space ≠ "..".toList
  spaceChars : '/' ∉ space ∧ '?' ∉ space ∧ '\n' ∉ space
  resourceChars : '?' ∉ resource ∧ '\n' ∉ resource
  resourceBegins : ¬ "./".toList <+: resource
  queryLine : ∀ text ∈ query, '\n' ∉ text

namespace ResourceAddress

def way (address : ResourceAddress) : List Char :=
  (List.replicate address.folders "./".toList).flatten ++ address.resource

def rest (address : ResourceAddress) : List Char :=
  address.space ++ '/' :: address.way ++ address.query.elim [] ('?' :: ·)

def text (address : ResourceAddress) : List Char :=
  address.scheme ++ "://".toList ++ address.rest

end ResourceAddress

namespace SourceName

/-! ## Schemes -/

theorem isSchemeChar_iff {char : Char} :
    isSchemeChar char = true ↔
      char.isAlpha = true ∨ char.isDigit = true ∨ char = '+' ∨ char = '.' ∨ char = '-' := by
  simp [isSchemeChar, Char.isAlphanum, or_assoc]

theorem scheme?_eq_some_iff {name scheme rest : List Char} :
    scheme? name = some (scheme, rest) ↔ IsAddress name scheme rest := by
  constructor
  · intro found
    cases name with
    | nil => cases found
    | cons first others =>
        have cut := @List.takeWhile_append_dropWhile _ isSchemeChar (first :: others)
        simp only [scheme?] at found
        split at found
        · next behind dropped =>
            split at found
            · next allowed =>
                obtain ⟨letter, oneLine⟩ := Bool.and_eq_true_iff.mp allowed
                obtain ⟨rfl, rfl⟩ := Prod.mk.inj (Option.some.inj found)
                have schemeChar : isSchemeChar first = true := isSchemeChar_iff.mpr (Or.inl letter)
                refine ⟨⟨⟨first, _, List.takeWhile_cons_of_pos schemeChar, letter⟩, ?_⟩, ?_, ?_⟩
                · intro char member
                  exact isSchemeChar_iff.mp (List.mem_takeWhile_imp member)
                · simpa using oneLine
                · rw [dropped] at cut
                  rw [List.append_assoc]
                  exact cut.symm
            · cases found
        · cases found
  · rintro ⟨⟨⟨first, others, rfl, letter⟩, members⟩, oneLine, rfl⟩
    have schemeChars : ∀ char ∈ first :: others, isSchemeChar char = true :=
      fun char member => isSchemeChar_iff.mpr (members char member)
    have split : first :: others ++ "://".toList ++ rest =
        first :: others ++ ':' :: '/' :: '/' :: rest := List.append_assoc _ _ _
    have stops : isSchemeChar ':' = false := by decide
    rw [split, List.cons_append]
    simp only [scheme?]
    rw [← List.cons_append, Text.takeWhile_append_cons schemeChars stops,
      Text.dropWhile_append_cons schemeChars stops]
    simp [letter, oneLine]

theorem scheme?_eq_none_iff {name : List Char} :
    scheme? name = none ↔ ∀ scheme rest, ¬ IsAddress name scheme rest := by
  simp only [← scheme?_eq_some_iff, Option.eq_none_iff_forall_ne_some, Prod.forall]

/-! ## Resources -/

theorem withoutNamespace_suffix (text : List Char) : withoutNamespace text <:+ text := by
  have isSuffix := List.dropWhile_suffix (l := text) (· != '/')
  rw [withoutNamespace]
  split
  · next first rest dropped =>
      rw [dropped] at isSuffix
      split
      · exact List.suffix_refl text
      · exact (List.suffix_cons first rest).trans isSuffix
  · exact List.suffix_refl text

theorem withoutNamespace_append {space : List Char} (noSlash : '/' ∉ space)
    (noDots : space ≠ ".".toList ∧ space ≠ "..".toList) (way : List Char) :
    withoutNamespace (space ++ '/' :: way) = way := by
  have others := Text.forall_ne_iff_not_mem.mpr noSlash
  have stops : ('/' != '/') = false := by decide
  simp only [withoutNamespace, Text.takeWhile_append_cons others stops,
    Text.dropWhile_append_cons others stops]
  exact if_neg (not_or.mpr noDots)

theorem withoutDots_suffix (text : List Char) : withoutDots text <:+ text := by
  fun_induction withoutDots text with
  | case1 rest inductionHypothesis => exact inductionHypothesis.trans ⟨"./".toList, rfl⟩
  | case2 text => exact List.suffix_refl text

theorem not_prefix_withoutDots (text : List Char) : ¬ "./".toList <+: withoutDots text := by
  fun_induction withoutDots text with
  | case1 rest inductionHypothesis => exact inductionHypothesis
  | case2 text noFolder =>
      rintro ⟨rest, rfl⟩
      exact noFolder rest rfl

theorem withoutDots_of_not_prefix {text : List Char} (begins : ¬ "./".toList <+: text) :
    withoutDots text = text := by
  fun_cases withoutDots text with
  | case1 rest => exact absurd ⟨rest, rfl⟩ begins
  | case2 text => rfl

theorem withoutDots_folders (count : Nat) (text : List Char) :
    withoutDots ((List.replicate count "./".toList).flatten ++ text) = withoutDots text := by
  induction count with
  | zero => rfl
  | succ count inductionHypothesis =>
      rw [List.replicate_succ, List.flatten_cons, List.append_assoc, ← inductionHypothesis]
      exact withoutDots.eq_1 _

/-- What the text behind two slashes stands for. -/
def resourceOf (rest : List Char) : List Char :=
  withoutDots (withoutNamespace (rest.takeWhile (· != '?')))

theorem not_mem_resourceOf (rest : List Char) : '?' ∉ resourceOf rest := by
  have isSuffix := (withoutDots_suffix _).trans
    (withoutNamespace_suffix (rest.takeWhile (· != '?')))
  intro member
  exact Text.not_mem_takeWhile_ne rest '?' (isSuffix.subset member)

theorem ofText_of_isAddress {name scheme rest : List Char}
    (isAddress : IsAddress name scheme rest) :
    (IsFileScheme scheme → ofText name = .absolute rest) ∧
      (¬ IsFileScheme scheme → ofText name = .synthetic (resourceOf rest)) := by
  simp only [ofText, scheme?_eq_some_iff.mpr isAddress]
  exact ⟨fun isFile => if_pos isFile, fun notFile => if_neg notFile⟩

theorem ofText_of_not_isAddress {name : List Char}
    (noAddress : ∀ scheme rest, ¬ IsAddress name scheme rest) :
    ofText name = if name.head? = some '/' then .absolute name else .relative name := by
  simp only [ofText, scheme?_eq_none_iff.mpr noAddress, Path.isAbsolute, beq_iff_eq]

theorem ofText_eq_synthetic_iff {name resource : List Char} :
    ofText name = .synthetic resource ↔
      ∃ scheme rest, IsAddress name scheme rest ∧ ¬ IsFileScheme scheme ∧
        resource = resourceOf rest := by
  constructor
  · intro synthetic
    by_cases address : ∃ scheme rest, IsAddress name scheme rest
    · obtain ⟨scheme, rest, isAddress⟩ := address
      obtain ⟨ofFile, ofResource⟩ := ofText_of_isAddress isAddress
      by_cases isFile : IsFileScheme scheme
      · rw [ofFile isFile] at synthetic
        cases synthetic
      · rw [ofResource isFile] at synthetic
        exact ⟨scheme, rest, isAddress, isFile, (SourceName.synthetic.inj synthetic).symm⟩
    · rw [ofText_of_not_isAddress fun scheme rest isAddress =>
        address ⟨scheme, rest, isAddress⟩] at synthetic
      split at synthetic
      · cases synthetic
      · cases synthetic
  · rintro ⟨scheme, rest, isAddress, notFile, rfl⟩
    exact (ofText_of_isAddress isAddress).2 notFile

end SourceName

namespace ResourceAddress

variable (address : ResourceAddress)

theorem not_mem_place {mark : Char} (notInSpace : mark ∉ address.space)
    (notInFolder : mark ∉ "/./".toList) (notInResource : mark ∉ address.resource) :
    mark ∉ address.space ++ '/' :: address.way := by
  intro member
  rcases List.mem_append.mp member with inSpace | behindSpace
  · exact notInSpace inSpace
  · rcases List.mem_cons.mp behindSpace with rfl | inWay
    · exact notInFolder List.mem_cons_self
    · rcases List.mem_append.mp inWay with inFolders | inResource
      · obtain ⟨folder, isFolder, inFolder⟩ := List.mem_flatten.mp inFolders
        rw [List.eq_of_mem_replicate isFolder] at inFolder
        exact notInFolder (List.mem_cons_of_mem '/' inFolder)
      · exact notInResource inResource

theorem isAddress_text : IsAddress address.text address.scheme address.rest where
  isScheme := address.isScheme
  oneLine := by
    intro member
    rcases List.mem_append.mp member with inPlace | inQuery
    · exact address.not_mem_place address.spaceChars.2.2 (by decide) address.resourceChars.2 inPlace
    · cases query : address.query with
      | none =>
          rw [query] at inQuery
          cases inQuery
      | some text =>
          rw [query] at inQuery
          rcases List.mem_cons.mp inQuery with isMark | inText
          · exact absurd isMark (by decide)
          · exact address.queryLine text query inText
  split := rfl

theorem resourceOf_rest : SourceName.resourceOf address.rest = address.resource := by
  have noMark : ∀ char ∈ address.space ++ '/' :: address.way, (char != '?') = true :=
    Text.forall_ne_iff_not_mem.mpr
      (address.not_mem_place address.spaceChars.2.1 (by decide) address.resourceChars.1)
  have cut : address.rest.takeWhile (· != '?') = address.space ++ '/' :: address.way := by
    refine Text.takeWhile_append_stopped noMark ?_
    intro char isFirst
    cases query : address.query with
    | none =>
        rw [query] at isFirst
        cases isFirst
    | some text =>
        rw [query] at isFirst
        obtain rfl := Option.some.inj isFirst
        decide
  have cutSpace := SourceName.withoutNamespace_append address.spaceChars.1 address.noDots
  rw [SourceName.resourceOf, cut, cutSpace, way, SourceName.withoutDots_folders,
    SourceName.withoutDots_of_not_prefix address.resourceBegins]

end ResourceAddress

/-- An address of a resource stands for the resource, whatever its scheme, its namespace, its
current folders and its query are.  The names of resources are the addresses that are not those of
files; a resource holds no question mark and begins with no current folder.  The address of a file
stands for the rest of it, and every other name for itself. -/
theorem ofText_addresses :
    (∀ address : ResourceAddress,
      SourceName.ofText address.text = .synthetic address.resource) ∧
      ∀ name,
        ((∃ resource, SourceName.ofText name = .synthetic resource) ↔
          ∃ scheme rest, IsAddress name scheme rest ∧ ¬ IsFileScheme scheme) ∧
        (∀ resource, SourceName.ofText name = .synthetic resource →
          '?' ∉ resource ∧ ¬ "./".toList <+: resource) ∧
        (∀ scheme rest, IsAddress name scheme rest → IsFileScheme scheme →
          SourceName.ofText name = .absolute rest) ∧
        ((∀ scheme rest, ¬ IsAddress name scheme rest) →
          SourceName.ofText name =
            if name.head? = some '/' then .absolute name else .relative name) := by
  refine ⟨?_, fun name => ⟨?_, ?_, ?_, SourceName.ofText_of_not_isAddress⟩⟩
  · intro address
    rw [(SourceName.ofText_of_isAddress address.isAddress_text).2 address.notFile,
      address.resourceOf_rest]
  · simp only [SourceName.ofText_eq_synthetic_iff]
    constructor
    · rintro ⟨_, scheme, rest, isAddress, notFile, _⟩
      exact ⟨scheme, rest, isAddress, notFile⟩
    · rintro ⟨scheme, rest, isAddress, notFile⟩
      exact ⟨_, scheme, rest, isAddress, notFile, rfl⟩
  · intro resource synthetic
    obtain ⟨scheme, rest, _, _, rfl⟩ := SourceName.ofText_eq_synthetic_iff.mp synthetic
    exact ⟨SourceName.not_mem_resourceOf rest, SourceName.not_prefix_withoutDots _⟩
  · intro scheme rest isAddress
    exact (SourceName.ofText_of_isAddress isAddress).1

/-- An address with an empty namespace, two current folders, another address for its resource, and
a query that holds slashes and question marks. -/
def nestedAddress : ResourceAddress where
  scheme := "webpack+dev.x-1".toList
  space := []
  folders := 2
  resource := "http://a/b.js".toList
  query := some "c/d?e".toList
  isScheme :=
    (SourceName.scheme?_eq_some_iff.mp (rfl : SourceName.scheme? "webpack+dev.x-1://".toList =
      some ("webpack+dev.x-1".toList, []))).isScheme
  notFile := by decide
  noDots := by decide
  spaceChars := by decide
  resourceChars := by decide
  resourceBegins := by decide
  queryLine := by decide

theorem ofText_addresses_nested :
    nestedAddress.text = "webpack+dev.x-1:///././http://a/b.js?c/d?e".toList ∧
      SourceName.ofText nestedAddress.text = .synthetic "http://a/b.js".toList ∧
      ('?' ∉ "http://a/b.js".toList ∧ ¬ "./".toList <+: "http://a/b.js".toList) ∧
      SourceName.ofText "FILE:///a.js".toList = .absolute "/a.js".toList ∧
      SourceName.ofText "/a:b.js".toList = .absolute "/a:b.js".toList := by
  have isFile : IsAddress "FILE:///a.js".toList "FILE".toList "/a.js".toList :=
    SourceName.scheme?_eq_some_iff.mp (by decide)
  have noAddress : ∀ scheme rest, ¬ IsAddress "/a:b.js".toList scheme rest :=
    SourceName.scheme?_eq_none_iff.mp (by decide)
  have standsFor := ofText_addresses.1 nestedAddress
  refine ⟨by decide, standsFor, ?_, ?_, ?_⟩
  · exact (ofText_addresses.2 nestedAddress.text).2.1 _ standsFor
  · exact (ofText_addresses.2 _).2.2.1 _ _ isFile (by decide)
  · exact (ofText_addresses.2 _).2.2.2 noAddress

end EditionGuard.SourceMap
