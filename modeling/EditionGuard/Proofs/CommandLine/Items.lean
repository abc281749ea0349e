import EditionGuard.CommandLine.Arguments
import EditionGuard.Proofs.Except
import EditionGuard.Proofs.Text.Cut

/-!
# What command lines say

The words of a command line say items: values of options, flags, and folders.  Reading takes up
the items from left to right, and what has been read are the items of each kind, in order.
-/

namespace EditionGuard.CommandLine

/-- What one word of a command line says, or an option and the word behind it. -/
inductive Item where
  | value (option : ValueOption) (text : List Char)
  | flag (flag : Flag)
  | folder (path : List Char)
deriving DecidableEq, Repr, Inhabited

/-- The items that some words say. -/
inductive Says : List (List Char) → List Item → Prop where
  | nil : Says [] []
  | folders (rest : List (List Char)) : Says (['-', '-'] :: rest) (rest.map .folder)
  /-- An option and its value in one word. -/
  | joined {name value : List Char} {option : ValueOption} {rest : List (List Char)}
      {items : List Item} (noSign : '=' ∉ name)
      (named : ValueOption.ofName? (String.ofList name) = some option) (more : Says rest items) :
      Says (('-' :: '-' :: (name ++ '=' :: value)) :: rest) (.value option value :: items)
  /-- An option, and its value in a word of its own. -/
  | apart {name value : List Char} {option : ValueOption} {rest : List (List Char)}
      {items : List Item} (noSign : '=' ∉ name)
      (named : ValueOption.ofName? (String.ofList name) = some option)
      (noOption : Arguments.isOption value = false) (more : Says rest items) :
      Says (('-' :: '-' :: name) :: value :: rest) (.value option value :: items)
  | flag {name : List Char} {flag : Flag} {rest : List (List Char)} {items : List Item}
      (noSign : '=' ∉ name) (named : Flag.ofName? (String.ofList name) = some flag)
      (more : Says rest items) : Says (('-' :: '-' :: name) :: rest) (.flag flag :: items)
  | letters {letters : List Char} {flags : List Flag} {rest : List (List Char)}
      {items : List Item} (nonempty : letters ≠ [])
      (named : letters.map Flag.ofLetter? = flags.map some) (more : Says rest items) :
      Says (('-' :: letters) :: rest) (flags.map .flag ++ items)
  | folder {path : List Char} {rest : List (List Char)} {items : List Item}
      (noOption : Arguments.isOption path = false) (more : Says rest items) :
      Says (path :: rest) (.folder path :: items)

namespace Arguments

def withItem (arguments : Arguments) : Item → Except Stop Arguments
  | .value option text => arguments.withValue option text
  | .flag flag => arguments.withFlag flag
  | .folder path => arguments.withFolder path

variable {start final : Arguments}

/-! ## Reading words -/

theorem withFolders_eq_foldlM (start : Arguments) (paths : List (List Char)) :
    start.withFolders paths = (paths.map Item.folder).foldlM withItem start := by
  induction paths generalizing start with
  | nil => rfl
  | cons path rest inductionHypothesis =>
      simp only [withFolders, inductionHypothesis]
      rfl

theorem withLetters_eq_foldlM (start : Arguments) {letters : List Char} {flags : List Flag}
    (named : letters.map Flag.ofLetter? = flags.map some) :
    start.withLetters letters = (flags.map Item.flag).foldlM withItem start := by
  induction letters generalizing start flags with
  | nil =>
      obtain rfl : flags = [] := by simpa using named.symm
      rfl
  | cons letter rest inductionHypothesis =>
      obtain ⟨flag, others, rfl⟩ : ∃ flag others, flags = flag :: others := by
        cases flags with
        | nil => simp at named
        | cons flag others => exact ⟨flag, others, rfl⟩
      obtain ⟨first, later⟩ := List.cons.inj named
      simp only [withLetters, first, fun next => inductionHypothesis next later]
      rfl

theorem exists_flags_of_withLetters {letters : List Char}
    (taken : start.withLetters letters = .ok final) :
    ∃ flags : List Flag, letters.map Flag.ofLetter? = flags.map some := by
  induction letters generalizing start with
  | nil => exact ⟨[], rfl⟩
  | cons letter rest inductionHypothesis =>
      rw [withLetters] at taken
      cases named : Flag.ofLetter? letter with
      | none =>
          rw [named] at taken
          cases taken
      | some flag =>
          rw [named] at taken
          obtain ⟨next, _, later⟩ := exists_of_bind_eq_ok taken
          obtain ⟨flags, isFlags⟩ := inductionHypothesis later
          exact ⟨flag :: flags, by rw [List.map_cons, List.map_cons, named, isFlags]⟩

theorem isOption_eq_false_iff {value : List Char} :
    isOption value = false ↔ ∀ letter letters, value ≠ '-' :: letter :: letters := by
  constructor
  · rintro noOption letter letters rfl
    cases noOption
  · intro noHyphen
    unfold isOption
    split
    · exact (noHyphen _ _ rfl).elim
    · rfl

theorem exists_says_of_readAll {words : List (List Char)}
    (read : start.readAll words = .ok final) : ∃ items, Says words items := by
  -- The cases are those of the reader; `case4`, `case7` and `case8` are wrong usage.
  fun_induction readAll start words with
  | case1 => exact ⟨[], .nil⟩
  | case2 => exact ⟨_, .folders _⟩
  | case3 arguments written nonempty name option head value rest behind named
      inductionHypothesis =>
      obtain ⟨next, _, later⟩ := exists_of_bind_eq_ok read
      obtain ⟨items, said⟩ := inductionHypothesis next later
      rw [Text.eq_append_of_dropWhile_ne behind]
      exact ⟨_, .joined (Text.not_mem_takeWhile_ne written '=') named said⟩
  | case4 => cases read
  | case5 arguments written nonempty name option value rest behind named noOption
      inductionHypothesis =>
      obtain ⟨next, _, later⟩ := exists_of_bind_eq_ok read
      obtain ⟨items, said⟩ := inductionHypothesis next later
      rw [Text.eq_takeWhile_ne_of_dropWhile_ne behind]
      exact ⟨_, .apart (Text.not_mem_takeWhile_ne written '=') named
        (Bool.eq_false_iff.mpr noOption) said⟩
  | case6 arguments written nonempty name rest behind noValue flag named
      inductionHypothesis =>
      obtain ⟨next, _, later⟩ := exists_of_bind_eq_ok read
      obtain ⟨items, said⟩ := inductionHypothesis next later
      rw [Text.eq_takeWhile_ne_of_dropWhile_ne behind]
      exact ⟨_, .flag (Text.not_mem_takeWhile_ne written '=') named said⟩
  | case7 => cases read
  | case8 => cases read
  | case9 arguments rest letter letters notLast notLong inductionHypothesis =>
      obtain ⟨next, taken, later⟩ := exists_of_bind_eq_ok read
      obtain ⟨items, said⟩ := inductionHypothesis next later
      obtain ⟨flags, named⟩ := exists_flags_of_withLetters taken
      exact ⟨_, .letters (List.cons_ne_nil letter letters) named said⟩
  | case10 arguments rest value notLast notLong notLetters inductionHypothesis =>
      obtain ⟨next, _, later⟩ := exists_of_bind_eq_ok read
      obtain ⟨items, said⟩ := inductionHypothesis next later
      exact ⟨_, .folder (isOption_eq_false_iff.mpr notLetters) said⟩

section Names

variable {name : List Char}

theorem ne_nil_of_ofName? {option : ValueOption}
    (named : ValueOption.ofName? (String.ofList name) = some option) : name ≠ [] := by
  rintro rfl
  exact absurd named (by simp [ValueOption.ofName?])

theorem mem_flagNames {text : String} {flag : Flag} (named : Flag.ofName? text = some flag) :
    text ∈ ["no-color", "verbose", "quiet", "help", "version"] := by
  unfold Flag.ofName? at named
  split at named
  case h_6 => cases named
  all_goals decide

theorem ofName?_of_isFlag {flag : Flag}
    (named : Flag.ofName? (String.ofList name) = some flag) :
    name ≠ [] ∧ ValueOption.ofName? (String.ofList name) = none := by
  have noOptions : ∀ text ∈ ["no-color", "verbose", "quiet", "help", "version"],
      text ≠ "" ∧ ValueOption.ofName? text = none := by
    decide
  obtain ⟨nonempty, noOption⟩ := noOptions _ (mem_flagNames named)
  refine ⟨?_, noOption⟩
  rintro rfl
  exact nonempty rfl

end Names

/-- Reading takes up, from left to right, the items that the words say. -/
theorem readAll_eq_foldlM {words : List (List Char)} {items : List Item}
    (said : Says words items) (start : Arguments) :
    start.readAll words = items.foldlM withItem start := by
  induction said generalizing start with
  | nil => rfl
  | folders rest => exact withFolders_eq_foldlM start rest
  | @joined name value option rest items noSign named more inductionHypothesis =>
      have taken : (name ++ '=' :: value).takeWhile (· != '=') = name := by
        simp [Text.takeWhile_ne_append noSign]
      have behind : (name ++ '=' :: value).dropWhile (· != '=') = '=' :: value := by
        simp [Text.dropWhile_ne_append noSign]
      rw [← taken] at named
      rw [readAll.eq_3 start _ rest option value (by simp) named _ behind, List.foldlM_cons]
      exact congrArg _ (funext inductionHypothesis)
  | @apart name value option rest items noSign named noOption more inductionHypothesis =>
      have taken := Text.takeWhile_ne_of_not_mem noSign
      have behind := Text.dropWhile_ne_of_not_mem noSign
      have nonempty := ne_nil_of_ofName? named
      rw [← taken] at named
      rw [readAll.eq_4 start name option value rest nonempty named behind, noOption,
        if_neg Bool.false_ne_true, List.foldlM_cons]
      exact congrArg _ (funext inductionHypothesis)
  | @flag name flag rest items noSign named more inductionHypothesis =>
      have taken := Text.takeWhile_ne_of_not_mem noSign
      have behind := Text.dropWhile_ne_of_not_mem noSign
      obtain ⟨nonempty, noOption⟩ := ofName?_of_isFlag named
      rw [← taken] at named noOption
      rw [readAll.eq_5 start name rest nonempty noOption behind, named, List.foldlM_cons]
      exact congrArg _ (funext inductionHypothesis)
  | @letters letters flags rest items nonempty named more inductionHypothesis =>
      obtain ⟨letter, others, rfl⟩ := List.exists_cons_of_ne_nil nonempty
      have noHyphen : letter ≠ '-' := by
        rintro rfl
        cases flags with
        | nil => cases named
        | cons flag others =>
            have first : none = some flag := (List.cons.inj named).1
            cases first
      rw [readAll.eq_7 start rest letter others (fun hyphen _ => noHyphen hyphen) noHyphen,
        withLetters_eq_foldlM start named, List.foldlM_append]
      exact congrArg _ (funext inductionHypothesis)
  | @folder path rest items noOption more inductionHypothesis =>
      have noHyphen := isOption_eq_false_iff.mp noOption
      rw [readAll.eq_8 start path rest (noHyphen _ _) (fun written => noHyphen _ written) noHyphen,
        List.foldlM_cons]
      exact congrArg _ (funext inductionHypothesis)

end Arguments

/-! ## What is collected -/

def Item.valueOf? (option : ValueOption) : Item → Option String
  | .value given text => if given = option then some (String.ofList text) else none
  | _ => none

def Item.folder? : Item → Option (List Char)
  | .folder path => some path
  | _ => none

def valuesOf (option : ValueOption) (items : List Item) : List String :=
  items.filterMap (Item.valueOf? option)

def foldersOf (items : List Item) : List (List Char) := items.filterMap Item.folder?

section Collecting

variable {option : ValueOption} {items : List Item}

@[simp] theorem valuesOf_nil : valuesOf option [] = [] := rfl

@[simp] theorem foldersOf_nil : foldersOf [] = [] := rfl

@[simp] theorem valuesOf_append (more : List Item) :
    valuesOf option (items ++ more) = valuesOf option items ++ valuesOf option more :=
  List.filterMap_append

@[simp] theorem foldersOf_append (more : List Item) :
    foldersOf (items ++ more) = foldersOf items ++ foldersOf more :=
  List.filterMap_append

@[simp] theorem valuesOf_value (given : ValueOption) (text : List Char) :
    valuesOf option [.value given text] =
      if given = option then [String.ofList text] else [] := by
  by_cases same : given = option <;> simp [valuesOf, Item.valueOf?, same]

@[simp] theorem valuesOf_flag (flag : Flag) : valuesOf option [.flag flag] = [] := rfl

@[simp] theorem valuesOf_folder (path : List Char) : valuesOf option [.folder path] = [] := rfl

@[simp] theorem foldersOf_value (given : ValueOption) (text : List Char) :
    foldersOf [.value given text] = [] := rfl

@[simp] theorem foldersOf_flag (flag : Flag) : foldersOf [.flag flag] = [] := rfl

@[simp] theorem foldersOf_folder (path : List Char) : foldersOf [.folder path] = [path] := rfl

end Collecting

structure Arguments.Collects (arguments : Arguments) (items : List Item) : Prop where
  folder : arguments.folder.toList = foldersOf items
  root : arguments.root.toList = valuesOf .root items
  config : arguments.config.toList.map String.ofList = valuesOf .config items
  edition : arguments.edition.toList.map some = (valuesOf .edition items).map Edition.ofText?
  targets : arguments.targets = valuesOf .target items
  exclude : arguments.exclude = valuesOf .exclude items
  excludeOutput : arguments.excludeOutput = valuesOf .excludeOutput items
  excludeMessage : arguments.excludeMessage = valuesOf .excludeMessage items
  excludeLog :
    arguments.excludeLog.map some = (valuesOf .excludeLog items).map Report.Field.ofKey?
  noColor : arguments.noColor = true ↔ .flag .noColor ∈ items
  verbose : arguments.verbose = items.count (.flag .verbose)
  quiet : arguments.quiet = items.count (.flag .quiet)

namespace Arguments

variable {arguments next : Arguments} {items : List Item}

theorem once_eq_ok_iff {α : Type} {given value result : Option α} :
    once given value = .ok result ↔ given = none ∧ value.isSome ∧ result = value := by
  cases given <;> cases value <;> simp [once, eq_comm]

theorem path?_eq_some_iff {value path : List Char} :
    path? value = some path ↔ value ≠ [] ∧ path = value := by
  cases value <;> simp [path?, eq_comm]

theorem collects_nil : Collects {} [] := by
  constructor <;> simp

theorem Collects.withFlag {flag : Flag} (collects : arguments.Collects items)
    (taken : arguments.withFlag flag = .ok next) :
    next.Collects (items ++ [.flag flag]) := by
  obtain ⟨folder, root, config, edition, targets, exclude, excludeOutput, excludeMessage,
    excludeLog, noColor, verbose, quiet⟩ := collects
  cases flag with
  | noColor =>
      rw [Arguments.withFlag] at taken
      by_cases given : arguments.noColor
      · rw [if_pos given] at taken
        cases taken
      · rw [if_neg given] at taken
        cases taken
        constructor <;> simp [*]
  | verbose =>
      cases taken
      constructor <;> simp [*]
  | quiet =>
      cases taken
      constructor <;> simp [*]
  | help => cases taken
  | version => cases taken

theorem Collects.withFolder {path : List Char} (collects : arguments.Collects items)
    (taken : arguments.withFolder path = .ok next) :
    next.Collects (items ++ [.folder path]) := by
  obtain ⟨folder, root, config, edition, targets, exclude, excludeOutput, excludeMessage,
    excludeLog, noColor, verbose, quiet⟩ := collects
  obtain ⟨given, isOnce, made⟩ := exists_of_bind_eq_ok taken
  obtain ⟨notGiven, isPath, rfl⟩ := once_eq_ok_iff.mp isOnce
  obtain ⟨same, isSame⟩ := Option.isSome_iff_exists.mp isPath
  obtain ⟨_, rfl⟩ := path?_eq_some_iff.mp isSame
  cases made
  rw [notGiven, eq_comm] at folder
  constructor <;> simp [*]

theorem Collects.withValue {option : ValueOption} {text : List Char}
    (collects : arguments.Collects items)
    (taken : arguments.withValue option text = .ok next) :
    next.Collects (items ++ [.value option text]) := by
  obtain ⟨folder, root, config, edition, targets, exclude, excludeOutput, excludeMessage,
    excludeLog, noColor, verbose, quiet⟩ := collects
  cases option with
  | root =>
      obtain ⟨given, isOnce, made⟩ := exists_of_bind_eq_ok taken
      obtain ⟨notGiven, isPath, rfl⟩ := once_eq_ok_iff.mp isOnce
      obtain ⟨same, isSame⟩ := Option.isSome_iff_exists.mp isPath
      obtain ⟨path, isPath, rfl⟩ := Option.map_eq_some_iff.mp isSame
      obtain ⟨_, rfl⟩ := path?_eq_some_iff.mp isPath
      cases made
      rw [notGiven, eq_comm] at root
      constructor <;> simp [*]
  | config =>
      obtain ⟨given, isOnce, made⟩ := exists_of_bind_eq_ok taken
      obtain ⟨notGiven, isPath, rfl⟩ := once_eq_ok_iff.mp isOnce
      obtain ⟨same, isSame⟩ := Option.isSome_iff_exists.mp isPath
      obtain ⟨_, rfl⟩ := path?_eq_some_iff.mp isSame
      cases made
      rw [notGiven, eq_comm] at config
      constructor <;> simp [*]
  | edition =>
      obtain ⟨given, isOnce, made⟩ := exists_of_bind_eq_ok taken
      obtain ⟨notGiven, isEdition, rfl⟩ := once_eq_ok_iff.mp isOnce
      obtain ⟨same, isSame⟩ := Option.isSome_iff_exists.mp isEdition
      cases made
      rw [notGiven, eq_comm] at edition
      constructor <;> simp [*]
  | target =>
      cases taken
      constructor <;> simp [*]
  | exclude =>
      cases taken
      constructor <;> simp [*]
  | excludeOutput =>
      cases taken
      constructor <;> simp [*]
  | excludeMessage =>
      cases taken
      constructor <;> simp [*]
  | excludeLog =>
      rw [Arguments.withValue] at taken
      cases isField : Report.Field.ofKey? (String.ofList text) with
      | none =>
          simp only [isField] at taken
          cases taken
      | some field =>
          simp only [isField] at taken
          cases taken
          constructor <;> simp [*]

theorem Collects.withItem {item : Item} (collects : arguments.Collects items)
    (taken : arguments.withItem item = .ok next) : next.Collects (items ++ [item]) := by
  cases item with
  | value option text => exact collects.withValue taken
  | flag flag => exact collects.withFlag taken
  | folder path => exact collects.withFolder taken

theorem Collects.foldlM {more : List Item} {final : Arguments}
    (collects : arguments.Collects items)
    (taken : more.foldlM Arguments.withItem arguments = .ok final) :
    final.Collects (items ++ more) := by
  induction more generalizing arguments items with
  | nil =>
      cases taken
      rwa [List.append_nil]
  | cons item rest inductionHypothesis =>
      rw [List.foldlM_cons] at taken
      obtain ⟨next, first, later⟩ := exists_of_bind_eq_ok taken
      have collected := inductionHypothesis (collects.withItem first) later
      rwa [List.append_assoc] at collected

/-- Words that are accepted say something, and the arguments that are read are made up of what
they say; one folder is named, and more and less are not both asked for. -/
theorem collects_of_read {words : List (List Char)} (read : Arguments.read words = .ok arguments) :
    (∃ items, Says words items) ∧
      ∀ items, Says words items → arguments.Collects items ∧
        (∃ folder, foldersOf items = [folder]) ∧
        ¬ (.flag .verbose ∈ items ∧ .flag .quiet ∈ items) := by
  obtain ⟨all, readAll, accepted⟩ := exists_of_bind_eq_ok read
  by_cases refused : all.folder.isNone ∨ 0 < all.verbose ∧ 0 < all.quiet
  · rw [if_pos refused] at accepted
    cases accepted
  rw [if_neg refused] at accepted
  cases accepted
  refine ⟨exists_says_of_readAll readAll, ?_⟩
  intro items said
  rw [readAll_eq_foldlM said] at readAll
  have collects := collects_nil.foldlM readAll
  rw [List.nil_append] at collects
  refine ⟨collects, ?_, ?_⟩
  · have named : arguments.folder ≠ none := fun noFolder => refused (Or.inl (by simp [noFolder]))
    obtain ⟨folder, isFolder⟩ := Option.ne_none_iff_exists'.mp named
    refine ⟨folder, ?_⟩
    rw [← collects.folder, isFolder]
    rfl
  · rintro ⟨verbose, quiet⟩
    refine refused (Or.inr ⟨?_, ?_⟩)
    · rw [collects.verbose]
      exact List.count_pos_iff.mpr verbose
    · rw [collects.quiet]
      exact List.count_pos_iff.mpr quiet

end Arguments

end EditionGuard.CommandLine
