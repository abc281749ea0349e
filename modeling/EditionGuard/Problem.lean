import EditionGuard.Edition

/-!
# Problems

What keeps a check from passing: wishes that cannot be met, files that cannot be read, and,
at the end, code that does not fit.
-/

namespace EditionGuard

inductive ReadFault where
  | notFound
  | isDirectory
  | notDirectory
  | notUtf8
  | invalidName
  | nameTooLong
deriving DecidableEq, Repr, Inhabited

def ReadFault.message : ReadFault → String
  | .notFound => "No such file or directory (os error 2)"
  | .isDirectory => "Is a directory (os error 21)"
  | .notDirectory => "Not a directory (os error 20)"
  | .notUtf8 => "stream did not contain valid UTF-8"
  | .invalidName => "file name contained an unexpected NUL byte"
  | .nameTooLong => "File name too long (os error 36)"

/-- What a check can end with besides success. -/
inductive Problem where
  | missingTarget
  | unknownTarget (query : String)
  | invalidVersion (text : String)
  /-- A pattern of an exclusion is no regular expression. -/
  | invalidPattern
  /-- The options are not what they should be. -/
  | invalidOptions
  | unreadable (path : String) (fault : ReadFault)
  /-- The report could not be written. -/
  | unwritten (cause : String)
  | incompatible (edition : Edition) (count : Nat)
deriving DecidableEq, Repr, Inhabited

/-- What is said about a problem. What follows the colon for patterns and options is not
laid down. -/
def Problem.message : Problem → String
  | .missingTarget => "[check-syntax] `targets` or `ecmaVersion` option is required"
  | .unknownTarget query => s!"[check-syntax] unsupported target query `{query}`"
  | .invalidVersion text => s!"[check-syntax] invalid ecmaVersion `{text}`"
  | .invalidPattern => "[check-syntax] invalid exclude pattern:"
  | .invalidOptions => "[check-syntax] invalid options:"
  | .unreadable path fault => s!"[check-syntax] failed to read {path}: {fault.message}"
  | .unwritten cause => s!"[check-syntax] failed to write report: {cause}"
  | .incompatible edition count =>
    s!"[check-syntax] The current build fails due to {count} incompatible syntax error(s) " ++
      s!"for ecmaVersion <= {edition.display}, which can be fixed in the following ways:\n\n" ++
      "  - If you want to downgrade the syntax, you can compile the specified module " ++
      "through the `source.include` config.\n" ++
      "  - If you don't want to downgrade the syntax, you can adjust the project's " ++
      "browserslist to match the syntax, or set the `ecmaVersion` option.\n" ++
      "  - If you don't want to check the syntax of specified files, you can use the " ++
      "`exclude` option to exclude the files to be checked.\n"

/-- The edition that a text names, or the problem that it names none. -/
def Edition.ofText (text : String) : Except Problem Edition :=
  match Edition.ofText? text with
  | some edition => .ok edition
  | none => .error (.invalidVersion text)

end EditionGuard
