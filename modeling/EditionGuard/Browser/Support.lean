import EditionGuard.Browser.Release
import EditionGuard.Edition

/-!
# What browsers support

The release of each browser that first took the whole syntax of an edition.
-/

namespace EditionGuard

/-- The browsers, and other programs that run scripts, of which support is known. -/
inductive Browser where
  | chrome
  | edge
  | explorer
  | firefox
  | iosSafari
  | node
  | opera
  | safari
  | samsung
deriving DecidableEq, Repr, Inhabited

namespace Browser

def ofName? (name : String) : Option Browser :=
  match name with
  | "chrome" | "chromeandroid" | "and_chr" => some .chrome
  | "edge" => some .edge
  | "ie" | "explorer" => some .explorer
  | "firefox" | "firefoxandroid" | "and_ff" => some .firefox
  | "ios_saf" | "ios" => some .iosSafari
  | "node" => some .node
  | "opera" => some .opera
  | "safari" => some .safari
  | "samsung" | "samsunginternet" => some .samsung
  | _ => none

/-- For the editions from ES2015 on, in order, the release that first took all of one. -/
def minima : Browser → List Release
  | .chrome => [51, 52, 58, 64, 73, 80, 85, 94, 94, 112].map .major
  | .edge => [15, 15, 16, 79, 79, 80, 85, 94, 94, 112].map .major
  | .explorer => []
  | .firefox => [54, 54, 53, 78, 78, 80, 80, 93, 93, 116].map .major
  | .iosSafari =>
    [.major 10, .ofDecimal 103 1, .major 11, .ofDecimal 164 1, .ofDecimal 164 1,
      .ofDecimal 164 1, .ofDecimal 164 1, .ofDecimal 164 1, .ofDecimal 164 1, .major 17]
  | .node =>
    [.ofDecimal 65 1, .major 7, .major 8, .major 10, .major 12, .major 14, .major 15,
      .ofDecimal 1611 2, .ofDecimal 1611 2, .major 20]
  | .opera => [38, 39, 45, 51, 60, 67, 71, 80, 80, 98].map .major
  | .safari =>
    [.major 10, .ofDecimal 101 1, .major 11, .ofDecimal 164 1, .ofDecimal 164 1,
      .ofDecimal 164 1, .ofDecimal 164 1, .ofDecimal 164 1, .ofDecimal 164 1, .major 17]
  | .samsung => [5, 6, 7, 9, 11, 13, 14, 17, 17, 23].map .major

/-- The newest edition that a release takes together with all older ones. -/
def edition (browser : Browser) (release : Release) : Edition :=
  let taken := (browser.minima.takeWhile fun minimum => minimum ≤ release).length
  (Edition.all[taken]?).getD .es5

/-- The first release after another: the next whole number, or an earlier one that first
took an edition. -/
def nextRelease (browser : Browser) (release : Release) : Release :=
  (browser.minima.filter fun minimum => release < minimum).foldl Release.earlier
    release.nextMajor

def moduleReleases : List (Browser × Release) :=
  [(.chrome, .major 61), (.edge, .major 16), (.firefox, .major 60), (.safari, .major 11),
    (.iosSafari, .major 11), (.opera, .major 48), (.samsung, .ofDecimal 82 1)]

/-- The newest edition that all releases with module scripts take. -/
def moduleEdition : Edition :=
  (moduleReleases.map fun (browser, release) => browser.edition release).foldl
    Edition.older .latest

end Browser

end EditionGuard
