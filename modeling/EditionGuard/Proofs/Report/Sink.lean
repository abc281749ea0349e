import EditionGuard.Proofs.Report.Hidden
import EditionGuard.Proofs.Text.Utf8

/-!
# Sinks with a limit

A report is written in many pieces, and a device may take a piece in parts.  Neither matters: a
device that takes a number of bytes in all and fails then takes the report if it is no longer than
that, and fails otherwise, wherever the pieces and the parts end.  A sink with a limit does the
same.
-/

namespace EditionGuard.Report

/-- What takes bytes: how many of those that it is offered it takes, and its state then; nothing if
it fails. -/
structure Device (State : Type) where
  offer : State → List UInt8 → Option (Nat × State)

namespace Device

variable {State : Type}

/-- Offers bytes until all of them are taken.  A device that takes none of them has failed too. -/
def write? (device : Device State) (state : State) (bytes : List UInt8) : Option State :=
  match bytes with
  | [] => some state
  | first :: rest =>
    match device.offer state (first :: rest) with
    | some (count + 1, next) => device.write? next (rest.drop count)
    | _ => none
termination_by bytes.length
decreasing_by
  rw [List.length_drop, List.length_cons]
  omega

def writeAll? (device : Device State) (state : State) : List (List UInt8) → Option State
  | [] => some state
  | piece :: rest => (device.write? state piece).bind (device.writeAll? · rest)

/-- Whether a device takes a number of bytes in all and fails then.  It need not take at once what
it has room for. -/
structure TakesInAll (device : Device State) (limit : Nat) (content : State → List UInt8) :
    Prop where
  takes : ∀ state first rest, (content state).length < limit →
    ∃ count next, device.offer state (first :: rest) = some (count + 1, next) ∧
      count ≤ rest.length ∧ content next = content state ++ first :: rest.take count ∧
      (content next).length ≤ limit
  fails : ∀ state first rest, limit ≤ (content state).length →
    device.offer state (first :: rest) = none

namespace TakesInAll

variable {device : Device State} {limit : Nat} {content : State → List UInt8}

/-- What has been taken and what is still to be written decide whether a device fails. -/
theorem write?_cases (inAll : device.TakesInAll limit content) {state : State}
    (within : (content state).length ≤ limit) (bytes : List UInt8) :
    (limit < (content state ++ bytes).length ∧ device.write? state bytes = none) ∨
      ∃ last, device.write? state bytes = some last ∧ content last = content state ++ bytes ∧
        (content last).length ≤ limit := by
  fun_induction device.write? state bytes with
  | case1 state => exact Or.inr ⟨state, rfl, (List.append_nil _).symm, within⟩
  | case2 state first rest count next offered inductionHypothesis =>
      by_cases hasRoom : (content state).length < limit
      · obtain ⟨_, _, sameOffer, _, isTaken, stillWithin⟩ := inAll.takes state first rest hasRoom
        rw [offered] at sameOffer
        cases sameOffer
        have split : content next ++ rest.drop count = content state ++ first :: rest := by
          rw [isTaken, List.append_assoc, List.cons_append, List.take_append_drop]
        rw [← split]
        exact inductionHypothesis stillWithin
      · rw [inAll.fails state first rest (Nat.le_of_not_lt hasRoom)] at offered
        cases offered
  | case3 state first rest failed =>
      have noRoom : limit ≤ (content state).length := by
        refine Nat.le_of_not_lt fun hasRoom => ?_
        obtain ⟨count, next, offered, _⟩ := inAll.takes state first rest hasRoom
        exact failed count next offered
      refine Or.inl ⟨?_, rfl⟩
      rw [List.length_append, List.length_cons]
      omega

/-- It is as if all pieces were written as one. -/
theorem writeAll?_cases (inAll : device.TakesInAll limit content) {state : State}
    (within : (content state).length ≤ limit) (pieces : List (List UInt8)) :
    (limit < (content state ++ pieces.flatten).length ∧
        device.writeAll? state pieces = none) ∨
      ∃ last, device.writeAll? state pieces = some last ∧
        content last = content state ++ pieces.flatten ∧ (content last).length ≤ limit := by
  induction pieces generalizing state with
  | nil => exact Or.inr ⟨state, rfl, (List.append_nil _).symm, within⟩
  | cons piece rest inductionHypothesis =>
      rw [List.flatten_cons, ← List.append_assoc]
      rcases inAll.write?_cases within piece with ⟨tooLong, failed⟩ | ⟨next, wrote, isTaken, still⟩
      · refine Or.inl ⟨?_, ?_⟩
        · rw [List.length_append]
          omega
        · rw [writeAll?, failed, Option.bind_none]
      · rw [← isTaken, writeAll?, wrote, Option.bind_some]
        exact inductionHypothesis still

end TakesInAll

end Device

section Outcome

variable (errors : List Incompatibility) (edition : Edition) (settings : Settings) {limit : Nat}

theorem print_of_fits (fits : Text.byteLength (text errors edition settings) ≤ limit) :
    print { room := some limit } errors edition settings =
      (some ⟨text errors edition settings,
        some (limit - Text.byteLength (text errors edition settings))⟩,
        verdict errors edition) := by
  apply print_of_write?
  rw [Sink.write?_limited, if_pos fits]
  rfl

theorem print_of_tooLong (tooLong : limit < Text.byteLength (text errors edition settings)) :
    print { room := some limit } errors edition settings =
      (none, some (.unwritten "sink full")) := by
  apply print_of_write?_eq_none
  rw [Sink.write?_limited, if_neg (Nat.not_le.mpr tooLong)]

theorem print_fails_iff :
    print { room := some limit } errors edition settings = (none, some (.unwritten "sink full")) ↔
      limit < Text.byteLength (text errors edition settings) := by
  constructor
  · intro failed
    refine Nat.lt_of_not_le fun fits => ?_
    rw [print_of_fits errors edition settings fits] at failed
    cases failed
  · exact print_of_tooLong errors edition settings

variable {State : Type} {device : Device State} {content : State → List UInt8} {start : State}

/-- A device takes the report in pieces just when the sink with the same limit takes it in lines. -/
theorem writeAll?_cases_of_flatten (inAll : device.TakesInAll limit content)
    (empty : content start = []) {pieces : List (List UInt8)}
    (cut : pieces.flatten = Text.Utf8.encode (text errors edition settings)) :
    (limit < Text.byteLength (text errors edition settings) ∧
        device.writeAll? start pieces = none) ∨
      Text.byteLength (text errors edition settings) ≤ limit ∧
        ∃ last, device.writeAll? start pieces = some last ∧
          content last = Text.Utf8.encode (text errors edition settings) := by
  have within : (content start).length ≤ limit := by
    rw [empty]
    exact Nat.zero_le limit
  rcases inAll.writeAll?_cases within pieces with ⟨tooLong, failed⟩ | ⟨last, wrote, isTaken, fits⟩
  · rw [empty, List.nil_append, cut, Text.Utf8.length_encode] at tooLong
    exact Or.inl ⟨tooLong, failed⟩
  · rw [empty, List.nil_append, cut] at isTaken
    rw [isTaken, Text.Utf8.length_encode] at fits
    exact Or.inr ⟨fits, last, wrote, isTaken⟩

end Outcome

/-- A sink with a limit fails just when the report is longer than that, and this goes before all
else.  Otherwise it holds the whole report, as a sink without a limit does, and the errors are the
problem, if there are any, whatever the report shows of them.  It is the same for every device that
takes so many bytes in all, in whatever pieces the report is written. -/
theorem print_limited (errors : List Incompatibility) (edition : Edition) (settings : Settings)
    (limit : Nat) :
    let report := text errors edition settings
    let outcome := print { room := some limit } errors edition settings
    print {} errors edition settings = (some ⟨report, none⟩, verdict errors edition) ∧
    (outcome = (none, some (.unwritten "sink full")) ↔ limit < Text.byteLength report) ∧
    (Text.byteLength report ≤ limit →
      outcome.1 = some ⟨report, some (limit - Text.byteLength report)⟩ ∧
      outcome.2 = if errors = [] then none else some (.incompatible edition errors.length)) ∧
    ∀ (State : Type) (device : Device State) (content : State → List UInt8) (start : State)
      (pieces : List (List UInt8)),
      device.TakesInAll limit content → content start = [] →
      pieces.flatten = Text.Utf8.encode report →
      (device.writeAll? start pieces = none ↔
        outcome = (none, some (.unwritten "sink full"))) ∧
      ∀ last, device.writeAll? start pieces = some last →
        content last = Text.Utf8.encode report := by
  intro report outcome
  refine ⟨print_unlimited errors edition settings, print_fails_iff errors edition settings, ?_, ?_⟩
  · intro fits
    have printed : outcome = _ := print_of_fits errors edition settings fits
    rw [printed]
    refine ⟨rfl, ?_⟩
    simp only [verdict, List.isEmpty_iff]
  · intro State device content start pieces inAll empty cut
    rw [print_fails_iff errors edition settings]
    rcases writeAll?_cases_of_flatten errors edition settings inAll empty cut with
      ⟨tooLong, failed⟩ | ⟨fits, last, wrote, isTaken⟩
    · refine ⟨⟨fun _ => tooLong, fun _ => failed⟩, ?_⟩
      intro last wrote
      rw [failed] at wrote
      cases wrote
    · rw [wrote]
      refine ⟨⟨fun failed => ?_, fun tooLong => absurd fits (Nat.not_le.mpr tooLong)⟩, ?_⟩
      · cases failed
      · intro other same
        cases same
        exact isTaken

def drippingDevice (limit : Nat) : Device (List UInt8) where
  offer taken bytes := if taken.length < limit then some (1, taken ++ bytes.take 1) else none

theorem drippingDevice_takesInAll (limit : Nat) : (drippingDevice limit).TakesInAll limit id where
  takes taken first rest hasRoom := by
    refine ⟨0, taken ++ [first], if_pos hasRoom, Nat.zero_le _, rfl, ?_⟩
    rw [id, List.length_append]
    exact hasRoom
  fails taken first rest noRoom := if_neg (Nat.not_lt.mpr noRoom)

/-- The report on an error of which nothing is shown has 92 bytes. -/
theorem print_limited_drippingDevice :
    let settings : Settings := { excludeFields := Field.all }
    let report := ("error [check-syntax] Find some syntax that does not match " ++
      "\"ecmaVersion <= es5\":\n\n  ERROR 1\n\n").toList
    let errors := [errorAtOne "/home" "no let" "let a\n ^"]
    (print { room := some 91 } errors .es5 settings).2 = some (.unwritten "sink full") ∧
    (drippingDevice 91).writeAll? [] [Text.Utf8.encode report] = none ∧
    print { room := some 92 } errors .es5 settings =
      (some ⟨report, some 0⟩, some (.incompatible .es5 1)) ∧
    (drippingDevice 92).writeAll? [] [Text.Utf8.encode report] =
      some (Text.Utf8.encode report) := by
  intro settings report errors
  have isReport : text errors .es5 settings = report := by decide +kernel
  have length : Text.byteLength (text errors .es5 settings) = 92 := by decide +kernel
  have cut : [Text.Utf8.encode report].flatten =
      Text.Utf8.encode (text errors .es5 settings) := by
    rw [isReport, List.flatten_singleton]
  obtain ⟨-, fails, -, failsInPieces⟩ := print_limited errors .es5 settings 91
  have failed := fails.mpr (by rw [length]; decide)
  have pieces := failsInPieces _ _ id [] _ (drippingDevice_takesInAll 91) rfl cut
  obtain ⟨-, -, fits, fitsInPieces⟩ := print_limited errors .es5 settings 92
  obtain ⟨written, problem⟩ := fits (Nat.le_of_eq length)
  obtain ⟨failsIff, taken⟩ := fitsInPieces _ _ id [] _ (drippingDevice_takesInAll 92) rfl cut
  refine ⟨?_, pieces.1.mpr failed, ?_, ?_⟩
  · rw [failed]
  · rw [length, isReport] at written
    exact Prod.ext written problem
  · cases wrote : (drippingDevice 92).writeAll? [] [Text.Utf8.encode report] with
    | none =>
        rw [failsIff.mp wrote] at written
        cases written
    | some last =>
        have isTaken : last = _ := taken last wrote
        rw [isTaken, isReport]

end EditionGuard.Report
