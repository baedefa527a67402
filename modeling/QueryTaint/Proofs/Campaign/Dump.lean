import QueryTaint.Proofs.Campaign.History
import QueryTaint.Proofs.Rejection
import QueryTaint.Proofs.Text.TaintSet
import QueryTaint.Proofs.Token.Generator

namespace QueryTaint

theorem TokenKind.ofName?_name (kind : TokenKind) : ofName? kind.name = some kind := by
  cases kind <;> rfl

theorem TokenKind.name_ne_exception (kind : TokenKind) : kind.name ≠ "Exception" := by
  cases kind <;> decide

theorem Foretells.oneLine {start : Nat} {kind : TokenKind} {cause : String} {found : Violation}
    (h : Foretells start kind cause found) : OneLine cause := by
  cases h with
  | freeForm found => cases found.kind <;> simp [OneLine, ViolationKind.name]
  | _ => simp [OneLine]

theorem Token.Fits.oneLine_cause {dialect : Dialect} {kind : TokenKind} {before : Option Cell}
    {offset : Nat} {token : Token} {found : List Item} {cause : String}
    (h : token.Fits dialect kind before offset found)
    (hexpected : token.expectation = .violation cause) : OneLine cause := by
  have hleads := h.leads [] [] (not_fuses_nil _)
  unfold Leads at hleads
  rw [hexpected] at hleads
  obtain ⟨_, -, hforetells⟩ := hleads
  exact hforetells.oneLine

namespace Campaign

-- A reason as disagreements have it, with names that do not break the line.
inductive Reason.Legible : Reason → Prop where
  | missedViolation {cause : String} : OneLine cause → Legible (.missedViolation cause)
  | unexpectedViolation (found : Violation) : Legible (.unexpectedViolation found)
  | malformed {construct : String} (offset : Nat) :
    OneLine construct → Legible (.validatorFailure (.malformed construct offset))

theorem Reason.Legible.oneLine_message {reason : Reason} (h : reason.Legible) :
    OneLine reason.message := by
  cases h with
  | missedViolation hcause =>
      exact OneLine.append (.append (by simp [OneLine]) hcause) (by simp [OneLine])
  | unexpectedViolation found =>
      exact .append (by simp [OneLine]) (.append (by simp [OneLine]) found.oneLine_message)
  | malformed offset hconstruct =>
      exact .append (by simp [OneLine]) (.append (.append (.append (by simp [OneLine]) hconstruct)
        (by simp [OneLine])) (oneLine_toString offset))

-- Where the messages of different reasons part: the ninth character.
def Reason.mark : Reason → Char
  | missedViolation _ => ' '
  | unexpectedViolation _ => 'S'
  | validatorFailure _ => 'M'

theorem Reason.Legible.getElem?_message {reason : Reason} (h : reason.Legible) :
    reason.message.toList[8]? = some reason.mark := by
  cases h with
  | @missedViolation cause _ =>
      change ("FAILURE: did not get exception (expected " ++ cause ++ ")").toList[8]? = _
      rw [String.toList_append, String.toList_append]
      rfl
  | unexpectedViolation found =>
      change ("FAILURE " ++ ("Security violation: " ++ found.message)).toList[8]? = _
      rw [String.toList_append, String.toList_append]
      rfl
  | @malformed construct offset _ =>
      change ("FAILURE " ++ (Rejection.malformed construct offset).message).toList[8]? = _
      rw [String.toList_append, toList_message_malformed]
      rfl

theorem Reason.Legible.message_inj {reason other : Reason} (h : reason.Legible)
    (hother : other.Legible) (hmessage : reason.message = other.message) : reason = other := by
  have hmark : reason.mark = other.mark := by
    rw [← Option.some_inj, ← h.getElem?_message, ← hother.getElem?_message, hmessage]
  cases h with
  | missedViolation _ =>
      cases hother with
      | missedViolation _ =>
          have hcause := (String.append_left_inj _).mp hmessage
          rw [(String.append_right_inj _).mp hcause]
      | unexpectedViolation _ | malformed _ _ => cases hmark
  | unexpectedViolation found =>
      cases hother with
      | unexpectedViolation other =>
          have hfound := (String.append_right_inj _).mp ((String.append_right_inj _).mp hmessage)
          rw [Violation.message_inj hfound]
      | missedViolation _ | malformed _ _ => cases hmark
  | malformed offset _ =>
      cases hother with
      | malformed place _ =>
          obtain ⟨rfl, rfl⟩ := malformed_message_inj ((String.append_right_inj _).mp hmessage)
          rfl
      | missedViolation _ | unexpectedViolation _ => cases hmark

section Operations

theorem Operation.name_inj {operation other : Operation} (h : operation.name = other.name) :
    operation = other := by
  cases operation with
  | token kind =>
      cases other with
      | token second =>
          have hkind := TokenKind.ofName?_name kind
          rw [show kind.name = second.name from h, TokenKind.ofName?_name] at hkind
          rw [Option.some.inj hkind]
      | exception => exact absurd h (TokenKind.name_ne_exception kind)
  | exception =>
      cases other with
      | token kind => exact absurd h.symm (TokenKind.name_ne_exception kind)
      | exception => rfl

theorem Operation.oneLine_name (operation : Operation) : OneLine operation.name := by
  cases operation with
  | token kind => cases kind <;> simp [OneLine, name, TokenKind.name]
  | exception => simp [OneLine, name]

def operationLine (entry : Operation × Nat) : List Char :=
  ("op " ++ toString entry.2 ++ ": " ++ entry.1.name).toList

theorem lineFeed_notMem_operationLine (entry : Operation × Nat) : '\n' ∉ operationLine entry :=
  OneLine.append (.append (.append (by simp [OneLine]) (oneLine_toString _)) (by simp [OneLine]))
    entry.1.oneLine_name

theorem operationLine_inj {operation other : Operation} {index : Nat}
    (h : operationLine (operation, index) = operationLine (other, index)) : operation = other :=
  Operation.name_inj ((String.append_right_inj _).mp (String.toList_inj.mp h))

theorem map_operationLine_inj {operations others : List Operation} {start : Nat}
    (h : (operations.zipIdx start).map operationLine = (others.zipIdx start).map operationLine) :
    operations = others := by
  induction operations generalizing others start with
  | nil =>
      cases others with
      | nil => rfl
      | cons other others => cases h
  | cons operation operations ih =>
      cases others with
      | nil => cases h
      | cons other others =>
          obtain ⟨hline, hlines⟩ := List.cons.inj h
          rw [operationLine_inj hline, ih hlines]

theorem toList_join_operationLines (operations : List Operation) :
    (String.join (Report.operationLines operations)).toList =
      (operations.zipIdx.map operationLine).flatMap (· ++ ['\n']) := by
  have hline (entry : Operation × Nat) :
      ("op " ++ toString entry.2 ++ ": " ++ entry.1.name ++ "\n").toList =
        operationLine entry ++ ['\n'] := String.toList_append
  rw [String.toList_join, Report.operationLines, List.flatMap_map, List.flatMap_map]
  exact congrArg (List.flatMap · operations.zipIdx) (funext hline)

end Operations

section Report

-- All lines but the query.
def Report.lines (report : Report) : List (List Char) :=
  ("Taint " ++ report.query.taintSet).toList ::
    (report.operations.zipIdx.map operationLine ++ [report.reason.message.toList])

theorem Report.closing_lines (report : Report) :
    closing report.lines =
      '\n' :: (("Taint " ++ report.query.taintSet).toList ++
        (closing (report.operations.zipIdx.map operationLine) ++
          '\n' :: report.reason.message.toList)) := by
  rw [← closing_concat]
  rfl

theorem Report.toList_dump (report : Report) :
    report.dump.toList =
      ("FAILURE-- query: " ++ report.query.string).toList ++ closing report.lines := by
  have hlines := cons_flatMap_append (report.operations.zipIdx.map operationLine)
  have hfeed : "\n".toList = ['\n'] := rfl
  rw [closing_lines, ← List.singleton_append (l := report.reason.message.toList),
    ← List.append_assoc (closing _), ← hlines, ← toList_join_operationLines]
  change ("FAILURE-- query: " ++ report.query.string ++ "\n" ++
    ("Taint " ++ report.query.taintSet ++ "\n") ++
    String.join (operationLines report.operations) ++ report.reason.message).toList = _
  simp only [String.toList_append, hfeed, List.append_assoc, List.cons_append, List.nil_append]

-- Behind a line of another text the lines of a report cannot begin: no operation and no reason
-- looks like its first line.
theorem Report.lines_eq_of_suffix {report other : Report} (h : report.lines <:+ other.lines) :
    report.lines = other.lines := by
  obtain ⟨front, hfront⟩ := h
  cases front with
  | nil => exact hfront
  | cons line front =>
      have hrest : front ++ report.lines = other.operations.zipIdx.map operationLine ++ _ :=
        (List.cons.inj hfront).2
      rw [Report.lines, ← List.cons_append, ← List.append_assoc] at hrest
      obtain ⟨hoperations, -⟩ := List.append_inj' hrest rfl
      have hmem : ("Taint " ++ report.query.taintSet).toList ∈
          other.operations.zipIdx.map operationLine := by
        rw [← hoperations]
        simp
      obtain ⟨entry, -, hentry⟩ := List.mem_map.mp hmem
      have hhead := congrArg List.head? hentry
      rw [operationLine, String.toList_append, String.toList_append, String.toList_append,
        String.toList_append] at hhead
      exact absurd (show some 'o' = some 'T' from hhead) (by decide)

theorem Report.lineFeed_notMem_lines {report : Report} (h : report.reason.Legible) :
    ∀ line ∈ report.lines, '\n' ∉ line := by
  intro line hline
  rcases List.mem_cons.mp hline with rfl | hline
  · exact OneLine.append (by simp [OneLine]) (Text.oneLine_taintSet _)
  · rcases List.mem_append.mp hline with hline | hline
    · obtain ⟨entry, -, rfl⟩ := List.mem_map.mp hline
      exact lineFeed_notMem_operationLine entry
    · obtain rfl := List.mem_singleton.mp hline
      exact h.oneLine_message

theorem Report.lines_inj {report other : Report} (h : report.reason.Legible)
    (hother : other.reason.Legible) (hdump : report.dump = other.dump) :
    report.lines = other.lines := by
  have hlists := congrArg String.toList hdump
  rw [toList_dump, toList_dump] at hlists
  rcases suffix_or_suffix_of_closing (lineFeed_notMem_lines h) (lineFeed_notMem_lines hother) hlists
    with hsuffix | hsuffix
  · exact lines_eq_of_suffix hsuffix
  · exact (lines_eq_of_suffix hsuffix).symm

end Report

section Step

theorem legible_of_settle {expectation : Expectation} {verdict : Verdict} {reason : Reason}
    (hcause : ∀ cause, expectation = .violation cause → OneLine cause)
    (hname : ∀ construct offset,
      reason = .validatorFailure (.malformed construct offset) → OneLine construct)
    (h : settle expectation verdict = .disagree reason) : reason.Legible := by
  cases reason with
  | missedViolation cause =>
      exact .missedViolation (hcause cause ((missedViolation_iff _ _ cause).mp h).1)
  | unexpectedViolation found => exact .unexpectedViolation found
  | validatorFailure rejection =>
      cases rejection with
      | violation found => exact absurd h (not_validatorFailure_violation _ _ found)
      | malformed construct offset => exact .malformed offset (hname construct offset rfl)

theorem legible_of_step {σ μ : Type} [Source σ] {setup : Setup μ} {fuel : Nat}
    {iteration next : Iteration} {world after : World σ μ} {report : Report}
    (hstep : step fuel setup iteration world = some (.mismatch report, next, after))
    (hname : ∀ construct offset,
      report.reason = .validatorFailure (.malformed construct offset) → OneLine construct) :
    report.reason.Legible := by
  obtain ⟨kind, token, source, hgenerated, happly⟩ := step_cases hstep
  obtain ⟨_, hfits, -⟩ := setup.generator.generate_fits _ _ _ _ _ hgenerated
  exact legible_of_settle (fun _ => hfits.oneLine_cause) hname
    ((reason_apply happly report.reason).mp rfl)

end Step

-- From what is told of a disagreement all of it can be read back, if the names in it do not break
-- their lines. Those of the causes never do, so that of a construct is the only one to ask about.
theorem dump_injective :
    (∀ report other : Report, report.reason.Legible → other.reason.Legible →
      report.dump = other.dump → report = other) ∧
    ∀ {σ μ : Type} [Source σ] (setup : Setup μ) (fuel : Nat) (iteration next : Iteration)
      (world after : World σ μ) (report : Report),
      step fuel setup iteration world = some (.mismatch report, next, after) →
      (∀ construct offset,
        report.reason = .validatorFailure (.malformed construct offset) → OneLine construct) →
      report.reason.Legible := by
  refine ⟨fun report other h hother hdump => ?_, fun _ _ _ _ _ _ _ => legible_of_step⟩
  have hlines := Report.lines_inj h hother hdump
  have hlists := congrArg String.toList hdump
  rw [Report.toList_dump, Report.toList_dump, hlines] at hlists
  have hstring := (String.append_right_inj _).mp
    (String.toList_inj.mp (List.append_cancel_right hlists))
  obtain ⟨htaint, hrest⟩ := List.cons.inj hlines
  obtain ⟨hoperations, hreason⟩ := List.append_inj' hrest rfl
  have hset := (String.append_right_inj _).mp (String.toList_inj.mp htaint)
  have hmessage := String.toList_inj.mp (List.cons.inj hreason).1
  cases report
  cases other
  exact (Report.mk.injEq ..).mpr ⟨Text.eq_of_taintSet hstring hset,
    map_operationLine_inj hoperations, h.message_inj hother hmessage⟩

-- A query that imitates the lines after another one, and the report that it imitates.
theorem dump_injective_forged :
    let setup : Setup (List Validator.Line × Unit) :=
      ⟨⟨.default, by decide⟩, .scripted (.reference ⟨false⟩ .reject), 2, by decide⟩
    let reason : Reason := .validatorFailure (.malformed "string literal" 0)
    let report : Report := ⟨.uniform true ['T', 'R', 'U', 'E'], [.token .boolean], reason⟩
    let forged : Report :=
      ⟨.uniform false "TRUE\nTaint \x7b0, 1, 2, 3\x7d\nop 0: Boolean".toList, [], reason⟩
    let world : World (List Nat) (List Validator.Line × Unit) :=
      ⟨[6, 1, 1, 1, 1, 1, 1, 1, 1, 1, 1],
        ([.fixed (.error (.malformed "string literal" 0))], ()), .none⟩
    (∃ next after, step 0 setup (.start 1) world = some (.mismatch report, next, after)) ∧
      report.reason.Legible ∧ forged.reason.Legible ∧ report.dump ≠ forged.dump := by
  intro setup reason report forged world
  obtain ⟨hinj, hlegible⟩ := dump_injective
  obtain ⟨next, after, hstep⟩ :
      ∃ next after, step 0 setup (.start 1) world = some (.mismatch report, next, after) :=
    ⟨_, _, rfl⟩
  have hreason : reason.Legible := by
    refine hlegible setup 0 (.start 1) next world after report hstep fun construct offset h => ?_
    cases h
    simp [OneLine]
  refine ⟨⟨next, after, hstep⟩, hreason, hreason, fun hdump => ?_⟩
  have hoperations := congrArg Report.operations (hinj report forged hreason hreason hdump)
  cases hoperations

end Campaign

end QueryTaint
