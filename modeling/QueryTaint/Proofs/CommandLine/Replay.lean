import QueryTaint.CommandLine.Program
import QueryTaint.Proofs.CommandLine.Integer

namespace QueryTaint

-- The parts of a text between white space.
def words (text : String) : List String :=
  ((text.toList.splitOnP isBlank).filter (!·.isEmpty)).map String.ofList

def IsWord (text : String) : Prop := text ≠ "" ∧ ∀ char ∈ text.toList, isBlank char = false

theorem words_append {blank : Char} (hblank : isBlank blank = true) (front rest : List Char) :
    words (.ofList (front ++ blank :: rest)) = words (.ofList front) ++ words (.ofList rest) := by
  simp only [words, String.toList_ofList, List.splitOnP_append_cons front rest hblank,
    List.filter_append, List.map_append]

theorem IsWord.words_eq {text : String} (h : IsWord text) : words text = [text] := by
  obtain ⟨hne, hblank⟩ := h
  rw [words, List.splitOnP_eq_singleton hblank]
  simp [hne]

namespace CommandLine

def Flag.letter : Flag → Char
  | seed => 's'
  | maxLength => 'l'
  | iterations => 'n'
  | logFile => 'f'

namespace Setting

def text : Setting → String
  | seed value => toString value
  | maxLength value => toString value
  | iterations value => toString value
  | logFile path => path

-- The flag and its value, in arguments of their own.
def arguments (setting : Setting) : List String :=
  [String.ofList ['-', setting.flag.letter], setting.text]

-- What can be given in such arguments.
def Writable : Setting → Prop
  | seed value => Integer.Fits value
  | maxLength value => Integer.Fits value ∧ 2 ≤ value
  | iterations value => Integer.Fits value
  | logFile path => path ≠ "" ∧ path.toList.head? ≠ some '-'

theorem setting_text {setting : Setting} (h : setting.Writable) :
    setting.flag.setting setting.text = .ok setting := by
  cases setting with
  | seed value =>
    have hread := Integer.decode_toString h
    simp only [flag, text, Flag.setting, parseSeed, hread]
    rfl
  | maxLength value =>
    have hread : parseMaxLength (toString value) = .ok value :=
      parseMaxLength_eq_ok_iff.mpr ⟨Integer.literal_toString value, h⟩
    simp only [flag, text, Flag.setting, hread]
    rfl
  | iterations value =>
    have hread : parseIterations (toString value) = .ok value :=
      parseIterations_eq_ok_iff.mpr ⟨Integer.literal_toString value, h⟩
    simp only [flag, text, Flag.setting, hread]
    rfl
  | logFile path =>
    simp only [flag, text, Flag.setting, String.isEmpty_iff, h.1, if_false]

end Setting

theorem Given.set_setting {given : Given} {setting : Setting} (h : setting.Writable)
    (hfresh : setting.flag ∉ given.used) :
    given.set setting.flag setting.text = .ok (given ++ [setting]) := by
  rw [Given.set, if_neg hfresh, Setting.setting_text h]
  rfl

-- Only the value of a seed may look like a flag.
theorem Setting.head?_text {setting : Setting} (h : setting.Writable)
    (hflag : setting.flag ≠ .seed) : setting.text.toList.head? ≠ some '-' := by
  have hnumber (value : Nat) : (toString value).toList.head? ≠ some '-' := fun hhead =>
    absurd (isDigit_of_mem_toString (List.mem_of_head? hhead)) (by decide)
  cases setting with
  | seed value => exact absurd rfl hflag
  | maxLength value => exact hnumber value
  | iterations value => exact hnumber value
  | logFile path => exact h.2

theorem Pending.takes_awaited {flag : Flag} {argument : List Char}
    (h : flag ≠ .seed → argument.head? ≠ some '-') :
    (Pending.awaited flag).takes argument = some flag := by
  by_cases hflag : flag = .seed
  · rw [hflag]
    rfl
  · cases argument with
    | nil => cases flag <;> rfl
    | cons char rest =>
      have hchar : char ≠ '-' := by simpa using h hflag
      unfold Pending.takes
      split <;> simp_all

-- The value is looked at only when it is known where it ends.
theorem readArguments_setting {given resolved : Given} {pending : Pending} {setting : Setting}
    (h : setting.Writable) (hclosed : ∀ flag, pending ≠ .awaited flag)
    (hresolve : pending.resolve given = .ok resolved) (rest : List String) :
    readArguments given pending (setting.arguments ++ rest) =
      readArguments resolved (.unread setting.flag setting.text) rest := by
  have hnone (argument : List Char) : pending.takes argument = none := by
    cases pending with
    | nothing => rfl
    | awaited flag => exact absurd rfl (hclosed flag)
    | unread flag value => rfl
  have htakes := Pending.takes_awaited (setting.head?_text h)
  have hflag : readArguments given pending (setting.arguments ++ rest) =
      readArguments resolved (.awaited setting.flag) (setting.text :: rest) := by
    simp only [Setting.arguments, List.cons_append, List.nil_append, readArguments, hnone,
      String.toList_ofList]
    cases setting.flag <;> simp only [Flag.letter, Flag.ofLetter?, attached, hresolve] <;> rfl
  rw [hflag]
  simp only [readArguments, htakes]

-- What is pending before each flag is the setting before it, whose value is looked at there.
theorem readArguments_resumed {given resolved : Given} {pending : Pending}
    {settings : List Setting} (h : ∀ setting ∈ settings, setting.Writable)
    (hdistinct : (Given.used (resolved ++ settings)).Nodup)
    (hclosed : ∀ flag, pending ≠ .awaited flag)
    (hresolve : pending.resolve given = .ok resolved) :
    readArguments given pending (settings.flatMap Setting.arguments) =
      .ok (resolved ++ settings) := by
  induction settings generalizing given resolved pending with
  | nil => simpa [readArguments] using hresolve
  | cons setting settings ih =>
    rw [List.flatMap_cons, readArguments_setting (h setting List.mem_cons_self) hclosed hresolve]
    have hfresh : setting.flag ∉ resolved.used := by
      rw [Given.used, List.map_append, List.nodup_append] at hdistinct
      exact fun hmem => hdistinct.2.2 _ hmem _ List.mem_cons_self rfl
    rw [List.append_cons] at hdistinct ⊢
    exact ih (fun setting hmem => h setting (List.mem_cons_of_mem _ hmem)) hdistinct
      (fun flag => by simp) (Given.set_setting (h setting List.mem_cons_self) hfresh)

-- The flags may stand in any order, and any of them may be left out.
theorem readArguments_settings {settings : List Setting}
    (h : ∀ setting ∈ settings, setting.Writable) (hdistinct : (Given.used settings).Nodup) :
    readArguments [] .nothing (settings.flatMap Setting.arguments) = .ok settings :=
  @readArguments_resumed [] [] .nothing settings h hdistinct (fun _ => nofun) rfl

theorem isBlank_of_isDigit {char : Char} (h : char.isDigit = true) : isBlank char = false := by
  simp only [Char.isDigit, Bool.and_eq_true, decide_eq_true_eq, ge_iff_le,
    UInt32.le_iff_toNat_le] at h
  have hcode : 48 ≤ char.toNat ∧ char.toNat ≤ 57 := h
  unfold isBlank
  simp only [Bool.or_eq_false_iff, Bool.and_eq_false_iff, decide_eq_false_iff_not]
  omega

theorem isWord_toString (value : Int) : IsWord (toString value) := by
  have hword (value : Nat) : IsWord (toString value) := by
    refine ⟨?_, fun char hmem => isBlank_of_isDigit (isDigit_of_mem_toString hmem)⟩
    simp
  cases value with
  | ofNat value => exact hword value
  | negSucc value =>
    have htext := Integer.toList_toString_negSucc value
    refine ⟨fun hempty => ?_, fun char hmem => ?_⟩
    · rw [hempty] at htext
      cases htext
    · rw [htext, List.mem_cons] at hmem
      rcases hmem with rfl | hmem
      · rfl
      · exact (hword (value + 1)).2 char hmem

end CommandLine

open CommandLine

-- The arguments of a run, flag by flag.
def Parameters.settings (parameters : Parameters) : List Setting :=
  [.seed parameters.seed, .maxLength parameters.maxLength, .iterations parameters.iterations,
    .logFile parameters.logFile]

theorem Parameters.words_logLine {parameters : Parameters} (hfile : IsWord parameters.logFile) :
    words parameters.logLine = parameters.settings.flatMap Setting.arguments := by
  have hline : parameters.logLine.toList =
      ['-', 's'] ++ ' ' :: ((toString parameters.seed).toList ++ ' ' ::
        (['-', 'l'] ++ ' ' :: ((toString parameters.maxLength).toList ++ ' ' ::
          (['-', 'n'] ++ ' ' :: ((toString parameters.iterations).toList ++ ' ' ::
            (['-', 'f'] ++ ' ' :: (parameters.logFile.toList ++ ['\n']))))))) := by
    simp [logLine]
  have hspace : isBlank ' ' = true := rfl
  have hfeed : isBlank '\n' = true := rfl
  have hlength : IsWord (toString parameters.maxLength) := isWord_toString parameters.maxLength
  have hiterations : IsWord (toString parameters.iterations) :=
    isWord_toString parameters.iterations
  rw [← String.ofList_toList (s := parameters.logLine), hline]
  simp only [words_append hspace, words_append hfeed, String.ofList_toList,
    (isWord_toString parameters.seed).words_eq, hlength.words_eq, hiterations.words_eq,
    hfile.words_eq]
  rfl

-- The words of the header are read as the parameters it was written from, and so they lead to the
-- same header again. It tells the seed, so the clock has no say in the run that is repeated.
theorem parse_words_logLine (parameters : Parameters) (hseed : Integer.Fits parameters.seed)
    (hlength : 2 ≤ parameters.maxLength ∧ Integer.Fits parameters.maxLength)
    (hiterations : Integer.Fits parameters.iterations) (hfile : IsWord parameters.logFile)
    (hhyphen : parameters.logFile.toList.head? ≠ some '-') :
    ∃ arguments, parse (words parameters.logLine) = .ok arguments ∧
      arguments = ⟨some parameters.seed, parameters.maxLength, parameters.iterations,
        parameters.logFile⟩ ∧
      ∀ clock, arguments.parameters clock = parameters ∧
        (arguments.parameters clock).logLine = parameters.logLine := by
  have hwritable : ∀ setting ∈ parameters.settings, setting.Writable := by
    simp only [Parameters.settings, List.forall_mem_cons, List.not_mem_nil, false_implies,
      implies_true, and_true]
    exact ⟨hseed, hlength.symm, hiterations, hfile.1, hhyphen⟩
  have hdistinct : (Given.used parameters.settings).Nodup := by
    change [Flag.seed, .maxLength, .iterations, .logFile].Nodup
    decide
  have hread : readArguments [] .nothing (words parameters.logLine) = .ok parameters.settings := by
    rw [Parameters.words_logLine hfile]
    exact readArguments_settings hwritable hdistinct
  refine ⟨_, ?_, rfl, fun clock => ⟨rfl, rfl⟩⟩
  simp only [parse, hread]
  rfl

-- The least seed is a value of its flag although it looks like a flag itself.
theorem parse_words_logLine_extreme :
    let parameters : Parameters := ⟨-0x8000000000000000, 0x7fffffffffffffff, 0, "=run.log"⟩
    parse (words parameters.logLine) = .ok ⟨some (-0x8000000000000000), 0x7fffffffffffffff, 0,
      "=run.log"⟩ := by
  intro parameters
  have hfile : IsWord "=run.log" := ⟨by decide, by simp [isBlank]⟩
  obtain ⟨arguments, hparse, rfl, -⟩ := parse_words_logLine parameters ⟨by decide, by decide⟩
    ⟨by decide, by decide, by decide⟩ ⟨by decide, by decide⟩ hfile (by decide)
  exact hparse

end QueryTaint
