import StateSketch.Proofs.Outline

/-!
# The comment above the code

The name of a program stands in the first line of its sketch, behind two slashes.  What a compiler
of the language sees of that line is nothing, and all that the name can change is whether the line
goes on: a backslash at its end takes the first line of the code into the comment.
-/

namespace StateSketch

namespace Wiring

/-- Joins every line that ends in a backslash with the next one. -/
def joinContinued : List Char → List Char
  | [] => []
  | '\\' :: '\n' :: rest => joinContinued rest
  | c :: rest => c :: joinContinued rest

/-- Drops a comment, which runs from two slashes to the end of the line. -/
def withoutComment : List Char → List Char
  | [] => []
  | '/' :: '/' :: _ => []
  | c :: rest => c :: withoutComment rest

/-- The lines of a text as they are after these two steps. -/
def bareLines (text : String) : List (List Char) :=
  ((joinContinued text.toList).splitOn '\n').map withoutComment

theorem joinContinued_cons {c : Char} {rest : List Char}
    (hcontinued : c = '\\' → rest.head? ≠ some '\n') :
    joinContinued (c :: rest) = c :: joinContinued rest := by
  rw [joinContinued]
  rintro more rfl rfl
  exact hcontinued rfl rfl

theorem joinContinued_eq_self {text : List Char} (htext : '\\' ∉ text) :
    joinContinued text = text := by
  induction text with
  | nil => rfl
  | cons c rest ih =>
    rw [List.mem_cons, not_or] at htext
    rw [joinContinued_cons fun hc ↦ absurd hc.symm htext.1, ih htext.2]

/-- Where only one line may end in a backslash, only that line is joined with the next one. -/
theorem joinContinued_append {line code : List Char} (hline : '\n' ∉ line) (hcode : '\\' ∉ code) :
    joinContinued (line ++ '\n' :: code) =
      if line.getLast? = some '\\' then line.dropLast ++ code else line ++ '\n' :: code := by
  have hfeed : joinContinued ('\n' :: code) = '\n' :: code :=
    joinContinued_eq_self (by simpa using hcode)
  induction line with
  | nil => simpa using hfeed
  | cons c rest ih =>
    cases rest with
    | nil =>
      by_cases hc : c = '\\'
      · subst hc
        simpa [joinContinued] using joinContinued_eq_self hcode
      · rw [List.singleton_append, joinContinued_cons fun h ↦ absurd h hc, hfeed, if_neg (by simpa)]
    | cons d more =>
      have hrest : '\n' ∉ d :: more := fun h ↦ hline (List.mem_cons_of_mem _ h)
      have hd : d ≠ '\n' := fun h ↦ hrest (h ▸ List.mem_cons_self)
      rw [List.cons_append, joinContinued_cons (by simp [hd]), ih hrest, List.getLast?_cons_cons,
        List.dropLast_cons_cons]
      split <;> rfl

theorem withoutComment_eq_self {line : List Char} (hline : '/' ∉ line) :
    withoutComment line = line := by
  induction line with
  | nil => rfl
  | cons c rest ih =>
    rw [List.mem_cons, not_or] at hline
    rw [withoutComment, ih hline.2]
    rintro more rfl
    exact absurd rfl hline.1

/-! ## Texts under a comment -/

theorem not_mem_intercalate {c : Char} {lines : List (List Char)} (hc : c ≠ '\n')
    (hlines : ∀ line ∈ lines, c ∉ line) : c ∉ ['\n'].intercalate lines := by
  induction lines with
  | nil => simp
  | cons line rest ih =>
    have hline : c ∉ line := hlines line List.mem_cons_self
    have hrest : c ∉ ['\n'].intercalate rest :=
      ih fun other hother ↦ hlines other (List.mem_cons_of_mem _ hother)
    cases rest with
    | nil => simpa using hline
    | cons next more =>
      rw [List.intercalate_cons_of_ne_nil (by simp)]
      simp [hline, hc, hrest]

theorem append_intercalate (start line : List Char) (rest : List (List Char)) :
    start ++ ['\n'].intercalate (line :: rest) = ['\n'].intercalate ((start ++ line) :: rest) := by
  cases rest with
  | nil => simp
  | cons next more => simp [List.intercalate_cons_of_ne_nil]

/-- Under a comment that ends in a backslash the first line of the code is lost, and nothing else
of the comment matters. -/
theorem bareLines_intercalate {comment first : List Char} {rest : List (List Char)} {text : String}
    (htext : text.toList = ['\n'].intercalate (('/' :: '/' :: comment) :: first :: rest))
    (hcomment : '\n' ∉ comment)
    (hcode : ∀ line ∈ first :: rest, '\n' ∉ line ∧ '\\' ∉ line ∧ '/' ∉ line) :
    bareLines text = [] :: if comment.getLast? = some '\\' then rest else first :: rest := by
  have hbackslash : '\\' ∉ ['\n'].intercalate (first :: rest) :=
    not_mem_intercalate (by decide) fun line hline ↦ (hcode line hline).2.1
  have hline : '\n' ∉ '/' :: '/' :: comment := by simpa using hcomment
  have hlast : ('/' :: '/' :: comment).getLast? = some '\\' ↔ comment.getLast? = some '\\' := by
    cases comment <;> simp [List.getLast?_cons_cons]
  have hbare : (first :: rest).map withoutComment = first :: rest := by
    rw [List.map_congr_left fun line hline ↦ withoutComment_eq_self (hcode line hline).2.2,
      List.map_id']
  rw [List.map_cons, List.cons.injEq] at hbare
  rw [bareLines, htext, List.intercalate_cons_of_ne_nil (by simp), List.append_assoc,
    List.singleton_append, joinContinued_append hline hbackslash]
  by_cases hcontinued : comment.getLast? = some '\\'
  · have hdropLast : ('/' :: '/' :: comment).dropLast = '/' :: '/' :: comment.dropLast := by
      cases comment with
      | nil => simp at hcontinued
      | cons c more => simp
    have hlines : ∀ line ∈ ('/' :: '/' :: comment.dropLast ++ first) :: rest, '\n' ∉ line := by
      intro line hmem
      obtain rfl | hmem := List.mem_cons.1 hmem
      · have hstart : '\n' ∉ comment.dropLast := fun h ↦ hcomment (List.dropLast_subset _ h)
        simp [hstart, (hcode first List.mem_cons_self).1]
      · exact (hcode line (List.mem_cons_of_mem _ hmem)).1
    rw [if_pos (hlast.2 hcontinued), if_pos hcontinued, hdropLast, append_intercalate,
      List.splitOn_intercalate '\n' hlines (by simp), List.map_cons, hbare.2]
    rfl
  · have hlines : ∀ line ∈ first :: rest, '\n' ∉ line := fun line hmem ↦ (hcode line hmem).1
    rw [if_neg fun h ↦ hcontinued (hlast.1 h), if_neg hcontinued,
      List.splitOn_append_cons_self_of_not_mem hline,
      List.splitOn_intercalate '\n' hlines (by simp), List.map_cons, List.map_cons, hbare.1,
      hbare.2]
    rfl

/-! ## Lines of code -/

/-- A character that stands alone is a token of its own. -/
theorem ofLexeme_mem_tokens {text : String} {c : Char} (hmem : c ∈ text.toList)
    (halone : standsAlone c = true) (hblank : isBlank c = false) :
    Token.ofLexeme [c] ∈ tokens text := by
  obtain ⟨left, right, hsplit⟩ := List.append_of_mem hmem
  have hright : Apart [c] right := by
    intro d hd e _
    obtain rfl : c = d := by simpa using hd
    exact (not_runsOn_of_standsAlone halone).1
  have hleft : Apart left ([c] ++ right) := by
    intro d _ e he
    obtain rfl : c = e := by simpa using he
    exact (not_runsOn_of_standsAlone halone).2
  have hsingle : lexemes [c] = [[c]] := by simp [lexemes, hblank]
  have hlexemes : lexemes text.toList = lexemes left ++ ([[c]] ++ lexemes right) := by
    rw [hsplit, ← List.singleton_append, lexemes_append hleft, lexemes_append hright, hsingle]
  rw [tokens, hlexemes]
  simp

theorem stray_mem_directive {lexeme : List Char} {spelled : List Token}
    (hmem : .stray lexeme ∈ spelled) : .stray lexeme ∈ directive spelled := by
  unfold directive
  split
  · simp at hmem
  · exact hmem

/-- Lines that spell nothing strange hold neither backslashes nor slashes. -/
theorem SpellsLines.not_mem {lines : List String} {spelled : List Token}
    (hlines : SpellsLines lines spelled) (hplain : ∀ lexeme, .stray lexeme ∉ spelled)
    {line : String} (hline : line ∈ lines) : '\\' ∉ line.toList ∧ '/' ∉ line.toList := by
  have htokens (lexeme : List Char) : .stray lexeme ∉ tokens line := by
    intro hmem
    apply hplain lexeme
    rw [← hlines.tokens_eq, lineTokens, List.mem_flatMap]
    refine ⟨line.toList, List.mem_map_of_mem hline, ?_⟩
    rw [String.ofList_toList]
    exact stray_mem_directive hmem
  have hfree {c : Char} (halone : standsAlone c = true) (hblank : isBlank c = false)
      (hstray : Token.ofLexeme [c] = .stray [c]) : c ∉ line.toList := by
    intro hmem
    apply htokens [c]
    rw [← hstray]
    exact ofLexeme_mem_tokens hmem halone hblank
  exact ⟨hfree (by decide) (by decide) (by decide +kernel),
    hfree (by decide) (by decide) (by decide +kernel)⟩

end Wiring

open Wiring

theorem Guard.stray_not_mem_tokens (lexeme : List Char) (condition : Guard) :
    .stray lexeme ∉ condition.tokens := by
  induction condition with
  | reads sensor level => simp [tokens]
  | both left right ihleft ihright => simp [tokens, ihleft, ihright]
  | either left right ihleft ihright => simp [tokens, ihleft, ihright]

theorem stray_not_mem_stepTokens (lexeme : List Char) (steps : List Step) :
    .stray lexeme ∉ stepTokens steps := by
  have hstep (step : Step) : .stray lexeme ∉ step.tokens := by
    cases step <;> simp [Step.tokens, Step.callTokens, Test.sinceTimeTokens]
  simp [stepTokens, hstep]

theorem Branch.stray_not_mem_tokens (lexeme : List Char) (branch : Branch) :
    .stray lexeme ∉ branch.tokens := by
  have htest : .stray lexeme ∉ branch.test.tokens := by
    cases branch.test <;> simp [Test.tokens, Test.sinceTimeTokens, Guard.stray_not_mem_tokens]
  simp [tokens, htest, stray_not_mem_stepTokens]

theorem stray_not_mem_bodyTokens (lexeme : List Char) (body : List Statement) :
    .stray lexeme ∉ bodyTokens body := by
  have hstatement (statement : Statement) : .stray lexeme ∉ statement.tokens := by
    cases statement with
    | step single =>
      simpa [Statement.tokens, stepTokens] using stray_not_mem_stepTokens lexeme [single]
    | choose first rest otherwise =>
      simp [Statement.tokens, elseTokens, Branch.stray_not_mem_tokens, stray_not_mem_stepTokens]
  simp [bodyTokens, hstatement]

theorem Sketch.stray_not_mem_tokens (lexeme : List Char) (sketch : Sketch) :
    .stray lexeme ∉ sketch.tokens := by
  have hhelper : .stray lexeme ∉ helperTokens sketch.blinks := by
    cases sketch.blinks <;>
      simp [helperTokens, functionTokens, blinkTokens, loopTokens, pulseTokens, delayTokens,
        Step.tokens, Step.callTokens]
  simp [tokens, variableTokens, functionTokens, hhelper, stray_not_mem_stepTokens,
    stray_not_mem_bodyTokens, PinDeclaration.tokens, Function.tokens]

namespace Sketch.Legible

variable {sketch : Sketch}

theorem exists_comment (hlegible : sketch.Legible) :
    ∃ comment, sketch.titleLine.toList = '/' :: '/' :: comment ∧ '\n' ∉ comment ∧
      (comment.getLast? = some '\\' ↔ sketch.title.toList.getLast? = some '\\') := by
  have hslashes : "// File generated by statewire for ".toList =
      '/' :: '/' :: " File generated by statewire for ".toList := by
    decide +kernel
  have hfeed : '\n' ∉ " File generated by statewire for ".toList := by decide +kernel
  have hblank : " File generated by statewire for ".toList.getLast? = some ' ' := by decide +kernel
  refine ⟨" File generated by statewire for ".toList ++ sketch.title.toList, ?_, ?_, ?_⟩
  · calc
      sketch.titleLine.toList =
          "// File generated by statewire for ".toList ++ sketch.title.toList :=
        String.toList_append
      _ = _ := congrArg (· ++ sketch.title.toList) hslashes
  · rw [List.mem_append, not_or]
    exact ⟨hfeed, hlegible.title⟩
  · rw [List.getLast?_append, hblank]
    cases sketch.title.toList.getLast? <;> simp

theorem not_mem_codeLines (hlegible : sketch.Legible) {line : String}
    (hline : line ∈ sketch.codeLines) :
    '\n' ∉ line.toList ∧ '\\' ∉ line.toList ∧ '/' ∉ line.toList :=
  ⟨hlegible.spellsLines.single_lines line hline,
    hlegible.spellsLines.not_mem (sketch.stray_not_mem_tokens ·) hline⟩

/-- Only the end of the title can change how the text of a sketch is read. -/
theorem bareLines_text (hlegible : sketch.Legible) :
    bareLines sketch.text =
      [] :: ((if sketch.title.toList.getLast? = some '\\' then sketch.codeLines.tail
        else sketch.codeLines) ++ [""]).map String.toList := by
  obtain ⟨comment, htitle, hcomment, hlast⟩ := hlegible.exists_comment
  have hlines : (sketch.codeLines ++ [""]).map String.toList =
      "long time = 0;".toList :: (sketch.codeLines.tail ++ [""]).map String.toList :=
    rfl
  have htext : sketch.text.toList = ['\n'].intercalate (('/' :: '/' :: comment) ::
      "long time = 0;".toList :: (sketch.codeLines.tail ++ [""]).map String.toList) := by
    rw [← hlines, ← htitle, ← List.map_cons, ← List.cons_append, ← lines_eq,
      ← hlegible.splitOn_text, List.intercalate_splitOn]
  have hcode : ∀ chars ∈ (sketch.codeLines ++ [""]).map String.toList,
      '\n' ∉ chars ∧ '\\' ∉ chars ∧ '/' ∉ chars := by
    intro chars hchars
    obtain ⟨line, hline, rfl⟩ := List.mem_map.1 hchars
    obtain hline | hline := List.mem_append.1 hline
    · exact hlegible.not_mem_codeLines hline
    · obtain rfl := List.mem_singleton.1 hline
      decide
  rw [hlines] at hcode
  rw [bareLines_intercalate htext hcomment hcode]
  by_cases hcontinued : sketch.title.toList.getLast? = some '\\'
  · rw [if_pos (hlast.2 hcontinued), if_pos hcontinued]
  · rw [if_neg fun h ↦ hcontinued (hlast.1 h), if_neg hcontinued, hlines]

end Sketch.Legible

/-- Whether a line that ends in the text goes on in the next one. -/
def endsInBackslash (text : String) : Bool :=
  text.toList.getLast? == some '\\'

theorem Sketch.Legible.bareLines_text_eq_iff {first second : Sketch} (hfirst : first.Legible)
    (hsecond : second.Legible) (hcode : first.codeLines = second.codeLines) :
    bareLines first.text = bareLines second.text ↔
      endsInBackslash first.title = endsInBackslash second.title := by
  have hlength : second.codeLines.tail.length + 1 = second.codeLines.length := rfl
  have hlost : second.codeLines.tail ≠ second.codeLines := by
    intro heq
    rw [heq] at hlength
    exact absurd hlength (Nat.succ_ne_self _)
  have hchars : Function.Injective (List.map String.toList) :=
    List.map_injective_iff.2 fun _ _ ↦ String.toList_injective
  rw [hfirst.bareLines_text, hsecond.bareLines_text, hcode, List.cons.injEq, hchars.eq_iff,
    List.append_left_inj, endsInBackslash, endsInBackslash]
  by_cases hfirstEnd : first.title.toList.getLast? = some '\\' <;>
    by_cases hsecondEnd : second.title.toList.getLast? = some '\\' <;>
      simp [hfirstEnd, hsecondEnd, hlost, hlost.symm]

/-! ## Programs -/

namespace Program

variable {first second : Program} {report : Report}

/-- Equality of programs apart from their names. -/
def SameButName (first second : Program) : Prop :=
  { first with name := second.name } = second

namespace SameButName

theorem resolved (hsame : first.SameButName second) (hresolved : first.Resolved) :
    second.Resolved := by
  rw [← hsame]
  exact ⟨hresolved.states_nodup,
    fun state hstate ↦ ⟨(hresolved.states state hstate).actions,
      (hresolved.states state hstate).sensors, (hresolved.states state hstate).targets⟩,
    hresolved.initial, hresolved.faultPin_given, hresolved.faultPin_free⟩

theorem errors_eq_nil (hsame : first.SameButName second)
    (herrors : (Report.ofDiagnostics first.findings).errors = []) :
    (Report.ofDiagnostics second.findings).errors = [] := by
  obtain ⟨hconflicts, hresolved⟩ := (errors_ofDiagnostics_findings_eq_nil_iff first).1 herrors
  have hregistry : second.registry = first.registry := by rw [← hsame]
  rw [errors_ofDiagnostics_findings_eq_nil_iff, hregistry]
  exact ⟨hconflicts, hsame.resolved hresolved⟩

theorem codeLines_sketchOf (hsame : first.SameButName second) (debounce : Nat) :
    (first.sketchOf debounce).codeLines = (second.sketchOf debounce).codeLines := by
  rw [← hsame]
  rfl

/-- The name has no line and no number, so it makes no report too wide. -/
theorem hasWideCompilation_eq (hsame : first.SameButName second) (debounce : Nat)
    (herrors : (Report.ofDiagnostics first.findings).errors = []) :
    second.hasWideCompilation debounce = first.hasWideCompilation debounce := by
  have hwarnings : (Report.ofDiagnostics second.findings).warnings.any (·.hasWideLine) =
      (Report.ofDiagnostics first.findings).warnings.any (·.hasWideLine) := by
    rw [warnings_ofDiagnostics_findings, warnings_ofDiagnostics_findings, List.any_append,
      List.any_append, List.any_append, List.any_append, any_hasWideLine_nameFindings,
      any_hasWideLine_nameFindings, ← hsame]
    rfl
  unfold hasWideCompilation hasWideReport
  rw [hwarnings, herrors, hsame.errors_eq_nil herrors, ← hsame]
  rfl

end SameButName

/-- The barrier under another name. -/
def namedBarrier (name : String) : Program :=
  { barrier with name := name }

/-- Programs that differ in their names only are compiled to the same code, unless just one of the
names ends in a backslash and takes the first line of the code into the comment. -/
theorem bareLines_compile_eq_iff (debounce : Nat) (hfirst : first.IsConstructed)
    (hsecond : second.IsConstructed) (hsame : first.SameButName second)
    (hreport : first.validate = .ok report) (herrors : report.errors = []) :
    (first.hasWideCompilation debounce = true →
      (first.compile debounce).1 = .error .numeralTooWide ∧
        (second.compile debounce).1 = .error .numeralTooWide) ∧
    (first.hasWideCompilation debounce = false →
      ∃ text other, (first.compile debounce).1.map (·.source) = .ok (some text) ∧
        (second.compile debounce).1.map (·.source) = .ok (some other) ∧
        (bareLines text = bareLines other ↔
          endsInBackslash first.name = endsInBackslash second.name)) := by
  obtain ⟨-, -, rfl⟩ := (validate_eq_ok_iff first report).1 hreport
  have hresolved := resolved_of_validate hreport herrors
  have hwidth := hsame.hasWideCompilation_eq debounce herrors
  refine ⟨fun hwide ↦ ?_, fun hwide ↦ ?_⟩
  · rw [compile_eq, compile_eq, hwidth, hwide]
    exact ⟨rfl, rfl⟩
  · refine ⟨_, _, source_compile_eq_iff.2 ⟨hwide, herrors, rfl⟩,
      source_compile_eq_iff.2 ⟨hwidth.trans hwide, hsame.errors_eq_nil herrors, rfl⟩, ?_⟩
    exact (legible_sketchOf hfirst hresolved debounce).bareLines_text_eq_iff
      (legible_sketchOf hsecond (hsame.resolved hresolved) debounce)
      (hsame.codeLines_sketchOf debounce)

theorem barrier_keeps_code_under_other_name :
    ∃ text other, (barrier.compile 50).1.map (·.source) = .ok (some text) ∧
      ((namedBarrier "Gate // north").compile 50).1.map (·.source) = .ok (some other) ∧
      bareLines text = bareLines other := by
  have hfirst : barrier.IsConstructed := ⟨.text "barrier", .integer 13, 1, by decide +kernel⟩
  have hsecond : (namedBarrier "Gate // north").IsConstructed :=
    ⟨.text "Gate // north", .integer 13, 1, by decide +kernel⟩
  have hsame : barrier.SameButName (namedBarrier "Gate // north") := rfl
  have hreport : barrier.validate = .ok (Report.ofDiagnostics barrier.findings) := by
    decide +kernel
  have hcode := (bareLines_compile_eq_iff 50 hfirst hsecond hsame hreport (by decide +kernel)).2
    (by decide +kernel)
  obtain ⟨text, other, htext, hother, hiff⟩ := hcode
  exact ⟨text, other, htext, hother, hiff.2 (by decide +kernel)⟩

/-- A name that the constructor accepts can take a line of the code into the comment. -/
theorem barrier_loses_code_under_continued_name :
    barrier.IsConstructed ∧ (namedBarrier "barrier\\").IsConstructed ∧
      barrier.SameButName (namedBarrier "barrier\\") ∧
      (Report.ofDiagnostics barrier.findings).errors = [] ∧
      (Report.ofDiagnostics (namedBarrier "barrier\\").findings).errors = [] ∧
      ∃ text other, (barrier.compile 50).1.map (·.source) = .ok (some text) ∧
        ((namedBarrier "barrier\\").compile 50).1.map (·.source) = .ok (some other) ∧
        bareLines text ≠ bareLines other := by
  have hfirst : barrier.IsConstructed := ⟨.text "barrier", .integer 13, 1, by decide +kernel⟩
  have hsecond : (namedBarrier "barrier\\").IsConstructed :=
    ⟨.text "barrier\\", .integer 13, 1, by decide +kernel⟩
  have hsame : barrier.SameButName (namedBarrier "barrier\\") := rfl
  have herrors : (Report.ofDiagnostics barrier.findings).errors = [] := by decide +kernel
  have hresolved := ((errors_ofDiagnostics_findings_eq_nil_iff _).1 herrors).2
  have hcode := (legible_sketchOf hfirst hresolved 50).bareLines_text_eq_iff
    (legible_sketchOf hsecond (hsame.resolved hresolved) 50) (hsame.codeLines_sketchOf 50)
  refine ⟨hfirst, hsecond, hsame, herrors, hsame.errors_eq_nil herrors, _, _,
    source_compile_eq_iff.2 ⟨by decide +kernel, herrors, rfl⟩,
    source_compile_eq_iff.2 ⟨by decide +kernel, hsame.errors_eq_nil herrors, rfl⟩, fun heq ↦ ?_⟩
  exact absurd (hcode.1 heq) (by decide +kernel)

end Program

end StateSketch
